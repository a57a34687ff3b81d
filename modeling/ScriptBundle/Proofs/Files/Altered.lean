import ScriptBundle.Proofs.Files.Listing

/-!
# Where trees differ in kind

Between two trees with the same directories a file may have come, gone, or become a device. Elsewhere
every path finds a file in one tree just when it does in the other, and leads to something in both or in
neither.
-/

namespace ScriptBundle.FileTree

variable {t t' : FileTree} {p : Path} {key : Key}

/-- Whether a file came or went at a key. -/
def altered (t t' : FileTree) (key : Key) : Bool :=
  (t'.node? key).map Node.isFile != (t.node? key).map Node.isFile

theorem altered_comm (t t' : FileTree) (key : Key) : altered t' t key = altered t t' key := by
  rw [altered, altered, bne_comm]

theorem altered_eq_false_of_node?_eq (h : t'.node? key = t.node? key) : altered t t' key = false := by
  rw [altered, h, bne_self_eq_false]

/-- What is not altered is there on both sides or on neither. -/
theorem isSome_node?_eq (h : altered t t' key = false) :
    (t'.node? key).isSome = (t.node? key).isSome := by
  rw [altered, bne_eq_false_iff_eq] at h
  simpa using congrArg Option.isSome h

theorem isDirectory_iff : t.isDirectory p = true ↔
    ∃ key, t.locate p = .ok key ∧ t.holdsDirectory key = true := by
  unfold isDirectory holdsDirectory
  cases hf : t.find p with
  | error cause =>
    refine ⟨nofun, ?_⟩
    rintro ⟨key, hl, hdir⟩
    obtain ⟨node, hn, hnode⟩ := (Option.any_eq_true _ _).1 hdir
    rw [find_eq_ok_iff.2 ⟨key, hl, hn, .inl hnode⟩] at hf
    cases hf
  | ok node =>
    obtain ⟨key, hl, hn, -⟩ := find_eq_ok_iff.1 hf
    simp [hl, hn]

namespace SameDirectories

theorem isDirectory_eq (hs : SameDirectories t t') (p : Path) :
    t'.isDirectory p = t.isDirectory p := by
  rw [Bool.eq_iff_iff, isDirectory_iff, isDirectory_iff]
  exact exists_congr fun key => by rw [hs.locate_eq_ok_iff, hs.holds]

/-- What is altered is a directory on neither side. -/
theorem holdsDirectory_of_altered (hs : SameDirectories t t') (h : altered t t' key = true) :
    t.holdsDirectory key = false := by
  have hkey := hs.holds key
  unfold altered at h
  unfold holdsDirectory at hkey ⊢
  cases hn : t.node? key with
  | none => rfl
  | some node =>
    cases hn' : t'.node? key with
    | none => simpa [hn, hn'] using hkey.symm
    | some node' =>
      rw [hn, hn', Option.any_some, Option.any_some] at hkey
      rw [hn, hn'] at h
      cases node <;> cases node' <;> simp_all [Node.isFile, Node.isDirectory]

theorem exists_find (hs : SameDirectories t t') (hp : altered t t' (keyOf t.start p) = false)
    {node : Node} (h : t.find p = .ok node) :
    ∃ node', t'.find p = .ok node' ∧ node'.isFile = node.isFile := by
  obtain ⟨key, hl, hn, hnode⟩ := find_eq_ok_iff.1 h
  have hkey := hs.holds key
  rw [← eq_keyOf_of_locate hl, altered, hn, bne_eq_false_iff_eq] at hp
  obtain ⟨node', hn', hfile⟩ := Option.map_eq_some_iff.1 hp
  rw [holdsDirectory, holdsDirectory, hn, hn', Option.any_some, Option.any_some] at hkey
  exact ⟨node', find_eq_ok_iff.2 ⟨key, hs.locate hl, hn', hkey ▸ hnode⟩, hfile⟩

/-- Away from what is altered the same kind of thing is found on both sides. -/
theorem map_isFile_find (hs : SameDirectories t t') (hp : altered t t' (keyOf t.start p) = false) :
    (t'.find p).toOption.map Node.isFile = (t.find p).toOption.map Node.isFile := by
  -- The relation is symmetric, so one direction is enough.
  have himp : ∀ {t t' : FileTree}, SameDirectories t t' →
      altered t t' (keyOf t.start p) = false → ∀ kind,
        (t.find p).toOption.map Node.isFile = some kind →
          (t'.find p).toOption.map Node.isFile = some kind := by
    intro t t' hs hp kind h
    cases hf : t.find p with
    | error cause =>
      rw [hf] at h
      cases h
    | ok node =>
      obtain ⟨node', hf', hfile⟩ := hs.exists_find hp hf
      rw [hf] at h
      rw [hf', ← h]
      exact congrArg some hfile
  refine Option.ext fun kind => ⟨himp hs.symm ?_ kind, himp hs hp kind⟩
  rw [altered_comm, hs.start, hp]

theorem has_eq (hs : SameDirectories t t') (hp : altered t t' (keyOf t.start p) = false) :
    t'.has p = t.has p := by
  have hsome : ∀ t : FileTree, t.has p = ((t.find p).toOption.map Node.isFile).isSome := fun t => by
    rw [has]
    cases t.find p <;> rfl
  rw [hsome, hsome, hs.map_isFile_find hp]

theorem isFile_eq (hs : SameDirectories t t') (hp : altered t t' (keyOf t.start p) = false) :
    t'.isFile p = t.isFile p := by
  have hkind : ∀ t : FileTree, t.isFile p = ((t.find p).toOption.map Node.isFile).getD false :=
    fun t => by
      rw [isFile]
      cases t.find p <;> rfl
  rw [hkind, hkind, hs.map_isFile_find hp]

/-- A file on both sides is none that came or went. -/
theorem altered_of_isFile (hs : SameDirectories t t') (h : t.isFile p = true)
    (h' : t'.isFile p = true) : altered t t' (keyOf t.start p) = false := by
  obtain ⟨key, hl, hn, -⟩ := isFile_iff.1 h
  obtain ⟨key', hl', hn', -⟩ := isFile_iff.1 h'
  rw [hs.locate hl] at hl'
  cases hl'
  rw [← eq_keyOf_of_locate hl, altered, hn, hn', bne_self_eq_false]

end SameDirectories

end ScriptBundle.FileTree
