import ScriptBundle.Proofs.Files.Change

/-!
# Trees that hold the same

A walk along names passes keys that do not depend on the tree (`passed`), and of what stands there it
only asks whether it is a directory. So a path leads to the same, or fails in the same way, wherever
these keys and the last one are alike. Nothing but the mode of a file is left out of account here:
no path, no reading and no removal depends on it.
-/

namespace ScriptBundle

/-- What a node holds, whatever its mode. -/
def Node.plain (n : Node) : Node := n.withMode Mode.file

@[simp] theorem Node.isDirectory_plain (n : Node) : n.plain.isDirectory = n.isDirectory := by
  cases n <;> rfl

namespace FileTree

variable {t t' : FileTree} {p : Path} {key : Key} {name : String} {names : List String}

/-- The keys that a walk along names asks for on its way. The one that it ends at is not asked for. -/
def passed (key : Key) : List String → List Key
  | [] => []
  | name :: names => key :: passed (keyAfter key name) names

theorem passed_concat (key : Key) (names : List String) (name : String) :
    passed key (names ++ [name]) = passed key names ++ [names.foldl keyAfter key] := by
  induction names generalizing key with
  | nil => rfl
  | cons first names ih => exact congrArg (key :: ·) (ih _)

theorem enter_eq (h : (t'.node? key).map Node.isDirectory = (t.node? key).map Node.isDirectory)
    (name : String) : t'.enter key name = t.enter key name := by
  unfold enter
  cases hn : t.node? key with
  | none =>
    rw [hn, Option.map_none, Option.map_eq_none_iff] at h
    rw [h]
  | some node =>
    rw [hn] at h
    obtain ⟨node', hn', hd⟩ := Option.map_eq_some_iff.1 h
    rw [hn']
    cases node <;> cases node' <;> simp_all [Node.isDirectory]

theorem foldlM_enter_eq
    (h : ∀ k ∈ passed key names,
      (t'.node? k).map Node.isDirectory = (t.node? k).map Node.isDirectory) :
    names.foldlM t'.enter key = names.foldlM t.enter key := by
  induction names generalizing key with
  | nil => rfl
  | cons name names ih =>
    obtain ⟨hkey, hrest⟩ := List.forall_mem_cons.1 h
    rw [List.foldlM_cons, List.foldlM_cons, enter_eq hkey]
    cases he : t.enter key name with
    | error cause => rfl
    | ok next =>
      obtain ⟨-, -, rfl⟩ := enter_eq_ok_iff.1 he
      exact ih hrest

/-- The keys that a path passes on its way. -/
def onWay (start : Key) (p : Path) : List Key :=
  passed (if p.isAbsolute then [] else start) (FileTree.names p)

theorem locate_eq (hs : t'.start = t.start)
    (h : ∀ k ∈ onWay t.start p,
      (t'.node? k).map Node.isDirectory = (t.node? k).map Node.isDirectory) :
    t'.locate p = t.locate p := by
  unfold locate
  rw [hs, foldlM_enter_eq h]

theorem holdsDirectory_of_mem_passed {other : Key} (h : names.foldlM t.enter key = .ok other) :
    ∀ k ∈ passed key names, t.holdsDirectory k = true := by
  induction names generalizing key with
  | nil => exact fun _ hk => nomatch hk
  | cons name names ih =>
    obtain ⟨hkey, -, hrest⟩ := (foldlM_enter_cons names).1 h
    exact List.forall_mem_cons.2 ⟨hkey, ih hrest⟩

/-- Everything on the way to where a path leads is a directory. -/
theorem holdsDirectory_of_mem_onWay (h : t.locate p = .ok key) :
    ∀ k ∈ onWay t.start p, t.holdsDirectory k = true := by
  unfold locate at h
  split at h
  · cases h
  · split at h
    · cases h
    · split at h
      · cases h
      · exact holdsDirectory_of_mem_passed h

/-- The way to a joined name is the way into the directory. -/
theorem onWay_join (start : Key) (directory : Path) (hd : directory.spelling ≠ "")
    (hname : '/' ∉ name.toList) (hne : name ≠ "") :
    onWay start (directory.join name) = onWay start directory ++ [keyOf start directory] := by
  rw [onWay, names_join directory hname hne, isAbsolute_join directory hd, passed_concat]
  rfl

/-- Where a path leads the same way to the same, it finds the same. -/
theorem find_eq (hl : t'.locate p = t.locate p)
    (h : ∀ key, t.locate p = .ok key →
      (t'.node? key).map Node.plain = (t.node? key).map Node.plain) :
    (t'.find p).map Node.plain = (t.find p).map Node.plain := by
  unfold find
  rw [hl]
  cases hk : t.locate p with
  | error cause => rfl
  | ok key =>
    have hkey := h key hk
    dsimp only [bind, Except.bind]
    cases hn : t.node? key with
    | none =>
      rw [hn, Option.map_none, Option.map_eq_none_iff] at hkey
      rw [hkey]
    | some node =>
      rw [hn] at hkey
      obtain ⟨node', hn', he⟩ := Option.map_eq_some_iff.1 hkey
      rw [hn']
      cases node <;> cases node' <;> cases he <;> cases wantsDirectory p <;> rfl

/-- What is found with the same content is found on both sides or fails for one cause. -/
theorem cases_of_map_plain_eq {x x' : Except FileError Node}
    (h : x'.map Node.plain = x.map Node.plain) :
    (∃ cause, x = .error cause ∧ x' = .error cause) ∨
      ∃ node node', x = .ok node ∧ x' = .ok node' ∧ node'.plain = node.plain := by
  cases x with
  | error cause =>
    cases x' with
    | error cause' => exact .inl ⟨cause, rfl, congrArg _ (Except.error.inj h)⟩
    | ok node' => cases h
  | ok node =>
    cases x' with
    | error cause' => cases h
    | ok node' => exact .inr ⟨node, node', rfl, rfl, Except.ok.inj h⟩

/-- What is read is what is found, without its mode. -/
theorem read_eq (h : (t'.find p).map Node.plain = (t.find p).map Node.plain) :
    t'.read p = t.read p := by
  unfold read
  rcases cases_of_map_plain_eq h with ⟨cause, hf, hf'⟩ | ⟨node, node', hf, hf', he⟩
  · rw [hf, hf']
  · rw [hf, hf']
    cases node <;> cases node' <;> cases he <;> rfl

theorem readText_eq (h : (t'.find p).map Node.plain = (t.find p).map Node.plain) :
    t'.readText p = t.readText p := by
  rw [readText, readText, read_eq h]

/-- Removing asks for what is found, and takes it away where it stands. -/
theorem remove_eq_bind_find (t : FileTree) (p : Path) : t.remove p =
    (t.find p).bind fun node =>
      if node.isDirectory then .error .isADirectory else (t.locate p).map t.erase := by
  unfold remove
  cases hl : t.locate p with
  | error cause =>
    have hf : t.find p = .error cause := by simp [find, hl, bind, Except.bind]
    rw [hf]
    rfl
  | ok key =>
    cases t.find p with
    | error cause => rfl
    | ok node => cases node <;> rfl

/-- The trees hold the same, but for what stands at the given keys. -/
structure SameBut (keys : List Key) (t t' : FileTree) : Prop where
  start : t'.start = t.start
  held : ∀ key ∉ keys, (t'.node? key).map Node.plain = (t.node? key).map Node.plain

namespace SameBut

variable {keys : List Key}

theorem isDirectory (h : SameBut keys t t') (hk : key ∉ keys) :
    (t'.node? key).map Node.isDirectory = (t.node? key).map Node.isDirectory := by
  have he := congrArg (Option.map Node.isDirectory) (h.held key hk)
  simpa [Function.comp_def] using he

theorem locate_eq (h : SameBut keys t t') (hw : ∀ k ∈ onWay t.start p, k ∉ keys) :
    t'.locate p = t.locate p :=
  FileTree.locate_eq h.start fun k hk => h.isDirectory (hw k hk)

theorem find_eq (h : SameBut keys t t') (hw : ∀ k ∈ onWay t.start p, k ∉ keys)
    (hp : ∀ key, t.locate p = .ok key → key ∉ keys) :
    (t'.find p).map Node.plain = (t.find p).map Node.plain :=
  FileTree.find_eq (h.locate_eq hw) fun key hl => h.held key (hp key hl)

/-- From trees that hold the same a removal fails for the same cause or leaves the same. -/
theorem remove (h : SameBut [] t t') (p : Path) :
    (∃ cause, t.remove p = .error cause ∧ t'.remove p = .error cause) ∨
      ∃ u u', t.remove p = .ok u ∧ t'.remove p = .ok u' ∧ SameBut [] u u' := by
  have hl : t'.locate p = t.locate p := h.locate_eq fun _ _ => List.not_mem_nil
  have hf : (t'.find p).map Node.plain = (t.find p).map Node.plain :=
    h.find_eq (fun _ _ => List.not_mem_nil) fun _ _ => List.not_mem_nil
  rw [remove_eq_bind_find, remove_eq_bind_find, hl]
  rcases cases_of_map_plain_eq hf with ⟨cause, hn, hn'⟩ | ⟨node, node', hn, hn', he⟩
  · rw [hn, hn']
    exact .inl ⟨cause, rfl, rfl⟩
  · have hd : node'.isDirectory = node.isDirectory := by
      rw [← Node.isDirectory_plain, he, Node.isDirectory_plain]
    rw [hn, hn']
    dsimp only [Except.bind]
    rw [hd]
    cases hdir : node.isDirectory with
    | true => exact .inl ⟨_, rfl, rfl⟩
    | false =>
      cases hk : t.locate p with
      | error cause => exact .inl ⟨cause, rfl, rfl⟩
      | ok key =>
        refine .inr ⟨t.erase key, t'.erase key, rfl, rfl, h.start, fun other ho => ?_⟩
        have hne : key ≠ [] := by
          rintro rfl
          cases holdsDirectory_of_leadsToFile ⟨node, hn, hdir⟩ hk
        rw [node?_erase hne, node?_erase hne]
        split
        · rfl
        · exact h.held other ho

end SameBut

/-- What is written to the same place becomes the same. -/
theorem write_cases (content : List UInt8) (hl : t'.locate p = t.locate p)
    (h : ∀ key, t.locate p = .ok key → t'.node? key = t.node? key) :
    (∃ cause, t.write p content = .error cause ∧ t'.write p content = .error cause) ∨
      ∃ key node, t.locate p = .ok key ∧ t.write p content = .ok (t.insert key node) ∧
        t'.write p content = .ok (t'.insert key node) := by
  unfold write writeAs
  rw [hl]
  cases hk : t.locate p with
  | error cause => exact .inl ⟨cause, rfl, rfl⟩
  | ok key =>
    dsimp only [bind, Except.bind]
    rw [h key hk]
    cases hn : t.node? key with
    | none =>
      cases wantsDirectory p with
      | true => exact .inl ⟨_, rfl, rfl⟩
      | false => exact .inr ⟨key, _, rfl, rfl, rfl⟩
    | some found =>
      cases found with
      | directory mode => exact .inl ⟨_, rfl, rfl⟩
      | file old mode =>
        cases wantsDirectory p with
        | true => exact .inl ⟨_, rfl, rfl⟩
        | false => exact .inr ⟨key, _, rfl, rfl, rfl⟩
      | device kind taken =>
        cases wantsDirectory p with
        | true => exact .inl ⟨_, rfl, rfl⟩
        | false =>
          cases hd : Node.deviceAfter kind taken content with
          | error cause => exact .inl ⟨cause, by simp [hd], by simp [hd]⟩
          | ok node => exact .inr ⟨key, node, rfl, by simp [hd]; rfl, by simp [hd]; rfl⟩

end FileTree
end ScriptBundle
