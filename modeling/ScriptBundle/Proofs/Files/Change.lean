import ScriptBundle.Proofs.Files.Walk
import ScriptBundle.Workspace

/-!
# What changes in a file tree

Writing a file changes what stands at one key, and so does removing one. Neither changes which keys
are directories, so all paths lead where they led, and what another path leads to stays what it was.
-/

namespace ScriptBundle.FileTree

variable {t t' : FileTree} {p q : Path} {key : Key} {node : Node} {bytes : List UInt8}

/-- Whether a path leads to a file, regular or a device: to what can be removed. -/
def LeadsToFile (t : FileTree) (p : Path) : Prop :=
  ∃ node, t.find p = .ok node ∧ node.isDirectory = false

/-- What can be removed is a regular file or a device. -/
theorem leadsToFile_iff : t.LeadsToFile p ↔
    t.isFile p = true ∨ ∃ kind taken, t.find p = .ok (.device kind taken) := by
  unfold LeadsToFile isFile
  cases t.find p with
  | error cause => simp
  | ok node => cases node <;> simp [Node.isFile, Node.isDirectory]

/-- The tree without the files that the paths lead to, and nothing else changed. -/
structure IsWithout (t' t : FileTree) (paths : List Path) : Prop where
  start : t'.start = t.start
  gone : ∀ p ∈ paths, ∃ key, t.locate p = .ok key ∧ t.holdsDirectory key = false ∧
    t'.node? key = none
  kept : ∀ key, (∀ p ∈ paths, t.locate p ≠ .ok key) → t'.node? key = t.node? key

/-- The tree with the bytes in the file that the path leads to, and nothing else changed. A device
that the path leads to stays, and does with the bytes what such a device does. -/
structure IsWith (t' t : FileTree) (p : Path) (bytes : List UInt8) : Prop where
  start : t'.start = t.start
  asFile : wantsDirectory p = false
  holds : ∃ key, t.locate p = .ok key ∧ t.holdsDirectory key = false ∧
    ((∀ kind taken, t.node? key ≠ some (.device kind taken)) ∧
        (∃ mode, t'.node? key = some (.file bytes mode)) ∨
      ∃ kind taken node, t.node? key = some (.device kind taken) ∧
        Node.deviceAfter kind taken bytes = .ok node ∧ t'.node? key = some node)
  kept : ∀ key, t.locate p ≠ .ok key → t'.node? key = t.node? key

theorem find_eq_ok_iff : t.find p = .ok node ↔
    ∃ key, t.locate p = .ok key ∧ t.node? key = some node ∧
      (node.isDirectory = true ∨ wantsDirectory p = false) := by
  unfold find
  cases hl : t.locate p with
  | error cause => simp [bind, Except.bind]
  | ok key =>
    cases hn : t.node? key with
    | none => simp [bind, Except.bind, hn]
    | some found =>
      cases found <;> cases hw : wantsDirectory p <;>
        simp [bind, Except.bind, hn, Node.isDirectory] <;> rintro rfl <;> rfl

theorem isFile_iff : t.isFile p = true ↔
    ∃ key, t.locate p = .ok key ∧ (t.node? key).map Node.isFile = some true ∧
      wantsDirectory p = false := by
  unfold isFile
  cases hf : t.find p with
  | error cause =>
    refine ⟨nofun, ?_⟩
    rintro ⟨key, hl, hfile, hw⟩
    obtain ⟨node, hn, -⟩ := Option.map_eq_some_iff.1 hfile
    rw [find_eq_ok_iff.2 ⟨key, hl, hn, .inr hw⟩] at hf
    cases hf
  | ok node =>
    obtain ⟨key, hl, hn, hnode⟩ := find_eq_ok_iff.1 hf
    cases node <;> simp_all [Node.isFile, Node.isDirectory]

theorem remove_eq_ok_iff : t.remove p = .ok t' ↔
    ∃ key, t.locate p = .ok key ∧ t.LeadsToFile p ∧ t' = t.erase key := by
  unfold remove LeadsToFile
  cases hl : t.locate p with
  | error cause => simp [bind, Except.bind]
  | ok key =>
    cases hf : t.find p with
    | error cause => simp [bind, Except.bind]
    | ok found => cases found <;> simp [bind, Except.bind, Node.isDirectory, eq_comm (b := t')]

theorem holdsDirectory_of_leadsToFile (h : t.LeadsToFile p) (hl : t.locate p = .ok key) :
    t.holdsDirectory key = false := by
  obtain ⟨node, hf, hnode⟩ := h
  obtain ⟨key', hl', hn, -⟩ := find_eq_ok_iff.1 hf
  rw [hl] at hl'
  cases hl'
  rw [holdsDirectory, hn, Option.any_some, hnode]

/-- What is no directory on either side can be exchanged at a key. -/
theorem find_eq_of_node? (hs : SameDirectories t t')
    (h : ∀ key, t.locate p = .ok key → t'.node? key = t.node? key) :
    t'.find p = .ok node ↔ t.find p = .ok node := by
  rw [find_eq_ok_iff, find_eq_ok_iff]
  refine exists_congr fun key => ?_
  rw [hs.locate_eq_ok_iff]
  refine and_congr_right fun hl => ?_
  rw [h key hl]

/-- Nothing but what the paths lead to is changed, and no directory is. -/
structure ChangesOnly (t t' : FileTree) (paths : List Path) : Prop extends SameDirectories t t' where
  kept : ∀ key, (∀ p ∈ paths, t.locate p ≠ .ok key) → t'.node? key = t.node? key

namespace ChangesOnly

variable {t'' : FileTree} {paths more : List Path}

theorem refl (t : FileTree) (paths : List Path) : ChangesOnly t t paths :=
  ⟨⟨rfl, fun _ => rfl⟩, fun _ _ => rfl⟩

theorem trans (h : ChangesOnly t t' paths) (h' : ChangesOnly t' t'' paths) :
    ChangesOnly t t'' paths := by
  refine ⟨⟨h'.start.trans h.start, fun key => (h'.holds key).trans (h.holds key)⟩, fun key hk => ?_⟩
  rw [h'.kept key fun p hp hl => hk p hp (h.locate_eq_ok_iff.1 hl), h.kept key hk]

theorem mono (h : ChangesOnly t t' paths) (hsub : paths ⊆ more) : ChangesOnly t t' more :=
  ⟨h.toSameDirectories, fun key hk => h.kept key fun p hp => hk p (hsub hp)⟩

/-- What a path that leads elsewhere leads to stays. -/
theorem find_eq_ok_iff (h : ChangesOnly t t' paths)
    (hq : ∀ key, t.locate q = .ok key → ∀ p ∈ paths, t.locate p ≠ .ok key) :
    t'.find q = .ok node ↔ t.find q = .ok node :=
  find_eq_of_node? h.toSameDirectories fun key hl => h.kept key (hq key hl)

end ChangesOnly

theorem LeadsToFile.remove (h : t.LeadsToFile p) : ∃ t', t.remove p = .ok t' := by
  obtain ⟨node, hf, -⟩ := id h
  obtain ⟨key, hl, -⟩ := find_eq_ok_iff.1 hf
  exact ⟨_, remove_eq_ok_iff.2 ⟨key, hl, h, rfl⟩⟩

theorem isWithout_remove (h : t.remove p = .ok t') : IsWithout t' t [p] := by
  obtain ⟨key, hl, hfile, rfl⟩ := remove_eq_ok_iff.1 h
  have hkey := holdsDirectory_of_leadsToFile hfile hl
  have hne : key ≠ [] := by
    rintro rfl
    cases hkey
  refine ⟨rfl, ?_, ?_⟩
  · rintro q hq
    rw [List.mem_singleton.1 hq]
    exact ⟨key, hl, hkey, by rw [node?_erase hne, if_pos rfl]⟩
  · intro other ho
    have hother : other ≠ key := by
      rintro rfl
      exact ho p (List.mem_singleton.2 rfl) hl
    rw [node?_erase hne, if_neg hother]

namespace IsWithout

variable {t'' : FileTree} {paths more : List Path}

theorem gone_or_kept (h : IsWithout t' t paths) (key : Key) :
    t.holdsDirectory key = false ∧ t'.node? key = none ∨ t'.node? key = t.node? key := by
  by_cases hk : ∀ p ∈ paths, t.locate p ≠ .ok key
  · exact .inr (h.kept key hk)
  · obtain ⟨p, hp⟩ := Classical.not_forall.1 hk
    obtain ⟨hmem, hl⟩ := Classical.not_imp.1 hp
    obtain ⟨key', hl', hdir, hgone⟩ := h.gone p hmem
    rw [Classical.not_not.1 hl] at hl'
    cases hl'
    exact .inl ⟨hdir, hgone⟩

theorem sameDirectories (h : IsWithout t' t paths) : SameDirectories t t' := by
  refine ⟨h.start, fun key => ?_⟩
  rcases h.gone_or_kept key with ⟨hdir, hgone⟩ | hkept
  · rw [hdir, holdsDirectory, hgone]
    rfl
  · rw [holdsDirectory, hkept, holdsDirectory]

theorem changesOnly (h : IsWithout t' t paths) : ChangesOnly t t' paths :=
  ⟨h.sameDirectories, h.kept⟩

theorem find_eq_ok_iff (h : IsWithout t' t paths)
    (hq : ∀ key, t.locate q = .ok key → ∀ p ∈ paths, t.locate p ≠ .ok key) :
    t'.find q = .ok node ↔ t.find q = .ok node :=
  h.changesOnly.find_eq_ok_iff hq

/-- A path that is taken away leads to no file. -/
theorem isFile_eq_false (h : IsWithout t' t paths) (hp : p ∈ paths) : t'.isFile p = false := by
  obtain ⟨key, hl, -, hgone⟩ := h.gone p hp
  refine eq_false_of_ne_true fun hfile => ?_
  obtain ⟨key', hl', hn, -⟩ := isFile_iff.1 hfile
  rw [h.sameDirectories.locate hl] at hl'
  cases hl'
  rw [hgone] at hn
  cases hn

/-- What one change takes away and what another one takes away is away. -/
theorem trans (h : IsWithout t' t paths) (h' : IsWithout t'' t' more) :
    IsWithout t'' t (paths ++ more) := by
  have hs := h.sameDirectories
  refine ⟨h'.start.trans h.start, ?_, ?_⟩
  · intro p hp
    rcases List.mem_append.1 hp with hp | hp
    · obtain ⟨key, hl, hdir, hgone⟩ := h.gone p hp
      refine ⟨key, hl, hdir, ?_⟩
      rcases h'.gone_or_kept key with ⟨-, hn⟩ | hn
      · exact hn
      · rw [hn, hgone]
    · obtain ⟨key, hl, hdir, hgone⟩ := h'.gone p hp
      exact ⟨key, hs.locate_eq_ok_iff.1 hl, (hs.holds key).symm.trans hdir, hgone⟩
  · intro key hk
    have hpaths : ∀ p ∈ paths, t.locate p ≠ .ok key :=
      fun p hp => hk p (List.mem_append_left more hp)
    have hmore : ∀ p ∈ more, t'.locate p ≠ .ok key := fun p hp hl =>
      hk p (List.mem_append_right paths hp) (hs.locate_eq_ok_iff.1 hl)
    rw [h'.kept key hmore, h.kept key hpaths]

end IsWithout

/-- A device that takes bytes stays a device of its kind. -/
theorem exists_of_deviceAfter {kind : Device} {taken : List UInt8}
    (h : Node.deviceAfter kind taken bytes = .ok node) : ∃ taken', node = .device kind taken' := by
  unfold Node.deviceAfter at h
  split at h
  · cases h
  all_goals exact ⟨_, (Except.ok.inj h).symm⟩

/-- Bytes that are written go to a file or a device. -/
theorem write_eq_ok (h : t.write p bytes = .ok t') :
    ∃ key node, t.locate p = .ok key ∧ wantsDirectory p = false ∧ t.holdsDirectory key = false ∧
      t' = t.insert key node ∧
      ((∀ kind taken, t.node? key ≠ some (.device kind taken)) ∧ (∃ mode, node = .file bytes mode) ∨
        ∃ kind taken, t.node? key = some (.device kind taken) ∧
          Node.deviceAfter kind taken bytes = .ok node) := by
  unfold write writeAs at h
  cases hl : t.locate p with
  | error cause => simp [hl, bind, Except.bind] at h
  | ok key =>
    rw [hl] at h
    dsimp only [bind, Except.bind] at h
    cases hn : t.node? key with
    | none =>
      rw [hn] at h
      dsimp only at h
      split at h
      · cases h
      · next hw =>
        cases h
        exact ⟨key, _, rfl, eq_false_of_ne_true hw, by simp [holdsDirectory, hn], rfl,
          .inl ⟨by simp [hn], _, rfl⟩⟩
    | some found =>
      rw [hn] at h
      cases found with
      | directory mode => cases h
      | file content mode =>
        dsimp only at h
        split at h
        · cases h
        · next hw =>
          cases h
          exact ⟨key, _, rfl, eq_false_of_ne_true hw,
            by simp [holdsDirectory, hn, Node.isDirectory], rfl, .inl ⟨by simp [hn], _, rfl⟩⟩
      | device kind taken =>
        dsimp only at h
        split at h
        · cases h
        · next hw =>
          cases hd : Node.deviceAfter kind taken bytes with
          | error cause => simp [hd] at h
          | ok node =>
            simp only [hd] at h
            cases h
            exact ⟨key, node, rfl, eq_false_of_ne_true hw,
              by simp [holdsDirectory, hn, Node.isDirectory], rfl, .inr ⟨_, _, hn, hd⟩⟩

theorem isWith_write (h : t.write p bytes = .ok t') : IsWith t' t p bytes := by
  obtain ⟨key, node, hl, hw, hkey, rfl, hnode⟩ := write_eq_ok h
  have hne : key ≠ [] := by
    rintro rfl
    cases hkey
  refine ⟨rfl, hw, ⟨key, hl, hkey, ?_⟩, ?_⟩
  · rw [node?_insert hne, if_pos rfl]
    rcases hnode with ⟨hno, mode, rfl⟩ | ⟨kind, taken, hn, hd⟩
    · exact .inl ⟨hno, mode, rfl⟩
    · exact .inr ⟨kind, taken, node, hn, hd, rfl⟩
  · intro other ho
    have hother : other ≠ key := by
      rintro rfl
      exact ho hl
    rw [node?_insert hne, if_neg hother]

namespace IsWith

theorem sameDirectories (h : IsWith t' t p bytes) : SameDirectories t t' := by
  obtain ⟨key, hl, hdir, hnode⟩ := h.holds
  refine ⟨h.start, fun other => ?_⟩
  by_cases ho : other = key
  · rw [ho, hdir, holdsDirectory]
    rcases hnode with ⟨-, mode, hn⟩ | ⟨kind, taken, node, -, hd, hn⟩
    · rw [hn]
      rfl
    · obtain ⟨taken', rfl⟩ := exists_of_deviceAfter hd
      rw [hn]
      rfl
  · have hother : t.locate p ≠ .ok other := by
      rw [hl]
      exact fun he => ho (Except.ok.inj he).symm
    rw [holdsDirectory, h.kept other hother, holdsDirectory]

theorem changesOnly (h : IsWith t' t p bytes) : ChangesOnly t t' [p] :=
  ⟨h.sameDirectories, fun key hk => h.kept key (hk p List.mem_cons_self)⟩

theorem find_eq_ok_iff (h : IsWith t' t p bytes)
    (hq : ∀ key, t.locate q = .ok key → t.locate p ≠ .ok key) :
    t'.find q = .ok node ↔ t.find q = .ok node :=
  h.changesOnly.find_eq_ok_iff fun key hl => by simpa using hq key hl

/-- The path then leads to a regular file that holds just the bytes, or to the device that it led to,
after these bytes. -/
theorem find_cases (h : IsWith t' t p bytes) : (∃ mode, t'.find p = .ok (.file bytes mode)) ∨
    ∃ kind taken node, t.find p = .ok (.device kind taken) ∧
      Node.deviceAfter kind taken bytes = .ok node ∧ t'.find p = .ok node := by
  obtain ⟨key, hl, -, ⟨-, mode, hn⟩ | ⟨kind, taken, node, hn, hd, hn'⟩⟩ := h.holds
  · exact .inl ⟨mode,
      FileTree.find_eq_ok_iff.2 ⟨key, h.sameDirectories.locate hl, hn, .inr h.asFile⟩⟩
  · exact .inr ⟨kind, taken, node, FileTree.find_eq_ok_iff.2 ⟨key, hl, hn, .inr h.asFile⟩, hd,
      FileTree.find_eq_ok_iff.2 ⟨key, h.sameDirectories.locate hl, hn', .inr h.asFile⟩⟩

/-- Where the path led to no device, it leads to a regular file. -/
theorem exists_find_eq (h : IsWith t' t p bytes)
    (hno : ∀ kind taken, t.find p ≠ .ok (.device kind taken)) :
    ∃ mode, t'.find p = .ok (.file bytes mode) := by
  rcases h.find_cases with hfile | ⟨kind, taken, -, hdevice, -⟩
  · exact hfile
  · exact absurd hdevice (hno kind taken)

end IsWith

/-- A file whose text can be read can be removed. -/
theorem leadsToFile_of_readText {text : String} (h : t.readText p = .ok text) :
    t.LeadsToFile p := by
  unfold readText read at h
  cases hf : t.find p with
  | error cause => simp [hf, bind, Except.bind] at h
  | ok node =>
    refine ⟨node, hf, ?_⟩
    cases node with
    | directory mode => simp [hf, bind, Except.bind] at h
    | file => rfl
    | device => rfl

end ScriptBundle.FileTree
