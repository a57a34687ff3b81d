import ScriptBundle.Proofs.Path
import ScriptBundle.Proofs.Files.Change

/-!
# Listings

The entries of a tree may stand in any order, and its listings give them as they come. What is listed
in a directory, or below it, is what stands at the keys that go on from its own.
-/

namespace ScriptBundle.FileTree

variable {t t' : FileTree} {p dir : Path} {key : Key} {name : String} {names : List String}

/-- Whether a name is one that a path can spell and that leads down. -/
def isProper (name : String) : Bool :=
  name ≠ "" && name ≠ "." && name ≠ ".." && '/' ∉ name.toList

theorem isProper_iff : isProper name = true ↔
    name ≠ "" ∧ name ≠ "." ∧ name ≠ ".." ∧ '/' ∉ name.toList := by
  simp [isProper, and_assoc]

theorem not_mem_of_mem_splitOn {text piece : List Char} (h : piece ∈ text.splitOn '/') :
    '/' ∉ piece := by
  induction text generalizing piece with
  | nil =>
    rw [List.mem_singleton.1 h]
    exact List.not_mem_nil
  | cons c rest ih =>
    rw [List.splitOn_cons_eq_if_modifyHead] at h
    split at h
    · rcases List.mem_cons.1 h with rfl | h
      · exact List.not_mem_nil
      · exact ih h
    · next hc =>
      obtain ⟨first, more, hsplit⟩ := List.exists_cons_of_ne_nil (List.splitOn_ne_nil '/' rest)
      rw [hsplit, List.modifyHead_cons] at h
      rcases List.mem_cons.1 h with rfl | h
      · have hfirst := ih (hsplit ▸ List.mem_cons_self)
        rw [List.mem_cons, not_or]
        exact ⟨fun he => hc (by simp [← he]), hfirst⟩
      · exact ih (hsplit ▸ List.mem_cons_of_mem _ h)

theorem ne_empty_and_not_mem_of_mem_names (h : name ∈ FileTree.names p) :
    name ≠ "" ∧ '/' ∉ name.toList := by
  obtain ⟨piece, hpiece, rfl⟩ := List.mem_map.1 h
  obtain ⟨hsplit, hne⟩ := List.mem_filter.1 hpiece
  refine ⟨?_, by simpa using not_mem_of_mem_splitOn hsplit⟩
  simpa using hne

theorem isProper_of_mem_keyAfter (hname : name ≠ "" ∧ '/' ∉ name.toList)
    (hkey : ∀ n ∈ key, isProper n = true) : ∀ n ∈ keyAfter key name, isProper n = true := by
  intro n hmem
  unfold keyAfter at hmem
  split at hmem
  · exact hkey n hmem
  · next hdot =>
    split at hmem
    · exact hkey n (List.dropLast_subset key hmem)
    · next hup =>
      rcases List.mem_append.1 hmem with hmem | hmem
      · exact hkey n hmem
      · rw [List.mem_singleton.1 hmem]
        exact isProper_iff.2 ⟨hname.1, hdot, hup, hname.2⟩

theorem isProper_of_mem_foldl (hnames : ∀ name ∈ names, name ≠ "" ∧ '/' ∉ name.toList)
    (hkey : ∀ n ∈ key, isProper n = true) :
    ∀ n ∈ names.foldl keyAfter key, isProper n = true := by
  induction names generalizing key with
  | nil => exact hkey
  | cons first rest ih =>
    obtain ⟨hfirst, hrest⟩ := List.forall_mem_cons.1 hnames
    exact ih hrest (isProper_of_mem_keyAfter hfirst hkey)

/-- Every name on the way that a path leads is proper, if those of the start are. -/
theorem isProper_of_mem_keyOf {start : Key} (hstart : ∀ name ∈ start, isProper name = true) :
    ∀ name ∈ keyOf start p, isProper name = true := by
  refine isProper_of_mem_foldl (fun name => ne_empty_and_not_mem_of_mem_names) ?_
  split
  · exact fun _ hmem => nomatch hmem
  · exact hstart

theorem isSome_lookup_iff {entries : List (Key × Node)} :
    (entries.lookup key).isSome = true ↔ ∃ node, (key, node) ∈ entries := by
  induction entries with
  | nil => simp
  | cons e rest ih =>
    obtain ⟨other, node⟩ := e
    by_cases h : key = other
    · subst h
      simp
    · simp [List.lookup_cons, beq_eq_false_iff_ne.2 h, ih, h]

theorem isSome_node?_iff (h : key ≠ []) :
    (t.node? key).isSome = true ↔ ∃ node, (key, node) ∈ t.entries := by
  cases key with
  | nil => exact absurd rfl h
  | cons name rest => exact isSome_lookup_iff

theorem mem_children_iff :
    name ∈ (t.children key).map (·.1) ↔ (t.node? (key ++ [name])).isSome = true := by
  rw [isSome_node?_iff (by simp), List.mem_map]
  unfold children
  constructor
  · rintro ⟨⟨other, node⟩, hmem, rfl⟩
    obtain ⟨⟨k, node'⟩, hk, he⟩ := List.mem_filterMap.1 hmem
    dsimp only at he
    split at he
    · next last hlast =>
      split at he
      · next hdrop =>
        cases he
        obtain ⟨before, rfl⟩ := List.getLast?_eq_some_iff.1 hlast
        rw [List.dropLast_concat] at hdrop
        exact ⟨node, hdrop ▸ hk⟩
      · cases he
    · cases he
  · rintro ⟨node, hmem⟩
    exact ⟨(name, node), List.mem_filterMap.2 ⟨_, hmem, by simp⟩, rfl⟩

theorem mem_below_iff : names ∈ (t.below key).map (·.1) ↔
    names ≠ [] ∧ (t.node? (key ++ names)).isSome = true := by
  rw [List.mem_map]
  unfold below
  constructor
  · rintro ⟨⟨other, node⟩, hmem, rfl⟩
    obtain ⟨⟨k, node'⟩, hk, he⟩ := List.mem_filterMap.1 hmem
    dsimp only at he
    split at he
    · next hcond =>
      cases he
      rw [Bool.and_eq_true, List.isPrefixOf_iff_prefix, decide_eq_true_eq] at hcond
      obtain ⟨⟨rest, rfl⟩, hlt⟩ := hcond
      have hne : rest ≠ [] := by
        rintro rfl
        simp at hlt
      rw [List.drop_left]
      exact ⟨hne, (isSome_node?_iff (by simp [hne])).2 ⟨_, hk⟩⟩
    · cases he
  · rintro ⟨hne, hsome⟩
    obtain ⟨node, hmem⟩ := (isSome_node?_iff (by simp [hne])).1 hsome
    refine ⟨(names, node), List.mem_filterMap.2 ⟨_, hmem, ?_⟩, rfl⟩
    simp [List.isPrefixOf_iff_prefix, List.length_pos_iff, hne]

theorem piecesOf_ne_nil {text : List Char} {c : Char} (hc : c ∈ text) (hne : c ≠ '/') :
    piecesOf text ≠ [] := by
  induction text with
  | nil => exact nomatch hc
  | cons d rest ih =>
    by_cases hd : d = '/'
    · rw [hd]
      have hpieces : piecesOf ('/' :: rest) = piecesOf rest := piecesOf_append_slash [] rest
      rw [hpieces]
      refine ih ((List.mem_cons.1 hc).resolve_left ?_)
      rintro rfl
      exact hne hd
    · obtain ⟨first, more, hsplit⟩ := List.exists_cons_of_ne_nil (List.splitOn_ne_nil '/' rest)
      have hcons : (d :: rest).splitOn '/' = (d :: first) :: more := by
        rw [List.splitOn_cons_eq_if_modifyHead, if_neg (by simpa using hd), hsplit]
        rfl
      simp [piecesOf, hcons]

/-- A joined path leads through its directory. -/
theorem exists_locate_of_join (hd : dir.spelling ≠ "") (h : t.locate (dir.join name) = .ok key) :
    ∃ k, t.locate dir = .ok k ∧ (piecesOf name.toList).foldlM t.enter k = .ok key := by
  obtain ⟨before, hjoin, hbefore⟩ := exists_spelling_join dir hd name
  obtain ⟨more, hmore⟩ : ∃ more, (dir.join name).spelling = dir.spelling ++ more := by
    unfold Path.join
    rw [if_neg hd]
    split
    · exact ⟨name, rfl⟩
    · exact ⟨"/" ++ name, String.append_assoc⟩
  have hnames : FileTree.names (dir.join name) = FileTree.names dir ++ piecesOf name.toList := by
    rw [names_eq_piecesOf, names_eq_piecesOf, hjoin, piecesOf_append_slash, hbefore]
  unfold locate at h ⊢
  rw [hnames, isAbsolute_join dir hd, hmore, List.foldlM_append] at h
  split at h
  · cases h
  · split at h
    · cases h
    · next hnull =>
      split at h
      · cases h
      · next hsize =>
        rw [String.toList_append, List.contains_append, Bool.or_eq_true, not_or] at hnull
        rw [String.utf8ByteSize_append] at hsize
        rw [if_neg hd, if_neg hnull.1, if_neg (by omega)]
        cases hk : (FileTree.names dir).foldlM t.enter (if dir.isAbsolute then [] else t.start) with
        | error cause =>
          rw [hk] at h
          cases h
        | ok k =>
          rw [hk] at h
          exact ⟨k, rfl, h⟩

/-- A joined path that adds no name ends in a slash. -/
theorem wantsDirectory_join (hd : dir.spelling ≠ "") (hname : piecesOf name.toList = []) :
    wantsDirectory (dir.join name) = true := by
  obtain ⟨before, hjoin, -⟩ := exists_spelling_join dir hd name
  rw [wantsDirectory, hjoin, List.getLast?_append]
  cases hlast : name.toList.getLast? with
  | none => simp [List.getLast?_cons, hlast]
  | some c =>
    have hc : c = '/' := by
      refine Classical.byContradiction fun hne => ?_
      exact piecesOf_ne_nil (List.mem_of_getLast? hlast) hne hname
    simp [List.getLast?_cons, hlast, hc]

/-- What a joined path leads to is in a directory, or is one itself. -/
theorem isDirectory_of_has_join (hd : dir.spelling ≠ "") (h : t.has (dir.join name) = true) :
    t.isDirectory dir = true := by
  unfold has at h
  cases hf : t.find (dir.join name) with
  | error cause =>
    rw [hf] at h
    cases h
  | ok node =>
    obtain ⟨key, hl, hn, hnode⟩ := find_eq_ok_iff.1 hf
    obtain ⟨k, hk, hpieces⟩ := exists_locate_of_join hd hl
    have hdir : t.holdsDirectory k = true := by
      cases hp : piecesOf name.toList with
      | nil =>
        -- The path leads to the directory itself, and asks for one.
        rw [hp] at hpieces
        cases hpieces
        rw [wantsDirectory_join hd hp] at hnode
        rw [holdsDirectory, hn]
        exact hnode.resolve_right Bool.false_ne_true.symm
      | cons first rest =>
        rw [hp] at hpieces
        exact ((foldlM_enter_cons rest).1 hpieces).1
    unfold holdsDirectory at hdir
    obtain ⟨node, hn, hnode⟩ := (Option.any_eq_true _ _).1 hdir
    unfold isDirectory
    rw [find_eq_ok_iff.2 ⟨k, hk, hn, .inl hnode⟩]
    exact hnode

end ScriptBundle.FileTree
