import ScriptBundle.Files.Tree

/-!
# Where paths lead

A walk asks of a tree only which keys are directories, so paths lead to the same keys in trees with
the same directories. A path that joins a name to a directory leads to a key that ends in the name;
paths that join different names lead to different keys.
-/

namespace ScriptBundle.FileTree

variable {t t' : FileTree} {p q : Path} {key other : Key} {name : String}

/-- Whether a directory stands at a key. -/
def holdsDirectory (t : FileTree) (key : Key) : Bool := (t.node? key).any Node.isDirectory

@[simp] theorem holdsDirectory_nil (t : FileTree) : t.holdsDirectory [] = true := rfl

/-- The same keys are directories, and relative paths start at the same one. -/
structure SameDirectories (t t' : FileTree) : Prop where
  start : t'.start = t.start
  holds : ∀ key, t'.holdsDirectory key = t.holdsDirectory key

theorem SameDirectories.symm (h : SameDirectories t t') : SameDirectories t' t :=
  ⟨h.start.symm, fun key => (h.holds key).symm⟩

/-- The key that one name leads to. -/
def keyAfter (key : Key) (name : String) : Key :=
  if name = "." then key
  else if name = ".." then key.dropLast
  else key ++ [name]

/-- The key that a path leads to, if something stands on the way. -/
def keyOf (start : Key) (p : Path) : Key :=
  (names p).foldl keyAfter (if p.isAbsolute then [] else start)

/-- Whether a name does not exceed the limit. -/
def isShort (name : String) : Bool :=
  name = "." || name = ".." || name.utf8ByteSize ≤ nameLimit

theorem enter_eq_ok_iff : t.enter key name = .ok other ↔
    t.holdsDirectory key = true ∧ isShort name = true ∧ other = keyAfter key name := by
  unfold enter holdsDirectory isShort keyAfter
  cases t.node? key with
  | none => simp
  | some node =>
    cases node with
    | file => simp [Node.isDirectory]
    | device => simp [Node.isDirectory]
    | directory mode =>
      by_cases hdot : name = "."
      · simp [hdot, Node.isDirectory, eq_comm]
      · by_cases hup : name = ".."
        · simp [hup, Node.isDirectory, eq_comm]
        · by_cases hlimit : name.utf8ByteSize > nameLimit
          · simp [hdot, hup, hlimit, Nat.not_le.2 hlimit]
          · simp [hdot, hup, hlimit, Nat.le_of_not_lt hlimit, Node.isDirectory, eq_comm]

theorem foldlM_enter_cons (names : List String) : (name :: names).foldlM t.enter key = .ok other ↔
    t.holdsDirectory key = true ∧ isShort name = true ∧
      names.foldlM t.enter (keyAfter key name) = .ok other := by
  rw [List.foldlM_cons]
  cases he : t.enter key name with
  | error cause =>
    constructor
    · intro h
      cases h
    · rintro ⟨hkey, hname, -⟩
      rw [enter_eq_ok_iff.2 ⟨hkey, hname, rfl⟩] at he
      cases he
  | ok next =>
    obtain ⟨hkey, hname, rfl⟩ := enter_eq_ok_iff.1 he
    exact ⟨fun h => ⟨hkey, hname, h⟩, fun h => h.2.2⟩

theorem eq_foldl_of_foldlM {names : List String} (h : names.foldlM t.enter key = .ok other) :
    other = names.foldl keyAfter key := by
  induction names generalizing key with
  | nil =>
    cases h
    rfl
  | cons name names ih => exact ih ((foldlM_enter_cons names).1 h).2.2

theorem SameDirectories.foldlM_enter (hs : SameDirectories t t') {names : List String}
    (h : names.foldlM t.enter key = .ok other) : names.foldlM t'.enter key = .ok other := by
  induction names generalizing key with
  | nil => exact h
  | cons name names ih =>
    obtain ⟨hkey, hname, hrest⟩ := (foldlM_enter_cons names).1 h
    exact (foldlM_enter_cons names).2 ⟨(hs.holds key).trans hkey, hname, ih hrest⟩

theorem eq_keyOf_of_locate (h : t.locate p = .ok key) : key = keyOf t.start p := by
  unfold locate at h
  split at h
  · cases h
  · split at h
    · cases h
    · split at h
      · cases h
      · exact eq_foldl_of_foldlM h

/-- Paths with different keys lead apart. -/
theorem locate_ne_of_keyOf_ne (h : keyOf t.start p ≠ keyOf t.start q) (hp : t.locate p = .ok key) :
    t.locate q ≠ .ok key :=
  fun hq => h ((eq_keyOf_of_locate hp).symm.trans (eq_keyOf_of_locate hq))

theorem SameDirectories.locate (hs : SameDirectories t t') (h : t.locate p = .ok key) :
    t'.locate p = .ok key := by
  unfold FileTree.locate at h ⊢
  rw [hs.start]
  split at h
  · cases h
  · split at h
    · cases h
    · split at h
      · cases h
      · next he hn hl =>
        rw [if_neg he, if_neg hn, if_neg hl]
        exact hs.foldlM_enter h

theorem SameDirectories.locate_eq_ok_iff (hs : SameDirectories t t') :
    t'.locate p = .ok key ↔ t.locate p = .ok key :=
  ⟨hs.symm.locate, hs.locate⟩

/-- What stands between the slashes, empty pieces left out. -/
def piecesOf (text : List Char) : List String :=
  ((text.splitOn '/').filter (!·.isEmpty)).map String.ofList

theorem piecesOf_append_slash (text more : List Char) :
    piecesOf (text ++ '/' :: more) = piecesOf text ++ piecesOf more := by
  have hsplit : (text ++ '/' :: more).splitOn '/' = text.splitOn '/' ++ more.splitOn '/' :=
    List.splitOnP_append_cons text more rfl
  rw [piecesOf, hsplit, List.filter_append, List.map_append]
  rfl

theorem piecesOf_of_not_mem {text : List Char} (h : '/' ∉ text) (hne : text ≠ []) :
    piecesOf text = [String.ofList text] := by
  rw [piecesOf, List.splitOn_eq_singleton h]
  simp [hne]

theorem names_eq_piecesOf (p : Path) : names p = piecesOf p.spelling.toList := rfl

/-- A joined path is its directory up to a slash, and the name. -/
theorem exists_spelling_join (directory : Path) (hd : directory.spelling ≠ "") (name : String) :
    ∃ before, (directory.join name).spelling.toList = before ++ '/' :: name.toList ∧
      piecesOf directory.spelling.toList = piecesOf before := by
  unfold Path.join
  rw [if_neg hd]
  split
  · next hslash =>
    obtain ⟨before, hbefore⟩ := List.getLast?_eq_some_iff.1 hslash
    refine ⟨before, by simp [hbefore], ?_⟩
    rw [hbefore, piecesOf_append_slash]
    exact List.append_nil _
  · exact ⟨directory.spelling.toList, by simp, rfl⟩

/-- The names of a path are those of its directory, and the joined one. -/
theorem names_join (directory : Path) (hname : '/' ∉ name.toList) (hne : name ≠ "") :
    names (directory.join name) = names directory ++ [name] := by
  have hpieces : piecesOf name.toList = [name] := by
    rw [piecesOf_of_not_mem hname (by simpa using hne), String.ofList_toList]
  by_cases hd : directory.spelling = ""
  · unfold Path.join
    rw [if_pos hd, names_eq_piecesOf, names_eq_piecesOf, hd, hpieces]
    rfl
  · obtain ⟨before, hjoin, hbefore⟩ := exists_spelling_join directory hd name
    rw [names_eq_piecesOf, names_eq_piecesOf, hjoin, piecesOf_append_slash, hpieces, hbefore]

/-- A path that joins a name asks for no directory. -/
theorem wantsDirectory_join_eq_false (directory : Path) (hd : directory.spelling ≠ "") {last : Char}
    (hlast : name.toList.getLast? = some last) (hslash : last ≠ '/') :
    wantsDirectory (directory.join name) = false := by
  obtain ⟨before, hjoin, -⟩ := exists_spelling_join directory hd name
  rw [wantsDirectory, hjoin]
  simp [List.getLast?_append, List.getLast?_cons, hlast, hslash]

theorem isAbsolute_join (directory : Path) (hd : directory.spelling ≠ "") :
    (directory.join name).isAbsolute = directory.isAbsolute := by
  have hdne : directory.spelling.toList ≠ [] := by simpa using hd
  obtain ⟨c, tail, hc⟩ := List.exists_cons_of_ne_nil hdne
  unfold Path.isAbsolute Path.join
  rw [if_neg hd]
  split <;> simp [hc]

theorem keyOf_join {start : Key} (directory : Path) (hd : directory.spelling ≠ "")
    (hname : '/' ∉ name.toList) (hne : name ≠ "") (hdots : name ≠ "." ∧ name ≠ "..") :
    keyOf start (directory.join name) = keyOf start directory ++ [name] := by
  rw [keyOf, keyOf, names_join directory hname hne, isAbsolute_join directory hd, List.foldl_append]
  simp [keyAfter, hdots]

end ScriptBundle.FileTree
