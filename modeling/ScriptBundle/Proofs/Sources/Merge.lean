import ScriptBundle.Proofs.Sources.Expand
import ScriptBundle.Proofs.Workspace

/-!
# Source lists as merges

The source list of some entries and further ones is the list of the first ones and then what is new in
the list of the others (`expandWith_append`). So repeats are told apart over all entries, while sorting
stays within one of them. What an entry stands for is said without a list by `StandsFor`: all of it is in
the list, once among paths that are the same, and nothing else is. As the order of paths is total and
takes just those for equal that are the same, it does not matter in which order the files of a pattern
are found (`map_parts_expandWith`).

What a pattern finds and which paths are regular files is left open here.
-/

namespace ScriptBundle

namespace Path

open Std (LawfulEqCmp OrientedCmp)

variable {p q : Path}

theorem same_iff : p.same q = true ↔ p.parts = q.parts := beq_iff_eq

theorem same_eq_false_iff : p.same q = false ↔ p.parts ≠ q.parts := beq_eq_false_iff_ne

instance : LawfulEqCmp Part.compare where
  eq_of_compare {a b} h := by
    cases a with
    | name text =>
      cases b with
      | name other =>
        exact congrArg _ ((compareOfLessAndEq_eq_eq String.le_refl String.not_le).1 h)
      | root | here | up => cases h
    | root | here | up =>
      cases b <;> cases h
      rfl

/-- The order takes just those paths for equal that are the same. -/
theorem compare_eq_iff : p.compare q = .eq ↔ p.parts = q.parts :=
  have parts : LawfulEqCmp (List.compareLex Part.compare) := inferInstance
  parts.compare_eq_iff_eq

theorem parts_eq_of_le (hpq : p.le q = true) (hqp : q.le p = true) : p.parts = q.parts := by
  have hswap : q.compare p = (p.compare q).swap := OrientedCmp.eq_swap
  unfold le at hpq hqp
  rw [hswap] at hqp
  refine compare_eq_iff.1 ?_
  cases hc : p.compare q <;> simp_all

theorem compare_eq_lt (hle : p.le q = true) (hne : p.same q = false) : p.compare q = .lt := by
  have hne := mt compare_eq_iff.1 (same_eq_false_iff.1 hne)
  unfold le at hle
  cases hc : p.compare q <;> simp_all

end Path

namespace Sources

variable {paths more : List Path} {p q : Path}

theorem dropRepeats_sublist (paths : List Path) : (dropRepeats paths).Sublist paths := by
  induction paths using dropRepeats_induction with
  | nil => exact .slnil
  | cons p rest ih =>
    rw [dropRepeats_cons]
    exact .cons_cons p (ih.trans List.filter_sublist)

theorem pairwise_dropRepeats (paths : List Path) :
    (dropRepeats paths).Pairwise fun p q => p.same q = false := by
  induction paths using dropRepeats_induction with
  | nil => exact .nil
  | cons p rest ih =>
    rw [dropRepeats_cons]
    refine .cons (fun q hq => ?_) ih
    simpa using (List.mem_filter.1 ((dropRepeats_sublist _).mem hq)).2

/-- Which parts stay does not depend on how the paths are spelled. -/
theorem map_parts_dropRepeats (paths : List Path) :
    (dropRepeats paths).map Path.parts = (paths.map Path.parts).eraseDups := by
  induction paths using dropRepeats_induction with
  | nil => rfl
  | cons p rest ih =>
    rw [dropRepeats_cons, List.map_cons, ih, List.map_cons, List.eraseDups_cons, List.filter_map]
    congr 4
    funext q
    exact congrArg Bool.not Bool.beq_comm

/-- What is filtered out together with all that is the same may be filtered out before. -/
theorem dropRepeats_filter {keep : Path → Bool}
    (hkeep : ∀ p q, p.same q = true → keep p = keep q) (paths : List Path) :
    dropRepeats (paths.filter keep) = (dropRepeats paths).filter keep := by
  induction paths using dropRepeats_induction with
  | nil => rfl
  | cons p rest ih =>
    have hcomm : (rest.filter keep).filter (fun q => !p.same q) =
        (rest.filter fun q => !p.same q).filter keep := by
      rw [List.filter_filter, List.filter_filter]
      exact congrArg (List.filter · rest) (funext fun q => Bool.and_comm _ _)
    rw [dropRepeats_cons]
    by_cases hp : keep p = true
    · rw [List.filter_cons_of_pos hp, List.filter_cons_of_pos hp, dropRepeats_cons, hcomm, ih]
    · rw [List.filter_cons_of_neg hp, List.filter_cons_of_neg hp, ← ih, ← hcomm]
      -- With `p` all that is the same has gone already.
      congr 1
      refine (List.filter_eq_self.2 fun q hq => ?_).symm
      have hq := (List.mem_filter.1 hq).2
      rw [Bool.not_eq_true', Path.same_eq_false_iff]
      exact fun he => hp ((hkeep p q (Path.same_iff.2 he)).trans hq)

/-- Of two lists in a row the first one leaves what it leaves alone, and the second what is new of it. -/
theorem dropRepeats_append (paths more : List Path) : dropRepeats (paths ++ more) =
    dropRepeats paths ++ (dropRepeats more).filter fun q => !(dropRepeats paths).any (·.same q) := by
  have hfold := foldl_dropRepeats (dropRepeats paths) more
  rw [dropRepeats, List.foldl_append, ← dropRepeats, hfold, dropRepeats_filter]
  intro p q hpq
  have hparts := Path.same_iff.1 hpq
  congr 2
  funext other
  rw [Path.same, Path.same, hparts]

variable {glob glob' : String → Except Pattern.Error (List Path)} {isFile : Path → Bool}
variable {entry : String} {entries ps qs : List String} {sources : List Path} {e : Error}

/-- The regular files that an entry finds as a pattern. A plain path is not looked for in this way. -/
def filesOf (glob : String → Except Pattern.Error (List Path)) (isFile : Path → Bool)
    (entry : String) : List Path :=
  if Pattern.hasWildcard entry then
    match glob entry with
    | .ok paths => paths.filter isFile
    | .error _ => []
  else []

/-- What an entry stands for: the files that it finds or, if it finds none, the path that it spells. -/
def StandsFor (glob : String → Except Pattern.Error (List Path)) (isFile : Path → Bool)
    (entry : String) (p : Path) : Prop :=
  p ∈ filesOf glob isFile entry ∨ filesOf glob isFile entry = [] ∧ p = ⟨entry⟩

theorem exists_standsFor (glob : String → Except Pattern.Error (List Path)) (isFile : Path → Bool)
    (entry : String) : ∃ p, StandsFor glob isFile entry p := by
  cases hf : filesOf glob isFile entry with
  | nil => exact ⟨⟨entry⟩, .inr ⟨hf, rfl⟩⟩
  | cons p rest => exact ⟨p, .inl (hf ▸ List.mem_cons_self)⟩

theorem isFile_of_mem_filesOf (h : p ∈ filesOf glob isFile entry) : isFile p = true := by
  unfold filesOf at h
  split at h
  · split at h
    · exact (List.mem_filter.1 h).2
    · exact nomatch h
  · exact nomatch h

theorem mergeSort_eq_nil_iff (paths : List Path) : paths.mergeSort Path.le = [] ↔ paths = [] := by
  rw [← List.length_eq_zero_iff, List.length_mergeSort, List.length_eq_zero_iff]

/-- An entry fails just if it is a pattern that cannot be read. -/
theorem expandOne_eq (glob : String → Except Pattern.Error (List Path)) (isFile : Path → Bool)
    (entry : String) :
    (∃ cause, Pattern.hasWildcard entry = true ∧ glob entry = .error cause ∧
        expandOne glob isFile entry = .error (.pattern entry cause)) ∨
      (Pattern.hasWildcard entry = true → ∃ paths, glob entry = .ok paths) ∧
        expandOne glob isFile entry =
          .ok (if filesOf glob isFile entry = [] then [⟨entry⟩]
            else (filesOf glob isFile entry).mergeSort Path.le) := by
  unfold expandOne filesOf
  cases hw : Pattern.hasWildcard entry with
  | false => exact .inr ⟨nofun, rfl⟩
  | true =>
    cases hg : glob entry with
    | error cause => exact .inl ⟨cause, rfl, rfl, rfl⟩
    | ok paths =>
      refine .inr ⟨fun _ => ⟨paths, rfl⟩, ?_⟩
      simp only [if_true, ← mergeSort_eq_nil_iff (paths.filter isFile)]
      rfl

theorem expandOne_eq_ok_iff : expandOne glob isFile entry = .ok paths ↔
    (Pattern.hasWildcard entry = true → ∃ paths, glob entry = .ok paths) ∧
      paths = if filesOf glob isFile entry = [] then [⟨entry⟩]
        else (filesOf glob isFile entry).mergeSort Path.le := by
  rcases expandOne_eq glob isFile entry with ⟨cause, hw, hg, he⟩ | ⟨hread, he⟩
  · rw [he]
    refine ⟨nofun, fun h => ?_⟩
    obtain ⟨_, hok⟩ := h.1 hw
    rw [hg] at hok
    cases hok
  · rw [he, Except.ok.injEq, eq_comm, and_iff_right hread]

theorem expandOne_eq_error_iff : expandOne glob isFile entry = .error e ↔
    ∃ cause, Pattern.hasWildcard entry = true ∧ glob entry = .error cause ∧
      e = .pattern entry cause := by
  rcases expandOne_eq glob isFile entry with ⟨cause, hw, hg, he⟩ | ⟨hread, he⟩
  · simp [he, hw, hg, eq_comm]
  · rw [he]
    refine ⟨nofun, fun ⟨cause, hw, hg, _⟩ => ?_⟩
    obtain ⟨_, hok⟩ := hread hw
    rw [hg] at hok
    cases hok

/-- The paths of one entry are what it stands for. -/
theorem mem_expandOne_iff (h : expandOne glob isFile entry = .ok paths) :
    p ∈ paths ↔ StandsFor glob isFile entry p := by
  obtain ⟨-, rfl⟩ := expandOne_eq_ok_iff.1 h
  unfold StandsFor
  split
  · next hnone => simp [hnone]
  · next hfound => simp [hfound, List.mem_mergeSort]

theorem pairwise_expandOne (h : expandOne glob isFile entry = .ok paths) :
    paths.Pairwise fun p q => p.le q = true := by
  obtain ⟨-, rfl⟩ := expandOne_eq_ok_iff.1 h
  split
  · exact List.pairwise_singleton _ _
  · exact List.pairwise_mergeSort Path.le_trans Path.le_total _

theorem expandWith_eq (glob : String → Except Pattern.Error (List Path)) (isFile : Path → Bool)
    (entries : List String) : expandWith glob isFile entries =
      (entries.mapM (expandOne glob isFile)).map fun lists => dropRepeats lists.flatten := by
  unfold expandWith
  cases entries.mapM (expandOne glob isFile) <;> rfl

/-- Entries fail as the first pattern that cannot be read, and its text is named. -/
theorem expandWith_eq_error_iff : expandWith glob isFile entries = .error e ↔
    ∃ before entry after cause, entries = before ++ entry :: after ∧
      (∀ other ∈ before, Pattern.hasWildcard other = true → ∃ paths, glob other = .ok paths) ∧
      Pattern.hasWildcard entry = true ∧ glob entry = .error cause ∧ e = .pattern entry cause := by
  have hmap : expandWith glob isFile entries = .error e ↔
      entries.mapM (expandOne glob isFile) = .error e := by
    rw [expandWith_eq]
    cases entries.mapM (expandOne glob isFile) <;> simp [Except.map]
  have hok : ∀ other, (∃ paths, expandOne glob isFile other = .ok paths) ↔
      (Pattern.hasWildcard other = true → ∃ paths, glob other = .ok paths) :=
    fun other => ⟨fun ⟨_, h⟩ => (expandOne_eq_ok_iff.1 h).1, fun h => ⟨_, expandOne_eq_ok_iff.2 ⟨h, rfl⟩⟩⟩
  simp only [hmap, mapM_eq_error_iff, hok, expandOne_eq_error_iff, exists_and_left]

theorem expandWith_append (glob : String → Except Pattern.Error (List Path)) (isFile : Path → Bool)
    (ps qs : List String) : expandWith glob isFile (ps ++ qs) =
      (expandWith glob isFile ps).bind fun kept =>
        (expandWith glob isFile qs).map fun more =>
          kept ++ more.filter fun q => !kept.any (·.same q) := by
  rw [expandWith_eq, expandWith_eq, expandWith_eq, List.mapM_append]
  cases ps.mapM (expandOne glob isFile) with
  | error e => rfl
  | ok lists =>
    cases qs.mapM (expandOne glob isFile) with
    | error e => rfl
    | ok rest =>
      refine congrArg Except.ok ?_
      dsimp only
      rw [List.flatten_append, dropRepeats_append]

theorem exists_lists_of_expandWith (h : expandWith glob isFile entries = .ok sources) :
    ∃ lists, entries.mapM (expandOne glob isFile) = .ok lists ∧
      sources = dropRepeats lists.flatten := by
  rw [expandWith_eq] at h
  cases hall : entries.mapM (expandOne glob isFile) with
  | error e =>
    rw [hall] at h
    cases h
  | ok lists =>
    rw [hall] at h
    cases h
    exact ⟨lists, rfl, rfl⟩

theorem exists_of_mem_mapM {α β ε : Type} {f : α → Except ε β} {xs : List α} {ys : List β}
    (h : xs.mapM f = .ok ys) {y : β} (hy : y ∈ ys) : ∃ x ∈ xs, f x = .ok y := by
  induction xs generalizing ys with
  | nil =>
    cases h
    exact nomatch hy
  | cons first rest ih =>
    obtain ⟨z, more, hfirst, hrest, rfl⟩ := mapM_cons_eq_ok_iff.1 h
    rcases List.mem_cons.1 hy with rfl | hy
    · exact ⟨first, List.mem_cons_self, hfirst⟩
    · obtain ⟨x, hx, hfx⟩ := ih hrest hy
      exact ⟨x, List.mem_cons_of_mem _ hx, hfx⟩

/-- A source is listed as some entry stands for it, spelling included. -/
theorem exists_standsFor_of_mem (h : expandWith glob isFile entries = .ok sources) (hp : p ∈ sources) :
    ∃ entry ∈ entries, StandsFor glob isFile entry p := by
  obtain ⟨lists, hall, rfl⟩ := exists_lists_of_expandWith h
  obtain ⟨paths, hpaths, hmem⟩ := List.mem_flatten.1 ((dropRepeats_sublist _).mem hp)
  obtain ⟨entry, hentry, hone⟩ := exists_of_mem_mapM hall hpaths
  exact ⟨entry, hentry, (mem_expandOne_iff hone).1 hmem⟩

/-- All that an entry stands for is listed, if not as it is spelled. -/
theorem exists_same_of_standsFor (h : expandWith glob isFile entries = .ok sources)
    (hentry : entry ∈ entries) (hp : StandsFor glob isFile entry p) :
    ∃ source ∈ sources, source.same p = true := by
  obtain ⟨lists, hall, rfl⟩ := exists_lists_of_expandWith h
  obtain ⟨paths, hpaths, hone⟩ := exists_mem_of_mapM hall hentry
  exact exists_same_of_mem (List.mem_flatten.2 ⟨paths, hpaths, (mem_expandOne_iff hone).2 hp⟩)

theorem filesOf_glob {t : FileTree} {q : Pattern} (hw : Pattern.hasWildcard entry = true)
    (hq : Pattern.parse entry.toList = .ok q) : filesOf (Sources.glob t) t.isFile entry = found q t := by
  unfold filesOf Sources.glob
  rw [if_pos hw, hq]
  rfl

/-- A source list has all that its patterns find, but for repeats. -/
theorem exists_same_of_found {t : FileTree} {q : Pattern} (h : expand t entries = .ok sources)
    (hentry : entry ∈ entries) (hw : Pattern.hasWildcard entry = true)
    (hq : Pattern.parse entry.toList = .ok q) (hp : p ∈ found q t) :
    ∃ source ∈ sources, source.same p = true := by
  rw [← filesOf_glob hw hq] at hp
  exact exists_same_of_standsFor h hentry (.inl hp)

theorem pairwise_expandWith (h : expandWith glob isFile entries = .ok sources) :
    sources.Pairwise fun p q => p.same q = false := by
  obtain ⟨lists, -, rfl⟩ := exists_lists_of_expandWith h
  exact pairwise_dropRepeats _

theorem eq_nil_iff_of_expandWith (h : expandWith glob isFile entries = .ok sources) :
    sources = [] ↔ entries = [] := by
  constructor
  · rintro rfl
    refine List.eq_nil_iff_forall_not_mem.2 fun entry hentry => ?_
    obtain ⟨p, hp⟩ := exists_standsFor glob isFile entry
    obtain ⟨source, hsource, -⟩ := exists_same_of_standsFor h hentry hp
    exact nomatch hsource
  · rintro rfl
    cases h
    rfl

/-- The sources of one entry are in strict order. -/
theorem pairwise_lt_expandWith (h : expandWith glob isFile [entry] = .ok sources) :
    sources.Pairwise fun p q => p.compare q = .lt := by
  have hdistinct := pairwise_expandWith h
  obtain ⟨lists, hall, rfl⟩ := exists_lists_of_expandWith h
  obtain ⟨paths, rest, hone, hrest, rfl⟩ := mapM_cons_eq_ok_iff.1 hall
  obtain rfl : rest = [] := (Except.ok.inj hrest).symm
  have hsorted := (pairwise_expandOne hone).sublist (dropRepeats_sublist paths)
  rw [List.flatten_cons, List.flatten_nil, List.append_nil] at hdistinct ⊢
  exact hsorted.imp₂ (fun p q => Path.compare_eq_lt) hdistinct

/-- The same paths in any order, or the same failure. -/
inductive Reordered : Except Pattern.Error (List Path) → Except Pattern.Error (List Path) → Prop where
  | ok {paths paths' : List Path} (h : paths.Perm paths') : Reordered (.ok paths) (.ok paths')
  | error (cause : Pattern.Error) : Reordered (.error cause) (.error cause)

/-- Sorted, the same paths have the same parts, whatever order they were in. -/
theorem map_parts_mergeSort (h : paths.Perm more) :
    (paths.mergeSort Path.le).map Path.parts = (more.mergeSort Path.le).map Path.parts := by
  have hsorted : ∀ paths : List Path, ((paths.mergeSort Path.le).map Path.parts).Pairwise
      fun a b => (List.compareLex Path.Part.compare a b).isLE = true := by
    intro paths
    refine List.pairwise_map.2 ((List.pairwise_mergeSort Path.le_trans Path.le_total paths).imp ?_)
    exact fun hle => Path.le_iff.1 hle
  have hperm : (paths.mergeSort Path.le).Perm (more.mergeSort Path.le) :=
    ((List.mergeSort_perm paths _).trans h).trans (List.mergeSort_perm more _).symm
  refine List.Perm.eq_of_pairwise ?_ (hsorted paths) (hsorted more) (hperm.map Path.parts)
  intro a b ha hb hab hba
  obtain ⟨p, -, rfl⟩ := List.mem_map.1 ha
  obtain ⟨q, -, rfl⟩ := List.mem_map.1 hb
  exact Path.parts_eq_of_le (Path.le_iff.2 hab) (Path.le_iff.2 hba)

theorem map_parts_expandOne (h : Reordered (glob entry) (glob' entry)) :
    (expandOne glob isFile entry).map (List.map Path.parts) =
      (expandOne glob' isFile entry).map (List.map Path.parts) := by
  unfold expandOne
  split
  · generalize glob entry = found at h
    generalize glob' entry = found' at h
    cases h with
    | error cause => rfl
    | @ok paths paths' hperm =>
      have hsort := map_parts_mergeSort (hperm.filter isFile)
      have hnil : (paths.filter isFile).mergeSort Path.le = [] ↔
          (paths'.filter isFile).mergeSort Path.le = [] := by
        rw [← List.map_eq_nil_iff, hsort, List.map_eq_nil_iff]
      refine congrArg Except.ok ?_
      by_cases hempty : (paths'.filter isFile).mergeSort Path.le = []
      · rw [if_pos hempty, if_pos (hnil.2 hempty)]
      · rw [if_neg hempty, if_neg (mt hnil.1 hempty), hsort]
  · rfl

theorem map_mapM {α β γ ε : Type} {f : α → Except ε β} (view : β → γ) (xs : List α) :
    (xs.mapM f).map (List.map view) = xs.mapM fun x => (f x).map view := by
  induction xs with
  | nil => rfl
  | cons x xs ih =>
    rw [List.mapM_cons, List.mapM_cons, ← ih]
    cases f x with
    | error e => rfl
    | ok y => cases xs.mapM f <;> rfl

/-- The parts of the sources come from the parts that each entry stands for. -/
theorem map_parts_expandWith_eq (glob : String → Except Pattern.Error (List Path))
    (isFile : Path → Bool) (entries : List String) :
    (expandWith glob isFile entries).map (List.map Path.parts) =
      (entries.mapM fun entry => (expandOne glob isFile entry).map (List.map Path.parts)).map
        fun lists => lists.flatten.eraseDups := by
  rw [expandWith_eq, ← map_mapM]
  cases entries.mapM (expandOne glob isFile) with
  | error e => rfl
  | ok lists =>
    refine congrArg Except.ok ?_
    rw [map_parts_dropRepeats, List.map_flatten]

/-- Up to spelling the sources do not depend on the order in which files are found. -/
theorem map_parts_expandWith (h : ∀ entry, Reordered (glob entry) (glob' entry))
    (isFile : Path → Bool) (entries : List String) :
    (expandWith glob isFile entries).map (List.map Path.parts) =
      (expandWith glob' isFile entries).map (List.map Path.parts) := by
  rw [map_parts_expandWith_eq, map_parts_expandWith_eq]
  congr 2
  funext entry
  exact map_parts_expandOne (h entry)

/-- Expanding more entries adds to the sources of the first ones what is new in those of the others, and
fails as the first ones do or else as the others do. No two sources are the same path; one entry alone
has its sources in strict path order, and up to their spelling they are the same in whatever order a
pattern's files are found. Each entry has something that it stands for among the sources, which are
therefore none only if there are no entries. -/
theorem expandWith_merges (glob : String → Except Pattern.Error (List Path)) (isFile : Path → Bool) :
    (∀ ps qs : List String, expandWith glob isFile (ps ++ qs) =
      (expandWith glob isFile ps).bind fun kept =>
        (expandWith glob isFile qs).map fun more =>
          kept ++ more.filter fun q => !kept.any (·.same q)) ∧
      (∀ entries sources, expandWith glob isFile entries = .ok sources →
        (sources.Pairwise fun p q => p.same q = false) ∧
          (∀ entry ∈ entries, ∃ p, StandsFor glob isFile entry p ∧
            ∃ source ∈ sources, source.same p = true) ∧
          (sources = [] ↔ entries = [])) ∧
      (∀ entry sources, expandWith glob isFile [entry] = .ok sources →
        sources.Pairwise fun p q => p.compare q = .lt) ∧
      ∀ glob', (∀ entry, Reordered (glob entry) (glob' entry)) → ∀ entries,
        (expandWith glob isFile entries).map (List.map Path.parts) =
          (expandWith glob' isFile entries).map (List.map Path.parts) := by
  refine ⟨expandWith_append glob isFile, fun entries sources h => ?_,
    fun entry sources h => pairwise_lt_expandWith h, fun glob' h => map_parts_expandWith h isFile⟩
  refine ⟨pairwise_expandWith h, fun entry hentry => ?_, eq_nil_iff_of_expandWith h⟩
  obtain ⟨p, hp⟩ := exists_standsFor glob isFile entry
  exact ⟨p, hp, exists_same_of_standsFor h hentry hp⟩

/-- A star finds a directory among two spellings of one file and another file. -/
def scattered (entry : String) : Except Pattern.Error (List Path) :=
  if entry = "*" then .ok [⟨"b//c"⟩, ⟨"d"⟩, ⟨"a"⟩, ⟨"b/c"⟩] else .error ⟨0, .openClass⟩

/-- The same in another order. -/
def listed (entry : String) : Except Pattern.Error (List Path) :=
  if entry = "*" then .ok [⟨"a"⟩, ⟨"b/c"⟩, ⟨"b//c"⟩, ⟨"d"⟩] else .error ⟨0, .openClass⟩

def isNotD (p : Path) : Bool := p.spelling ≠ "d"

/-- One file is an entry too, in a third spelling, which is the one that stays. -/
theorem expandWith_merges_respelled :
    expandWith scattered isNotD (["b/./c"] ++ ["*"]) = .ok [⟨"b/./c"⟩, ⟨"a"⟩] ∧
      expandWith scattered isNotD (["*"] ++ ["["]) = .error (.pattern "[" ⟨0, .openClass⟩) ∧
      (∃ p, StandsFor scattered isNotD "*" p ∧
        ∃ source ∈ [(⟨"b/./c"⟩ : Path), ⟨"a"⟩], source.same p = true) ∧
      ([(⟨"a"⟩ : Path), ⟨"b//c"⟩].Pairwise fun p q => p.compare q = .lt) ∧
      (∀ entry, Reordered (scattered entry) (listed entry)) ∧
      (expandWith listed isNotD ["*"]).map (List.map Path.parts) =
        .ok [[.name "a"], [.name "b", .name "c"]] := by
  have hplain : expandWith scattered isNotD ["b/./c"] = .ok [⟨"b/./c"⟩] := rfl
  have hsort : [(⟨"b//c"⟩ : Path), ⟨"a"⟩, ⟨"b/c"⟩].mergeSort Path.le = [⟨"a"⟩, ⟨"b//c"⟩, ⟨"b/c"⟩] := by
    have hlater : Path.le ⟨"b//c"⟩ ⟨"a"⟩ = false := by decide +kernel
    have hsame : Path.le ⟨"b//c"⟩ ⟨"b/c"⟩ = true := by decide +kernel
    have hfirst : Path.le ⟨"a"⟩ ⟨"b/c"⟩ = true := by decide +kernel
    simp [List.mergeSort, hlater, hsame, hfirst]
  have hfiles : filesOf scattered isNotD "*" = [⟨"b//c"⟩, ⟨"a"⟩, ⟨"b/c"⟩] := by decide
  have hentry : expandOne scattered isNotD "*" = .ok [⟨"a"⟩, ⟨"b//c"⟩, ⟨"b/c"⟩] := by
    refine expandOne_eq_ok_iff.2 ⟨fun _ => ⟨_, rfl⟩, ?_⟩
    rw [hfiles, hsort]
    rfl
  have hstar : expandWith scattered isNotD ["*"] = .ok [⟨"a"⟩, ⟨"b//c"⟩] := by
    rw [expandWith_eq, List.mapM_cons, hentry]
    exact eq_ok_of_toOption (by decide +kernel)
  have hboth : expandWith scattered isNotD (["b/./c"] ++ ["*"]) = .ok [⟨"b/./c"⟩, ⟨"a"⟩] := by
    rw [(expandWith_merges scattered isNotD).1, hplain, hstar]
    exact eq_ok_of_toOption (by decide +kernel)
  have hreordered : ∀ entry, Reordered (scattered entry) (listed entry) := by
    intro entry
    unfold scattered listed
    split
    · exact .ok (by decide)
    · exact .error _
  obtain ⟨hmerge, hsources, hone, horder⟩ := expandWith_merges scattered isNotD
  refine ⟨hboth, ?_, (hsources _ _ hboth).2.1 "*" (by decide), hone "*" _ hstar, hreordered, ?_⟩
  · rw [hmerge, hstar]
    rfl
  · rw [← horder listed hreordered, hstar]
    exact eq_ok_of_toOption (by decide +kernel)

end Sources
end ScriptBundle
