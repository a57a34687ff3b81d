import ScriptBundle.Proofs.Sources.Repeats

/-!
# Expanding entries

A source list can be made just when its patterns can be read (`exists_expand_iff`). Of each pattern it
takes the regular files that the pattern finds, in the order of their paths, which is a total one. So two
trees make the same list if the patterns find the same files in them, up to repeats
(`expand_eq_of_sameFirsts`).
-/

namespace ScriptBundle

namespace Path

open Std (TransCmp OrientedCmp)

variable {p q : Path}

/-- The name of a part that has one. -/
def Part.text : Part → String
  | .name text => text
  | .root | .here | .up => ""

theorem Part.compare_eq :
    Part.compare = compareLex (compareOn Part.rank) (compareOn Part.text) := by
  funext a b
  cases a <;> cases b <;> rfl

instance : TransCmp Part.compare := by
  rw [Part.compare_eq]
  infer_instance

instance : TransCmp Path.compare :=
  have parts : TransCmp (List.compareLex Part.compare) := inferInstance
  { eq_swap := parts.eq_swap
    isLE_trans := parts.isLE_trans }

theorem le_iff : p.le q = true ↔ (p.compare q).isLE = true := by
  unfold le
  cases p.compare q <;> decide

theorem le_trans (p q r : Path) (hpq : p.le q = true) (hqr : q.le r = true) : p.le r = true :=
  le_iff.2 (TransCmp.isLE_trans (le_iff.1 hpq) (le_iff.1 hqr))

theorem le_total (p q : Path) : (p.le q || q.le p) = true := by
  have hswap : q.compare p = (p.compare q).swap := OrientedCmp.eq_swap
  unfold le
  rw [hswap]
  cases p.compare q <;> decide

end Path

namespace Sources

variable {t t' : FileTree} {entry : String} {entries : List String} {sources : List Path}

theorem mapM_cons_eq_ok_iff {α β ε : Type} {f : α → Except ε β} {x : α} {xs : List α} {ys : List β} :
    (x :: xs).mapM f = .ok ys ↔ ∃ y rest, f x = .ok y ∧ xs.mapM f = .ok rest ∧ ys = y :: rest := by
  rw [List.mapM_cons]
  cases f x with
  | error e => simp [bind, Except.bind]
  | ok y => cases xs.mapM f <;> simp [bind, Except.bind, pure, Except.pure, eq_comm]

theorem exists_mapM_iff {α β ε : Type} {f : α → Except ε β} {xs : List α} :
    (∃ ys, xs.mapM f = .ok ys) ↔ ∀ x ∈ xs, ∃ y, f x = .ok y := by
  induction xs with
  | nil => simp [pure, Except.pure]
  | cons x xs ih =>
    rw [List.forall_mem_cons, ← ih]
    constructor
    · rintro ⟨ys, h⟩
      obtain ⟨y, rest, hy, hrest, -⟩ := mapM_cons_eq_ok_iff.1 h
      exact ⟨⟨y, hy⟩, rest, hrest⟩
    · rintro ⟨⟨y, hy⟩, rest, hrest⟩
      exact ⟨_, mapM_cons_eq_ok_iff.2 ⟨y, rest, hy, hrest, rfl⟩⟩

theorem mapM_cons_eq_error_iff {α β ε : Type} {f : α → Except ε β} {x : α} {xs : List α} {e : ε} :
    (x :: xs).mapM f = .error e ↔
      f x = .error e ∨ (∃ y, f x = .ok y) ∧ xs.mapM f = .error e := by
  rw [List.mapM_cons]
  cases f x with
  | error cause => simp [bind, Except.bind]
  | ok y => cases xs.mapM f <;> simp [bind, Except.bind, pure, Except.pure]

/-- A pass fails as the first step that fails. -/
theorem mapM_eq_error_iff {α β ε : Type} {f : α → Except ε β} {xs : List α} {e : ε} :
    xs.mapM f = .error e ↔ ∃ before x after, xs = before ++ x :: after ∧
      (∀ y ∈ before, ∃ z, f y = .ok z) ∧ f x = .error e := by
  induction xs with
  | nil => simp [pure, Except.pure]
  | cons first rest ih =>
    rw [mapM_cons_eq_error_iff, ih]
    constructor
    · rintro (hfirst | ⟨hfirst, before, x, after, rfl, hbefore, hx⟩)
      · exact ⟨[], first, rest, rfl, nofun, hfirst⟩
      · exact ⟨first :: before, x, after, rfl, List.forall_mem_cons.2 ⟨hfirst, hbefore⟩, hx⟩
    · rintro ⟨before, x, after, hsplit, hbefore, hx⟩
      rcases List.cons_eq_append_iff.1 hsplit with ⟨rfl, hsplit⟩ | ⟨more, rfl, rfl⟩
      · cases hsplit
        exact .inl hx
      · have hbefore := List.forall_mem_cons.1 hbefore
        exact .inr ⟨hbefore.1, more, x, after, rfl, hbefore.2, hx⟩

theorem exists_mem_of_mapM {α β ε : Type} {f : α → Except ε β} {xs : List α} {ys : List β}
    (h : xs.mapM f = .ok ys) {x : α} (hx : x ∈ xs) : ∃ y ∈ ys, f x = .ok y := by
  induction xs generalizing ys with
  | nil => exact nomatch hx
  | cons first rest ih =>
    obtain ⟨y, more, hfirst, hrest, rfl⟩ := mapM_cons_eq_ok_iff.1 h
    rcases List.mem_cons.1 hx with rfl | hx
    · exact ⟨y, List.mem_cons_self, hfirst⟩
    · obtain ⟨z, hz, hfz⟩ := ih hrest hx
      exact ⟨z, List.mem_cons_of_mem _ hz, hfz⟩

/-- Whether all patterns among the entries can be read. -/
def Readable (entries : List String) : Prop :=
  ∀ entry ∈ entries, Pattern.hasWildcard entry = true → ∃ q, Pattern.parse entry.toList = .ok q

theorem exists_expandOne_iff {t : FileTree} {entry : String} :
    (∃ paths, expandOne (glob t) t.isFile entry = .ok paths) ↔
      (Pattern.hasWildcard entry = true → ∃ q, Pattern.parse entry.toList = .ok q) := by
  unfold expandOne glob
  cases Pattern.hasWildcard entry with
  | false => exact ⟨fun _ => nofun, fun _ => ⟨_, rfl⟩⟩
  | true =>
    cases Pattern.parse entry.toList with
    | error cause => simp [bind, Except.bind, throw, throwThe, MonadExceptOf.throw]
    | ok q => exact ⟨fun _ _ => ⟨q, rfl⟩, fun _ => ⟨_, rfl⟩⟩

/-- A source list can be made just when all its patterns can be read. -/
theorem exists_expand_iff {t : FileTree} {entries : List String} :
    (∃ sources, expand t entries = .ok sources) ↔ Readable entries := by
  unfold Readable
  simp only [← exists_expandOne_iff (t := t)]
  rw [← exists_mapM_iff]
  unfold expand expandWith
  cases entries.mapM (expandOne (glob t) t.isFile) <;>
    simp [bind, Except.bind, pure, Except.pure]

/-- The regular files that a pattern finds, as they are found. -/
def found (q : Pattern) (t : FileTree) : List Path := (q.paths t).filter t.isFile

theorem expandOne_of_parse {q : Pattern} (hw : Pattern.hasWildcard entry = true)
    (hq : Pattern.parse entry.toList = .ok q) : expandOne (glob t) t.isFile entry =
      .ok (if (found q t).mergeSort Path.le = [] then [⟨entry⟩]
        else (found q t).mergeSort Path.le) := by
  unfold expandOne glob
  rw [if_pos hw, hq]
  rfl

/-- Whether each pattern finds the same files in both trees, up to repeats. -/
def FindSame (t t' : FileTree) (entries : List String) : Prop :=
  ∀ entry ∈ entries, Pattern.hasWildcard entry = true →
    ∀ q, Pattern.parse entry.toList = .ok q → SameFirsts (found q t) (found q t')

theorem exists_expandOne_sameFirsts {paths : List Path} (h : FindSame t t' [entry])
    (hone : expandOne (glob t) t.isFile entry = .ok paths) :
    ∃ paths', expandOne (glob t') t'.isFile entry = .ok paths' ∧ SameFirsts paths paths' := by
  cases hw : Pattern.hasWildcard entry with
  | false =>
    unfold expandOne at hone ⊢
    rw [hw] at hone ⊢
    exact ⟨paths, hone, .refl _⟩
  | true =>
    obtain ⟨q, hq⟩ := exists_expandOne_iff.1 ⟨paths, hone⟩ hw
    have hsort := (h entry List.mem_cons_self hw q hq).mergeSort Path.le_trans Path.le_total
    rw [expandOne_of_parse hw hq] at hone ⊢
    refine ⟨_, rfl, ?_⟩
    cases hone
    have hnil : (found q t').mergeSort Path.le = [] ↔ (found q t).mergeSort Path.le = [] := by
      rw [List.eq_nil_iff_forall_not_mem, List.eq_nil_iff_forall_not_mem]
      exact forall_congr' fun p => not_congr hsort.mem_iff
    by_cases hempty : (found q t).mergeSort Path.le = []
    · rw [if_pos hempty, if_pos (hnil.2 hempty)]
      exact .refl _
    · rw [if_neg hempty, if_neg (mt hnil.1 hempty)]
      exact hsort

theorem exists_mapM_sameFirsts {lists : List (List Path)} (h : FindSame t t' entries)
    (hall : entries.mapM (expandOne (glob t) t.isFile) = .ok lists) :
    ∃ lists', entries.mapM (expandOne (glob t') t'.isFile) = .ok lists' ∧
      SameFirsts lists.flatten lists'.flatten := by
  induction entries generalizing lists with
  | nil =>
    cases hall
    exact ⟨[], rfl, .refl _⟩
  | cons entry entries ih =>
    obtain ⟨paths, rest, hone, hrest, rfl⟩ := mapM_cons_eq_ok_iff.1 hall
    obtain ⟨paths', hone', hpaths⟩ := exists_expandOne_sameFirsts
      (fun other ho => h other (List.mem_cons.2 (.inl (List.mem_singleton.1 ho)))) hone
    obtain ⟨rest', hrest', hflat⟩ :=
      ih (fun other ho => h other (List.mem_cons_of_mem _ ho)) hrest
    refine ⟨paths' :: rest', mapM_cons_eq_ok_iff.2 ⟨paths', rest', hone', hrest', rfl⟩, ?_⟩
    rw [List.flatten_cons, List.flatten_cons]
    exact hpaths.append hflat

/-- Where the patterns find the same files, the entries make the same source list. -/
theorem expand_eq_of_sameFirsts (h : FindSame t t' entries)
    (hexpand : expand t entries = .ok sources) : expand t' entries = .ok sources := by
  unfold expand expandWith at hexpand ⊢
  cases hall : entries.mapM (expandOne (glob t) t.isFile) with
  | error e =>
    rw [hall] at hexpand
    cases hexpand
  | ok lists =>
    obtain ⟨lists', hall', hflat⟩ := exists_mapM_sameFirsts h hall
    rw [hall] at hexpand
    rw [hall']
    cases hexpand
    exact congrArg Except.ok hflat.dropRepeats_eq

end Sources
end ScriptBundle
