import ScriptBundle.Proofs.Text.Scan
import ScriptBundle.Regex.Match

/-!
# Searching by preference

A search expression is tried at a position in all ways it allows, in an order of preference: a lazy
repetition prefers less, a greedy one more, and an earlier choice counts before a later one. The
first end found is the end of the match. A search takes the leftmost position at which there is any
match, and replacing all matches goes on behind each of them.
-/

namespace ScriptBundle

inductive Search where
  /-- These characters. -/
  | literal (cs : List Char)
  /-- No characters, but a demand on the place. -/
  | look (l : Regex.Look)
  /-- Any number of characters from a set. -/
  | many (set : CharSet) (isLazy : Bool)
  | seq (a b : Search)
  deriving DecidableEq, Repr

namespace Search

/-- How many characters from the set follow a position. -/
def room (text : List Char) (set : CharSet) (i : Nat) : Nat :=
  ((text.drop i).takeWhile set.has).length

/-- The ends of all matches from a position, the preferred one first. -/
def ends (text : List Char) : Search → Nat → List Nat
  | literal cs, i => if cs.isPrefixOf (text.drop i) then [i + cs.length] else []
  | look l, i => if l.holds text.toArray i then [i] else []
  | many set isLazy, i =>
    let stops := List.range' i (room text set i + 1)
    if isLazy then stops else stops.reverse
  | seq a b, i => (a.ends text i).flatMap (b.ends text)

/-- Where the leftmost match at or after a position starts, and where it ends. -/
def first? (p : Search) (text : List Char) (start : Nat) : Option (Nat × Nat) :=
  (List.range' start (text.length + 1 - start)).findSome? fun i =>
    (p.ends text i).head?.map fun j => (i, j)

theorem first?_eq_some {p : Search} {text : List Char} {start i j : Nat}
    (h : p.first? text start = some (i, j)) :
    start ≤ i ∧ i ≤ text.length ∧ (p.ends text i).head? = some j ∧
      ∀ i', start ≤ i' → i' < i → p.ends text i' = [] := by
  obtain ⟨before, k, after, hr, hk, hn⟩ := List.findSome?_eq_some_iff.1 h
  obtain ⟨j', hj, he⟩ := Option.map_eq_some_iff.1 hk
  cases he
  obtain ⟨n, hle, rfl, hc⟩ := List.range'_eq_append_iff.1 hr
  obtain ⟨hi, hpos, _⟩ := List.range'_eq_cons_iff.1 hc.symm
  refine ⟨by omega, by omega, hj, ?_⟩
  intro i' hs hlt
  have hm : i' ∈ List.range' start n := List.mem_range'_1.2 ⟨hs, by omega⟩
  simpa using hn i' hm

theorem first?_eq_none {p : Search} {text : List Char} {start : Nat}
    (h : p.first? text start = none) (i : Nat) (hs : start ≤ i) (hi : i ≤ text.length) :
    p.ends text i = [] := by
  have hm : i ∈ List.range' start (text.length + 1 - start) := List.mem_range'_1.2 ⟨hs, by omega⟩
  simpa using List.findSome?_eq_none_iff.1 h i hm

/-- The matches at or after a position. After a match of nothing the search goes on one place
later. -/
def spans (p : Search) (text : List Char) (start : Nat) : List (Nat × Nat) :=
  match _h : p.first? text start with
  | none => []
  | some (i, j) => (i, j) :: p.spans text (max j (i + 1))
termination_by text.length + 1 - start
decreasing_by
  have hf := first?_eq_some ‹_›
  omega

/-- Puts a space for every match. -/
def replaceAll (p : Search) (text : List Char) : List Char :=
  replaceSpans text 0 (p.spans text 0)

/-- If the ends come in order and no match is empty, the matches are a scan. -/
theorem scan_spans {p : Search} {text : List Char} {IsSpan : Nat → Nat → Prop}
    (hmem : ∀ i j, j ∈ p.ends text i ↔ IsSpan i j)
    (hsorted : ∀ i, (p.ends text i).Pairwise (· < ·))
    (hspan : ∀ i j, IsSpan i j → i < j ∧ i ≤ text.length) (start : Nat) :
    Scan IsSpan start (p.spans text start) := by
  have hnil : ∀ {i}, p.ends text i = [] → ∀ j, ¬IsSpan i j := by
    intro i he j ha
    simpa [he] using (hmem i j).2 ha
  fun_induction spans p text start with
  | case1 start hn =>
    refine .done fun i j hs ha => ?_
    exact hnil (first?_eq_none hn i hs (hspan i j ha).2) j ha
  | case2 start i j hf ih =>
    obtain ⟨hs, _, hj, hfirst⟩ := first?_eq_some hf
    obtain ⟨rest, he⟩ : ∃ rest, p.ends text i = j :: rest := by
      cases hp : p.ends text i with
      | nil => simp [hp] at hj
      | cons k rest =>
        simp only [hp, List.head?_cons, Option.some.injEq] at hj
        exact ⟨rest, by rw [hj]⟩
    have ha : IsSpan i j := (hmem i j).1 (by simp [he])
    have hmax : max j (i + 1) = j := by
      have hlt := (hspan i j ha).1
      omega
    rw [hmax] at ih ⊢
    refine .next hs ha (fun i' j' hs' hi => hnil (hfirst i' hs' hi) j') ?_ ih
    intro j' ha'
    have hj' := (hmem i j').2 ha'
    have hp := hsorted i
    rw [he] at hj' hp
    rcases List.mem_cons.1 hj' with rfl | hj'
    · exact Nat.le_refl _
    · exact Nat.le_of_lt ((List.pairwise_cons.1 hp).1 j' hj')

end Search
end ScriptBundle
