/-!
# Reading spans from left to right

A span is a start and an end in a text. Given which pairs are spans at all, a scan takes them from
left to right: the next one is the first that starts at or after the end of the last, and of those
that start there the shortest. This determines the scan (`Scan.unique`).
-/

namespace ScriptBundle

inductive Scan (IsSpan : Nat → Nat → Prop) : Nat → List (Nat × Nat) → Prop where
  | done {start : Nat} : (∀ i j, start ≤ i → ¬IsSpan i j) → Scan IsSpan start []
  | next {start i j : Nat} {spans : List (Nat × Nat)} : start ≤ i → IsSpan i j →
      (∀ i' j', start ≤ i' → i' < i → ¬IsSpan i' j') → (∀ j', IsSpan i j' → j ≤ j') →
      Scan IsSpan j spans → Scan IsSpan start ((i, j) :: spans)

namespace Scan

variable {IsSpan : Nat → Nat → Prop} {start : Nat} {spans : List (Nat × Nat)}

/-- There is at most one way to read. -/
theorem unique {other : List (Nat × Nat)} (h : Scan IsSpan start spans)
    (h' : Scan IsSpan start other) : spans = other := by
  induction h generalizing other with
  | done hn =>
    cases h' with
    | done => rfl
    | next hs ha _ _ _ => exact absurd ha (hn _ _ hs)
  | @next start i j spans hs ha hfirst hshort _ ih =>
    cases h' with
    | done hn => exact absurd ha (hn _ _ hs)
    | @next _ i' j' _ hs' ha' hfirst' hshort' h' =>
      have hi : i = i' := by
        rcases Nat.lt_trichotomy i i' with hlt | heq | hlt
        · exact absurd ha (hfirst' _ _ hs hlt)
        · exact heq
        · exact absurd ha' (hfirst _ _ hs' hlt)
      subst hi
      have hj : j = j' := Nat.le_antisymm (hshort _ ha') (hshort' _ ha)
      subst hj
      rw [ih h']

/-- A start that has no span can be passed over. -/
theorem of_succ (hn : ∀ j, ¬IsSpan start j) (h : Scan IsSpan (start + 1) spans) :
    Scan IsSpan start spans := by
  have hlt : ∀ {i j}, IsSpan i j → start ≤ i → start + 1 ≤ i := by
    intro i j ha hs
    have hne : start ≠ i := fun e => hn j (e ▸ ha)
    omega
  cases h with
  | done hd => exact .done fun i j hs ha => hd i j (hlt ha hs) ha
  | next hs ha hfirst hshort h =>
    exact .next (by omega) ha (fun i' j' hs' hi ha' => hfirst i' j' (hlt ha' hs') hi ha') hshort h

end Scan

/-- Puts a space for each span into the text from a position on. -/
def replaceSpans (text : List Char) (start : Nat) : List (Nat × Nat) → List Char
  | [] => text.drop start
  | (i, j) :: spans => text.extract start i ++ ' ' :: replaceSpans text j spans

/-- What is passed over is copied. -/
theorem replaceSpans_succ {IsSpan : Nat → Nat → Prop} {text : List Char} {start : Nat}
    {spans : List (Nat × Nat)} (hlt : start < text.length)
    (h : Scan IsSpan (start + 1) spans) :
    replaceSpans text start spans = text[start] :: replaceSpans text (start + 1) spans := by
  cases h with
  | done => exact List.drop_eq_getElem_cons hlt
  | @next _ i j spans hs =>
    have hi : i - start = (i - (start + 1)) + 1 := by omega
    rw [replaceSpans, replaceSpans, List.extract_eq_take_drop, List.drop_eq_getElem_cons hlt, hi,
      List.take_succ_cons, List.cons_append]

end ScriptBundle
