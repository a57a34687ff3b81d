import ScriptBundle.Block.Removal
import ScriptBundle.Proofs.Text.Lines

/-!
# Marked stretches

A text starts with a marked stretch if it starts with an opener, goes on with something inside, and
then has a closer of the same label, both markers on the edge of a word. This says nothing about how
a closer is looked for. `afterBlock?` finds a marked stretch of its form (`marked_of_afterBlock?`),
finds one whenever there is one, and the shortest (`exists_afterBlock?_of_marked`).
-/

namespace ScriptBundle

@[simp] theorem opener_ne_nil (label : List Char) : opener label ≠ [] := List.cons_ne_nil _ _

@[simp] theorem closer_ne_nil (label : List Char) : closer label ≠ [] := List.cons_ne_nil _ _

theorem newline_not_mem_opener {label : List Char} (h : '\n' ∉ label) : '\n' ∉ opener label := by
  simp [opener, h]

theorem newline_not_mem_closer {label : List Char} (h : '\n' ∉ label) : '\n' ∉ closer label := by
  simp [closer, h]

namespace Marker

theorem startsInWord_append {a : List Char} (h : a ≠ []) (b : List Char) :
    startsInWord (a ++ b) = startsInWord a := by
  cases a with
  | nil => exact absurd rfl h
  | cons c a => rfl

/-- What is before a marker does not show at its end. -/
theorem isBoundary_append {marker : List Char} (hm : marker ≠ []) (before after : List Char) :
    isBoundary (before ++ marker) after = isBoundary marker after := by
  rw [isBoundary, isBoundary, endsInWord, endsInWord, List.getLast?_append,
    List.getLast?_eq_some_getLast hm, Option.some_or]

/-- The end of a line is like the end of the text: no word goes on there. -/
theorem startsInWord_append_dropLine (a body : List Char) :
    startsInWord (a ++ Lines.dropLine body) = startsInWord a := by
  cases a with
  | cons c a => rfl
  | nil =>
    rcases Lines.dropLine_cases body with hd | ⟨below, hd⟩
    · rw [hd]
      rfl
    · rw [hd]
      exact (by decide : isWord '\n' = false)

theorem after?_eq_some_iff {marker text rest : List Char} :
    after? marker text = some rest ↔ text = marker ++ rest ∧ isBoundary marker rest = true := by
  constructor
  · intro h
    have ht := eq_append_of_after? h
    subst ht
    unfold after? at h
    split at h
    · next hb => exact ⟨rfl, by simpa using hb⟩
    · cases h
  · rintro ⟨rfl, hb⟩
    simp [after?, hb]

theorem cut_of_after? {marker text rest : List Char} (h : after? marker text = some rest) :
    cut marker text = some ([], rest) := by
  cases text <;> simp [cut, h]

theorem cut_cons {marker text : List Char} {c : Char} (h : after? marker (c :: text) = none) :
    cut marker (c :: text) = (cut marker text).map fun (before, rest) => (c :: before, rest) := by
  simp [cut, h]

theorem isBoundary_of_cut {marker text before rest : List Char}
    (h : cut marker text = some (before, rest)) : isBoundary marker rest = true := by
  induction text generalizing before with
  | nil =>
    obtain ⟨r, hr, he⟩ := Option.map_eq_some_iff.1 h
    cases he
    exact (after?_eq_some_iff.1 hr).2
  | cons c text ih =>
    cases ha : after? marker (c :: text) with
    | some r =>
      rw [cut_of_after? ha] at h
      cases h
      exact (after?_eq_some_iff.1 ha).2
    | none =>
      rw [cut_cons ha] at h
      obtain ⟨⟨b, r⟩, hr, he⟩ := Option.map_eq_some_iff.1 h
      cases he
      exact ih hr

/-- Where a marker stands, cutting finds that one or an earlier one. -/
theorem exists_cut {marker rest : List Char} (before : List Char)
    (hb : isBoundary marker rest = true) :
    ∃ b r, cut marker (before ++ (marker ++ rest)) = some (b, r) ∧ rest.length ≤ r.length := by
  induction before with
  | nil => exact ⟨[], rest, cut_of_after? (after?_eq_some_iff.2 ⟨rfl, hb⟩), Nat.le_refl _⟩
  | cons c before ih =>
    obtain ⟨b, r, hc, hl⟩ := ih
    cases ha : after? marker (c :: (before ++ (marker ++ rest))) with
    | some r' =>
      refine ⟨[], r', cut_of_after? ha, ?_⟩
      have he := congrArg List.length (eq_append_of_after? ha)
      simp only [List.length_cons, List.length_append] at he
      omega
    | none => exact ⟨c :: b, r, by simp [cut_cons ha, hc], hl⟩

end Marker

/-- The text starts with a stretch that the label marks, and `rest` follows it. -/
structure Marked (label text inside rest : List Char) : Prop where
  split : text = opener label ++ inside ++ closer label ++ rest
  opens : Marker.isBoundary (opener label) (inside ++ closer label ++ rest) = true
  closes : Marker.isBoundary (closer label) rest = true

namespace Form

/-- What may stand between the two markers of a block: the rest of a line, or more than that. -/
def Admits (form : Form) (inside : List Char) : Prop :=
  match form with
  | .singleLine => '\n' ∉ inside
  | .multiLine => '\n' ∈ inside

theorem closes_of_afterCloser? {form : Form} {label body rest : List Char}
    (h : form.afterCloser? label body = some rest) :
    ∃ inside, body = inside ++ closer label ++ rest ∧ form.Admits inside ∧
      Marker.isBoundary (closer label) rest = true := by
  cases form with
  | singleLine =>
    obtain ⟨⟨before, tail⟩, hc, rfl⟩ := Option.map_eq_some_iff.1 h
    have hline := Marker.eq_append_of_cut hc
    have hb := Lines.takeLine_append_dropLine body
    rw [hline] at hb
    refine ⟨before, by simpa using hb.symm, ?_, ?_⟩
    · intro hn
      exact Lines.not_mem_takeLine body (hline ▸ by simp [hn])
    · rw [Marker.isBoundary, Marker.startsInWord_append_dropLine]
      exact Marker.isBoundary_of_cut hc
  | multiLine =>
    simp only [afterCloser?] at h
    split at h
    · cases h
    · next c below hd =>
      obtain ⟨⟨before, tail⟩, hc, rfl⟩ := Option.map_eq_some_iff.1 h
      have hn : c = '\n' := by
        rcases Lines.dropLine_cases body with he | ⟨_, he⟩ <;> rw [hd] at he <;> cases he
        rfl
      have hb := Lines.takeLine_append_dropLine body
      rw [hd, Marker.eq_append_of_cut hc] at hb
      refine ⟨Lines.takeLine body ++ c :: before, by simpa using hb.symm, ?_,
        Marker.isBoundary_of_cut hc⟩
      simp [Admits, hn]

/-- What is found as a block is marked, and its inside is of the form. -/
theorem marked_of_afterBlock? {form : Form} {label text rest : List Char}
    (h : form.afterBlock? label text = some rest) :
    ∃ inside, Marked label text inside rest ∧ form.Admits inside := by
  obtain ⟨body, ho, hc⟩ := Option.bind_eq_some_iff.1 h
  obtain ⟨inside, rfl, ha, hb⟩ := closes_of_afterCloser? hc
  obtain ⟨rfl, hob⟩ := Marker.after?_eq_some_iff.1 ho
  exact ⟨inside, ⟨by simp, hob, hb⟩, ha⟩

theorem exists_afterCloser? {form : Form} {label inside rest : List Char} (hl : '\n' ∉ label)
    (ha : form.Admits inside) (hb : Marker.isBoundary (closer label) rest = true) :
    ∃ r, form.afterCloser? label (inside ++ (closer label ++ rest)) = some r ∧
      rest.length ≤ r.length := by
  cases form with
  | singleLine =>
    have hn : '\n' ∉ inside ++ closer label := by
      simpa [Admits, newline_not_mem_closer hl] using ha
    have hline := Lines.takeLine_append hn rest
    have hdrop := Lines.dropLine_append hn rest
    rw [List.append_assoc] at hline hdrop
    -- the truncated line ends the closer's word just where the whole text does
    have hbl : Marker.isBoundary (closer label) (Lines.takeLine rest) = true := by
      have hs := Marker.startsInWord_append_dropLine (Lines.takeLine rest) rest
      rw [Lines.takeLine_append_dropLine] at hs
      rw [Marker.isBoundary, ← hs]
      exact hb
    obtain ⟨b, r, hc, hr⟩ := Marker.exists_cut inside hbl
    refine ⟨r ++ Lines.dropLine rest, by simp [afterCloser?, hline, hdrop, hc], ?_⟩
    have hlen := congrArg List.length (Lines.takeLine_append_dropLine rest)
    rw [List.length_append] at hlen ⊢
    omega
  | multiLine =>
    obtain ⟨below, hd⟩ := Lines.exists_dropLine_eq ha
    have hdrop : Lines.dropLine (inside ++ (closer label ++ rest)) =
        '\n' :: (below ++ (closer label ++ rest)) := by
      rw [Lines.dropLine_append_of_mem ha, hd, List.cons_append]
    obtain ⟨b, r, hc, hr⟩ := Marker.exists_cut below hb
    exact ⟨r, by simp only [afterCloser?, hdrop, hc, Option.map_some], hr⟩

/-- Where a stretch of the form is marked, a block is found, and no shorter one is marked. -/
theorem exists_afterBlock?_of_marked {form : Form} {label text inside rest : List Char}
    (hl : '\n' ∉ label) (h : Marked label text inside rest) (ha : form.Admits inside) :
    ∃ r, form.afterBlock? label text = some r ∧ rest.length ≤ r.length := by
  obtain ⟨rfl, ho, hb⟩ := h
  obtain ⟨r, hc, hr⟩ := exists_afterCloser? hl ha hb
  rw [← List.append_assoc] at hc
  refine ⟨r, Option.bind_eq_some_iff.2 ⟨_, Marker.after?_eq_some_iff.2 ⟨?_, ho⟩, hc⟩, hr⟩
  simp only [List.append_assoc]

theorem not_marked_of_afterBlock? {form : Form} {label text inside rest : List Char}
    (hl : '\n' ∉ label) (h : form.afterBlock? label text = none)
    (hm : Marked label text inside rest) : ¬form.Admits inside := by
  intro ha
  obtain ⟨r, hr, _⟩ := exists_afterBlock?_of_marked hl hm ha
  rw [h] at hr
  cases hr

end Form
end ScriptBundle
