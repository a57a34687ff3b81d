import ScriptBundle.Proofs.Block.Marked
import ScriptBundle.Strip

/-!
# Thinned texts

A thinned text is what is left when stretches of a text are replaced by spaces. The relation says of
each character that stays and of each stretch that goes what holds of it together with all that
follows in the text, so word boundaries of the whole text can be spoken of. A stretch begins with a
brace and leaves a space, and neither belongs to a word; therefore a marker without spaces stands in
the thinned text only where it stood before (`Thinned.marked`), and thinning twice is thinning
(`Thinned.trans`). One removal thins a text, and so does stripping.
-/

namespace ScriptBundle

inductive Thinned (Kept : List Char → Prop) (Removed : List Char → List Char → Prop) :
    List Char → List Char → Prop where
  | nil : Thinned Kept Removed [] []
  | keep {c : Char} {text result : List Char} : Kept (c :: text) →
      Thinned Kept Removed text result → Thinned Kept Removed (c :: text) (c :: result)
  | drop {block text result : List Char} : Removed block text →
      Thinned Kept Removed text result → Thinned Kept Removed (block ++ text) (' ' :: result)

/-- A block of the form, and what follows it. -/
def Form.Takes (form : Form) (label block rest : List Char) : Prop :=
  ∃ inside, Marked label (block ++ rest) inside rest ∧ form.Admits inside

/-- A stretch that one of the labels marks, and what follows it. -/
def MarkedBy (labels : List (List Char)) (block rest : List Char) : Prop :=
  ∃ label ∈ labels, ∃ inside, Marked label (block ++ rest) inside rest

variable {labels : List (List Char)} {label : List Char}

theorem Marked.startsInWord {text inside rest : List Char} (h : Marked label text inside rest) :
    Marker.startsInWord text = false := by
  rw [h.split]
  rfl

theorem Form.Takes.startsInWord {form : Form} {block rest : List Char}
    (h : form.Takes label block rest) : Marker.startsInWord (block ++ rest) = false := by
  obtain ⟨_, hm, _⟩ := h
  exact hm.startsInWord

theorem MarkedBy.startsInWord {block rest : List Char} (h : MarkedBy labels block rest) :
    Marker.startsInWord (block ++ rest) = false := by
  obtain ⟨_, _, _, hm⟩ := h
  exact hm.startsInWord

namespace Thinned

variable {Kept Kept' : List Char → Prop} {Removed Removed' : List Char → List Char → Prop}
variable {text result : List Char}

theorem mono (h : Thinned Kept Removed text result) (hk : ∀ t, Kept t → Kept' t)
    (hr : ∀ b t, Removed b t → Removed' b t) : Thinned Kept' Removed' text result := by
  induction h with
  | nil => exact .nil
  | keep hc _ ih => exact .keep (hk _ hc) ih
  | drop hb _ ih => exact .drop (hr _ _ hb) ih

/-- Nothing new but spaces. -/
theorem mem_or_eq {c : Char} (h : Thinned Kept Removed text result) (hc : c ∈ result) :
    c ∈ text ∨ c = ' ' := by
  induction h with
  | nil => exact .inl hc
  | keep _ _ ih =>
    rcases List.mem_cons.1 hc with rfl | hc
    · exact .inl List.mem_cons_self
    · exact (ih hc).imp_left (List.mem_cons_of_mem _)
  | drop _ _ ih =>
    rcases List.mem_cons.1 hc with rfl | hc
    · exact .inr rfl
    · exact (ih hc).imp_left (List.mem_append_right _)

/-- If no stretch that goes has a character in it, its number stays. -/
theorem count_eq {c : Char} (h : Thinned Kept Removed text result) (hc : c ≠ ' ')
    (hr : ∀ b t, Removed b t → c ∉ b) : text.count c = result.count c := by
  induction h with
  | nil => rfl
  | keep _ _ ih => rw [List.count_cons, List.count_cons, ih]
  | drop hb _ ih =>
    rw [List.count_append, List.count_eq_zero_of_not_mem (hr _ _ hb),
      List.count_cons_of_ne (Ne.symm hc), ih, Nat.zero_add]

theorem startsInWord_eq (h : Thinned Kept Removed text result)
    (hr : ∀ b t, Removed b t → Marker.startsInWord (b ++ t) = false) :
    Marker.startsInWord result = Marker.startsInWord text := by
  cases h with
  | nil => rfl
  | keep => rfl
  | drop hb =>
    rw [hr _ _ hb]
    rfl

/-- What is behind a place in the result comes from what is behind some place in the text. -/
theorem split {a b : List Char} (h : Thinned Kept Removed text (a ++ b)) :
    ∃ before after, text = before ++ after ∧ Thinned Kept Removed after b := by
  induction a generalizing text with
  | nil => exact ⟨[], text, rfl, h⟩
  | cons c a ih =>
    cases h with
    | keep _ h =>
      obtain ⟨before, after, rfl, ha⟩ := ih h
      exact ⟨c :: before, after, rfl, ha⟩
    | @drop block _ _ _ h =>
      obtain ⟨before, after, rfl, ha⟩ := ih h
      exact ⟨block ++ before, after, by simp, ha⟩

/-- Characters that are no spaces were there before. -/
theorem split_kept {a b : List Char} (hs : ' ' ∉ a) (h : Thinned Kept Removed text (a ++ b)) :
    ∃ after, text = a ++ after ∧ Thinned Kept Removed after b := by
  induction a generalizing text with
  | nil => exact ⟨text, rfl, h⟩
  | cons c a ih =>
    rw [List.mem_cons, not_or] at hs
    cases h with
    | keep _ h =>
      obtain ⟨after, rfl, ha⟩ := ih hs.2 h
      exact ⟨after, rfl, ha⟩
    | drop => exact absurd rfl hs.1

theorem kept {c : Char} (hc : c ≠ ' ') (h : Thinned Kept Removed text (c :: result)) :
    Kept text := by
  cases h with
  | keep hk => exact hk
  | drop => exact absurd rfl hc

/-- A stretch that is marked in the result comes from one that was marked in the text. -/
theorem marked {inside rest : List Char} (hl : ' ' ∉ label)
    (hr : ∀ b t, Removed b t → Marker.startsInWord (b ++ t) = false)
    (h : Thinned Kept Removed text result) (hm : Marked label result inside rest) :
    ∃ inside' rest', Marked label text inside' rest' ∧ Thinned Kept Removed rest' rest ∧
      Kept text := by
  obtain ⟨rfl, ho, hc⟩ := hm
  have hopener : ' ' ∉ opener label := by simp [opener, hl]
  have hcloser : ' ' ∉ closer label := by simp [closer, hl]
  have hkept : Kept text := kept (by decide : '{' ≠ ' ') h
  simp only [List.append_assoc] at h ho
  obtain ⟨body, rfl, hbody⟩ := split_kept hopener h
  obtain ⟨inside', tail, rfl, htail⟩ := split hbody
  obtain ⟨rest', rfl, hrest⟩ := split_kept hcloser htail
  refine ⟨inside', rest', ⟨by simp, ?_, ?_⟩, hrest, hkept⟩
  · rw [Marker.isBoundary, List.append_assoc, ← startsInWord_eq hbody hr]
    exact ho
  · rw [Marker.isBoundary, ← startsInWord_eq hrest hr]
    exact hc

/-- What is thinned twice for the same labels is thinned, because a stretch that goes the second
time was a marked stretch before the first, longer by what the first time took from it. -/
theorem trans {middle : List Char}
    (hl : ∀ label ∈ labels, ' ' ∉ label) (h : Thinned Kept (MarkedBy labels) text middle)
    (h' : Thinned Kept' (MarkedBy labels) middle result) :
    Thinned (fun _ => True) (MarkedBy labels) text result := by
  induction h' generalizing text with
  | nil =>
    cases h
    exact .nil
  | keep _ _ ih =>
    cases h with
    | keep _ h => exact .keep trivial (ih h)
    | drop hb h => exact .drop hb (ih h)
  | drop hb _ ih =>
    obtain ⟨label, hlabel, inside, hm⟩ := hb
    obtain ⟨inside', rest', hm', hrest, -⟩ :=
      marked (hl label hlabel) (fun _ _ hb => hb.startsInWord) h hm
    rw [hm'.split]
    exact .drop ⟨label, hlabel, inside', hm'.split ▸ hm'⟩ (ih hrest)

end Thinned

/-- Removing thins: what stays starts no block, and what goes is a block of the form. -/
theorem Form.thinned_remove (form : Form) (label text : List Char) :
    Thinned (fun t => form.afterBlock? label t = none) (form.Takes label) text
      (form.remove label text) := by
  fun_induction remove form label text with
  | case1 => exact .nil
  | case2 c text rest h ih =>
    obtain ⟨inside, hm, ha⟩ := marked_of_afterBlock? h
    rw [hm.split]
    exact .drop ⟨inside, hm.split ▸ hm, ha⟩ ih
  | case3 c text h ih => exact .keep h ih

theorem Form.thinned_remove_of_mem (form : Form) (h : label ∈ labels) (text : List Char) :
    Thinned (fun _ => True) (MarkedBy labels) text (form.remove label text) :=
  (form.thinned_remove label text).mono (fun _ _ => trivial)
    fun _ _ ⟨inside, hm, _⟩ => ⟨label, h, inside, hm⟩

theorem thinned_stripLabel (hl : ∀ label ∈ labels, ' ' ∉ label) (h : label ∈ labels)
    (text : List Char) :
    Thinned (fun _ => True) (MarkedBy labels) text (stripLabel label text) :=
  .trans hl (Form.singleLine.thinned_remove_of_mem h text)
    (Form.multiLine.thinned_remove_of_mem h _)

/-- Passes bring in nothing but spaces, whatever their labels hold. -/
theorem mem_or_eq_of_mem_stripLabels {c : Char} {text : List Char}
    (h : c ∈ stripLabels labels text) : c ∈ text ∨ c = ' ' := by
  induction labels generalizing text with
  | nil => exact .inl h
  | cons label labels ih =>
    rcases ih h with hpass | hspace
    · rcases (Form.multiLine.thinned_remove label _).mem_or_eq hpass with hfirst | hspace
      · exact (Form.singleLine.thinned_remove label text).mem_or_eq hfirst
      · exact .inr hspace
    · exact .inr hspace

theorem thinned_refl (text : List Char) :
    Thinned (fun _ => True) (MarkedBy labels) text text := by
  induction text with
  | nil => exact .nil
  | cons c text ih => exact .keep trivial ih

/-- Any number of passes thins a text once. -/
theorem thinned_stripLabels (hl : ∀ label ∈ labels, ' ' ∉ label) (text : List Char) :
    Thinned (fun _ => True) (MarkedBy labels) text (stripLabels labels text) := by
  suffices h : ∀ some : List (List Char), (∀ label ∈ some, label ∈ labels) → ∀ text,
      Thinned (fun _ => True) (MarkedBy labels) text (stripLabels some text) from
    h labels (fun _ hm => hm) text
  intro some
  induction some with
  | nil => exact fun _ text => thinned_refl text
  | cons label some ih =>
    intro hsome text
    rw [stripLabels_cons]
    exact .trans hl (thinned_stripLabel hl (hsome label List.mem_cons_self) text)
      (ih (fun l hm => hsome l (List.mem_cons_of_mem label hm)) _)

end ScriptBundle
