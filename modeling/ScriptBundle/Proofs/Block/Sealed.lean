import ScriptBundle.Proofs.Block.Joined
import ScriptBundle.Proofs.Block.Thinned

/-!
# Sealed stretches

What a block is does not depend on the text behind it, except that no word may go on there
(`exists_block_of_afterBlock?`). So a stretch that a pass cuts out goes as well in front of any other
text that does not start in a word: it is sealed. For a block of the first removal that is plain. A
block of the second removal was found in what the first one left; it ends in a closer, and up to a
closer the first removal does the same whatever follows (`remove_append_of_endsClosed`), because an
opener before it either has a closer on its line or its line ends there.

This is about labels that are names. Braces in a label would let markers overlap.
-/

namespace ScriptBundle

/-- A label that is a name. -/
def IsName (label : List Char) : Prop := label ≠ [] ∧ ∀ c ∈ label, isWord c = true

instance (label : List Char) : Decidable (IsName label) :=
  decidable_of_iff (label ≠ [] ∧ label.all isWord = true) (by rw [IsName, List.all_eq_true])

variable {label text rest block : List Char}

namespace IsName

theorem not_mem {c : Char} (hl : IsName label) (hc : isWord c = false) : c ∉ label := by
  intro hm
  rw [hl.2 c hm] at hc
  cases hc

theorem newline_not_mem (hl : IsName label) : '\n' ∉ label := hl.not_mem (by decide)

theorem space_not_mem_opener (hl : IsName label) : ' ' ∉ opener label := by
  simp [opener, hl.not_mem (by decide : isWord ' ' = false)]

theorem space_not_mem_closer (hl : IsName label) : ' ' ∉ closer label := by
  simp [closer, hl.not_mem (by decide : isWord ' ' = false)]

theorem closing_not_mem_opener (hl : IsName label) : '}' ∉ opener label := by
  simp [opener, hl.not_mem (by decide : isWord '}' = false)]

theorem opening_not_mem_closer (hl : IsName label) : '{' ∉ closer label := by
  simp [closer, hl.not_mem (by decide : isWord '{' = false)]

/-- An opener has a brace only at its start. -/
theorem opening_not_mem_tail (hl : IsName label) : '{' ∉ (opener label).tail := by
  simp [opener, hl.not_mem (by decide : isWord '{' = false)]

theorem endsInWord_closer (hl : IsName label) : Marker.endsInWord (closer label) = true := by
  obtain ⟨before, c, rfl⟩ := List.eq_nil_or_concat label |>.resolve_left hl.1
  have hc := hl.2 c (by simp)
  simp [Marker.endsInWord, closer, List.getLast?_cons, hc]

/-- Behind a closer no word goes on. -/
theorem isBoundary_closer (hl : IsName label) (rest : List Char) :
    Marker.isBoundary (closer label) rest = true ↔ Marker.startsInWord rest = false := by
  rw [Marker.isBoundary, hl.endsInWord_closer]
  cases Marker.startsInWord rest <;> decide

end IsName

namespace Marker

variable {marker before rest' : List Char}

theorem after?_opener_of_ne {c : Char} (h : c ≠ '{') (text : List Char) :
    after? (opener label) (c :: text) = none := by
  simp [after?, opener, h.symm]

/-- A marker behind some first characters is one of the whole text. -/
theorem not_at_of_append (hm : marker ≠ []) (h : ∀ i, ¬At marker (before ++ text) i) (i : Nat) :
    ¬At marker text i := by
  induction before with
  | nil => exact h i
  | cons c before ih => exact ih (not_at_of_cons hm h)

/-- A marker that ends before the text does is there whatever follows. -/
theorem after?_append_of_lt (h : marker.length < text.length) (more : List Char) :
    after? marker (text ++ more) = (after? marker text).map (· ++ more) := by
  have hp : marker.isPrefixOf (text ++ more) = marker.isPrefixOf text := by
    rw [Bool.eq_iff_iff, List.isPrefixOf_iff_prefix, List.isPrefixOf_iff_prefix]
    constructor
    · exact fun hm => List.prefix_of_prefix_length_le hm (List.prefix_append text more) (by omega)
    · exact fun hm => hm.trans (List.prefix_append text more)
  have hne : text.drop marker.length ≠ [] := by
    rw [Ne, List.drop_eq_nil_iff]
    omega
  rw [after?, after?, hp, List.drop_append_of_le_length (Nat.le_of_lt h), isBoundary, isBoundary,
    startsInWord_append hne]
  split <;> rfl

/-- The first marker stays the first one if what follows it starts like what followed it. -/
theorem cut_stable (h : cut marker (before ++ (marker ++ rest)) = some (before, rest))
    (hr : startsInWord rest' = startsInWord rest) :
    cut marker (before ++ (marker ++ rest')) = some (before, rest') := by
  induction before with
  | nil =>
    have hb := isBoundary_of_cut h
    rw [isBoundary, ← hr] at hb
    exact cut_of_after? (after?_eq_some_iff.2 ⟨rfl, hb⟩)
  | cons c before ih =>
    have hlt : marker.length < (c :: (before ++ marker)).length := by
      simp only [List.length_cons, List.length_append]
      omega
    have hrest := after?_append_of_lt hlt rest
    have hrest' := after?_append_of_lt hlt rest'
    simp only [List.cons_append, List.append_assoc] at h hrest hrest' ⊢
    cases ha : after? marker (c :: (before ++ marker)) with
    | some r =>
      rw [ha, Option.map_some] at hrest
      rw [cut_of_after? hrest] at h
      cases h
    | none =>
      rw [ha, Option.map_none] at hrest hrest'
      rw [cut_cons hrest] at h
      obtain ⟨⟨b, r⟩, hc, he⟩ := Option.map_eq_some_iff.1 h
      cases he
      rw [cut_cons hrest', ih hc, Option.map_some]

end Marker

namespace Form

variable {form : Form}

theorem exists_inside_of_afterCloser? {body : List Char}
    (h : form.afterCloser? label body = some rest) :
    ∃ inside, body = inside ++ (closer label ++ rest) ∧
      ∀ rest', Marker.startsInWord rest' = Marker.startsInWord rest →
        form.afterCloser? label (inside ++ (closer label ++ rest')) = some rest' := by
  cases form with
  | singleLine =>
    obtain ⟨⟨before, tail⟩, hc, rfl⟩ := Option.map_eq_some_iff.1 h
    have hline := Marker.eq_append_of_cut hc
    have hbody := Lines.takeLine_append_dropLine body
    have hn : '\n' ∉ before ++ closer label := by
      intro hm
      exact Lines.not_mem_takeLine body (hline ▸ List.mem_append_left tail hm)
    refine ⟨before, by simpa [hline] using hbody.symm, ?_⟩
    intro rest' hr
    rw [Marker.startsInWord_append_dropLine] at hr
    have hs := Marker.startsInWord_append_dropLine (Lines.takeLine rest') rest'
    rw [Lines.takeLine_append_dropLine, hr] at hs
    rw [hline, List.append_assoc] at hc
    have htake := Lines.takeLine_append hn rest'
    have hdrop := Lines.dropLine_append hn rest'
    rw [List.append_assoc] at htake hdrop
    rw [List.append_assoc] at htake
    simp [afterCloser?, htake, hdrop, Marker.cut_stable hc hs.symm]
  | multiLine =>
    simp only [afterCloser?] at h
    split at h
    · cases h
    · next c below hd =>
      obtain ⟨⟨before, tail⟩, hc, rfl⟩ := Option.map_eq_some_iff.1 h
      have hn : c = '\n' := by
        rcases Lines.dropLine_cases body with he | ⟨_, he⟩ <;> rw [hd] at he <;> cases he
        rfl
      subst hn
      have hbelow := Marker.eq_append_of_cut hc
      have hbody := Lines.takeLine_append_dropLine body
      rw [hd, hbelow] at hbody
      refine ⟨Lines.takeLine body ++ '\n' :: before, by simpa using hbody.symm, ?_⟩
      intro rest' hr
      have hdrop : Lines.dropLine ((Lines.takeLine body ++ '\n' :: before) ++
          (closer label ++ rest')) = '\n' :: (before ++ (closer label ++ rest')) := by
        rw [List.append_assoc, Lines.dropLine_append (Lines.not_mem_takeLine body)]
        simp
      rw [hbelow, List.append_assoc] at hc
      simp only [afterCloser?, hdrop, Marker.cut_stable hc hr, Option.map_some]

/-- What is found as a block is one in front of every text that starts likewise. -/
theorem exists_block_of_afterBlock? (h : form.afterBlock? label text = some rest) :
    ∃ inside, text = opener label ++ inside ++ closer label ++ rest ∧
      ∀ rest', Marker.startsInWord rest' = Marker.startsInWord rest →
        form.afterBlock? label (opener label ++ inside ++ closer label ++ rest') = some rest' := by
  obtain ⟨body, ho, hc⟩ := Option.bind_eq_some_iff.1 h
  obtain ⟨inside, rfl, hstable⟩ := exists_inside_of_afterCloser? hc
  obtain ⟨rfl, hb⟩ := Marker.after?_eq_some_iff.1 ho
  refine ⟨inside, by simp, ?_⟩
  intro rest' hr
  refine Option.bind_eq_some_iff.2 ⟨_, Marker.after?_eq_some_iff.2 ⟨?_, ?_⟩, hstable rest' hr⟩
  · simp only [List.append_assoc]
  · have hne : inside ++ closer label ≠ [] := by simp
    rw [← List.append_assoc, Marker.isBoundary, Marker.startsInWord_append hne] at hb ⊢
    exact hb

theorem startsInWord_of_afterBlock? (hl : IsName label)
    (h : form.afterBlock? label text = some rest) : Marker.startsInWord rest = false := by
  obtain ⟨inside, hm, -⟩ := marked_of_afterBlock? h
  exact (hl.isBoundary_closer rest).1 hm.closes

theorem afterBlock?_of_after? (h : Marker.after? (opener label) text = none) :
    form.afterBlock? label text = none := by
  rw [afterBlock?, h, Option.bind_none]

theorem afterBlock?_of_not_mem (h : '{' ∉ text) (hne : text ≠ []) (rest : List Char) :
    form.afterBlock? label (text ++ rest) = none := by
  cases text with
  | nil => exact absurd rfl hne
  | cons c text =>
    rw [Option.eq_none_iff_forall_ne_some]
    intro r hr
    obtain ⟨inside, he⟩ := exists_eq_append_of_afterBlock? hr
    obtain ⟨rfl, -⟩ := List.cons.inj he
    exact h List.mem_cons_self

end Form

/-- Where the text has openers, there is a closer at its end. -/
def EndsClosed (label text : List Char) : Prop := '{' ∉ text ∨ ∃ before, text = before ++ closer label

theorem EndsClosed.of_cons {c : Char} (hl : IsName label) (h : EndsClosed label (c :: text)) :
    EndsClosed label text := by
  rcases h with h | ⟨before, h⟩
  · exact .inl fun hm => h (List.mem_cons_of_mem c hm)
  · cases before with
    | nil =>
      refine .inl fun hm => hl.opening_not_mem_closer ?_
      rw [← List.nil_append (closer label), ← h]
      exact List.mem_cons_of_mem c hm
    | cons d before => exact .inr ⟨before, (List.cons.inj h).2⟩

theorem EndsClosed.of_block (hl : IsName label)
    (h : EndsClosed label (block ++ closer label ++ rest)) : EndsClosed label rest := by
  rcases h with h | ⟨before, h⟩
  · exact .inl fun hm => h (List.mem_append_right _ hm)
  rcases List.append_eq_append_iff.1 h with ⟨a, -, hr⟩ | ⟨a, -, hc⟩
  · exact .inr ⟨a, hr⟩
  · exact .inl fun hm => hl.opening_not_mem_closer (hc ▸ List.mem_append_right a hm)

/-- Behind an opener there is still the closer at the end. -/
theorem exists_eq_append_closer {body before : List Char} (hl : IsName label)
    (h : opener label ++ body = before ++ closer label) : ∃ inside, body = inside ++ closer label := by
  rcases List.append_eq_append_iff.1 h with ⟨a, -, hb⟩ | ⟨a, ho, hc⟩
  · exact ⟨a, hb⟩
  · cases a with
    | nil => exact ⟨[], by simpa using hc.symm⟩
    | cons c a =>
      obtain ⟨rfl, -⟩ := List.cons.inj hc
      refine absurd ?_ hl.closing_not_mem_opener
      rw [ho]
      simp

namespace Form

/-- Whether a closer is on the line does not depend on what follows the last closer. -/
theorem afterCloser?_append_of_closer (hl : IsName label) (inside : List Char)
    (hr : Marker.startsInWord rest = false) :
    singleLine.afterCloser? label (inside ++ closer label ++ rest) =
      (singleLine.afterCloser? label (inside ++ closer label)).map (· ++ rest) := by
  by_cases hn : '\n' ∈ inside
  · exact afterCloser?_append_singleLine (List.mem_append_left _ hn) rest
  · have hadmits : singleLine.Admits inside := hn
    obtain ⟨r, hc, -⟩ := exists_afterCloser? hl.newline_not_mem hadmits
      ((hl.isBoundary_closer []).2 rfl)
    rw [List.append_nil] at hc
    obtain ⟨before, he, hstable⟩ := exists_inside_of_afterCloser? hc
    have hword : Marker.startsInWord (r ++ rest) = Marker.startsInWord r := by
      cases r with
      | nil => exact hr
      | cons c r => rfl
    rw [hc, Option.map_some, he, List.append_assoc, List.append_assoc, hstable (r ++ rest) hword]

theorem afterBlock?_append_of_endsClosed (hl : IsName label) (h : EndsClosed label text)
    (hne : text ≠ []) (hr : Marker.startsInWord rest = false) :
    singleLine.afterBlock? label (text ++ rest) =
      (singleLine.afterBlock? label text).map (· ++ rest) := by
  have hno : '{' ∉ text → singleLine.afterBlock? label (text ++ rest) =
      (singleLine.afterBlock? label text).map (· ++ rest) := by
    intro h
    have hnone : singleLine.afterBlock? label (text ++ []) = none := afterBlock?_of_not_mem h hne []
    rw [List.append_nil] at hnone
    rw [afterBlock?_of_not_mem h hne, hnone, Option.map_none]
  rcases h with h | ⟨before, rfl⟩
  · exact hno h
  cases before with
  | nil => exact hno hl.opening_not_mem_closer
  | cons c before =>
    have hlt : (opener label).length < (c :: before ++ closer label).length := by
      rw [List.length_append, List.length_cons, length_opener, length_closer]
      omega
    rw [afterBlock?, afterBlock?, Marker.after?_append_of_lt hlt]
    cases ho : Marker.after? (opener label) (c :: before ++ closer label) with
    | none => rfl
    | some body =>
      obtain ⟨inside, rfl⟩ := exists_eq_append_closer hl (Marker.eq_append_of_after? ho).symm
      exact afterCloser?_append_of_closer hl inside hr

/-- Up to a closer the first removal does the same whatever follows. -/
theorem remove_append_of_endsClosed (hl : IsName label) (h : EndsClosed label text)
    (hr : Marker.startsInWord rest = false) :
    singleLine.remove label (text ++ rest) =
      singleLine.remove label text ++ singleLine.remove label rest := by
  fun_induction remove singleLine label text with
  | case1 => rfl
  | case2 c text r hb ih =>
    have hb' := afterBlock?_append_of_endsClosed hl h (List.cons_ne_nil c text) hr
    rw [hb, Option.map_some] at hb'
    obtain ⟨inside, he, -⟩ := exists_block_of_afterBlock? hb
    rw [he] at h
    rw [remove_of_afterBlock? hb', ih (h.of_block hl), List.cons_append]
  | case3 c text hb ih =>
    have hb' := afterBlock?_append_of_endsClosed hl h (List.cons_ne_nil c text) hr
    rw [hb, Option.map_none, List.cons_append] at hb'
    rw [List.cons_append, remove_cons hb', ih (h.of_cons hl), List.cons_append]

theorem startsInWord_remove (form : Form) (label text : List Char) :
    Marker.startsInWord (form.remove label text) = Marker.startsInWord text :=
  (form.thinned_remove label text).startsInWord_eq fun _ _ h => h.startsInWord

theorem remove_space (form : Form) (label text : List Char) :
    form.remove label (' ' :: text) = ' ' :: form.remove label text :=
  remove_cons (afterBlock?_of_not_mem (by decide : '{' ∉ [' ']) (by decide) text)

end Form

/-- The stretch goes, and leaves a space, in front of every text that does not start in a word. -/
def Sealed (label stretch : List Char) : Prop :=
  ∀ rest, Marker.startsInWord rest = false →
    stripLabel label (stretch ++ rest) = ' ' :: stripLabel label rest

/-- Where no opener stands, a pass leaves the character. -/
theorem stripLabel_cons {c : Char} (hl : IsName label)
    (h : Marker.after? (opener label) (c :: text) = none) :
    stripLabel label (c :: text) = c :: stripLabel label text := by
  have hfirst : Form.singleLine.remove label (c :: text) = c :: Form.singleLine.remove label text :=
    Form.remove_cons (Form.afterBlock?_of_after? h)
  have hsecond : Marker.after? (opener label) (c :: Form.singleLine.remove label text) = none := by
    rw [Option.eq_none_iff_forall_ne_some]
    intro rest hr
    obtain ⟨he, hb⟩ := Marker.after?_eq_some_iff.1 hr
    have ht := Form.singleLine.thinned_remove label (c :: text)
    rw [hfirst, he] at ht
    obtain ⟨rest', he', hrest⟩ := ht.split_kept hl.space_not_mem_opener
    rw [Marker.isBoundary, hrest.startsInWord_eq fun _ _ h => h.startsInWord] at hb
    rw [Marker.after?_eq_some_iff.2 ⟨he', hb⟩] at h
    cases h
  rw [stripLabel, hfirst, Form.remove_cons (Form.afterBlock?_of_after? hsecond), stripLabel]

theorem sealed_of_singleLine {inside : List Char} (hl : IsName label)
    (h : Form.singleLine.afterBlock? label (opener label ++ inside ++ closer label ++ rest) = some rest) :
    Sealed label (opener label ++ inside ++ closer label) := by
  intro rest' hr
  have hrest := Form.startsInWord_of_afterBlock? hl h
  obtain ⟨inside', he, hstable⟩ := Form.exists_block_of_afterBlock? h
  rw [List.append_cancel_right he, stripLabel,
    Form.remove_of_afterBlock? (hstable rest' (hr.trans hrest.symm)), Form.remove_space, stripLabel]

/-- What the first removal makes a block of the second one is sealed. -/
theorem sealed_of_multiLine {stretch before : List Char} (hl : IsName label)
    (hs : stretch = before ++ closer label)
    (h : Form.multiLine.afterBlock? label (Form.singleLine.remove label stretch ++ rest) = some rest) :
    Sealed label stretch := by
  intro rest' hr
  have hrest := Form.startsInWord_of_afterBlock? hl h
  obtain ⟨inside, he, hstable⟩ := Form.exists_block_of_afterBlock? h
  have hb := hstable (Form.singleLine.remove label rest')
    ((Form.startsInWord_remove _ _ _).trans (hr.trans hrest.symm))
  rw [stripLabel, Form.remove_append_of_endsClosed hl (.inr ⟨before, hs⟩) hr,
    List.append_cancel_right he, Form.remove_of_afterBlock? hb, stripLabel]

end ScriptBundle
