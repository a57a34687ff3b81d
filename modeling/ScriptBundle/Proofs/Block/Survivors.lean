import ScriptBundle.Proofs.Block.Place
import ScriptBundle.Proofs.Block.Thinned

/-!
# No block survives

After one label's pass no opener of the label has a closer behind it any more. An opener that the
single-line removal leaves has its closers on later lines, because line feeds are neither taken nor
added between them; one that the multi-line removal leaves as well has none there. Later passes
cannot bring such a pair back, because thinning makes no markers. What stays is what a second
stripping leaves alone.
-/

namespace ScriptBundle

/-- Somewhere in the text a stretch is marked by the label. -/
def Paired (label text : List Char) : Prop :=
  ∃ before body inside rest, text = before ++ body ∧ Marked label body inside rest

variable {label : List Char} {labels : List (List Char)} {text : List Char}

theorem paired_of_at {i k : Nat} (ho : Marker.At (opener label) text i)
    (hc : Marker.At (closer label) text k) (hik : i + (opener label).length ≤ k) :
    Paired label text :=
  ⟨text.take i, text.drop i, _, _, (List.take_append_drop i text).symm, marked_of_at ho hc hik⟩

/-- Thinning makes no pairs. -/
theorem Thinned.paired {Kept : List Char → Prop} {Removed : List Char → List Char → Prop}
    {result : List Char} (hl : ' ' ∉ label)
    (hr : ∀ b t, Removed b t → Marker.startsInWord (b ++ t) = false)
    (h : Thinned Kept Removed text result) (hp : Paired label result) : Paired label text := by
  obtain ⟨before, body, inside, rest, rfl, hm⟩ := hp
  obtain ⟨before', body', rfl, hb⟩ := h.split
  obtain ⟨inside', rest', hm', -, -⟩ := marked hl hr hb hm
  exact ⟨before', body', inside', rest', rfl, hm'⟩

theorem Form.Takes.newline_not_mem {block rest : List Char} (hn : '\n' ∉ label)
    (h : Form.singleLine.Takes label block rest) : '\n' ∉ block := by
  obtain ⟨inside, hm, ha⟩ := h
  have hi : '\n' ∉ inside := ha
  rw [List.append_cancel_right hm.split]
  simp [newline_not_mem_opener hn, newline_not_mem_closer hn, hi]

/-- What a single-line removal leaves of openers has its closers on later lines. -/
theorem newline_mem_of_singleLine {before body inside rest : List Char} (hs : ' ' ∉ label)
    (hn : '\n' ∉ label) (h : Form.singleLine.remove label text = before ++ body)
    (hm : Marked label body inside rest) : '\n' ∈ inside := by
  have ht := Form.singleLine.thinned_remove label text
  rw [h] at ht
  obtain ⟨before', body', rfl, hb⟩ := ht.split
  obtain ⟨inside', rest', hm', hrest, hkept⟩ := hb.marked hs (fun _ _ h => h.startsInWord) hm
  have hin : '\n' ∈ inside' := Decidable.not_not.1 (Form.not_marked_of_afterBlock? hn hkept hm')
  have hblock : ∀ b t, Form.singleLine.Takes label b t → '\n' ∉ b :=
    fun _ _ h => h.newline_not_mem hn
  -- the line feeds of the two bodies and of the two rests are as many, so those between are
  have hbody := hb.count_eq (by decide : '\n' ≠ ' ') hblock
  have hcount := hrest.count_eq (by decide : '\n' ≠ ' ') hblock
  rw [hm.split, hm'.split] at hbody
  simp only [List.count_append] at hbody
  have hpos := List.count_pos_iff.2 hin
  exact List.count_pos_iff.1 (by omega)

/-- One pass leaves no pair of its label. -/
theorem not_paired_stripLabel (hs : ' ' ∉ label) (hn : '\n' ∉ label) (text : List Char) :
    ¬Paired label (stripLabel label text) := by
  rintro ⟨before, body, inside, rest, he, hm⟩
  have ht := Form.multiLine.thinned_remove label (Form.singleLine.remove label text)
  rw [← stripLabel, he] at ht
  obtain ⟨before', body', hsplit, hb⟩ := ht.split
  obtain ⟨inside', rest', hm', -, hkept⟩ := hb.marked hs (fun _ _ h => h.startsInWord) hm
  exact Form.not_marked_of_afterBlock? hn hkept hm' (newline_mem_of_singleLine hs hn hsplit hm')

theorem not_paired_stripLabels (hs : ∀ label ∈ labels, ' ' ∉ label)
    (hn : ∀ label ∈ labels, '\n' ∉ label) (h : label ∈ labels) (text : List Char) :
    ¬Paired label (stripLabels labels text) := by
  induction labels generalizing text with
  | nil => cases h
  | cons l labels ih =>
    have hs' := fun label hm => hs label (List.mem_cons_of_mem l hm)
    have hn' := fun label hm => hn label (List.mem_cons_of_mem l hm)
    rw [stripLabels_cons]
    rcases List.mem_cons.1 h with rfl | h
    · intro hp
      have ht := thinned_stripLabels hs' (stripLabel label text)
      exact not_paired_stripLabel (hs label List.mem_cons_self) (hn label List.mem_cons_self) text
        (ht.paired (hs label List.mem_cons_self) (fun _ _ hb => hb.startsInWord) hp)
    · exact ih hs' hn' h (stripLabel l text)

theorem Form.remove_of_not_paired {form : Form} (hn : '\n' ∉ label) (h : ¬Paired label text) :
    form.remove label text = text := by
  refine remove_of_not_block hn ?_
  rintro i j ⟨ho, k, hik, hc, -, -⟩
  exact h (paired_of_at ho hc hik)

/-- Without pairs there is nothing to strip. -/
theorem stripLabels_of_not_paired (hn : ∀ label ∈ labels, '\n' ∉ label)
    (h : ∀ label ∈ labels, ¬Paired label text) : stripLabels labels text = text := by
  induction labels with
  | nil => rfl
  | cons label labels ih =>
    have hlabel := hn label List.mem_cons_self
    have hp := h label List.mem_cons_self
    rw [stripLabels_cons, stripLabel, Form.remove_of_not_paired hlabel hp,
      Form.remove_of_not_paired hlabel hp]
    exact ih (fun l hm => hn l (List.mem_cons_of_mem label hm))
      fun l hm => h l (List.mem_cons_of_mem label hm)

/-- Of no label does the result hold an opener and, at or behind its end, a closer. So stripping a
second time changes nothing. -/
theorem strip_leaves_no_block (labels : List String)
    (hl : ∀ label ∈ labels, ' ' ∉ label.toList ∧ '\n' ∉ label.toList) (text : String) :
    (∀ label ∈ labels, ∀ i k, Marker.At (opener label.toList) (strip labels text).toList i →
        i + (opener label.toList).length ≤ k →
        ¬Marker.At (closer label.toList) (strip labels text).toList k) ∧
      strip labels (strip labels text) = strip labels text := by
  have hs : ∀ label ∈ labels.map String.toList, ' ' ∉ label :=
    List.forall_mem_map.2 fun label hm => (hl label hm).1
  have hn : ∀ label ∈ labels.map String.toList, '\n' ∉ label :=
    List.forall_mem_map.2 fun label hm => (hl label hm).2
  have hp : ∀ label ∈ labels.map String.toList, ¬Paired label (strip labels text).toList := by
    intro label hm
    rw [toList_strip]
    exact not_paired_stripLabels hs hn hm _
  constructor
  · intro label hm i k ho hik hc
    exact hp _ (List.mem_map_of_mem hm) (paired_of_at ho hc hik)
  · have hcr : '\r' ∉ (strip labels text).toList := by
      intro hr
      rw [toList_strip] at hr
      rcases (thinned_stripLabels hs _).mem_or_eq hr with hr | hr
      · exact Lines.not_mem_normalize _ hr
      · cases hr
    apply String.toList_injective
    rw [toList_strip, Lines.normalize_of_not_mem hcr, stripLabels_of_not_paired hn hp]

/-- With one label a part of the other, repeated, and openers and closers that are left over. -/
theorem strip_leaves_no_block_crossed :
    (∀ label ∈ ["a", "ab", "a"], ' ' ∉ label.toList ∧ '\n' ∉ label.toList) ∧
      strip ["a", "ab", "a"]
          "\x7d@a \x7b@a\r\x7b@ab 1 \x7b@a\n2 \x7d@ab \x7d@a 3 \x7d@a \x7b@ab é \x7b@a" =
        "\x7d@a   3 \x7d@a \x7b@ab é \x7b@a" ∧
      (∀ i k, Marker.At (opener "a".toList) "\x7d@a   3 \x7d@a \x7b@ab é \x7b@a".toList i →
        i + (opener "a".toList).length ≤ k →
        ¬Marker.At (closer "a".toList) "\x7d@a   3 \x7d@a \x7b@ab é \x7b@a".toList k) ∧
      strip ["a", "ab", "a"] "\x7d@a   3 \x7d@a \x7b@ab é \x7b@a" =
        "\x7d@a   3 \x7d@a \x7b@ab é \x7b@a" := by
  have hl : ∀ label ∈ ["a", "ab", "a"], ' ' ∉ label.toList ∧ '\n' ∉ label.toList := by decide
  have hv : strip ["a", "ab", "a"]
      "\x7d@a \x7b@a\r\x7b@ab 1 \x7b@a\n2 \x7d@ab \x7d@a 3 \x7d@a \x7b@ab é \x7b@a" =
      "\x7d@a   3 \x7d@a \x7b@ab é \x7b@a" := by decide +kernel
  have h := strip_leaves_no_block ["a", "ab", "a"] hl
    "\x7d@a \x7b@a\r\x7b@ab 1 \x7b@a\n2 \x7d@ab \x7d@a 3 \x7d@a \x7b@ab é \x7b@a"
  rw [hv] at h
  exact ⟨hl, hv, h.1 "a" List.mem_cons_self, h.2⟩

end ScriptBundle
