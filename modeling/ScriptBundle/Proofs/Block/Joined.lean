import ScriptBundle.Proofs.Block.Place
import ScriptBundle.Strip

/-!
# Stripping joined texts

A block may begin in one text and end in the next, so stripping a joined text is not stripping its
parts. It is if every part but the last ends its last line and leaves no opener behind: labels hold
no line feed, so no marker and no line runs across a border, and an opener that looks for its closer
beyond the border is one that finds none before it and would have stayed.
-/

namespace ScriptBundle

open Lines (Ended)

variable {marker label text body rest : List Char}

namespace Marker

/-- A marker at the start of a text does not reach beyond a line feed in it. -/
theorem after?_append (hm : '\n' ∉ marker) (hn : '\n' ∈ text) (more : List Char) :
    after? marker (text ++ more) = (after? marker text).map (· ++ more) := by
  cases ha : after? marker text with
  | some r =>
    obtain ⟨rfl, hb⟩ := after?_eq_some_iff.1 ha
    have hr : r ≠ [] := fun e => hm (by simpa [e] using hn)
    refine after?_eq_some_iff.2 ⟨List.append_assoc _ _ _, ?_⟩
    rw [isBoundary, startsInWord_append hr]
    exact hb
  | none =>
    cases hb : after? marker (text ++ more) with
    | none => rfl
    | some r =>
      obtain ⟨he, hbound⟩ := after?_eq_some_iff.1 hb
      rcases List.append_eq_append_iff.1 he with ⟨a, rfl, -⟩ | ⟨a, rfl, rfl⟩
      · exact absurd (List.mem_append_left a hn) hm
      · have hr : a ≠ [] := fun e => hm (by simpa [e] using hn)
        rw [isBoundary, startsInWord_append hr] at hbound
        rw [after?_eq_some_iff.2 ⟨rfl, hbound⟩] at ha
        cases ha

/-- The first marker of a text with an ended last line is the first one whatever follows. -/
theorem cut_append {before : List Char} (hm : '\n' ∉ marker) (hne : marker ≠ []) (h : Ended text)
    (hc : cut marker text = some (before, rest)) (more : List Char) :
    cut marker (text ++ more) = some (before, rest ++ more) := by
  induction text generalizing before with
  | nil => exact absurd (eq_append_of_cut hc) (by simp [hne])
  | cons c text ih =>
    have ha := after?_append hm (h.mem (List.cons_ne_nil c text)) more
    cases hs : after? marker (c :: text) with
    | some r =>
      rw [cut_of_after? hs] at hc
      cases hc
      exact cut_of_after? (by rw [ha, hs, Option.map_some])
    | none =>
      rw [cut_cons hs] at hc
      obtain ⟨⟨b, r⟩, hr, he⟩ := Option.map_eq_some_iff.1 hc
      cases he
      rw [hs, Option.map_none] at ha
      rw [List.cons_append] at ha ⊢
      rw [cut_cons ha, ih h.of_cons hr, Option.map_some]

end Marker

namespace Form

theorem afterCloser?_append_singleLine (hn : '\n' ∈ body) (more : List Char) :
    singleLine.afterCloser? label (body ++ more) =
      (singleLine.afterCloser? label body).map (· ++ more) := by
  simp only [afterCloser?, Lines.takeLine_append_of_mem hn, Lines.dropLine_append_of_mem hn,
    Option.map_map]
  congr 1
  funext split
  simp

theorem afterCloser?_append_multiLine (hl : '\n' ∉ label) (h : Ended body) (hn : '\n' ∈ body)
    (hc : multiLine.afterCloser? label body = some rest) (more : List Char) :
    multiLine.afterCloser? label (body ++ more) = some (rest ++ more) := by
  simp only [afterCloser?] at hc ⊢
  split at hc
  · cases hc
  · next c below hd =>
    obtain ⟨⟨before, r⟩, hcut, rfl⟩ := Option.map_eq_some_iff.1 hc
    have hb : Ended below := by
      rw [← Lines.takeLine_append_dropLine body, hd] at h
      exact h.of_append.of_cons
    rw [Lines.dropLine_append_of_mem hn, hd]
    simp [Marker.cut_append (newline_not_mem_closer hl) (closer_ne_nil label) hb hcut more]

/-- Whether a block on one line starts at a place does not depend on what follows the last line. -/
theorem afterBlock?_append_singleLine (hl : '\n' ∉ label) (h : Ended text) (hne : text ≠ [])
    (more : List Char) : singleLine.afterBlock? label (text ++ more) =
      (singleLine.afterBlock? label text).map (· ++ more) := by
  have hopener := newline_not_mem_opener hl
  rw [afterBlock?, afterBlock?, Marker.after?_append hopener (h.mem hne)]
  cases ha : Marker.after? (opener label) text with
  | none => rfl
  | some body =>
    rw [Marker.eq_append_of_after? ha] at h
    exact afterCloser?_append_singleLine (h.mem_of_append (opener_ne_nil label) hopener) more

/-- A block on more lines stays one, whatever follows. -/
theorem afterBlock?_append_multiLine (hl : '\n' ∉ label) (h : Ended text)
    (hb : multiLine.afterBlock? label text = some rest) (more : List Char) :
    multiLine.afterBlock? label (text ++ more) = some (rest ++ more) := by
  have hopener := newline_not_mem_opener hl
  obtain ⟨body, ha, hc⟩ := Option.bind_eq_some_iff.1 hb
  have ht := Marker.eq_append_of_after? ha
  have hne : text ≠ [] := by simp [ht]
  have hm := Marker.after?_append hopener (h.mem hne) more
  rw [ht] at h
  rw [ha, Option.map_some] at hm
  have hn := h.mem_of_append (opener_ne_nil label) hopener
  exact Option.bind_eq_some_iff.2
    ⟨_, hm, afterCloser?_append_multiLine hl h.of_append hn hc more⟩

/-- An opener without a closer on later lines leaves the later ones without one too. -/
theorem Block.of_at_le {i i' j : Nat} (ho : Marker.At (opener label) text i) (hi : i ≤ i')
    (hb : multiLine.Block label text i' j) : multiLine.Block label text i j := by
  obtain ⟨-, k, hik, hc, ha, rfl⟩ := hb
  refine ⟨ho, k, by omega, hc, ?_, rfl⟩
  have hd : (text.extract (i + (opener label).length) k).drop (i' - i) =
      text.extract (i' + (opener label).length) k := by
    rw [List.extract_eq_take_drop, List.extract_eq_take_drop, List.drop_take, List.drop_drop]
    congr 1
    · omega
    · congr 1
      omega
  exact List.mem_of_mem_drop (hd ▸ ha : '\n' ∈ _)

theorem ended_of_afterBlock? {form : Form} (h : Ended text)
    (hb : form.afterBlock? label text = some rest) : Ended rest := by
  obtain ⟨inside, hm, -⟩ := marked_of_afterBlock? hb
  rw [hm.split] at h
  exact h.of_append

/-- If all openers go, then a place where no block on more lines starts has no opener. -/
theorem after?_opener_eq_none (hl : '\n' ∉ label) (hb : multiLine.afterBlock? label text = none)
    (hc : ∀ i, ¬Marker.At (opener label) (multiLine.remove label text) i) :
    Marker.after? (opener label) text = none := by
  cases ha : Marker.after? (opener label) text with
  | none => rfl
  | some body =>
    have hat : Marker.At (opener label) text 0 :=
      (Marker.at_iff (opener_ne_nil label)).2 ⟨body, Marker.after?_eq_some_iff.1 ha⟩
    have hblock : ∀ i j, ¬multiLine.Block label text i j := fun i j hij =>
      not_block_of_afterBlock? (i := 0) hl hb j (Block.of_at_le hat (Nat.zero_le i) hij)
    rw [remove_of_not_block hl hblock] at hc
    exact absurd hat (hc 0)

theorem remove_append_singleLine (hl : '\n' ∉ label) (h : Ended text) (more : List Char) :
    singleLine.remove label (text ++ more) =
      singleLine.remove label text ++ singleLine.remove label more := by
  fun_induction remove singleLine label text with
  | case1 => rfl
  | case2 c text r hb ih =>
    have hr := ended_of_afterBlock? h hb
    have hb' := afterBlock?_append_singleLine hl h (List.cons_ne_nil c text) more
    rw [hb, Option.map_some] at hb'
    rw [remove_of_afterBlock? hb', ih hr, List.cons_append]
  | case3 c text hb ih =>
    have hb' := afterBlock?_append_singleLine hl h (List.cons_ne_nil c text) more
    rw [hb, Option.map_none, List.cons_append] at hb'
    rw [List.cons_append, remove_cons hb', ih h.of_cons, List.cons_append]

/-- A text that is left without openers had all its blocks within itself. -/
theorem remove_append_multiLine (hl : '\n' ∉ label) (h : Ended text)
    (hc : ∀ i, ¬Marker.At (opener label) (multiLine.remove label text) i) (more : List Char) :
    multiLine.remove label (text ++ more) =
      multiLine.remove label text ++ multiLine.remove label more := by
  fun_induction remove multiLine label text with
  | case1 => rfl
  | case2 c text r hb ih =>
    have hr := ended_of_afterBlock? h hb
    have hc' := Marker.not_at_of_cons (opener_ne_nil label) hc
    have hb' := afterBlock?_append_multiLine hl h hb more
    rw [remove_of_afterBlock? hb', ih hr hc', List.cons_append]
  | case3 c text hb ih =>
    have hc' := Marker.not_at_of_cons (opener_ne_nil label) hc
    have hno := after?_opener_eq_none hl hb (by rwa [remove_cons hb])
    have hb' : multiLine.afterBlock? label (c :: (text ++ more)) = none := by
      have hn := h.mem (List.cons_ne_nil c text)
      have ha := Marker.after?_append (newline_not_mem_opener hl) hn more
      rw [hno, Option.map_none, List.cons_append] at ha
      rw [afterBlock?, ha, Option.bind_none]
    rw [List.cons_append, remove_cons hb', ih h.of_cons hc', List.cons_append]

theorem remove_ne_nil {form : Form} (hne : text ≠ []) : form.remove label text ≠ [] := by
  fun_cases remove form label text <;> simp_all

/-- A block does not end a line, so the last line stays ended. -/
theorem ended_remove {form : Form} (hl : '\n' ∉ label) (h : Ended text) :
    Ended (form.remove label text) := by
  fun_induction remove form label text with
  | case1 => exact Lines.ended_nil
  | case2 c text r hb ih =>
    obtain ⟨inside, hm, -⟩ := marked_of_afterBlock? hb
    rw [hm.split] at h
    have hr : r ≠ [] := by
      rintro rfl
      rw [List.append_nil] at h
      exact newline_not_mem_closer hl (h.of_append.mem (closer_ne_nil label))
    exact (ih h.of_append).cons (remove_ne_nil hr) ' '
  | case3 c text hb ih =>
    cases text with
    | nil => simpa using h
    | cons d text =>
      exact (ih h.of_cons).cons (remove_ne_nil (List.cons_ne_nil d text)) c

end Form

theorem ended_stripLabel (hl : '\n' ∉ label) (h : Ended text) : Ended (stripLabel label text) :=
  Form.ended_remove hl (Form.ended_remove hl h)

theorem stripLabel_append (hl : '\n' ∉ label) (h : Ended text)
    (hc : ∀ i, ¬Marker.At (opener label) (stripLabel label text) i) (more : List Char) :
    stripLabel label (text ++ more) = stripLabel label text ++ stripLabel label more := by
  rw [stripLabel, stripLabel, stripLabel, Form.remove_append_singleLine hl h,
    Form.remove_append_multiLine hl (Form.ended_remove hl h) hc]

/-- Every pass leaves no opener of its label. -/
def ClearsOpeners (labels : List (List Char)) (text : List Char) : Prop :=
  ∀ before label after, labels = before ++ label :: after →
    ∀ i, ¬Marker.At (opener label) (stripLabels (before ++ [label]) text) i

theorem stripLabels_append_text {labels : List (List Char)} (hl : ∀ label ∈ labels, '\n' ∉ label)
    (h : Ended text) (hc : ClearsOpeners labels text) (more : List Char) :
    stripLabels labels (text ++ more) = stripLabels labels text ++ stripLabels labels more := by
  induction labels generalizing text more with
  | nil => rfl
  | cons label labels ih =>
    have hlabel := hl label List.mem_cons_self
    have hfirst : ∀ i, ¬Marker.At (opener label) (stripLabel label text) i :=
      hc [] label labels rfl
    have hrest : ClearsOpeners labels (stripLabel label text) := by
      intro before l after he
      exact hc (label :: before) l after (by rw [he, List.cons_append])
    rw [stripLabels_cons, stripLabels_cons, stripLabels_cons, stripLabel_append hlabel h hfirst]
    exact ih (fun l hm => hl l (List.mem_cons_of_mem label hm)) (ended_stripLabel hlabel h) hrest _

end ScriptBundle
