import ScriptBundle.LabelSet
import ScriptBundle.Proofs.Block.Sealed
import ScriptBundle.Text.Blank

/-!
# Markers in front of a space

A marker counts where a word begins or ends behind it. No word begins with a space, so in front of one
the markers of a label count just if the label itself ends in a word. A block on one line that has a
space behind both of its markers goes for every such label. For any other label, one that ends in a star
or in a letter that is not ASCII, it stays, although its markers are there as the label is written
(`stripLabel_spaced`).
-/

namespace ScriptBundle

variable {label marker word text rest before inside after : List Char}

namespace Marker

theorem isBoundary_space (marker rest : List Char) :
    isBoundary marker (' ' :: rest) = endsInWord marker :=
  Bool.bne_false (endsInWord marker)

theorem endsInWord_opener (label : List Char) : endsInWord (opener label) = endsInWord label := by
  cases label with
  | nil => rfl
  | cons c label => rw [endsInWord, endsInWord, opener, List.getLast?_cons_cons, List.getLast?_cons_cons]

theorem endsInWord_closer (label : List Char) : endsInWord (closer label) = endsInWord label := by
  cases label with
  | nil => rfl
  | cons c label => rw [endsInWord, endsInWord, closer, List.getLast?_cons_cons, List.getLast?_cons_cons]

theorem after?_append_space (marker rest : List Char) :
    after? marker (marker ++ ' ' :: rest) =
      if endsInWord marker = true then some (' ' :: rest) else none := by
  split
  · next hw => exact after?_eq_some_iff.2 ⟨rfl, (isBoundary_space marker rest).trans hw⟩
  · next hw =>
    rw [Option.eq_none_iff_forall_ne_some]
    intro r hr
    obtain ⟨he, hb⟩ := after?_eq_some_iff.1 hr
    rw [← List.append_cancel_left he, isBoundary_space] at hb
    exact hw hb

/-- A marker without spaces does not begin in a word that is shorter. -/
theorem after?_of_length_lt (hs : ' ' ∉ marker) (hlt : word.length < marker.length)
    (rest : List Char) : after? marker (word ++ ' ' :: rest) = none := by
  rw [Option.eq_none_iff_forall_ne_some]
  intro r hr
  rcases List.append_eq_append_iff.1 (eq_append_of_after? hr) with ⟨a, rfl, ha⟩ | ⟨a, rfl, -⟩
  · cases a with
    | nil => simp at hlt
    | cons c a =>
      obtain ⟨rfl, -⟩ := List.cons.inj ha
      exact hs (by simp)
  · rw [List.length_append] at hlt
    omega

/-- A marker is the first one if its first character is not met before. -/
theorem cut_of_not_mem {c : Char} (hm : marker.head? = some c) (hc : c ∉ before)
    (hb : isBoundary marker rest = true) :
    cut marker (before ++ (marker ++ rest)) = some (before, rest) := by
  induction before with
  | nil => exact cut_of_after? (after?_eq_some_iff.2 ⟨rfl, hb⟩)
  | cons d before ih =>
    rw [List.mem_cons, not_or] at hc
    have hno : after? marker (d :: (before ++ (marker ++ rest))) = none := by
      rw [Option.eq_none_iff_forall_ne_some]
      intro r hr
      have hhead := congrArg List.head? (eq_append_of_after? hr)
      rw [List.head?_cons, List.head?_append, hm, Option.some_or] at hhead
      exact hc.1 (Option.some.inj hhead).symm
    rw [List.cons_append, cut_cons hno, ih hc.2, Option.map_some]

end Marker

namespace Form

variable {form : Form}

/-- Where no block begins the text is kept. -/
theorem remove_append_of_kept (h : ∀ a b, text = a ++ b → b ≠ [] →
    form.afterBlock? label (b ++ rest) = none) :
    form.remove label (text ++ rest) = text ++ form.remove label rest := by
  induction text with
  | nil => rfl
  | cons c text ih =>
    have hno := h [] (c :: text) rfl (List.cons_ne_nil c text)
    rw [List.cons_append] at hno
    rw [List.cons_append, remove_cons hno, ih, List.cons_append]
    exact fun a b he hb => h (c :: a) b (by rw [he, List.cons_append]) hb

theorem remove_append_of_not_mem (h : '{' ∉ text) (rest : List Char) :
    form.remove label (text ++ rest) = text ++ form.remove label rest := by
  refine remove_append_of_kept fun a b he hb => afterBlock?_of_not_mem (fun hm => h ?_) hb rest
  exact he ▸ List.mem_append_right a hm

theorem remove_of_not_mem (h : '{' ∉ text) : form.remove label text = text := by
  have hrest : form.remove label (text ++ []) = text ++ form.remove label [] :=
    remove_append_of_not_mem h []
  rwa [List.append_nil, remove_nil, List.append_nil] at hrest

/-- A word no longer than the opener is kept if it is no opener. -/
theorem remove_word (hs : ' ' ∉ label) (hle : word.length ≤ (opener label).length)
    (hno : Marker.after? (opener label) (word ++ ' ' :: rest) = none) :
    form.remove label (word ++ ' ' :: rest) = word ++ ' ' :: form.remove label rest := by
  have hopener : ' ' ∉ opener label := by simp [opener, hs]
  rw [remove_append_of_kept, remove_space]
  intro a b he _
  refine afterBlock?_of_after? ?_
  cases a with
  | nil => rwa [he] at hno
  | cons c a =>
    refine Marker.after?_of_length_lt hopener (Nat.lt_of_lt_of_le ?_ hle) rest
    rw [he, List.cons_append, List.length_cons, List.length_append]
    omega

/-- Of a label that ends in no word nothing is removed where both markers have a space behind them. -/
theorem remove_spaced (hs : ' ' ∉ label) (hw : Marker.endsInWord label = false)
    (hbefore : '{' ∉ before) (hinside : '{' ∉ inside) (hafter : '{' ∉ after) :
    form.remove label
        (before ++ (opener label ++ ' ' :: (inside ++ ' ' :: (closer label ++ ' ' :: after)))) =
      before ++ (opener label ++ ' ' :: (inside ++ ' ' :: (closer label ++ ' ' :: after))) := by
  have hopener : ∀ rest, Marker.after? (opener label) (opener label ++ ' ' :: rest) = none := by
    intro rest
    rw [Marker.after?_append_space, Marker.endsInWord_opener, hw, if_neg Bool.false_ne_true]
  have hcloser : form.remove label (closer label ++ ' ' :: after) = closer label ++ ' ' :: after := by
    have hle : (closer label).length ≤ (opener label).length := Nat.le_refl _
    rw [remove_word hs hle (Marker.after?_opener_of_ne (by decide) _), remove_of_not_mem hafter]
  rw [remove_append_of_not_mem hbefore, remove_word hs (Nat.le_refl _) (hopener _),
    remove_append_of_not_mem hinside, remove_space, hcloser]

theorem afterBlock?_spaced (hn : '\n' ∉ label) (hw : Marker.endsInWord label = true)
    (hinside : '}' ∉ inside ∧ '\n' ∉ inside) (after : List Char) :
    singleLine.afterBlock? label
        (opener label ++ ' ' :: (inside ++ ' ' :: (closer label ++ ' ' :: after))) =
      some (' ' :: after) := by
  have hbody : ' ' :: (inside ++ ' ' :: (closer label ++ ' ' :: after)) =
      (' ' :: inside ++ [' ']) ++ (closer label ++ ' ' :: after) := by simp
  have hline : '\n' ∉ (' ' :: inside ++ [' ']) ++ closer label := by
    simp [closer, hn, hinside.2]
  have htake := Lines.takeLine_append hline (' ' :: after)
  have hdrop := Lines.dropLine_append hline (' ' :: after)
  rw [List.append_assoc] at htake hdrop
  have hcut : Marker.cut (closer label)
      ((' ' :: inside ++ [' ']) ++ (closer label ++ ' ' :: Lines.takeLine after)) =
        some (' ' :: inside ++ [' '], ' ' :: Lines.takeLine after) := by
    refine Marker.cut_of_not_mem (c := '}') rfl (by simp [hinside.1]) ?_
    rw [Marker.isBoundary_space, Marker.endsInWord_closer, hw]
  have hsplit := Lines.takeLine_append_dropLine (' ' :: after)
  rw [Lines.takeLine_cons, if_neg (by decide)] at htake hsplit
  rw [afterBlock?, Marker.after?_append_space, Marker.endsInWord_opener, if_pos hw, Option.bind_some,
    hbody, afterCloser?, htake, hdrop, List.append_assoc, hcut, Option.map_some]
  exact congrArg some hsplit

end Form

/-- A block on one line with a space behind both markers goes just if the label ends in a word. The label
may be any text without spaces and line feeds, and what stands around its markers any without braces. -/
theorem stripLabel_spaced (label before inside after : List Char) (hs : ' ' ∉ label)
    (hn : '\n' ∉ label) (hbefore : '{' ∉ before)
    (hinside : '{' ∉ inside ∧ '}' ∉ inside ∧ '\n' ∉ inside) (hafter : '{' ∉ after) :
    stripLabel label
        (before ++ opener label ++ [' '] ++ inside ++ [' '] ++ closer label ++ [' '] ++ after) =
      if Marker.endsInWord label = true then before ++ [' '] ++ [' '] ++ after
      else before ++ opener label ++ [' '] ++ inside ++ [' '] ++ closer label ++ [' '] ++ after := by
  have htext : before ++ opener label ++ [' '] ++ inside ++ [' '] ++ closer label ++ [' '] ++ after =
      before ++ (opener label ++ ' ' :: (inside ++ ' ' :: (closer label ++ ' ' :: after))) := by
    simp
  rw [htext]
  split
  · next hw =>
    have hkept : '{' ∉ before ++ ' ' :: ' ' :: after := by simp [hbefore, hafter]
    have hsingle := Form.afterBlock?_spaced hn hw hinside.2 after
    rw [stripLabel, Form.remove_append_of_not_mem hbefore, Form.remove_of_afterBlock? hsingle,
      Form.remove_space, Form.remove_of_not_mem hafter, Form.remove_of_not_mem hkept]
    simp
  · next hw =>
    have hw := Bool.eq_false_iff.2 hw
    rw [stripLabel, Form.remove_spaced hs hw hbefore hinside.1 hafter,
      Form.remove_spaced hs hw hbefore hinside.1 hafter]

/-- The label has braces and an at sign of its own, and ends in a word. -/
theorem stripLabel_spaced_braced :
    ' ' ∉ "\x7b@é\x7d_".toList ∧ '\n' ∉ "\x7b@é\x7d_".toList ∧ '{' ∉ "a\n".toList ∧
      ('{' ∉ "é@".toList ∧ '}' ∉ "é@".toList ∧ '\n' ∉ "é@".toList) ∧ '{' ∉ "\x7d@b".toList ∧
      stripLabel "\x7b@é\x7d_".toList ("a\n".toList ++ opener "\x7b@é\x7d_".toList ++ [' '] ++
          "é@".toList ++ [' '] ++ closer "\x7b@é\x7d_".toList ++ [' '] ++ "\x7d@b".toList) =
        "a\n".toList ++ [' '] ++ [' '] ++ "\x7d@b".toList := by
  have hs : ' ' ∉ "\x7b@é\x7d_".toList := by decide
  have hn : '\n' ∉ "\x7b@é\x7d_".toList := by decide
  have hi : '{' ∉ "é@".toList ∧ '}' ∉ "é@".toList ∧ '\n' ∉ "é@".toList := by decide
  refine ⟨hs, hn, by decide, hi, by decide, ?_⟩
  rw [stripLabel_spaced _ _ _ _ hs hn (by decide) hi (by decide)]
  decide

/-- Markers of a label that ends in a star are there as it is written, and the block stays. -/
theorem starred_block_stays :
    "a*".toList ≠ [] ∧ "a*".toList.any isBlank = false ∧
      (LabelSet.empty.insert "a*").toList = ["a*"] ∧
      stripLabel "a*".toList "\x7b@a* x \x7d@a* y".toList = "\x7b@a* x \x7d@a* y".toList ∧
      stripLabel "a*".toList ([] ++ opener "a*".toList ++ [' '] ++ ['x'] ++ [' '] ++
          closer "a*".toList ++ [' '] ++ ['y']) ≠ [] ++ [' '] ++ [' '] ++ ['y'] := by
  exact ⟨by decide, by decide, by decide, by decide +kernel, by decide +kernel⟩

end ScriptBundle
