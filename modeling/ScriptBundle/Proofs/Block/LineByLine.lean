import ScriptBundle.Proofs.Block.Joined
import ScriptBundle.Proofs.Block.Thinned

/-!
# Line by line

A block on one line and its label have no line feed, so whether one starts at a place is settled before
the end of the line, and a line feed stays where it is. So removing the blocks of this form from a text
is removing them from each of its lines.
-/

namespace ScriptBundle

variable {marker label text body : List Char}

/-- To a marker the end of a line is like the end of the text. -/
theorem Marker.after?_append_newline (hm : '\n' ∉ marker) :
    after? marker (text ++ ['\n']) = (after? marker text).map (· ++ ['\n']) := by
  have hstarts : ∀ rest, startsInWord (rest ++ ['\n']) = startsInWord rest :=
    fun rest => startsInWord_append_dropLine rest ['\n']
  cases ha : after? marker text with
  | some rest =>
    obtain ⟨rfl, hb⟩ := after?_eq_some_iff.1 ha
    refine after?_eq_some_iff.2 ⟨List.append_assoc _ _ _, ?_⟩
    rw [isBoundary, hstarts]
    exact hb
  | none =>
    cases hb : after? marker (text ++ ['\n']) with
    | none => rfl
    | some rest =>
      obtain ⟨he, hbound⟩ := after?_eq_some_iff.1 hb
      -- the line feed is not in the marker, so it ends what follows
      have hne : rest ≠ [] := by
        rintro rfl
        rw [List.append_nil] at he
        exact hm (he ▸ by simp)
      obtain ⟨r, c, rfl⟩ : ∃ r c, rest = r ++ [c] :=
        ⟨_, _, (List.dropLast_concat_getLast hne).symm⟩
      rw [← List.append_assoc] at he
      obtain ⟨rfl, hc⟩ := List.append_inj' he rfl
      cases hc
      rw [isBoundary, hstarts] at hbound
      rw [after?_eq_some_iff.2 ⟨rfl, hbound⟩] at ha
      cases ha

namespace Form

theorem afterCloser?_append_newline :
    singleLine.afterCloser? label (body ++ ['\n']) =
      (singleLine.afterCloser? label body).map (· ++ ['\n']) := by
  have hline : Lines.takeLine (body ++ ['\n']) = Lines.takeLine body ∧
      Lines.dropLine (body ++ ['\n']) = Lines.dropLine body ++ ['\n'] := by
    by_cases hn : '\n' ∈ body
    · exact ⟨Lines.takeLine_append_of_mem hn _, Lines.dropLine_append_of_mem hn _⟩
    · have htake := Lines.takeLine_append hn []
      have hdrop := Lines.dropLine_append hn []
      rw [List.append_nil] at htake hdrop
      rw [Lines.takeLine_append hn, Lines.dropLine_append hn, htake, hdrop]
      exact ⟨rfl, rfl⟩
  simp only [afterCloser?, hline, Option.map_map]
  congr 1
  funext split
  simp

theorem afterBlock?_nil (form : Form) (label : List Char) : form.afterBlock? label [] = none := by
  cases h : form.afterBlock? label [] with
  | none => rfl
  | some rest => exact absurd (length_lt_of_afterBlock? h) (Nat.not_lt_zero _)

theorem afterBlock?_append_newline (hl : '\n' ∉ label) (text : List Char) :
    singleLine.afterBlock? label (text ++ ['\n']) =
      (singleLine.afterBlock? label text).map (· ++ ['\n']) := by
  rw [afterBlock?, afterBlock?, Marker.after?_append_newline (newline_not_mem_opener hl)]
  cases Marker.after? (opener label) text with
  | none => rfl
  | some body => exact afterCloser?_append_newline

/-- The end of the last line is kept. -/
theorem remove_append_newline (hl : '\n' ∉ label) (text : List Char) :
    singleLine.remove label (text ++ ['\n']) = singleLine.remove label text ++ ['\n'] := by
  fun_induction remove singleLine label text with
  | case1 =>
    have hb := afterBlock?_append_newline hl []
    rw [afterBlock?_nil, Option.map_none, List.nil_append] at hb
    rw [List.nil_append, remove_cons hb, remove_nil]
  | case2 c text rest hb ih =>
    have hb' := afterBlock?_append_newline hl (c :: text)
    rw [hb, Option.map_some] at hb'
    rw [remove_of_afterBlock? hb', ih, List.cons_append]
  | case3 c text hb ih =>
    have hb' := afterBlock?_append_newline hl (c :: text)
    rw [hb, Option.map_none] at hb'
    rw [List.cons_append] at hb' ⊢
    rw [remove_cons hb', ih, List.cons_append]

theorem remove_append_newline_append (hl : '\n' ∉ label) (text more : List Char) :
    singleLine.remove label (text ++ '\n' :: more) =
      singleLine.remove label text ++ '\n' :: singleLine.remove label more := by
  have hended : Lines.Ended (text ++ ['\n']) := .inr (by simp)
  have h := remove_append_singleLine hl hended more
  rw [remove_append_newline hl] at h
  simpa using h

theorem newline_not_mem_remove {form : Form} (h : '\n' ∉ text) : '\n' ∉ form.remove label text := by
  intro hn
  rcases (form.thinned_remove label text).mem_or_eq hn with hm | he
  · exact h hm
  · cases he

/-- The lines of the result are what is left of the lines. -/
theorem splitOn_remove (hl : '\n' ∉ label) (text : List Char) :
    (singleLine.remove label text).splitOn '\n' =
      (text.splitOn '\n').map (singleLine.remove label) := by
  have hline := Lines.not_mem_takeLine text
  rcases Lines.dropLine_cases text with hd | ⟨below, hd⟩
  · have htext := Lines.takeLine_append_dropLine text
    rw [hd, List.append_nil] at htext
    rw [htext] at hline
    rw [List.splitOn_eq_singleton hline, List.splitOn_eq_singleton (newline_not_mem_remove hline),
      List.map_singleton]
  · have htext := Lines.takeLine_append_dropLine text
    rw [hd] at htext
    have hlt : below.length < text.length := by
      rw [← htext, List.length_append, List.length_cons]
      omega
    rw [← htext, remove_append_newline_append hl,
      List.splitOn_append_cons_self_of_not_mem hline,
      List.splitOn_append_cons_self_of_not_mem (newline_not_mem_remove hline), List.map_cons,
      splitOn_remove hl below]
termination_by text.length

end Form

/-- Removing the blocks on single lines goes over a line feed as if the texts on its two sides were
alone. So it is done to each line of a text, and leaves as many lines as there were. -/
theorem remove_singleLine_by_line (label : List Char) (hl : '\n' ∉ label) :
    (∀ a b : List Char, Form.singleLine.remove label (a ++ ['\n'] ++ b) =
        Form.singleLine.remove label a ++ ['\n'] ++ Form.singleLine.remove label b) ∧
      ∀ text : List Char,
        Form.singleLine.remove label text =
            ['\n'].intercalate ((text.splitOn '\n').map (Form.singleLine.remove label)) ∧
          ((Form.singleLine.remove label text).splitOn '\n').length =
            (text.splitOn '\n').length := by
  refine ⟨fun a b => ?_, fun text => ⟨?_, ?_⟩⟩
  · simpa using Form.remove_append_newline_append hl a b
  · rw [← Form.splitOn_remove hl, List.intercalate_splitOn]
  · rw [Form.splitOn_remove hl, List.length_map]

/-- The opener of the first line has its closer on the second, where it is left over, and the second
block of the last line ends with the text. -/
theorem remove_singleLine_by_line_open :
    '\n' ∉ "d".toList ∧
      Form.singleLine.remove "d".toList
          ("\x7b@d é \x7b@dx".toList ++ ['\n'] ++ "\x7d@d \x7b@d\x7b@d\x7d@d \x7b@d \x7d@d".toList) =
        "\x7b@d é \x7b@dx".toList ++ ['\n'] ++ "\x7d@d    ".toList ∧
      ((Form.singleLine.remove "d".toList "\x7b@d\n\x7d@d \x7b@d\x7d@d\n".toList).splitOn
        '\n').length = 3 := by
  have hl : '\n' ∉ "d".toList := by decide
  have hfirst : Form.singleLine.remove "d".toList "\x7b@d é \x7b@dx".toList =
      "\x7b@d é \x7b@dx".toList := by decide +kernel
  have hlast : Form.singleLine.remove "d".toList
      "\x7d@d \x7b@d\x7b@d\x7d@d \x7b@d \x7d@d".toList = "\x7d@d    ".toList := by decide +kernel
  have h := remove_singleLine_by_line "d".toList hl
  refine ⟨hl, ?_, ?_⟩
  · rw [h.1, hfirst, hlast]
  · rw [(h.2 _).2]
    decide +kernel

end ScriptBundle
