import Mathlib.Data.List.Chain
import ScriptBundle.Proofs.Block.Thinned
import ScriptBundle.Proofs.Text.Lines

/-!
# Line endings

A text is laid out as rows, each a line and how it ends, and a last line that nothing ends. What
reading one row leaves is its line and a line feed, with one exception: a carriage return at its end
and the line feed of an empty row behind it are one line ending (`normalize_row_append`). So a
layout is read line by line exactly if its rows are kept apart (`normalize_text_eq_iff`), and every
text has such a layout (`exists_layout`).
-/

namespace ScriptBundle.Lines

/-- The ways a line can end. -/
inductive Ending where
  | lf
  | crlf
  | cr
  deriving DecidableEq, Repr

def Ending.text : Ending → List Char
  | .lf => ['\n']
  | .crlf => ['\r', '\n']
  | .cr => ['\r']

/-- A line and how it ends. -/
structure Row where
  line : List Char
  ending : Ending
  deriving DecidableEq, Repr

def Row.text (row : Row) : List Char := row.line ++ row.ending.text

structure Layout where
  rows : List Row
  /-- What follows the last line ending. -/
  last : List Char
  deriving DecidableEq, Repr

namespace Layout

def text (layout : Layout) : List Char := layout.rows.flatMap Row.text ++ layout.last

def lines (layout : Layout) : List (List Char) := layout.rows.map Row.line ++ [layout.last]

/-- No line has a line ending in it. -/
def Plain (layout : Layout) : Prop := ∀ line ∈ layout.lines, '\r' ∉ line ∧ '\n' ∉ line

/-- No row that a carriage return ends is followed by an empty one that a line feed ends. -/
def KeptApart (layout : Layout) : Prop :=
  layout.rows.IsChain fun row next => ¬(row.ending = .cr ∧ next.line = [] ∧ next.ending = .lf)

instance (layout : Layout) : Decidable layout.Plain :=
  inferInstanceAs (Decidable (∀ line ∈ layout.lines, _))

instance (layout : Layout) : Decidable layout.KeptApart :=
  inferInstanceAs (Decidable (layout.rows.IsChain _))

variable {row : Row} {rows : List Row} {last : List Char} {layout : Layout}

@[simp] theorem text_nil : text ⟨[], last⟩ = last := rfl

@[simp] theorem text_cons : text ⟨row :: rows, last⟩ = row.text ++ text ⟨rows, last⟩ := by
  simp [text]

theorem plain_nil : Plain ⟨[], last⟩ ↔ '\r' ∉ last ∧ '\n' ∉ last := by
  simp [Plain, lines]

theorem plain_cons : Plain ⟨row :: rows, last⟩ ↔
    ('\r' ∉ row.line ∧ '\n' ∉ row.line) ∧ Plain ⟨rows, last⟩ := by
  simp [Plain, lines]

theorem intercalate_lines_cons : ['\n'].intercalate (lines ⟨row :: rows, last⟩) =
    row.line ++ '\n' :: ['\n'].intercalate (lines ⟨rows, last⟩) := by
  have hne : rows.map Row.line ++ [last] ≠ [] := List.append_ne_nil_of_right_ne_nil _ (by simp)
  simp [lines, List.intercalate_cons_of_ne_nil hne]

/-- A text starts with a line feed just when its first row is an empty line that one ends. -/
theorem head?_text_eq_newline_iff (hp : Plain ⟨rows, last⟩) :
    (text ⟨rows, last⟩).head? = some '\n' ↔
      ∃ next ∈ rows.head?, next.line = [] ∧ next.ending = .lf := by
  cases rows with
  | nil =>
    have hlast : last.head? ≠ some '\n' := fun h => (plain_nil.1 hp).2 (List.mem_of_head? h)
    simpa using hlast
  | cons row rows =>
    obtain ⟨line, ending⟩ := row
    cases line with
    | nil => cases ending <;> simp [Row.text, Ending.text]
    | cons c line =>
      have hc : c ≠ '\n' := fun h => (plain_cons.1 hp).1.2 (h ▸ List.mem_cons_self)
      simpa [Row.text] using hc

theorem keptApart_cons (hp : Plain ⟨rows, last⟩) : KeptApart ⟨row :: rows, last⟩ ↔
    ¬(row.ending = .cr ∧ (text ⟨rows, last⟩).head? = some '\n') ∧ KeptApart ⟨rows, last⟩ := by
  rw [head?_text_eq_newline_iff hp, KeptApart, List.isChain_cons]
  refine and_congr_left' ⟨?_, ?_⟩
  · rintro h ⟨hcr, next, hm, hnext⟩
    exact h next hm ⟨hcr, hnext⟩
  · rintro h next hm ⟨hcr, hnext⟩
    exact h ⟨hcr, next, hm, hnext⟩

/-- Reading a row leaves its line and a line feed, unless the line feed behind it is its own. -/
theorem normalize_row_append (hline : '\r' ∉ row.line) (below : List Char) :
    normalize (row.text ++ below) = row.line ++
      if row.ending = .cr ∧ below.head? = some '\n' then normalize below
      else '\n' :: normalize below := by
  rw [Row.text, List.append_assoc, normalize_append_of_not_mem hline]
  congr 1
  cases row.ending with
  | lf => exact normalize_cons (by decide) below
  | crlf => exact normalize_crlf below
  | cr =>
    split
    · next h =>
      obtain ⟨rest, rfl⟩ := List.head?_eq_some_iff.1 h.2
      rw [normalize_cons (by decide)]
      exact normalize_crlf rest
    · next h => exact normalize_cr fun hb => h ⟨rfl, hb⟩

/-- However the rows meet, no line ending comes in. -/
theorem length_normalize_text_le (hp : layout.Plain) :
    (normalize layout.text).length ≤ (['\n'].intercalate layout.lines).length := by
  obtain ⟨rows, last⟩ := layout
  induction rows with
  | nil => simp [lines, normalize_of_not_mem (plain_nil.1 hp).1]
  | cons row rows ih =>
    obtain ⟨hline, hrest⟩ := plain_cons.1 hp
    have hle := ih hrest
    rw [text_cons, normalize_row_append hline.1, intercalate_lines_cons, List.length_append,
      List.length_append, List.length_cons]
    split
    · omega
    · rw [List.length_cons]
      omega

/-- A layout is read line by line exactly if its rows are kept apart. -/
theorem normalize_text_eq_iff (hp : layout.Plain) :
    normalize layout.text = ['\n'].intercalate layout.lines ↔ layout.KeptApart := by
  obtain ⟨rows, last⟩ := layout
  induction rows with
  | nil =>
    have hlast : normalize last = last := normalize_of_not_mem (plain_nil.1 hp).1
    exact iff_of_true (by simpa [lines] using hlast) List.isChain_nil
  | cons row rows ih =>
    obtain ⟨hline, hrest⟩ := plain_cons.1 hp
    rw [text_cons, normalize_row_append hline.1, intercalate_lines_cons, List.append_right_inj,
      keptApart_cons hrest, ← ih hrest]
    by_cases hmeet : row.ending = .cr ∧ (text ⟨rows, last⟩).head? = some '\n'
    · rw [if_pos hmeet]
      refine iff_of_false (fun hbelow => ?_) fun h => h.1 hmeet
      -- the row's own line feed is missing, and the rows below have none to spare
      have hle := length_normalize_text_le hrest
      rw [hbelow, List.length_cons] at hle
      omega
    · rw [if_neg hmeet]
      simp only [List.cons.injEq, hmeet, not_false_eq_true, true_and]

/-- A line ending in front makes an empty row, unless it runs on into the text. -/
theorem exists_ending_append (ending : Ending) (hp : layout.Plain) (ha : layout.KeptApart)
    (h : ending = .cr → layout.text.head? ≠ some '\n') :
    ∃ longer : Layout, longer.Plain ∧ longer.KeptApart ∧
      longer.text = ending.text ++ layout.text := by
  obtain ⟨rows, last⟩ := layout
  refine ⟨⟨⟨[], ending⟩ :: rows, last⟩, plain_cons.2 ⟨by simp, hp⟩, ?_, text_cons⟩
  exact (keptApart_cons hp).2 ⟨fun hmeet => h hmeet.1 hmeet.2, ha⟩

/-- Any other character in front belongs to the first line. -/
theorem exists_cons {c : Char} (hcr : c ≠ '\r') (hlf : c ≠ '\n') (hp : layout.Plain)
    (ha : layout.KeptApart) :
    ∃ longer : Layout, longer.Plain ∧ longer.KeptApart ∧ longer.text = c :: layout.text := by
  obtain ⟨rows, last⟩ := layout
  cases rows with
  | nil =>
    have hlast : '\r' ∉ c :: last ∧ '\n' ∉ c :: last := by
      simpa [Ne.symm hcr, Ne.symm hlf] using plain_nil.1 hp
    exact ⟨⟨[], c :: last⟩, plain_nil.2 hlast, List.isChain_nil, rfl⟩
  | cons row rows =>
    obtain ⟨hline, hrest⟩ := plain_cons.1 hp
    have hlonger : '\r' ∉ c :: row.line ∧ '\n' ∉ c :: row.line := by
      simpa [Ne.symm hcr, Ne.symm hlf] using hline
    refine ⟨⟨⟨c :: row.line, row.ending⟩ :: rows, last⟩, plain_cons.2 ⟨hlonger, hrest⟩, ?_, ?_⟩
    · have hkept := (keptApart_cons hrest).1 ha
      exact (keptApart_cons hrest).2 hkept
    · simp [Row.text]

/-- Every text is laid out in rows that are kept apart. -/
theorem exists_layout (text : List Char) :
    ∃ layout : Layout, layout.Plain ∧ layout.KeptApart ∧ layout.text = text := by
  fun_induction normalize text with
  | case1 => exact ⟨⟨[], []⟩, plain_nil.2 (by simp), List.isChain_nil, rfl⟩
  | case2 rest ih =>
    obtain ⟨layout, hp, ha, rfl⟩ := ih
    exact exists_ending_append .crlf hp ha (by simp)
  | case3 c rest hc ih =>
    obtain ⟨layout, hp, ha, rfl⟩ := ih
    by_cases hcr : c = '\r'
    · have hapart : layout.text.head? ≠ some '\n' := by
        intro hhead
        obtain ⟨below, hbelow⟩ := List.head?_eq_some_iff.1 hhead
        exact hc below hcr hbelow
      rw [hcr]
      exact exists_ending_append .cr hp ha fun _ => hapart
    · by_cases hlf : c = '\n'
      · rw [hlf]
        exact exists_ending_append .lf hp ha (by simp)
      · exact exists_cons hcr hlf hp ha

end Layout
end ScriptBundle.Lines

namespace ScriptBundle

open Lines

/-- Stripping sees no difference between a text and its lines with line feeds between them. -/
theorem strip_normalize (labels : List String) (text : List Char) :
    strip labels (String.ofList (normalize text)) = strip labels (String.ofList text) := by
  apply String.toList_injective
  rw [toList_strip, toList_strip, String.toList_ofList, String.toList_ofList, normalize_normalize]

theorem not_mem_strip (labels : List String) (text : String) :
    '\r' ∉ (strip labels text).toList := by
  intro hr
  rw [toList_strip] at hr
  rcases mem_or_eq_of_mem_stripLabels hr with hr | hr
  · exact not_mem_normalize _ hr
  · cases hr

/-- How the lines of a text end makes no difference. Lines with any endings, chosen one by one, are
read as the lines with line feeds between them exactly if no carriage return meets the line feed of
an empty row, and then they are stripped like these. Every text is laid out so; reading it a second
time changes nothing, and neither reading nor stripping leaves a carriage return. -/
theorem line_endings_irrelevant :
    (∀ layout : Layout, layout.Plain →
      (normalize layout.text = ['\n'].intercalate layout.lines ↔ layout.KeptApart) ∧
      (layout.KeptApart → ∀ labels : List String,
        strip labels (String.ofList layout.text) =
          strip labels (String.ofList (['\n'].intercalate layout.lines)))) ∧
    ∀ text : String,
      (∃ layout : Layout, layout.Plain ∧ layout.KeptApart ∧ layout.text = text.toList) ∧
      normalize (normalize text.toList) = normalize text.toList ∧
      '\r' ∉ normalize text.toList ∧
      ∀ labels : List String, '\r' ∉ (strip labels text).toList := by
  refine ⟨fun layout hp => ⟨?_, ?_⟩, fun text => ⟨?_, ?_, ?_, ?_⟩⟩
  · exact Layout.normalize_text_eq_iff hp
  · intro ha labels
    rw [← (Layout.normalize_text_eq_iff hp).2 ha, strip_normalize]
  · exact Layout.exists_layout text.toList
  · exact normalize_normalize text.toList
  · exact not_mem_normalize text.toList
  · exact fun labels => not_mem_strip labels text

/-- Two carriage returns and a line feed at the start, a line feed and a carriage return inside of a
block, and a carriage return at the end. -/
def Lines.Layout.mixed : Layout where
  rows := [⟨[], .cr⟩, ⟨[], .crlf⟩, ⟨"\x7b@d".toList, .crlf⟩, ⟨"x".toList, .lf⟩, ⟨[], .cr⟩,
    ⟨"\x7d@d é".toList, .cr⟩]
  last := []

/-- The mixed text, and one in which a line is lost between a carriage return and a line feed. -/
theorem line_endings_irrelevant_mixed :
    Layout.mixed.text = "\r\r\n\x7b@d\r\nx\n\r\x7d@d é\r".toList ∧
      Layout.mixed.Plain ∧ Layout.mixed.KeptApart ∧
      normalize Layout.mixed.text = "\n\n\x7b@d\nx\n\n\x7d@d é\n".toList ∧
      strip ["d"] (String.ofList Layout.mixed.text) = "\n\n  é\n" ∧
      normalize (Layout.mk [⟨"a".toList, .cr⟩, ⟨[], .lf⟩] "b".toList).text ≠
        "a\n\nb".toList := by
  have hplain : Layout.mixed.Plain := by decide
  have hapart : Layout.mixed.KeptApart := by decide
  have hlines : ['\n'].intercalate Layout.mixed.lines = "\n\n\x7b@d\nx\n\n\x7d@d é\n".toList := by
    decide
  obtain ⟨hread, hstrip⟩ := line_endings_irrelevant.1 Layout.mixed hplain
  refine ⟨by decide, hplain, hapart, hlines ▸ hread.2 hapart, ?_, ?_⟩
  · rw [hstrip hapart, hlines]
    decide +kernel
  · exact mt (line_endings_irrelevant.1 _ (by decide)).1.1 (by decide)

end ScriptBundle
