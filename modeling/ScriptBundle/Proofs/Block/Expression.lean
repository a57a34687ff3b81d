import ScriptBundle.Proofs.Block.Place
import ScriptBundle.Proofs.Text.Search
import ScriptBundle.Strip

/-!
# Blocks as search expressions

The blocks of a label in either form are what a search expression matches, and the shortest block at
a position is the match it prefers there. So removing blocks is replacing all matches, and stripping
is doing that for both expressions of every label in turn.
-/

namespace ScriptBundle

/-- All characters but the line feed. -/
def CharSet.inLine : CharSet := .complement (.single '\n')

/-- A marker, and a word starts or ends behind it. -/
def Search.marker (cs : List Char) : Search := .seq (.literal cs) (.look .wordEdge)

/-- What the expression for a form has between its markers. -/
def Form.filling (form : Form) : Search :=
  match form with
  | .singleLine => .many .inLine true
  | .multiLine => .seq (.many .inLine false) (.seq (.literal ['\n']) (.many .all true))

/-- The expression that matches the blocks of a form: for a label `L` on a single line
`\{@L\b[^\n]*?\}@L\b`, and for more lines `\{@L\b[^\n]*\n[\s\S]*?\}@L\b`. -/
def Form.expression (form : Form) (label : List Char) : Search :=
  .seq (.marker (opener label)) (.seq form.filling (.marker (closer label)))

theorem has_wordChars (c : Char) : CharSet.wordChars.has c = isWord c := by
  have hu : CharSet.upper.has c = c.isUpper := by
    change CharSet.upper.has c = decide (c.val ≥ 'A'.val ∧ c.val ≤ 'Z'.val)
    simp [CharSet.upper, CharSet.has, Char.le_def]
  have hs : (CharSet.single '_').has c = (c == '_') := by rw [CharSet.has_single, Bool.beq_comm]
  change (CharSet.upper.has c || c.isLower || c.isDigit || (CharSet.single '_').has c) = isWord c
  rw [hu, hs]
  rfl

theorem isWordChar_eq (c : Option Char) : Regex.isWordChar c = c.any isWord := by
  cases c with
  | none => rfl
  | some c => exact has_wordChars c

/-- A search's edge of a word is a marker's. -/
theorem holds_wordEdge {text : List Char} {i : Nat} (h : i ≤ text.length) :
    Regex.Look.holds text.toArray i .wordEdge = isEdge text i := by
  have hafter : text.toArray[i]? = (text.drop i).head? := by
    rw [List.getElem?_toArray, List.head?_drop]
  have hbefore : (if i = 0 then none else text.toArray[i - 1]?) = (text.take i).getLast? := by
    cases i with
    | zero => rfl
    | succ i => simp [List.getLast?_eq_getElem?, Nat.min_eq_left h]
  simp only [Regex.Look.holds, hbefore, hafter, isWordChar_eq]
  rfl

theorem has_inLine (c : Char) : CharSet.inLine.has c = decide (c ≠ '\n') := by
  have h : (CharSet.single '\n').has c = (c == '\n') := by rw [CharSet.has_single, Bool.beq_comm]
  rw [CharSet.inLine, CharSet.has, h]
  by_cases hc : c = '\n' <;> simp [hc]

namespace Search

variable {text : List Char} {set : CharSet} {i j k n : Nat}

theorem ends_marker {cs : List Char} (hm : cs ≠ []) (text : List Char) (k : Nat) :
    Marker.At cs text k ∧ (marker cs).ends text k = [k + cs.length] ∨
      ¬Marker.At cs text k ∧ (marker cs).ends text k = [] := by
  by_cases hp : cs <+: text.drop k
  · have hlen := hp.length_le
    have hpos := List.length_pos_iff.2 hm
    rw [List.length_drop] at hlen
    have hedge : Regex.Look.holds text.toArray (k + cs.length) .wordEdge = _ :=
      holds_wordEdge (by omega)
    cases he : isEdge text (k + cs.length) with
    | true => exact .inl ⟨⟨hp, he⟩, by simp [marker, ends, hp, hedge, he]⟩
    | false =>
      refine .inr ⟨fun h => ?_, by simp [marker, ends, hp, hedge, he]⟩
      rw [h.edge] at he
      cases he
  · exact .inr ⟨fun h => hp h.stands, by simp [marker, ends, hp]⟩

theorem mem_ends_marker {cs : List Char} (hm : cs ≠ []) :
    j ∈ (marker cs).ends text k ↔ Marker.At cs text k ∧ j = k + cs.length := by
  rcases ends_marker hm text k with ⟨ha, he⟩ | ⟨ha, he⟩ <;> simp [ha, he]

theorem sorted_ends_marker {cs : List Char} (hm : cs ≠ []) {stops : List Nat}
    (h : stops.Pairwise (· < ·)) : (stops.flatMap ((marker cs).ends text)).Pairwise (· < ·) := by
  refine List.pairwise_flatMap.2 ⟨fun k _ => ?_, h.imp fun {k k'} hlt j hj j' hj' => ?_⟩
  · rcases ends_marker hm text k with ⟨-, he⟩ | ⟨-, he⟩ <;> simp [he]
  · have hk := ((mem_ends_marker hm).1 hj).2
    have hk' := ((mem_ends_marker hm).1 hj').2
    omega

theorem mem_ends_many {isLazy : Bool} :
    j ∈ (many set isLazy).ends text i ↔ i ≤ j ∧ j ≤ i + room text set i := by
  have h : j ∈ List.range' i (room text set i + 1) ↔ i ≤ j ∧ j ≤ i + room text set i := by
    rw [List.mem_range'_1]
    omega
  cases isLazy <;> simpa [ends] using h

/-- Behind a greedy repetition that can only go on where it is longest, only that counts. -/
theorem ends_seq_greedy {p : Search}
    (h : ∀ n, n < i + room text set i → i ≤ n → p.ends text n = []) :
    (seq (many set false) p).ends text i = p.ends text (i + room text set i) := by
  have hlast : (List.range' i (room text set i + 1)).reverse =
      (i + room text set i) :: (List.range' i (room text set i)).reverse := by
    rw [List.range'_concat, List.reverse_append]
    simp
  have hnil : (List.range' i (room text set i)).reverse.flatMap (p.ends text) = [] := by
    refine List.flatMap_eq_nil_iff.2 fun n hn => ?_
    have hm := List.mem_range'_1.1 (List.mem_reverse.1 hn)
    exact h n hm.2 hm.1
  simp [ends, hlast, hnil]

theorem room_inLine : room text .inLine i = (Lines.takeLine (text.drop i)).length := by
  rw [room, funext has_inLine]
  rfl

theorem room_all : room text .all i = text.length - i := by
  have h : (text.drop i ++ []).takeWhile CharSet.all.has = text.drop i ++ [].takeWhile _ :=
    List.takeWhile_append_of_pos fun _ _ => rfl
  rw [List.append_nil, List.takeWhile_nil, List.append_nil] at h
  rw [room, h, List.length_drop]

theorem drop_add_room : text.drop (i + room text .inLine i) = Lines.dropLine (text.drop i) := by
  have h := congrArg (List.drop (Lines.takeLine (text.drop i)).length)
    (Lines.takeLine_append_dropLine (text.drop i))
  rw [List.drop_left] at h
  rw [room_inLine, ← List.drop_drop, h]

/-- A stretch lies in one line if it has no line feed. -/
theorem le_room_inLine {i n : Nat} (hk : i + n ≤ text.length) :
    n ≤ room text .inLine i ↔ '\n' ∉ text.extract i (i + n) := by
  rw [room_inLine, List.extract_eq_take_drop, Nat.add_sub_cancel_left]
  have hlen : ((text.drop i).take n).length = n := by
    rw [List.length_take, List.length_drop]
    omega
  constructor
  · intro hle hn
    rw [← Lines.takeLine_append_dropLine (text.drop i), List.take_append_of_le_length hle] at hn
    exact Lines.not_mem_takeLine _ (List.mem_of_mem_take hn)
  · intro hn
    have ht := Lines.takeLine_append hn ((text.drop i).drop n)
    rw [List.take_append_drop] at ht
    rw [ht, List.length_append, hlen]
    omega

/-- A line feed from `i` on lies before `k` exactly if the line at `i` does not reach `k`. -/
theorem newline_mem_extract (hik : i ≤ k) (hk : k ≤ text.length) :
    '\n' ∈ text.extract i k ↔ i + room text .inLine i < k := by
  have hlen : i + (k - i) ≤ text.length := by omega
  have h := le_room_inLine hlen
  rw [Nat.add_sub_cancel' hik] at h
  have hn := not_congr h
  rw [Decidable.not_not] at hn
  rw [← hn]
  omega

theorem ends_newline_seq {p : Search} {below : List Char} (h : text.drop n = '\n' :: below) :
    (seq (.literal ['\n']) p).ends text n = p.ends text (n + 1) := by
  simp [ends, h]

theorem ends_newline_seq_eq_nil {p : Search} (h : ∀ below, text.drop n ≠ '\n' :: below) :
    (seq (.literal ['\n']) p).ends text n = [] := by
  cases hd : text.drop n with
  | nil => simp [ends, hd]
  | cons c below =>
    have hc : '\n' ≠ c := fun e => h below (by rw [hd, e])
    simp [ends, hd, hc]

/-- A line feed ends the rest of the line, and there is only one place where that can be. -/
theorem ends_below {p : Search} :
    (seq (.many .inLine false) (.seq (.literal ['\n']) p)).ends text i =
      if '\n' ∈ text.drop i then p.ends text (i + room text .inLine i + 1) else [] := by
  have hgreedy : ∀ n, n < i + room text .inLine i → i ≤ n →
      (seq (.literal ['\n']) p).ends text n = [] := by
    intro n hn hi
    refine ends_newline_seq_eq_nil fun below hd => ?_
    have hlen : n < text.length := List.length_lt_of_drop_ne_nil (by simp [hd])
    have hmem : '\n' ∈ text.extract i (n + 1) := by
      have hget : (text.drop i)[n - i]? = some '\n' := by
        rw [List.getElem?_drop, Nat.add_sub_cancel' hi, ← List.head?_drop, hd]
        rfl
      rw [List.extract_eq_take_drop, Nat.sub_add_comm hi, List.take_add_one, hget]
      simp
    have hlt := (newline_mem_extract (by omega) (by omega)).1 hmem
    omega
  rw [ends_seq_greedy hgreedy]
  split
  · next hn =>
    obtain ⟨below, hd⟩ := Lines.exists_dropLine_eq hn
    exact ends_newline_seq (drop_add_room.trans hd)
  · next hn =>
    refine ends_newline_seq_eq_nil fun below hd => hn ?_
    rw [drop_add_room] at hd
    rw [← Lines.takeLine_append_dropLine (text.drop i), hd]
    simp

theorem sorted_ends_lazy : ((many set true).ends text i).Pairwise (· < ·) := by
  simpa [ends] using List.pairwise_lt_range'

end Search

namespace Form

variable {form : Form} {label text : List Char} {i j k : Nat}

/-- The filling can end wherever the text up to there may stand in a block. -/
theorem mem_ends_filling (hi : i ≤ text.length) : k ∈ form.filling.ends text i ↔
    i ≤ k ∧ k ≤ text.length ∧ form.Admits (text.extract i k) := by
  have hroom : i + Search.room text .inLine i ≤ text.length := by
    have hlen := congrArg List.length (Lines.takeLine_append_dropLine (text.drop i))
    rw [List.length_append, List.length_drop] at hlen
    rw [Search.room_inLine]
    omega
  cases form with
  | singleLine =>
    rw [filling, Search.mem_ends_many]
    constructor
    · rintro ⟨hik, hk⟩
      exact ⟨hik, by omega, fun hn => by
        have hlt := (Search.newline_mem_extract hik (by omega)).1 hn
        omega⟩
    · rintro ⟨hik, hk, ha⟩
      exact ⟨hik, Nat.not_lt.1 fun hlt => ha ((Search.newline_mem_extract hik hk).2 hlt)⟩
  | multiLine =>
    rw [filling, Search.ends_below]
    constructor
    · intro h
      split at h
      · next hn =>
        rw [Search.mem_ends_many, Search.room_all] at h
        have hlt : i + Search.room text .inLine i < text.length := by
          obtain ⟨below, hd⟩ := Lines.exists_dropLine_eq hn
          exact List.length_lt_of_drop_ne_nil (by simp [Search.drop_add_room, hd])
        exact ⟨by omega, by omega, (Search.newline_mem_extract (by omega) (by omega)).2 (by omega)⟩
      · cases h
    · rintro ⟨hik, hk, ha⟩
      have hlt := (Search.newline_mem_extract hik hk).1 ha
      rw [if_pos (List.mem_of_mem_take ha), Search.mem_ends_many, Search.room_all]
      omega

theorem sorted_ends_filling : (form.filling.ends text i).Pairwise (· < ·) := by
  cases form with
  | singleLine => exact Search.sorted_ends_lazy
  | multiLine =>
    rw [filling, Search.ends_below]
    split
    · exact Search.sorted_ends_lazy
    · exact List.Pairwise.nil

/-- An expression ends where the filling and a closer end, if there is an opener. -/
theorem ends_expression (form : Form) (label text : List Char) (i : Nat) :
    Marker.At (opener label) text i ∧ (form.expression label).ends text i =
        (form.filling.ends text (i + (opener label).length)).flatMap
          ((Search.marker (closer label)).ends text) ∨
      ¬Marker.At (opener label) text i ∧ (form.expression label).ends text i = [] := by
  rcases Search.ends_marker (opener_ne_nil label) text i with ⟨ha, he⟩ | ⟨ha, he⟩
  · exact .inl ⟨ha, by simp [expression, Search.ends, he]⟩
  · exact .inr ⟨ha, by simp [expression, Search.ends, he]⟩

/-- The expression of a form matches exactly its blocks. -/
theorem mem_ends_expression :
    j ∈ (form.expression label).ends text i ↔ form.Block label text i j := by
  rcases ends_expression form label text i with ⟨ho, he⟩ | ⟨ho, he⟩
  · have hi := ho.add_length_le (opener_ne_nil label)
    rw [he, List.mem_flatMap]
    simp only [mem_ends_filling hi, Search.mem_ends_marker (closer_ne_nil label)]
    constructor
    · rintro ⟨k, ⟨hik, -, ha⟩, hc, rfl⟩
      exact ⟨ho, k, hik, hc, ha, rfl⟩
    · rintro ⟨-, k, hik, hc, ha, rfl⟩
      have hk := hc.add_length_le (closer_ne_nil label)
      exact ⟨k, ⟨hik, by omega, ha⟩, hc, rfl⟩
  · rw [he]
    exact ⟨fun h => absurd h List.not_mem_nil, fun h => absurd h.1 ho⟩

/-- It prefers the shorter block. -/
theorem sorted_ends_expression :
    ((form.expression label).ends text i).Pairwise (· < ·) := by
  rcases ends_expression form label text i with ⟨-, he⟩ | ⟨-, he⟩
  · rw [he]
    exact Search.sorted_ends_marker (closer_ne_nil label) sorted_ends_filling
  · rw [he]
    exact List.Pairwise.nil

/-- Removing the blocks of a form is replacing all matches of its expression. -/
theorem remove_eq_replaceAll (hl : '\n' ∉ label) (text : List Char) :
    form.remove label text = (form.expression label).replaceAll text := by
  obtain ⟨spans, hs, he⟩ := form.exists_scan_remove hl text 0
  have hscan : Scan (form.Block label text) 0 ((form.expression label).spans text 0) := by
    refine Search.scan_spans (fun i j => mem_ends_expression) (fun i => sorted_ends_expression) ?_ 0
    intro i j hb
    have hlt := hb.lt
    omega
  rw [Search.replaceAll, ← hs.unique hscan, ← he, List.drop_zero]

end Form

/-- One label's pass by replacing matches. -/
def replaceLabel (label text : List Char) : List Char :=
  (Form.multiLine.expression label).replaceAll ((Form.singleLine.expression label).replaceAll text)

theorem stripLabel_eq_replaceLabel {label : List Char} (hl : '\n' ∉ label) (text : List Char) :
    stripLabel label text = replaceLabel label text := by
  rw [stripLabel, replaceLabel, Form.remove_eq_replaceAll hl, Form.remove_eq_replaceAll hl]

theorem stripLabels_eq_foldl (labels : List (List Char)) (hl : ∀ label ∈ labels, '\n' ∉ label)
    (text : List Char) :
    stripLabels labels text = labels.foldl (fun text label => replaceLabel label text) text := by
  induction labels generalizing text with
  | nil => rfl
  | cons label labels ih =>
    have hlabel := hl label List.mem_cons_self
    have hrest := fun l h => hl l (List.mem_cons_of_mem label h)
    rw [stripLabels_cons, List.foldl_cons, stripLabel_eq_replaceLabel hlabel, ih hrest]

/-- Stripping replaces, label after label, all matches of the two expressions of the label, each by
a space; and what a removal replaces are the blocks of its form, always the leftmost one and of
those that start there the shortest. -/
theorem strip_eq_replaceAll (labels : List String) (hl : ∀ label ∈ labels, '\n' ∉ label.toList)
    (text : String) :
    (strip labels text).toList =
        (labels.map String.toList).foldl
          (fun text label => (Form.multiLine.expression label).replaceAll
            ((Form.singleLine.expression label).replaceAll text))
          (Lines.normalize text.toList) ∧
      ∀ label ∈ labels, ∀ (form : Form) (t : List Char), ∃ spans,
        Scan (form.Block label.toList t) 0 spans ∧
          form.remove label.toList t = replaceSpans t 0 spans := by
  constructor
  · rw [toList_strip]
    exact stripLabels_eq_foldl _ (List.forall_mem_map.2 hl) _
  · intro label hm form t
    simpa using form.exists_scan_remove (hl label hm) t 0

/-- Blocks of two labels within each other, a second opener in a block, and openers that stay. -/
theorem strip_eq_replaceAll_overlapping :
    (∀ label ∈ ["b", "a"], '\n' ∉ label.toList) ∧
      (["b", "a"].map String.toList).foldl
          (fun text label => (Form.multiLine.expression label).replaceAll
            ((Form.singleLine.expression label).replaceAll text))
          (Lines.normalize
            "\x7b@a\r\n1 \x7b@b\x7b@b é \x7d@b;\n2\n\x7d@a 3\r\x7d@b \x7b@b".toList) =
        "  3\n\x7d@b \x7b@b".toList := by
  have hl : ∀ label ∈ ["b", "a"], '\n' ∉ label.toList := by decide
  have h := (strip_eq_replaceAll ["b", "a"] hl
    "\x7b@a\r\n1 \x7b@b\x7b@b é \x7d@b;\n2\n\x7d@a 3\r\x7d@b \x7b@b").1
  have hv : (strip ["b", "a"]
      "\x7b@a\r\n1 \x7b@b\x7b@b é \x7d@b;\n2\n\x7d@a 3\r\x7d@b \x7b@b").toList =
      "  3\n\x7d@b \x7b@b".toList := by decide +kernel
  exact ⟨hl, h.symm.trans hv⟩

end ScriptBundle
