import ScriptBundle.Proofs.Text.Scan
import ScriptBundle.Strip

/-!
# Texts in pieces

The second removal of a pass works on what the first one left, so its blocks are stretches of a text
that is not there any more. To say which stretches of the text itself a pass replaces, the removals
are run on pieces: a piece is a character that is kept, or a stretch that is cut out and shows as a
space. A block that shows may have such spaces in it, and then goes with the stretches behind them.

What shows is what stripping leaves (`shown_stripPieces`), nothing is lost (`whole_stripPieces`), and
`stripSpans` lists the stretches by their positions (`replaceSpans_stripSpans`).
-/

namespace ScriptBundle

inductive Piece where
  | kept (c : Char)
  | cut (stretch : List Char)
  deriving DecidableEq, Repr

namespace Piece

def face : Piece → Char
  | kept c => c
  | cut _ => ' '

def content : Piece → List Char
  | kept c => [c]
  | cut stretch => stretch

/-- What shows of the pieces. -/
def shown (ps : List Piece) : List Char := ps.map face

/-- The text that the pieces make up. -/
def whole (ps : List Piece) : List Char := ps.flatMap content

/-- A text of which nothing is cut out. -/
def ofText (text : List Char) : List Piece := text.map kept

/-- A stretch is cut out at a position of the whole text. -/
def CutAt (ps : List Piece) (i : Nat) (stretch : List Char) : Prop :=
  ∃ before after, ps = before ++ cut stretch :: after ∧ i = (whole before).length

/-- Where the stretches that are cut out start and end, if the pieces start at a position. -/
def spansFrom (start : Nat) : List Piece → List (Nat × Nat)
  | [] => []
  | kept _ :: ps => spansFrom (start + 1) ps
  | cut stretch :: ps =>
    (start, start + stretch.length) :: spansFrom (start + stretch.length) ps

@[simp] theorem shown_nil : shown [] = [] := rfl

@[simp] theorem shown_kept (c : Char) (ps : List Piece) : shown (kept c :: ps) = c :: shown ps := rfl

@[simp] theorem shown_cut (stretch : List Char) (ps : List Piece) :
    shown (cut stretch :: ps) = ' ' :: shown ps := rfl

@[simp] theorem shown_append (ps qs : List Piece) : shown (ps ++ qs) = shown ps ++ shown qs :=
  List.map_append

@[simp] theorem length_shown (ps : List Piece) : (shown ps).length = ps.length := List.length_map ..

@[simp] theorem whole_nil : whole [] = [] := rfl

@[simp] theorem whole_kept (c : Char) (ps : List Piece) : whole (kept c :: ps) = c :: whole ps := rfl

@[simp] theorem whole_cut (stretch : List Char) (ps : List Piece) :
    whole (cut stretch :: ps) = stretch ++ whole ps := rfl

@[simp] theorem whole_append (ps qs : List Piece) : whole (ps ++ qs) = whole ps ++ whole qs :=
  List.flatMap_append

@[simp] theorem shown_ofText (text : List Char) : shown (ofText text) = text := by
  simp [shown, ofText, face, Function.comp_def]

@[simp] theorem whole_ofText (text : List Char) : whole (ofText text) = text := by
  simp [whole, ofText, content, List.flatMap_map]

@[simp] theorem ofText_cons (c : Char) (text : List Char) :
    ofText (c :: text) = kept c :: ofText text := rfl

@[simp] theorem ofText_append (a b : List Char) : ofText (a ++ b) = ofText a ++ ofText b :=
  List.map_append

theorem CutAt.append {ps : List Piece} {i : Nat} {stretch : List Char} (h : CutAt ps i stretch)
    (qs : List Piece) : CutAt (qs ++ ps) ((whole qs).length + i) stretch := by
  obtain ⟨before, after, rfl, rfl⟩ := h
  exact ⟨qs ++ before, after, (List.append_assoc _ _ _).symm, by simp⟩

theorem CutAt.mem_spansFrom {ps : List Piece} {i : Nat} {stretch : List Char}
    (h : CutAt ps i stretch) (start : Nat) :
    (start + i, start + i + stretch.length) ∈ spansFrom start ps := by
  obtain ⟨before, after, rfl, rfl⟩ := h
  induction before generalizing start with
  | nil => exact List.mem_cons_self
  | cons p before ih =>
    cases p with
    | kept c =>
      have hm := ih (start + 1)
      simp only [List.cons_append, spansFrom, whole_kept, List.length_cons]
      rwa [Nat.add_right_comm] at hm
    | cut other =>
      have hm := ih (start + other.length)
      simp only [List.cons_append, spansFrom, whole_cut, List.length_append]
      rw [← Nat.add_assoc]
      exact List.mem_cons_of_mem _ hm

theorem le_of_mem_spansFrom {ps : List Piece} {start : Nat} {span : Nat × Nat}
    (h : span ∈ spansFrom start ps) : start ≤ span.1 := by
  induction ps generalizing start with
  | nil => cases h
  | cons p ps ih =>
    cases p with
    | kept c => exact Nat.le_of_succ_le (ih h)
    | cut stretch =>
      rcases List.mem_cons.1 h with rfl | h
      · exact Nat.le_refl _
      · exact Nat.le_trans (Nat.le_add_right _ _) (ih h)

/-- What shows is the text with a space for every span. -/
theorem replaceSpans_spansFrom (before : List Char) (ps : List Piece) :
    replaceSpans (before ++ whole ps) before.length (spansFrom before.length ps) = shown ps := by
  induction ps generalizing before with
  | nil => simp [spansFrom, replaceSpans]
  | cons p ps ih =>
    cases p with
    | kept c =>
      have hrest := ih (before ++ [c])
      rw [List.append_assoc, List.singleton_append, List.length_append, List.length_singleton] at hrest
      rw [spansFrom, whole_kept, shown_kept, ← hrest]
      cases hs : spansFrom (before.length + 1) ps with
      | nil => simp [replaceSpans, ← List.drop_drop]
      | cons span spans =>
        have hle := le_of_mem_spansFrom (hs ▸ List.mem_cons_self : span ∈ spansFrom _ ps)
        obtain ⟨n, hn⟩ := Nat.exists_eq_add_of_le hle
        have hn' : span.1 - before.length = n + 1 := by omega
        have hn'' : span.1 - (before.length + 1) = n := by omega
        simp [replaceSpans, List.extract_eq_take_drop, ← List.drop_drop, hn', hn'']
    | cut stretch =>
      have hrest := ih (before ++ stretch)
      rw [List.append_assoc, List.length_append] at hrest
      simp [spansFrom, replaceSpans, hrest]

/-- Characters that are no spaces and show are kept. -/
theorem exists_eq_append_of_shown {ps : List Piece} {a b : List Char} (ha : ' ' ∉ a)
    (h : shown ps = a ++ b) : ∃ qs, ps = ofText a ++ qs ∧ shown qs = b := by
  induction a generalizing ps with
  | nil => exact ⟨ps, rfl, h⟩
  | cons c a ih =>
    rw [List.mem_cons, not_or] at ha
    cases ps with
    | nil => cases h
    | cons p ps =>
      cases p with
      | kept d =>
        obtain ⟨rfl, hrest⟩ := List.cons.inj h
        obtain ⟨qs, rfl, hq⟩ := ih ha.2 hrest
        exact ⟨qs, rfl, hq⟩
      | cut stretch => exact absurd (List.cons.inj h).1 ha.1

/-- Before the first cut everything is kept. -/
theorem exists_eq_append_of_whole {ps : List Piece} {a b : List Char}
    (h : whole ps = a ++ b) (hcut : ∀ i stretch, CutAt ps i stretch → a.length ≤ i) :
    ∃ qs, ps = ofText a ++ qs ∧ whole qs = b := by
  induction a generalizing ps with
  | nil => exact ⟨ps, rfl, h⟩
  | cons c a ih =>
    cases ps with
    | nil => cases h
    | cons p ps =>
      cases p with
      | kept d =>
        obtain ⟨rfl, hrest⟩ := List.cons.inj h
        have hcut' : ∀ i stretch, CutAt ps i stretch → a.length ≤ i := by
          rintro i stretch ⟨before, after, rfl, rfl⟩
          have hle := hcut _ stretch ⟨kept d :: before, after, rfl, rfl⟩
          simpa using hle
        obtain ⟨qs, rfl, hq⟩ := ih hrest hcut'
        exact ⟨qs, rfl, hq⟩
      | cut stretch =>
        have hle := hcut 0 stretch ⟨[], ps, rfl, rfl⟩
        simp at hle

end Piece

namespace Form

open Piece (shown whole ofText)

variable {form : Form} {label text rest : List Char} {ps : List Piece}

/-- How many pieces a block takes that is followed by `rest`. -/
def taken (ps : List Piece) (rest : List Char) : Nat := ps.length - rest.length

/-- Cuts out every block that shows, the leftmost first. -/
def cutOut (form : Form) (label : List Char) : List Piece → List Piece
  | [] => []
  | p :: ps =>
    match _h : form.afterBlock? label (shown (p :: ps)) with
    | some rest =>
      .cut (whole ((p :: ps).take (taken (p :: ps) rest))) ::
        cutOut form label ((p :: ps).drop (taken (p :: ps) rest))
    | none => p :: cutOut form label ps
termination_by ps => ps.length
decreasing_by
  · have hlt := length_lt_of_afterBlock? _h
    rw [Piece.length_shown] at hlt
    rw [List.length_drop, taken]
    omega
  · exact Nat.lt_succ_self _

/-- The pieces behind a block are those that show as what follows it. -/
theorem shown_drop_taken (h : form.afterBlock? label (shown ps) = some rest) :
    shown (ps.drop (taken ps rest)) = rest := by
  obtain ⟨inside, he⟩ := exists_eq_append_of_afterBlock? h
  have hlen := congrArg List.length he
  rw [Piece.length_shown, List.length_append] at hlen
  have htaken : taken ps rest = (opener label ++ inside ++ closer label).length := by
    rw [taken]
    omega
  rw [shown, List.map_drop, ← shown, he, htaken, List.drop_left]

theorem shown_cutOut (form : Form) (label : List Char) (ps : List Piece) :
    shown (form.cutOut label ps) = form.remove label (shown ps) := by
  fun_induction cutOut form label ps with
  | case1 => simp
  | case2 p ps rest h ih => rw [Piece.shown_cut, ih, shown_drop_taken h, remove_of_afterBlock? h]
  | case3 p ps h ih =>
    cases p with
    | kept c => exact (congrArg (c :: ·) ih).trans (remove_cons h).symm
    | cut stretch => exact (congrArg (' ' :: ·) ih).trans (remove_cons h).symm

theorem whole_cutOut (form : Form) (label : List Char) (ps : List Piece) :
    whole (form.cutOut label ps) = whole ps := by
  fun_induction cutOut form label ps with
  | case1 => rfl
  | case2 p ps rest h ih => rw [Piece.whole_cut, ih, ← Piece.whole_append, List.take_append_drop]
  | case3 p ps h ih => cases p <;> simp [ih]

theorem cutOut_of_afterBlock? {qs : List Piece}
    (h : form.afterBlock? label (shown (ps ++ qs)) = some (shown qs)) :
    form.cutOut label (ps ++ qs) = .cut (whole ps) :: form.cutOut label qs := by
  have htaken : taken (ps ++ qs) (shown qs) = ps.length := by simp [taken]
  cases he : ps ++ qs with
  | nil =>
    rw [he] at h
    exact absurd (length_lt_of_afterBlock? h) (by simp)
  | cons p rest =>
    rw [cutOut]
    split
    · next r hr =>
      rw [he, hr] at h
      cases h
      rw [← he, htaken, List.take_left, List.drop_left]
    · next hn =>
      rw [he, hn] at h
      cases h

theorem cutOut_cons {p : Piece} (h : form.afterBlock? label (shown (p :: ps)) = none) :
    form.cutOut label (p :: ps) = p :: form.cutOut label ps := by
  rw [cutOut]
  split <;> simp_all

end Form

/-- The pieces that one label's pass makes of a text. -/
def stripPieces (label text : List Char) : List Piece :=
  Form.multiLine.cutOut label (Form.singleLine.cutOut label (Piece.ofText text))

theorem shown_stripPieces (label text : List Char) :
    Piece.shown (stripPieces label text) = stripLabel label text := by
  rw [stripPieces, Form.shown_cutOut, Form.shown_cutOut, Piece.shown_ofText, stripLabel]

theorem whole_stripPieces (label text : List Char) :
    Piece.whole (stripPieces label text) = text := by
  rw [stripPieces, Form.whole_cutOut, Form.whole_cutOut, Piece.whole_ofText]

/-- The stretches of a text that one label's pass replaces by spaces: where each starts and ends. -/
def stripSpans (label text : List Char) : List (Nat × Nat) :=
  Piece.spansFrom 0 (stripPieces label text)

theorem replaceSpans_stripSpans (label text : List Char) :
    replaceSpans text 0 (stripSpans label text) = stripLabel label text := by
  have h := Piece.replaceSpans_spansFrom [] (stripPieces label text)
  rwa [whole_stripPieces, shown_stripPieces] at h

end ScriptBundle
