import ScriptBundle.Proofs.Block.Pieces
import ScriptBundle.Proofs.Block.Sealed

/-!
# The pieces of a pass

Every stretch that a pass cuts out of a text is marked where it stands and sealed
(`tiled_stripPieces`). So it begins with a brace and no word goes on behind it, and a marker shows in
the pieces only where it stands in the text; the other way round, a marker of the text shows if its
first character is kept.
-/

namespace ScriptBundle

variable {label text : List Char}

open Piece (shown whole ofText CutAt)

/-- Every stretch that is cut out is marked where it stands, and sealed. -/
inductive Tiled (label : List Char) : List Piece → Prop where
  | nil : Tiled label []
  | kept {c : Char} {ps : List Piece} : Tiled label ps → Tiled label (.kept c :: ps)
  | cut {stretch inside : List Char} {ps : List Piece} :
      Marked label (stretch ++ whole ps) inside (whole ps) → Sealed label stretch →
      Tiled label ps → Tiled label (.cut stretch :: ps)

namespace Form

variable {form : Form} {p : Piece} {ps qs : List Piece}

/-- The first piece of a text is its first character or a block. -/
theorem cutOut_ofText_cases (h : form.cutOut label (ofText text) = p :: ps) :
    (∃ c tail, text = c :: tail ∧ p = .kept c ∧ ps = form.cutOut label (ofText tail)) ∨
      ∃ inside rest, text = opener label ++ inside ++ closer label ++ rest ∧
        form.afterBlock? label text = some rest ∧
        p = .cut (opener label ++ inside ++ closer label) ∧
        ps = form.cutOut label (ofText rest) := by
  cases hb : form.afterBlock? label text with
  | none =>
    cases text with
    | nil => simp [ofText, cutOut] at h
    | cons c tail =>
      rw [Piece.ofText_cons, cutOut_cons (by simpa using hb)] at h
      obtain ⟨rfl, rfl⟩ := List.cons.inj h
      exact .inl ⟨c, tail, rfl, rfl, rfl⟩
  | some rest =>
    obtain ⟨inside, he, -⟩ := exists_block_of_afterBlock? hb
    have hshown : form.afterBlock? label (shown (ofText (opener label ++ inside ++ closer label) ++
        ofText rest)) = some (shown (ofText rest)) := by
      rw [← Piece.ofText_append, Piece.shown_ofText, Piece.shown_ofText, ← he, hb]
    rw [he, Piece.ofText_append, cutOut_of_afterBlock? hshown, Piece.whole_ofText] at h
    obtain ⟨rfl, rfl⟩ := List.cons.inj h
    exact .inr ⟨inside, rest, he, rfl, rfl, rfl⟩

/-- The last pieces of a text are the pieces of a text. -/
theorem exists_cutOut_of_append (h : form.cutOut label (ofText text) = qs ++ ps) :
    ∃ tail, ps = form.cutOut label (ofText tail) := by
  induction qs generalizing text with
  | nil => exact ⟨text, h.symm⟩
  | cons q qs ih =>
    rw [List.cons_append] at h
    rcases cutOut_ofText_cases h with ⟨c, tail, -, -, ht⟩ | ⟨inside, rest, -, -, -, ht⟩
    · exact ih ht.symm
    · exact ih ht.symm

theorem startsInWord_whole (h : ps = form.cutOut label (ofText text)) :
    Marker.startsInWord (whole ps) = Marker.startsInWord (shown ps) := by
  rw [h, whole_cutOut, shown_cutOut, startsInWord_remove, Piece.whole_ofText, Piece.shown_ofText]

end Form

/-- The pieces of a block that shows after the first removal: its markers are whole. -/
theorem exists_pieces_of_block (hl : IsName label) {inside : List Char} {ps : List Piece}
    (h : shown ps = opener label ++ inside ++ closer label) :
    ∃ qs, ps = ofText (opener label) ++ qs ++ ofText (closer label) := by
  rw [List.append_assoc] at h
  obtain ⟨rs, rfl, hr⟩ := Piece.exists_eq_append_of_shown hl.space_not_mem_opener h
  obtain ⟨qs, tail, rfl, -, ht⟩ := List.map_eq_append_iff.1 hr
  obtain ⟨rest, rfl, hnil⟩ := Piece.exists_eq_append_of_shown hl.space_not_mem_closer
    (ht.trans (List.append_nil _).symm)
  rw [List.map_eq_nil_iff.1 hnil, List.append_nil]
  exact ⟨qs, (List.append_assoc _ _ _).symm⟩

/-- A block of the second removal is marked in the text, and its stretch is sealed. -/
theorem marked_and_sealed_of_multiLine (hl : IsName label) {ps qs : List Piece}
    (hps : Form.singleLine.cutOut label (ofText text) = ps ++ qs)
    (hb : Form.multiLine.afterBlock? label (shown (ps ++ qs)) = some (shown qs)) :
    (∃ inside, Marked label (whole ps ++ whole qs) inside (whole qs)) ∧ Sealed label (whole ps) := by
  obtain ⟨tail, htail⟩ := Form.exists_cutOut_of_append hps
  have hword := Form.startsInWord_of_afterBlock? hl hb
  have hrest : Marker.startsInWord (whole qs) = false := by
    rw [Form.startsInWord_whole htail, hword]
  obtain ⟨inside, hm, -⟩ := Form.marked_of_afterBlock? hb
  have hshown := hm.split
  rw [Piece.shown_append] at hshown
  have hblock := List.append_cancel_right hshown
  obtain ⟨middle, rfl⟩ := exists_pieces_of_block hl hblock
  constructor
  · refine ⟨whole middle, by simp, ?_, (hl.isBoundary_closer _).2 hrest⟩
    have hpieces : Form.singleLine.cutOut label (ofText text) =
        ofText (opener label) ++ (middle ++ ofText (closer label) ++ qs) := by
      rw [hps]
      simp only [List.append_assoc]
    obtain ⟨body, hbody⟩ := Form.exists_cutOut_of_append hpieces
    have hopen := Form.startsInWord_whole hbody
    have hinside : shown middle = inside := by simpa using hblock
    simp only [Piece.whole_append, Piece.shown_append, Piece.whole_ofText, Piece.shown_ofText,
      hinside] at hopen
    rw [Marker.isBoundary, hopen]
    exact hm.opens
  · have hremoved := congrArg shown hps
    rw [Form.shown_cutOut, Piece.shown_ofText] at hremoved
    have hwhole := congrArg whole hps
    rw [Form.whole_cutOut, Piece.whole_ofText, Piece.whole_append] at hwhole
    have hclosed : EndsClosed label (whole (ofText (opener label) ++ middle ++ ofText (closer label))) :=
      .inr ⟨opener label ++ whole middle, by simp⟩
    have hqs : Form.singleLine.remove label (whole qs) = shown qs := by
      rw [htail, Form.whole_cutOut, Form.shown_cutOut, Piece.whole_ofText, Piece.shown_ofText]
    rw [hwhole, Form.remove_append_of_endsClosed hl hclosed hrest, hqs] at hremoved
    have hend : whole (ofText (opener label) ++ middle ++ ofText (closer label)) =
        opener label ++ whole middle ++ closer label := by simp
    rw [← hqs, ← hremoved, hqs] at hb
    exact sealed_of_multiLine hl hend hb

/-- The stretches of a pass are sealed. -/
theorem tiled_stripPieces (hl : IsName label) (text : List Char) :
    Tiled label (stripPieces label text) := by
  rw [stripPieces]
  generalize hps : Form.singleLine.cutOut label (ofText text) = ps
  fun_induction Form.cutOut Form.multiLine label ps generalizing text with
  | case1 => exact .nil
  | case2 p ps rest hb ih =>
    have hsplit := List.take_append_drop (Form.taken (p :: ps) rest) (p :: ps)
    have hpieces := hps.trans hsplit.symm
    obtain ⟨⟨inside, hm⟩, hs⟩ := marked_and_sealed_of_multiLine hl hpieces
      (by rw [hsplit, Form.shown_drop_taken hb, hb])
    obtain ⟨tail, htail⟩ := Form.exists_cutOut_of_append hpieces
    exact .cut (by rwa [Form.whole_cutOut]) hs (ih tail htail.symm)
  | case3 p ps hb ih =>
    rcases Form.cutOut_ofText_cases hps with ⟨c, tail, -, rfl, ht⟩ | ⟨inside, rest, he, hr, rfl, ht⟩
    · exact .kept (ih tail ht.symm)
    · obtain ⟨inside', hm, -⟩ := Form.marked_of_afterBlock? hr
      have hwhole : whole (Form.multiLine.cutOut label ps) = rest := by
        rw [Form.whole_cutOut, ht, Form.whole_cutOut, Piece.whole_ofText]
      rw [he] at hr hm
      exact .cut (by rw [hwhole]; exact hm) (sealed_of_singleLine hl hr) (ih rest ht.symm)

namespace Tiled

variable {marker : List Char} {ps qs : List Piece}

theorem of_cons {p : Piece} (h : Tiled label (p :: ps)) : Tiled label ps := by
  cases h with
  | kept h => exact h
  | cut _ _ h => exact h

theorem of_append (h : Tiled label (qs ++ ps)) : Tiled label ps := by
  induction qs with
  | nil => exact h
  | cons q qs ih => exact ih h.of_cons

theorem startsInWord_whole (h : Tiled label ps) :
    Marker.startsInWord (whole ps) = Marker.startsInWord (shown ps) := by
  cases h with
  | nil => rfl
  | kept => rfl
  | cut hm => exact hm.startsInWord

theorem length_pos_of_cutAt {i : Nat} {stretch : List Char} (h : Tiled label ps)
    (hc : CutAt ps i stretch) : 0 < stretch.length := by
  obtain ⟨before, after, rfl, rfl⟩ := hc
  cases h.of_append with
  | cut hm =>
    rw [List.append_cancel_right hm.split]
    simp only [List.length_append, length_opener]
    omega

/-- A stretch begins with a brace. -/
theorem getElem?_of_cutAt {i : Nat} {stretch : List Char} (h : Tiled label ps)
    (hc : CutAt ps i stretch) : (whole ps)[i]? = some '{' := by
  obtain ⟨before, after, rfl, rfl⟩ := hc
  cases h.of_append with
  | cut hm =>
    have hhead := hm.split
    rw [Piece.whole_append, List.getElem?_append_right (Nat.le_refl _), Nat.sub_self,
      Piece.whole_cut, hhead]
    rfl

/-- A marker that shows stands in the text. -/
theorem after?_whole {rest : List Char} (h : Tiled label ps) (hs : ' ' ∉ marker)
    (ha : Marker.after? marker (shown ps) = some rest) :
    ∃ qs, shown qs = rest ∧ Marker.after? marker (whole ps) = some (whole qs) := by
  obtain ⟨he, hb⟩ := Marker.after?_eq_some_iff.1 ha
  obtain ⟨qs, rfl, rfl⟩ := Piece.exists_eq_append_of_shown hs he
  refine ⟨qs, rfl, Marker.after?_eq_some_iff.2 ⟨by simp, ?_⟩⟩
  rw [Marker.isBoundary, h.of_append.startsInWord_whole]
  exact hb

/-- A marker of the text shows if its first character is kept. -/
theorem after?_shown {c : Char} {rest : List Char} (h : Tiled label (.kept c :: ps))
    (hm : '{' ∉ marker.tail) (ha : Marker.after? marker (c :: whole ps) = some rest) :
    ∃ rest', Marker.after? marker (c :: shown ps) = some rest' := by
  obtain ⟨he, hb⟩ := Marker.after?_eq_some_iff.1 ha
  have hwhole : whole (.kept c :: ps) = marker ++ rest := he
  have hcut : ∀ i stretch, CutAt (.kept c :: ps) i stretch → marker.length ≤ i := by
    intro i stretch hc
    have hbrace := h.getElem?_of_cutAt hc
    rw [hwhole] at hbrace
    refine Nat.le_of_not_lt fun hlt => ?_
    rw [List.getElem?_append_left hlt] at hbrace
    cases i with
    | zero =>
      obtain ⟨before, after, hp, hi⟩ := hc
      cases before with
      | nil => cases hp
      | cons p before =>
        obtain ⟨rfl, -⟩ := List.cons.inj hp
        simp at hi
    | succ i =>
      refine hm (List.mem_of_getElem? (i := i) ?_)
      rw [List.getElem?_tail, hbrace]
  obtain ⟨qs, hq, rfl⟩ := Piece.exists_eq_append_of_whole hwhole hcut
  rw [hq] at h
  refine ⟨shown qs, Marker.after?_eq_some_iff.2 ⟨?_, ?_⟩⟩
  · rw [← Piece.shown_kept, hq, Piece.shown_append, Piece.shown_ofText]
  · rw [Marker.isBoundary, ← h.of_append.startsInWord_whole]
    exact hb

end Tiled
end ScriptBundle
