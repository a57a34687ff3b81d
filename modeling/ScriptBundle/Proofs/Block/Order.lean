import ScriptBundle.Proofs.Block.Tiled

/-!
# The order of two labels

Two labels whose passes cut different stretches out of a text may be stripped in either order, if
neither pass leaves an opener of its label. The pieces of the two passes are then laid side by side:
each character is kept by both, or goes in a stretch of one and is kept by the other (`Beside`). The
second pass goes through what the first one left and meets no new opener, because all openers of its
label are in its own stretches and a space makes no marker; and its stretches are sealed, so they go
whatever the first pass has made of the text behind them.
-/

namespace ScriptBundle

open Piece (shown whole ofText CutAt spansFrom)

variable {a b : List Char} {ps qs : List Piece}

/-- The pieces of two passes over one text, with different stretches. -/
inductive Beside : List Piece → List Piece → Prop where
  | nil : Beside [] []
  | kept {c : Char} {ps qs : List Piece} : Beside ps qs → Beside (.kept c :: ps) (.kept c :: qs)
  | left {stretch : List Char} {ps qs : List Piece} :
      Beside ps qs → Beside (.cut stretch :: ps) (ofText stretch ++ qs)
  | right {stretch : List Char} {ps qs : List Piece} :
      Beside ps qs → Beside (ofText stretch ++ ps) (.cut stretch :: qs)

theorem Beside.symm (h : Beside ps qs) : Beside qs ps := by
  induction h with
  | nil => exact .nil
  | kept _ ih => exact .kept ih
  | left _ ih => exact .right ih
  | right _ ih => exact .left ih

theorem Beside.whole_eq (h : Beside ps qs) : whole ps = whole qs := by
  induction h with
  | nil => rfl
  | kept _ ih => rw [Piece.whole_kept, Piece.whole_kept, ih]
  | left _ ih => rw [Piece.whole_cut, Piece.whole_append, Piece.whole_ofText, ih]
  | right _ ih => rw [Piece.whole_cut, Piece.whole_append, Piece.whole_ofText, ih]

/-- No two stretches share a character. -/
def Apart (ps qs : List Piece) : Prop :=
  ∀ i s j u, CutAt ps i s → CutAt qs j u → i + s.length ≤ j ∨ j + u.length ≤ i

theorem Apart.symm (h : Apart ps qs) : Apart qs ps :=
  fun i s j u hi hj => (h j u i s hj hi).symm

theorem Apart.of_append {rs ss : List Piece} (hw : whole rs = whole ss)
    (h : Apart (rs ++ ps) (ss ++ qs)) : Apart ps qs := by
  intro i s j u hi hj
  have hd := h _ s _ u (hi.append rs) (hj.append ss)
  rw [hw] at hd
  omega

/-- Where the one pass cuts out a stretch, the other keeps its characters. -/
theorem Apart.exists_kept {stretch : List Char} (hb : Tiled b qs)
    (hw : whole (.cut stretch :: ps) = whole qs) (h : Apart (.cut stretch :: ps) qs) :
    ∃ rs, qs = ofText stretch ++ rs ∧ whole ps = whole rs ∧ Apart ps rs := by
  have hcut : ∀ j u, CutAt qs j u → stretch.length ≤ j := by
    intro j u hj
    have hpos := hb.length_pos_of_cutAt hj
    have hd := h 0 stretch j u ⟨[], ps, rfl, rfl⟩ hj
    omega
  obtain ⟨rs, rfl, hr⟩ := Piece.exists_eq_append_of_whole hw.symm hcut
  have hfront : whole [.cut stretch] = whole (ofText stretch) := by simp
  exact ⟨rs, rfl, hr.symm, Apart.of_append hfront h⟩

/-- The pieces of two passes over one text that share no character can be laid side by side. -/
theorem beside_of_apart {ps qs : List Piece} (ha : Tiled a ps) (hb : Tiled b qs)
    (hw : whole ps = whole qs) (h : Apart ps qs) : Beside ps qs := by
  match ps, qs with
  | .cut stretch :: ps, qs =>
    obtain ⟨rs, rfl, hrest, hapart⟩ := h.exists_kept hb hw
    exact .left (beside_of_apart ha.of_cons hb.of_append hrest hapart)
  | ps, .cut stretch :: qs =>
    obtain ⟨rs, rfl, hrest, hapart⟩ := h.symm.exists_kept ha hw.symm
    exact .right (beside_of_apart ha.of_append hb.of_cons hrest.symm hapart.symm)
  | .kept c :: ps, .kept d :: qs =>
    obtain ⟨rfl, hrest⟩ := List.cons.inj hw
    have hfront : whole [.kept c] = whole [.kept c] := rfl
    exact .kept (beside_of_apart ha.of_cons hb.of_cons hrest
      (Apart.of_append hfront h))
  | [], [] => exact .nil
  | [], .kept d :: qs => cases hw
  | .kept c :: ps, [] => cases hw
termination_by ps.length + qs.length

/-- What the pass of the one label leaves has an opener of the other label at its start only where
that opener is left by its own pass. -/
theorem after?_opener_eq_none {c : Char} (hb : IsName b) (h : Beside ps qs) (hps : Tiled a ps)
    (hqs : Tiled b (.kept c :: qs)) (ho : ∀ i, ¬Marker.At (opener b) (c :: shown qs) i) :
    Marker.after? (opener b) (c :: shown ps) = none := by
  rw [Option.eq_none_iff_forall_ne_some]
  intro rest hr
  have hkept : Tiled a (.kept c :: ps) := .kept hps
  obtain ⟨tail, -, hwhole⟩ := hkept.after?_whole hb.space_not_mem_opener hr
  rw [Piece.whole_kept, h.whole_eq] at hwhole
  obtain ⟨rest', hshown⟩ := hqs.after?_shown hb.opening_not_mem_tail hwhole
  exact ho 0 ((Marker.at_iff (opener_ne_nil b)).2 ⟨rest', Marker.after?_eq_some_iff.1 hshown⟩)

/-- A stretch of the one label shows as a space before the other label's pass, and goes in its own. -/
theorem stripLabel_shown_cut {stretch : List Char} (ha : IsName a) (hb : IsName b)
    (h : Beside ps qs) (hps : Tiled a (.cut stretch :: ps)) (hqs : Tiled b qs)
    (hrest : stripLabel b (shown ps) = stripLabel a (shown qs)) :
    stripLabel b (shown (.cut stretch :: ps)) = stripLabel a (shown (ofText stretch ++ qs)) := by
  cases hps with
  | cut hm hs _ =>
    have hword : Marker.startsInWord (shown qs) = false := by
      rw [← hqs.startsInWord_whole, ← h.whole_eq]
      exact (ha.isBoundary_closer _).1 hm.closes
    rw [Piece.shown_append, Piece.shown_ofText, hs _ hword, Piece.shown_cut,
      stripLabel_cons hb (Marker.after?_opener_of_ne (by decide) _), hrest]

/-- Over pieces that lie side by side the second pass of either order leaves the same. -/
theorem stripLabel_shown_eq (ha : IsName a) (hb : IsName b) (h : Beside ps qs) (hps : Tiled a ps)
    (hqs : Tiled b qs) (hoa : ∀ i, ¬Marker.At (opener a) (shown ps) i)
    (hob : ∀ i, ¬Marker.At (opener b) (shown qs) i) :
    stripLabel b (shown ps) = stripLabel a (shown qs) := by
  induction h with
  | nil => simp [stripLabel]
  | @kept c ps qs h ih =>
    have hrest := ih hps.of_cons hqs.of_cons
      (Marker.not_at_of_cons (opener_ne_nil a) hoa) (Marker.not_at_of_cons (opener_ne_nil b) hob)
    rw [Piece.shown_kept, Piece.shown_kept,
      stripLabel_cons hb (after?_opener_eq_none hb h hps.of_cons hqs hob),
      stripLabel_cons ha (after?_opener_eq_none ha h.symm hqs.of_cons hps hoa), hrest]
  | @left stretch ps qs h ih =>
    rw [Piece.shown_append] at hob
    have hrest := ih hps.of_cons hqs.of_append
      (Marker.not_at_of_cons (opener_ne_nil a) hoa) (Marker.not_at_of_append (opener_ne_nil b) hob)
    exact stripLabel_shown_cut ha hb h hps hqs.of_append hrest
  | @right stretch ps qs h ih =>
    rw [Piece.shown_append] at hoa
    have hrest := ih hps.of_append hqs.of_cons
      (Marker.not_at_of_append (opener_ne_nil a) hoa) (Marker.not_at_of_cons (opener_ne_nil b) hob)
    exact (stripLabel_shown_cut hb ha h.symm hqs hps.of_append hrest.symm).symm

/-- If each of two names leaves no opener of its own when it is stripped alone, and no stretch that
goes with the one shares a character with a stretch that goes with the other, then the two may be
stripped in either order. One of the names may begin with the other. -/
theorem strip_swap (text : String) (ht : '\r' ∉ text.toList) (a b : String)
    (ha : IsName a.toList) (hb : IsName b.toList)
    (hoa : ∀ i, ¬Marker.At (opener a.toList) (stripLabel a.toList text.toList) i)
    (hob : ∀ i, ¬Marker.At (opener b.toList) (stripLabel b.toList text.toList) i)
    (hspans : ∀ s ∈ stripSpans a.toList text.toList, ∀ u ∈ stripSpans b.toList text.toList,
      s.2 ≤ u.1 ∨ u.2 ≤ s.1) :
    strip [a, b] text = strip [b, a] text := by
  have hapart : Apart (stripPieces a.toList text.toList) (stripPieces b.toList text.toList) := by
    intro i s j u hi hj
    have hs := hspans _ (hi.mem_spansFrom 0) _ (hj.mem_spansFrom 0)
    simpa only [Nat.zero_add] using hs
  have hta := tiled_stripPieces ha text.toList
  have htb := tiled_stripPieces hb text.toList
  have hw : whole (stripPieces a.toList text.toList) = whole (stripPieces b.toList text.toList) := by
    rw [whole_stripPieces, whole_stripPieces]
  rw [← shown_stripPieces] at hoa hob
  have hcomm := stripLabel_shown_eq ha hb (beside_of_apart hta htb hw hapart) hta htb hoa hob
  rw [shown_stripPieces, shown_stripPieces] at hcomm
  apply String.toList_injective
  rw [toList_strip, toList_strip, Lines.normalize_of_not_mem ht]
  exact hcomm

/-- Each name has a block on two lines right before a block of the other one, and a closer is left. -/
theorem strip_swap_adjacent :
    ∃ text : String,
      text = "\x7b@a\n\x7d@a\x7b@ab 2 \x7d@ab \x7b@ab \x7b@ab\n\x7d@ab\x7b@a é \x7d@a \x7d@a" ∧
        '\r' ∉ text.toList ∧ IsName "a".toList ∧ IsName "ab".toList ∧
        (∀ i, ¬Marker.At (opener "a".toList) (stripLabel "a".toList text.toList) i) ∧
        (∀ i, ¬Marker.At (opener "ab".toList) (stripLabel "ab".toList text.toList) i) ∧
        stripSpans "a".toList text.toList = [(0, 7), (33, 42)] ∧
        stripSpans "ab".toList text.toList = [(7, 18), (19, 33)] ∧
        (∀ s ∈ stripSpans "a".toList text.toList, ∀ u ∈ stripSpans "ab".toList text.toList,
          s.2 ≤ u.1 ∨ u.2 ≤ s.1) ∧
        strip ["a", "ab"] text = strip ["ab", "a"] text := by
  obtain ⟨text, htext⟩ : ∃ text : String, text =
      "\x7b@a\n\x7d@a\x7b@ab 2 \x7d@ab \x7b@ab \x7b@ab\n\x7d@ab\x7b@a é \x7d@a \x7d@a" := ⟨_, rfl⟩
  have ht : '\r' ∉ text.toList := by
    rw [htext]
    decide
  have ha : IsName "a".toList := by decide
  have hb : IsName "ab".toList := by decide
  have hoa : ∀ i, ¬Marker.At (opener "a".toList) (stripLabel "a".toList text.toList) i := by
    refine Marker.not_at_of_forall_lt (opener_ne_nil _) ?_
    rw [htext]
    decide +kernel
  have hob : ∀ i, ¬Marker.At (opener "ab".toList) (stripLabel "ab".toList text.toList) i := by
    refine Marker.not_at_of_forall_lt (opener_ne_nil _) ?_
    rw [htext]
    decide +kernel
  have hsa : stripSpans "a".toList text.toList = [(0, 7), (33, 42)] := by
    rw [htext]
    decide +kernel
  have hsb : stripSpans "ab".toList text.toList = [(7, 18), (19, 33)] := by
    rw [htext]
    decide +kernel
  have hspans : ∀ s ∈ stripSpans "a".toList text.toList, ∀ u ∈ stripSpans "ab".toList text.toList,
      s.2 ≤ u.1 ∨ u.2 ≤ s.1 := by
    rw [hsa, hsb]
    decide
  exact ⟨text, htext, ht, ha, hb, hoa, hob, hsa, hsb, hspans,
    strip_swap text ht "a" "ab" ha hb hoa hob hspans⟩

end ScriptBundle
