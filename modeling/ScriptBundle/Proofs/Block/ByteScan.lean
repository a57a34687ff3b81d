import Mathlib.Control.Monad.Basic
import ScriptBundle.Proofs.Block.ByteSearch

/-!
# Removing by byte offsets

The pass of a removal represents a split of the text into what is done, what was passed over and what is
ahead (`Represents`). A turn ends the removal or leads to another such split, so the whole gives the bytes
of the text without its blocks, and no slice of it fails: `strip_eq`. The turns of the loops are then taken
one by one, and every offset that they use is that of a place (`strip_at_places`).
-/

namespace ScriptBundle

variable {form : Form} {label text before middle after body inside rest : List Char} {m : Char}
variable {i : Nat}

open Utf8 (encode)

namespace Form

/-- Text without an opener is copied. -/
theorem remove_of_cut_eq_none (h : Marker.cut (opener label) text = none) :
    form.remove label text = text := by
  induction text with
  | nil => exact remove_nil form label
  | cons c text ih =>
    cases ha : Marker.after? (opener label) (c :: text) with
    | some rest => exact absurd (Marker.cut_of_after? ha) (by simp [h])
    | none =>
      have hb : form.afterBlock? label (c :: text) = none := by simp [afterBlock?, ha]
      rw [Marker.cut_cons ha, Option.map_eq_none_iff] at h
      rw [remove_cons hb, ih h]

/-- Text before the first opener is copied. -/
theorem remove_of_cut {skipped : List Char} (h : Marker.cut (opener label) text = some (skipped, body)) :
    form.remove label text = skipped ++ form.remove label (opener label ++ body) := by
  induction text generalizing skipped with
  | nil => exact absurd (Marker.eq_append_of_cut h) (by simp)
  | cons c text ih =>
    cases ha : Marker.after? (opener label) (c :: text) with
    | some rest =>
      rw [Marker.cut_of_after? ha] at h
      cases h
      rw [List.nil_append, ← Marker.eq_append_of_after? ha]
    | none =>
      have hb : form.afterBlock? label (c :: text) = none := by simp [afterBlock?, ha]
      rw [Marker.cut_cons ha] at h
      obtain ⟨⟨before, rest⟩, hr, he⟩ := Option.map_eq_some_iff.1 h
      cases he
      rw [remove_cons hb, ih hr, List.cons_append]

end Form

namespace ByteScan

/-! ### A removal -/

section Step

variable {bytes labelBytes kept : List UInt8} {p : Pass} {start stop : Nat}

theorem step_of_missing {rest : List UInt8}
    (ho : findMarker bytes (openerBytes labelBytes) p.resume = .ok none)
    (hr : Bytes.slice bytes p.copied bytes.length = .ok rest) :
    step form labelBytes bytes p = .ok (.done (p.out ++ rest)) := by
  simp only [step, ho, hr, bind, Except.bind, pure, Except.pure]

theorem step_of_unclosed
    (ho : findMarker bytes (openerBytes labelBytes) p.resume = .ok (some start))
    (hc : closing form bytes (closerBytes labelBytes) (start + (openerBytes labelBytes).length) =
      .ok none) :
    step form labelBytes bytes p = .ok (.next { p with resume := start + 1 }) := by
  simp only [step, ho, hc, bind, Except.bind, pure, Except.pure]

theorem step_of_closed
    (ho : findMarker bytes (openerBytes labelBytes) p.resume = .ok (some start))
    (hc : closing form bytes (closerBytes labelBytes) (start + (openerBytes labelBytes).length) =
      .ok (some stop))
    (hk : Bytes.slice bytes p.copied start = .ok kept) :
    step form labelBytes bytes p = .ok (.next ⟨p.out ++ kept ++ [0x20],
      stop + (closerBytes labelBytes).length, stop + (closerBytes labelBytes).length⟩) := by
  simp only [step, ho, hc, hk, bind, Except.bind, pure, Except.pure]

end Step

/-- Both offsets are those of places; the second is ahead of the first by openers without a closer. What
is out and what is still to be done make up the text without its blocks. -/
structure Represents (form : Form) (label text before middle after : List Char) (p : Pass) : Prop where
  split : text = before ++ middle ++ after
  copied : p.copied = (encode before).length
  resume : p.resume = (encode (before ++ middle)).length
  out : p.out ++ encode (middle ++ form.remove label after) = encode (form.remove label text)

theorem represents_start (form : Form) (label text : List Char) :
    Represents form label text [] [] text ⟨[], 0, 0⟩ := ⟨rfl, rfl, rfl, rfl⟩

namespace Represents

variable {skipped : List Char} {p : Pass}

theorem findMarker_eq (h : Represents form label text before middle after p) :
    findMarker (encode text) (openerBytes (encode label)) p.resume =
      .ok ((Marker.cut (opener label) after).map fun (b, _) =>
        (encode (before ++ middle ++ b)).length) := by
  rw [h.split, h.resume, findMarker_opener]

/-- Where the text goes on at an opener. -/
theorem split_of_cut (h : Represents form label text before middle after p)
    (hc : Marker.cut (opener label) after = some (skipped, body)) :
    text = before ++ middle ++ skipped ++ opener label ++ body := by
  rw [h.split, Marker.eq_append_of_cut hc]
  simp

theorem slice_kept (h : Represents form label text before middle after p)
    (hc : Marker.cut (opener label) after = some (skipped, body)) :
    Bytes.slice (encode text) p.copied (encode (before ++ middle ++ skipped)).length =
      .ok (encode (middle ++ skipped)) := by
  have hkept := Bytes.slice_encode before (middle ++ skipped) (opener label ++ body)
  rw [h.split_of_cut hc, h.copied]
  simpa using hkept

/-- Without an opener ahead the rest is copied. -/
theorem step_eq_done (h : Represents form label text before middle after p)
    (hc : Marker.cut (opener label) after = none) :
    step form (encode label) (encode text) p = .ok (.done (encode (form.remove label text))) := by
  have ho := h.findMarker_eq
  rw [hc] at ho
  have hr := Bytes.slice_encode_length before (middle ++ after)
  rw [← List.append_assoc, ← h.split, ← h.copied] at hr
  rw [step_of_missing ho hr, ← h.out, Form.remove_of_cut_eq_none hc]

/-- At an opener without a closer the search goes on behind its brace. -/
theorem unclosed (h : Represents form label text before middle after p)
    (hc : Marker.cut (opener label) after = some (skipped, body))
    (hno : form.afterCloser? label body = none) :
    Represents form label text before (middle ++ skipped ++ ['{']) ('@' :: label ++ body)
      { p with resume := (encode (before ++ middle ++ skipped)).length + 1 } := by
  have hopens : Marker.after? (opener label) (opener label ++ body) = some body :=
    Marker.after?_eq_some_iff.2 ⟨rfl, Marker.isBoundary_of_cut hc⟩
  have hblock : form.afterBlock? label ('{' :: ('@' :: label ++ body)) = none := by
    rw [Form.afterBlock?]
    exact (congrArg (Option.bind · _) hopens).trans hno
  have hremove : form.remove label after =
      skipped ++ '{' :: form.remove label ('@' :: label ++ body) :=
    (Form.remove_of_cut hc).trans (congrArg (skipped ++ ·) (Form.remove_cons hblock))
  refine ⟨?_, h.copied, ?_, ?_⟩
  · rw [h.split_of_cut hc]
    simp [opener]
  · rw [← List.append_assoc, ← List.append_assoc, Utf8.length_encode_concat]
    rfl
  · rw [← h.out, hremove]
    simp

/-- A block is replaced by a space, and the search goes on behind it. -/
theorem closed (h : Represents form label text before middle after p)
    (hc : Marker.cut (opener label) after = some (skipped, body))
    (hin : body = inside ++ closer label ++ rest) (hrest : form.afterCloser? label body = some rest) :
    Represents form label text
      (before ++ middle ++ skipped ++ opener label ++ inside ++ closer label) [] rest
      ⟨p.out ++ encode (middle ++ skipped) ++ [0x20],
        (encode (before ++ middle ++ skipped ++ opener label ++ inside)).length +
          (closerBytes (encode label)).length,
        (encode (before ++ middle ++ skipped ++ opener label ++ inside)).length +
          (closerBytes (encode label)).length⟩ := by
  have hblock : form.afterBlock? label (opener label ++ body) = some rest :=
    Option.bind_eq_some_iff.2
      ⟨body, Marker.after?_eq_some_iff.2 ⟨rfl, Marker.isBoundary_of_cut hc⟩, hrest⟩
  have hremove : form.remove label after = skipped ++ ' ' :: form.remove label rest :=
    (Form.remove_of_cut hc).trans (congrArg (skipped ++ ·) (Form.remove_of_afterBlock? hblock))
  have hlen : (encode (before ++ middle ++ skipped ++ opener label ++ inside)).length +
      (closerBytes (encode label)).length =
        (encode (before ++ middle ++ skipped ++ opener label ++ inside ++ closer label)).length := by
    rw [Utf8.encode_append _ (closer label), List.length_append, encode_closer]
  refine ⟨?_, hlen, ?_, ?_⟩
  · rw [h.split_of_cut hc, hin]
    simp
  · rw [List.append_nil]
    exact hlen
  · rw [← h.out, hremove]
    have hspace : encode [' '] = [0x20] := by decide
    simp [← hspace, ← Utf8.encode_append]

/-- A turn ends the removal with the text without its blocks, or goes on further to the right. -/
theorem exists_step (h : Represents form label text before middle after p) :
    step form (encode label) (encode text) p = .ok (.done (encode (form.remove label text))) ∨
      ∃ before' middle' after' p', step form (encode label) (encode text) p = .ok (.next p') ∧
        Represents form label text before' middle' after' p' := by
  cases hc : Marker.cut (opener label) after with
  | none => exact .inl (h.step_eq_done hc)
  | some cut =>
    right
    obtain ⟨skipped, body⟩ := cut
    have ho := h.findMarker_eq
    rw [hc] at ho
    obtain ⟨stop?, hclosing, hcloses⟩ :=
      exists_closing_encode form label (before ++ middle ++ skipped ++ opener label) body
    rw [← h.split_of_cut hc, Utf8.encode_append _ (opener label), List.length_append, encode_opener]
      at hclosing
    cases hcloses with
    | missing hno => exact ⟨_, _, _, _, step_of_unclosed ho hclosing, h.unclosed hc hno⟩
    | found hin hrest =>
      exact ⟨_, _, _, _, step_of_closed ho hclosing (h.slice_kept hc), h.closed hc hin hrest⟩

theorem run_eq (h : Represents form label text before middle after p) :
    run form (encode label) (encode text) p = .ok (encode (form.remove label text)) := by
  induction hn : (encode text).length + 1 - p.resume using Nat.strongRecOn
    generalizing before middle after p with
  | _ n ih =>
    rw [run_eq_match]
    rcases h.exists_step with hs | ⟨before', middle', after', p', hs, h'⟩
    · rw [hs]
    · have hlt := lt_of_step hs
      rw [hs]
      exact ih ((encode text).length + 1 - p'.resume) (by omega) h' rfl

end Represents

theorem remove_encode (form : Form) (label text : List Char) :
    remove form (encode label) (encode text) = .ok (encode (form.remove label text)) :=
  (represents_start form label text).run_eq

theorem stripLabel_encode (label text : List Char) :
    stripLabel (encode label) (encode text) = .ok (encode (ScriptBundle.stripLabel label text)) := by
  simp only [stripLabel, remove_encode, bind, Except.bind, ScriptBundle.stripLabel]

theorem strip_eq (labels : List String) (text : String) :
    strip labels text = .ok (encode (ScriptBundle.strip labels text).toList) := by
  rw [toList_strip, strip]
  generalize Lines.normalize text.toList = t
  induction labels generalizing t with
  | nil => rfl
  | cons label labels ih =>
    rw [List.foldlM_cons, stripLabel_encode, List.map_cons, stripLabels_cons, ← ih]
    rfl

/-! ### Every turn of every loop -/

/-- The turns of a removal, by what it knows at their start. -/
inductive RemovalTurn (form : Form) (label bytes : List UInt8) : Pass → Prop where
  | first : RemovalTurn form label bytes ⟨[], 0, 0⟩
  | next {p p' : Pass} : RemovalTurn form label bytes p → step form label bytes p = .ok (.next p') →
    RemovalTurn form label bytes p'

theorem RemovalTurn.represents {p : Pass} (h : RemovalTurn form (encode label) (encode text) p) :
    ∃ before middle after, Represents form label text before middle after p := by
  induction h with
  | first => exact ⟨[], [], text, represents_start form label text⟩
  | @next p p' _ hs ih =>
    obtain ⟨before, middle, after, h⟩ := ih
    rcases h.exists_step with hd | ⟨before', middle', after', p'', hs', h'⟩
    · cases hs.symm.trans hd
    · cases hs.symm.trans hs'
      exact ⟨before', middle', after', h'⟩

/-- A turn of a removal finds an opener, and its label ends at `body`. -/
structure OpenerTurn (form : Form) (label bytes : List UInt8) (p : Pass) (start body : Nat) : Prop where
  turn : RemovalTurn form label bytes p
  found : findMarker bytes (openerBytes label) p.resume = .ok (some start)
  body_eq : body = start + (openerBytes label).length

/-- The turns of the searches of a removal: in which bytes, for which marker and from where. The closer of
an opener is looked for in the bytes up to the end of the line, or in all behind it. -/
inductive SearchTurn (form : Form) (label bytes : List UInt8) :
    List UInt8 → List UInt8 → Nat → Prop where
  | forOpener {p : Pass} : RemovalTurn form label bytes p →
    SearchTurn form label bytes bytes (openerBytes label) p.resume
  | forCloserOnLine {p : Pass} {start body : Nat} {lineEnd : Option Nat} {line : List UInt8} :
    form = .singleLine → OpenerTurn form label bytes p start body →
    lineEnd? bytes body = .ok lineEnd →
    Bytes.slice bytes 0 (lineEnd.getD bytes.length) = .ok line →
    SearchTurn form label bytes line (closerBytes label) body
  | forCloserBelow {p : Pass} {start body lineEnd : Nat} :
    form = .multiLine → OpenerTurn form label bytes p start body →
    lineEnd? bytes body = .ok (some lineEnd) →
    SearchTurn form label bytes bytes (closerBytes label) (lineEnd + 1)
  | again {searched marker : List UInt8} {i j : Nat} :
    SearchTurn form label bytes searched marker i → seek searched marker i = .ok (.again j) →
    SearchTurn form label bytes searched marker j

/-- What a turn of a removal starts from is there, and it comes to an end or further. -/
structure SoundTurn (form : Form) (label text : List Char) (p : Pass) : Prop where
  isPlace_copied : IsPlace text p.copied
  isPlace_resume : IsPlace text p.resume
  copied_le : p.copied ≤ p.resume
  goes : (∃ out, step form (encode label) (encode text) p = .ok (.done out)) ∨
    ∃ p', step form (encode label) (encode text) p = .ok (.next p') ∧ p.resume < p'.resume

/-- All that a turn reads at an opener is there. -/
structure SoundOpener (form : Form) (label text : List Char) (p : Pass) (start body : Nat) : Prop where
  isPlace_start : IsPlace text start
  isPlace_body : IsPlace text body
  copied_le : p.copied ≤ start
  lineEnd : ∃ lineEnd, lineEnd? (encode text) body = .ok lineEnd ∧
    ∀ i ∈ lineEnd, IsPlace text i ∧ IsPlace text (i + 1)
  closing : ∃ stop?, closing form (encode text) (closerBytes (encode label)) body = .ok stop? ∧
    ∀ i ∈ stop?, IsPlace text i ∧ IsPlace text (i + (closerBytes (encode label)).length)

/-- All that a turn of a search reads is there, and it comes to an end or further. -/
structure SoundSearch (text : List Char) (marker : List UInt8) (i : Nat) : Prop where
  isPlace : IsPlace text i
  found : ∀ tail skipped, Bytes.slice (encode text) i (encode text).length = .ok tail →
    Bytes.find? marker tail = some skipped →
      IsPlace text (i + skipped) ∧ IsPlace text (i + skipped + marker.length) ∧
        ∃ edge, isBoundary (encode text) (i + skipped + marker.length) = .ok edge
  goes : ∃ sought, seek (encode text) marker i = .ok sought ∧ ∀ j, sought = .again j → i < j

theorem RemovalTurn.sound {p : Pass} (h : RemovalTurn form (encode label) (encode text) p) :
    SoundTurn form label text p := by
  obtain ⟨before, middle, after, hr⟩ := h.represents
  refine ⟨⟨before, middle ++ after, by rw [hr.split, List.append_assoc], hr.copied⟩,
    ⟨before ++ middle, after, hr.split, hr.resume⟩, ?_, ?_⟩
  · rw [hr.copied, hr.resume, Utf8.encode_append, List.length_append]
    exact Nat.le_add_right _ _
  · rcases hr.exists_step with hd | ⟨_, _, _, p', hs, -⟩
    · exact .inl ⟨_, hd⟩
    · exact .inr ⟨p', hs, (lt_of_step hs).2⟩

theorem OpenerTurn.exists_split {p : Pass} {start stop : Nat}
    (h : OpenerTurn form (encode label) (encode text) p start stop) :
    ∃ before body, text = before ++ opener label ++ body ∧ start = (encode before).length ∧
      stop = (encode (before ++ opener label)).length ∧ p.copied ≤ start := by
  obtain ⟨before, middle, after, hr⟩ := h.turn.represents
  have hf := h.found
  rw [hr.findMarker_eq, Except.ok.injEq, Option.map_eq_some_iff] at hf
  obtain ⟨⟨skipped, body⟩, hc, rfl⟩ := hf
  refine ⟨before ++ middle ++ skipped, body, hr.split_of_cut hc, rfl, ?_, ?_⟩
  · rw [h.body_eq, Utf8.encode_append _ (opener label), List.length_append, encode_opener]
  · simp only [hr.copied, Utf8.encode_append, List.length_append]
    omega

theorem isPlace_lineEnd {stop : Nat}
    (h : stop ∈ if '\n' ∈ body then some (encode (before ++ Lines.takeLine body)).length else none) :
    IsPlace (before ++ body) stop ∧ IsPlace (before ++ body) (stop + 1) := by
  split at h
  · next hn =>
    cases h
    obtain ⟨below, hd⟩ := Lines.exists_dropLine_eq hn
    have hbody : before ++ body = before ++ Lines.takeLine body ++ '\n' :: below := by
      rw [← hd, List.append_assoc, Lines.takeLine_append_dropLine]
    refine ⟨⟨_, _, hbody, rfl⟩, ⟨before ++ Lines.takeLine body ++ ['\n'], below, ?_, ?_⟩⟩
    · rw [hbody, List.append_assoc _ ['\n'], List.singleton_append]
    · rw [Utf8.length_encode_concat]
      rfl
  · cases h

theorem OpenerTurn.sound {p : Pass} {start stop : Nat}
    (h : OpenerTurn form (encode label) (encode text) p start stop) :
    SoundOpener form label text p start stop := by
  obtain ⟨before, body, rfl, rfl, rfl, hle⟩ := h.exists_split
  refine ⟨⟨before, opener label ++ body, List.append_assoc _ _ _, rfl⟩, isPlace_length, hle,
    ⟨_, lineEnd?_encode _ body, fun i hi => isPlace_lineEnd hi⟩, ?_⟩
  obtain ⟨stop?, hclosing, hcloses⟩ := exists_closing_encode form label (before ++ opener label) body
  refine ⟨stop?, hclosing, ?_⟩
  intro i hi
  cases hcloses with
  | missing => cases hi
  | @found inside rest hin =>
    cases hi
    subst hin
    refine ⟨⟨_, closer label ++ rest, by simp, rfl⟩,
      ⟨before ++ opener label ++ inside ++ closer label, rest, by simp, ?_⟩⟩
    rw [Utf8.encode_append _ (closer label), List.length_append, encode_closer]

theorem soundSearch (hm : m.utf8Size = 1) (ms before after : List Char) :
    SoundSearch (before ++ after) (encode (m :: ms)) (encode before).length := by
  refine ⟨isPlace_length, ?_, ?_⟩
  · intro tail i hs hf
    obtain rfl := Except.ok.inj ((Bytes.slice_encode_length before after).symm.trans hs)
    rcases find?_encode_cut (List.cons_ne_nil m ms) after with ⟨hn, -⟩ | ⟨skipped, rest, rfl, hi, -⟩
    · cases hn.symm.trans hf
    · cases hi.symm.trans hf
      have hstart : (encode before).length + (encode skipped).length =
          (encode (before ++ skipped)).length := by
        rw [Utf8.encode_append, List.length_append]
      have hstop : (encode (before ++ skipped)).length + (encode (m :: ms)).length =
          (encode (before ++ skipped ++ m :: ms)).length := by
        rw [Utf8.encode_append _ (m :: ms), List.length_append]
      have htext : before ++ (skipped ++ (m :: ms ++ rest)) = before ++ skipped ++ m :: ms ++ rest := by
        simp
      rw [hstart, hstop, htext]
      exact ⟨⟨before ++ skipped, m :: ms ++ rest, List.append_assoc _ _ _, rfl⟩, isPlace_length, _,
        isBoundary_encode (by simp) rest⟩
  · obtain ⟨sought, hs, -⟩ := exists_seek_encode hm ms before after
    exact ⟨sought, hs, fun j hj => (lt_of_seek (hj ▸ hs)).2⟩

/-- Every search is for a marker in the text or in its beginning, from a place on. -/
theorem SearchTurn.exists_split {searched marker : List UInt8}
    (h : SearchTurn form (encode label) (encode text) searched marker i) :
    ∃ m ms before after, m.utf8Size = 1 ∧ marker = encode (m :: ms) ∧ before ++ after <+: text ∧
      searched = encode (before ++ after) ∧ i = (encode before).length := by
  induction h with
  | forOpener hturn =>
    obtain ⟨before, middle, after, hr⟩ := hturn.represents
    exact ⟨'{', '@' :: label, before ++ middle, after, by decide, rfl, hr.split ▸ List.prefix_rfl,
      by rw [hr.split], hr.resume⟩
  | forCloserOnLine _ hopener hline hslice =>
    obtain ⟨before, body, rfl, -, rfl, -⟩ := hopener.exists_split
    rw [lineEnd?_encode] at hline
    cases hline
    rw [slice_lineEnd] at hslice
    cases hslice
    refine ⟨'}', '@' :: label, before ++ opener label, Lines.takeLine body, by decide, rfl, ?_, rfl, rfl⟩
    exact List.prefix_append_right_inj _ |>.2 (List.takeWhile_prefix _)
  | forCloserBelow _ hopener hline =>
    obtain ⟨before, body, rfl, -, rfl, -⟩ := hopener.exists_split
    rw [lineEnd?_encode, Except.ok.injEq] at hline
    obtain ⟨-, h, h', hi⟩ := isPlace_lineEnd (Option.mem_def.2 hline)
    exact ⟨'}', '@' :: label, h, h', by decide, rfl, hi.1 ▸ List.prefix_rfl, by rw [hi.1], hi.2⟩
  | again _ hs ih =>
    obtain ⟨m, ms, before, after, hm, rfl, hp, rfl, rfl⟩ := ih
    obtain ⟨sought, hs', hfits⟩ := exists_seek_encode hm ms before after
    cases hs'.symm.trans hs
    cases hfits with
    | @again skipped rest ha _ =>
      subst ha
      exact ⟨m, ms, before ++ skipped ++ [m], rest, hm, rfl, by simpa using hp, by simp, rfl⟩

theorem SearchTurn.sound {searched marker : List UInt8}
    (h : SearchTurn form (encode label) (encode text) searched marker i) :
    ∃ t, t <+: text ∧ searched = encode t ∧ SoundSearch t marker i := by
  obtain ⟨m, ms, before, after, hm, rfl, hp, hsearched, rfl⟩ := h.exists_split
  exact ⟨before ++ after, hp, hsearched, soundSearch hm ms before after⟩

/-- Stripping by offsets is defined for all labels and all texts, it gives the text that stripping gives, and
these are the bytes of characters. In every turn of every loop the offsets are those of places of the text,
the copied part ends at or before the opener, and the next offset is a greater one. -/
theorem strip_at_places :
    (∀ (labels : List String) (text : String),
      strip labels text = .ok (encode (ScriptBundle.strip labels text).toList) ∧
        (encode (ScriptBundle.strip labels text).toList).toByteArray.IsValidUTF8) ∧
    ∀ (form : Form) (label text : List Char),
      (∀ p, RemovalTurn form (encode label) (encode text) p → SoundTurn form label text p) ∧
      (∀ p start body, OpenerTurn form (encode label) (encode text) p start body →
        SoundOpener form label text p start body) ∧
      ∀ searched marker i, SearchTurn form (encode label) (encode text) searched marker i →
        ∃ t, t <+: text ∧ searched = encode t ∧ SoundSearch t marker i := by
  refine ⟨fun labels text => ⟨strip_eq labels text, ⟨_, rfl⟩⟩, fun form label text => ⟨?_, ?_, ?_⟩⟩
  · exact fun p h => h.sound
  · exact fun p start body h => h.sound
  · exact fun searched marker i h => h.sound

/-- Before the block stands the opener of a longer label, and inside it the closer of one: the searches go
on behind their braces. The block ends at byte 31. -/
theorem strip_at_places_accented :
    let label := encode "é1".toList
    let text := "é \x7b@é12 \x7b@é1 ü \x7d@é12 \x7d@é1 ü"
    let bytes := encode text.toList
    strip ["é1"] text = .ok (encode "é \x7b@é12   ü".toList) ∧
      (RemovalTurn .singleLine label bytes ⟨encode "é \x7b@é12  ".toList, 31, 31⟩ ∧
        SoundTurn .singleLine "é1".toList text.toList ⟨encode "é \x7b@é12  ".toList, 31, 31⟩) ∧
      (OpenerTurn .singleLine label bytes ⟨[], 0, 0⟩ 10 15 ∧
        SoundOpener .singleLine "é1".toList text.toList ⟨[], 0, 0⟩ 10 15) ∧
      SearchTurn .singleLine label bytes bytes (closerBytes label) 20 ∧
        ∃ t, t <+: text.toList ∧ bytes = encode t ∧ SoundSearch t (closerBytes label) 20 := by
  intro label text bytes
  obtain ⟨hstrip, hsound⟩ := strip_at_places
  obtain ⟨hturn, hopener, hsearch⟩ := hsound .singleLine "é1".toList text.toList
  have h : RemovalTurn .singleLine label bytes ⟨encode "é \x7b@é12  ".toList, 31, 31⟩ :=
    .next .first (by decide +kernel)
  have ho : OpenerTurn .singleLine label bytes ⟨[], 0, 0⟩ 10 15 :=
    ⟨.first, by decide +kernel, by decide +kernel⟩
  have hline : lineEnd? bytes 15 = .ok none := by decide +kernel
  have hs : SearchTurn .singleLine label bytes bytes (closerBytes label) 20 :=
    .again (.forCloserOnLine rfl ho hline (by decide +kernel)) (by decide +kernel)
  refine ⟨?_, ⟨h, hturn _ h⟩, ⟨ho, hopener _ _ _ ho⟩, hs, hsearch _ _ _ hs⟩
  rw [(hstrip ["é1"] text).1]
  decide +kernel

end ByteScan
end ScriptBundle
