import ScriptBundle.Block.ByteScan
import ScriptBundle.Proofs.Block.Marked
import ScriptBundle.Proofs.Text.Bytes

/-!
# Searching markers by byte offsets

A search for a marker that starts at a place of the text finds the place where cutting finds it
(`findMarker_encode`), and the search for a closer finds what `afterCloser?` finds
(`exists_closing_encode`). Both go on behind the first byte of what was no marker; this is the next place,
because a marker starts with a character of one byte. Whether a word ends at a place is told by the two
bytes beside it: all bytes of a character are of its class (`isWordByte_of_mem`).
-/

namespace ScriptBundle.ByteScan

variable {text before body marker : List Char} {c m : Char}

open Utf8 (encode)

/-! ### Words -/

theorem le_of_mem_utf8EncodeChar {b : UInt8} (hc : 0x7f < c.toNat)
    (h : b ∈ String.utf8EncodeChar c) : 0x80 ≤ b.toNat := by
  have hc' : ¬c.toNat ≤ 0x7f := Nat.not_le.2 hc
  simp only [String.utf8EncodeChar, Char.toNat_val, hc', if_false] at h
  -- two, three or four bytes, each with its highest bit
  split at h
  · simp only [List.mem_cons, List.not_mem_nil, or_false] at h
    rcases h with rfl | rfl <;> simp <;> omega
  split at h
  · simp only [List.mem_cons, List.not_mem_nil, or_false] at h
    rcases h with rfl | rfl | rfl <;> simp <;> omega
  · simp only [List.mem_cons, List.not_mem_nil, or_false] at h
    rcases h with rfl | rfl | rfl | rfl <;> simp <;> omega

theorem isWordByte_of_le {b : UInt8} (h : 0x80 ≤ b.toNat) : isWordByte b = false := by
  simp only [isWordByte, Bool.or_eq_false_iff, Bool.and_eq_false_iff, decide_eq_false_iff_not,
    beq_eq_false_iff_ne, UInt8.le_iff_toNat_le, ne_eq, ← UInt8.toNat_inj]
  simp
  omega

theorem isWord_of_lt (h : 0x7f < c.toNat) : isWord c = false := by
  have hc : c ≠ '_' := by
    rintro rfl
    exact absurd h (by decide)
  change (decide (c.val ≥ 'A'.val ∧ c.val ≤ 'Z'.val) ||
    (decide (c.val ≥ 'a'.val) && decide (c.val ≤ 'z'.val)) ||
    (decide (c.val ≥ '0'.val) && decide (c.val ≤ '9'.val)) || c == '_') = false
  simp [UInt32.le_iff_toNat_le, hc]
  omega

theorem isWordByte_ofNat : ∀ n < 0x80, isWordByte (UInt8.ofNat n) = isWord (Char.ofNat n) := by
  decide +kernel

/-- All bytes of a character are of its class. -/
theorem isWordByte_of_mem {b : UInt8} (h : b ∈ String.utf8EncodeChar c) : isWordByte b = isWord c := by
  rcases Nat.lt_or_ge 0x7f c.toNat with hc | hc
  · rw [isWord_of_lt hc, isWordByte_of_le (le_of_mem_utf8EncodeChar hc h)]
  · have hb : b = UInt8.ofNat c.toNat := by simpa [String.utf8EncodeChar, hc] using h
    rw [hb, isWordByte_ofNat c.toNat (Nat.lt_succ_of_le hc), Char.ofNat_toNat]

theorem any_head?_encode (text : List Char) :
    (encode text).head?.any isWordByte = Marker.startsInWord text := by
  cases text with
  | nil => rfl
  | cons c text =>
    obtain ⟨b, bytes, hb⟩ := List.exists_cons_of_ne_nil (String.utf8EncodeChar_ne_nil (c := c))
    have hmem : b ∈ String.utf8EncodeChar c := hb ▸ List.mem_cons_self
    have hw := isWordByte_of_mem hmem
    simp [Utf8.encode_cons, hb, Marker.startsInWord, hw]

theorem any_getLast?_encode (text : List Char) :
    (encode text).getLast?.any isWordByte = Marker.endsInWord text := by
  rcases List.eq_nil_or_concat text with rfl | ⟨before, c, rfl⟩
  · rfl
  · have hne := String.utf8EncodeChar_ne_nil (c := c)
    have hw := isWordByte_of_mem (List.getLast_mem hne)
    simp [Utf8.encode_cons, Marker.endsInWord, List.getLast?_append, List.getLast?_eq_some_getLast hne, hw]

/-- The two bytes beside a place tell whether a word starts or ends there. -/
theorem isBoundary_encode (hb : before ≠ []) (after : List Char) :
    isBoundary (encode (before ++ after)) (encode before).length =
      .ok (Marker.isBoundary before after) := by
  have hne : encode before ≠ [] := fun he => hb (Utf8.encode_eq_nil.1 he)
  have hlen : (encode before).length ≠ 0 := fun he => hne (List.eq_nil_of_length_eq_zero he)
  have hlast : (encode (before ++ after))[(encode before).length - 1]? = (encode before).getLast? := by
    rw [Utf8.encode_append, List.getElem?_append_left (by omega), List.getLast?_eq_getElem?]
  have hfirst : (encode (before ++ after))[(encode before).length]? = (encode after).head? := by
    rw [Utf8.encode_append, List.getElem?_append_right (Nat.le_refl _), Nat.sub_self,
      List.head?_eq_getElem?]
  rw [isBoundary, if_neg hlen, Bytes.byteAt, hlast, hfirst, any_head?_encode, Marker.isBoundary,
    ← any_getLast?_encode, List.getLast?_eq_some_getLast hne]
  rfl

/-! ### Searching a marker -/

/-- The bytes of a marker are found where its characters first are, so cutting passes over what is before
them. It may still not stop there, as the marker has to end on the edge of a word. -/
theorem find?_encode_cut (hm : marker ≠ []) (text : List Char) :
    (Bytes.find? (encode marker) (encode text) = none ∧ Marker.cut marker text = none) ∨
      ∃ skipped rest, text = skipped ++ (marker ++ rest) ∧
        Bytes.find? (encode marker) (encode text) = some (encode skipped).length ∧
        Marker.cut marker text =
          (Marker.cut marker (marker ++ rest)).map fun (b, r) => (skipped ++ b, r) := by
  induction text with
  | nil =>
    refine .inl ⟨Bytes.find?_encode_nil hm, ?_⟩
    simp [Marker.cut, Marker.after?, hm]
  | cons c text ih =>
    rw [Bytes.find?_encode_cons hm]
    split
    · next hp =>
      obtain ⟨rest, hr⟩ := hp
      refine .inr ⟨[], rest, hr.symm, rfl, ?_⟩
      simp [← hr]
    · next hp =>
      have ha : Marker.after? marker (c :: text) = none := by simp [Marker.after?, hp]
      rcases ih with ⟨hf, hc⟩ | ⟨skipped, rest, rfl, hf, hc⟩
      · exact .inl ⟨by rw [hf]; rfl, by rw [Marker.cut_cons ha, hc]; rfl⟩
      · refine .inr ⟨c :: skipped, rest, rfl, ?_, ?_⟩
        · rw [hf, Option.map_some, Utf8.length_encode_cons, Nat.add_comm]
        · rw [Marker.cut_cons ha, hc, Option.map_map]
          rfl

/-- What a look for the marker says about the text behind `before`. -/
inductive Sought.Fits (m : Char) (ms before after : List Char) : Sought → Prop where
  | missing : Marker.cut (m :: ms) after = none → Fits m ms before after .missing
  | found {skipped rest : List Char} : Marker.cut (m :: ms) after = some (skipped, rest) →
    Fits m ms before after (.found (encode (before ++ skipped)).length)
  | again {skipped rest : List Char} : after = skipped ++ m :: rest →
    Marker.cut (m :: ms) after =
      (Marker.cut (m :: ms) rest).map (fun (b, r) => (skipped ++ m :: b, r)) →
    Fits m ms before after (.again (encode (before ++ skipped ++ [m])).length)

theorem seek_of_find? {bytes tail marker : List UInt8} {i skipped : Nat} {edge : Bool}
    (hs : Bytes.slice bytes i bytes.length = .ok tail) (hf : Bytes.find? marker tail = some skipped)
    (he : isBoundary bytes (i + skipped + marker.length) = .ok edge) :
    seek bytes marker i = .ok (if edge then .found (i + skipped) else .again (i + skipped + 1)) := by
  simp only [seek, hs, hf, he, bind, Except.bind, pure, Except.pure]
  cases edge <;> rfl

/-- A look does not fail. The offset behind the first byte of what was no marker is that of a place, because
the marker starts with a character of one byte. -/
theorem exists_seek_encode (hm : m.utf8Size = 1) (ms before after : List Char) :
    ∃ sought, seek (encode (before ++ after)) (encode (m :: ms)) (encode before).length = .ok sought ∧
      sought.Fits m ms before after := by
  have hne : m :: ms ≠ [] := List.cons_ne_nil m ms
  have hs := Bytes.slice_encode_length before after
  rcases find?_encode_cut hne after with ⟨hf, hc⟩ | ⟨skipped, rest, rfl, hf, hc⟩
  · refine ⟨.missing, ?_, .missing hc⟩
    simp only [seek, hs, hf, bind, Except.bind, pure, Except.pure]
  have hbefore : before ++ skipped ++ m :: ms ≠ [] := by simp
  have hedge : isBoundary (encode (before ++ (skipped ++ (m :: ms ++ rest))))
      ((encode before).length + (encode skipped).length + (encode (m :: ms)).length) =
        .ok (Marker.isBoundary (m :: ms) rest) := by
    have he := isBoundary_encode hbefore rest
    rw [Marker.isBoundary_append hne] at he
    simpa [Nat.add_assoc] using he
  have hseek := seek_of_find? hs hf hedge
  cases hb : Marker.isBoundary (m :: ms) rest with
  | true =>
    have hfound : Marker.cut (m :: ms) (skipped ++ (m :: ms ++ rest)) = some (skipped, rest) := by
      rw [hc, Marker.cut_of_after? (Marker.after?_eq_some_iff.2 ⟨rfl, hb⟩)]
      simp
    refine ⟨_, ?_, .found hfound⟩
    rw [hseek, hb, if_pos rfl, Utf8.encode_append before, List.length_append]
  | false =>
    have ha : Marker.after? (m :: ms) (m :: (ms ++ rest)) = none := by simp [Marker.after?, hb]
    have hagain : Marker.cut (m :: ms) (skipped ++ m :: (ms ++ rest)) =
        (Marker.cut (m :: ms) (ms ++ rest)).map fun (b, r) => (skipped ++ m :: b, r) := by
      rw [← List.cons_append, hc, List.cons_append, Marker.cut_cons ha, Option.map_map]
      rfl
    refine ⟨_, ?_, .again rfl hagain⟩
    rw [hseek, hb, if_neg Bool.false_ne_true, Utf8.length_encode_concat, hm, Utf8.encode_append before,
      List.length_append]

/-- The search by offsets finds the marker where cutting does. -/
theorem findMarker_encode (hm : m.utf8Size = 1) (ms before after : List Char) :
    findMarker (encode (before ++ after)) (encode (m :: ms)) (encode before).length =
      .ok ((Marker.cut (m :: ms) after).map fun (b, _) => (encode (before ++ b)).length) := by
  induction hn : after.length using Nat.strongRecOn generalizing before after with
  | _ n ih =>
    obtain ⟨sought, hs, hfits⟩ := exists_seek_encode hm ms before after
    rw [findMarker_eq_match, hs]
    cases hfits with
    | missing hc => simp only [hc, Option.map_none]
    | found hc => simp only [hc, Option.map_some]
    | @again skipped rest ha hc =>
      subst ha
      have hlt : rest.length < n := by
        simp only [List.length_append, List.length_cons] at hn
        omega
      have hrest := ih rest.length hlt (before ++ skipped ++ [m]) rest rfl
      have htext : before ++ skipped ++ [m] ++ rest = before ++ (skipped ++ m :: rest) := by simp
      rw [htext] at hrest
      simp only [hrest, hc, Option.map_map, Function.comp_def]
      simp

theorem encode_opener (label : List Char) : encode (opener label) = openerBytes (encode label) := rfl

theorem encode_closer (label : List Char) : encode (closer label) = closerBytes (encode label) := rfl

theorem findMarker_opener (label before after : List Char) :
    findMarker (encode (before ++ after)) (openerBytes (encode label)) (encode before).length =
      .ok ((Marker.cut (opener label) after).map fun (b, _) => (encode (before ++ b)).length) :=
  findMarker_encode (m := '{') (by decide) ('@' :: label) before after

theorem findMarker_closer (label before after : List Char) :
    findMarker (encode (before ++ after)) (closerBytes (encode label)) (encode before).length =
      .ok ((Marker.cut (closer label) after).map fun (b, _) => (encode (before ++ b)).length) :=
  findMarker_encode (m := '}') (by decide) ('@' :: label) before after

/-! ### The closer of an opener -/

theorem lineEnd?_encode (before body : List Char) :
    lineEnd? (encode (before ++ body)) (encode before).length =
      .ok (if '\n' ∈ body then some (encode (before ++ Lines.takeLine body)).length else none) := by
  simp only [lineEnd?, Bytes.slice_encode_length, Bytes.find?_newline, bind, Except.bind, pure,
    Except.pure]
  split <;> simp

/-- The bytes up to the end of the line are those of what is before it and of the line. -/
theorem slice_lineEnd (before body : List Char) :
    Bytes.slice (encode (before ++ body)) 0
        ((if '\n' ∈ body then some (encode (before ++ Lines.takeLine body)).length else none).getD
          (encode (before ++ body)).length) =
      .ok (encode (before ++ Lines.takeLine body)) := by
  have hline := Bytes.slice_encode [] (before ++ Lines.takeLine body) (Lines.dropLine body)
  simp only [List.nil_append, List.append_assoc, Lines.takeLine_append_dropLine, Utf8.encode_nil,
    List.length_nil] at hline
  split
  · exact hline
  · next hn =>
    have htake := Lines.takeLine_append hn []
    rw [List.append_nil] at htake
    rw [htake] at hline ⊢
    simpa [Lines.takeLine] using hline

theorem closing_singleLine_encode (label before body : List Char) :
    closing .singleLine (encode (before ++ body)) (closerBytes (encode label)) (encode before).length =
      .ok ((Marker.cut (closer label) (Lines.takeLine body)).map fun (b, _) =>
        (encode (before ++ b)).length) := by
  simp only [closing, lineEnd?_encode, slice_lineEnd, findMarker_closer, bind, Except.bind]

theorem closing_multiLine_encode {below : List Char} (label before : List Char)
    (hd : Lines.dropLine body = '\n' :: below) :
    closing .multiLine (encode (before ++ body)) (closerBytes (encode label)) (encode before).length =
      .ok ((Marker.cut (closer label) below).map fun (b, _) =>
        (encode (before ++ (Lines.takeLine body ++ '\n' :: b))).length) := by
  have hbody := Lines.takeLine_append_dropLine body
  rw [hd] at hbody
  have hn : '\n' ∈ body := hbody ▸ by simp
  have hnext : (encode (before ++ Lines.takeLine body)).length + 1 =
      (encode (before ++ Lines.takeLine body ++ ['\n'])).length :=
    (Utf8.length_encode_concat _ '\n').symm
  have htext : before ++ body = before ++ Lines.takeLine body ++ ['\n'] ++ below := by
    simp [hbody]
  simp only [closing, lineEnd?_encode, if_pos hn, bind, Except.bind, hnext]
  rw [htext, findMarker_closer]
  simp

theorem closing_multiLine_of_not_mem (label before : List Char) (hn : '\n' ∉ body) :
    closing .multiLine (encode (before ++ body)) (closerBytes (encode label)) (encode before).length =
      .ok none := by
  simp only [closing, lineEnd?_encode, if_neg hn, bind, Except.bind, pure, Except.pure]

/-- What the search for a closer says about the text behind an opener. -/
inductive Closes (form : Form) (label before body : List Char) : Option Nat → Prop where
  | missing : form.afterCloser? label body = none → Closes form label before body none
  | found {inside rest : List Char} : body = inside ++ closer label ++ rest →
    form.afterCloser? label body = some rest →
    Closes form label before body (some (encode (before ++ inside)).length)

theorem exists_closing_encode (form : Form) (label before body : List Char) :
    ∃ stop?, closing form (encode (before ++ body)) (closerBytes (encode label))
        (encode before).length = .ok stop? ∧ Closes form label before body stop? := by
  have hbody := Lines.takeLine_append_dropLine body
  cases form with
  | singleLine =>
    refine ⟨_, closing_singleLine_encode label before body, ?_⟩
    cases hc : Marker.cut (closer label) (Lines.takeLine body) with
    | none => exact .missing (by simp [Form.afterCloser?, hc])
    | some cut =>
      obtain ⟨inside, rest⟩ := cut
      have hrest : Form.singleLine.afterCloser? label body = some (rest ++ Lines.dropLine body) := by
        simp [Form.afterCloser?, hc]
      refine .found ?_ hrest
      rw [Marker.eq_append_of_cut hc] at hbody
      rw [← List.append_assoc, hbody]
  | multiLine =>
    rcases Lines.dropLine_cases body with hd | ⟨below, hd⟩
    · have hn : '\n' ∉ body := by
        rw [hd, List.append_nil] at hbody
        exact hbody ▸ Lines.not_mem_takeLine body
      exact ⟨none, closing_multiLine_of_not_mem label before hn,
        .missing (by simp [Form.afterCloser?, hd])⟩
    · refine ⟨_, closing_multiLine_encode label before hd, ?_⟩
      cases hc : Marker.cut (closer label) below with
      | none => exact .missing (by simp [Form.afterCloser?, hd, hc])
      | some cut =>
        obtain ⟨inside, rest⟩ := cut
        have hrest : Form.multiLine.afterCloser? label body = some rest := by
          simp [Form.afterCloser?, hd, hc]
        refine .found ?_ hrest
        rw [hd, Marker.eq_append_of_cut hc] at hbody
        simpa using hbody.symm

end ScriptBundle.ByteScan
