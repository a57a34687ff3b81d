import ScriptBundle.Proofs.Text.Lines
import ScriptBundle.Text.Bytes
import ScriptBundle.Text.Utf8

/-!
# Offsets of places

A place in a text has an offset: the number of bytes before it. The bytes tell the places from all other
offsets, because only the first byte of a character is a first byte (`isCharBoundary_iff`). So a slice
succeeds just between two places (`slice_encode_eq_ok_iff`), and the bytes of some characters are found only
where the characters are (`find?_encode_cons`).
-/

namespace ScriptBundle

variable {text before after inside marker : List Char} {c : Char} {i j : Nat}

namespace Utf8

@[simp] theorem encode_nil : encode [] = [] := rfl

theorem encode_cons (c : Char) (text : List Char) :
    encode (c :: text) = String.utf8EncodeChar c ++ encode text := rfl

theorem length_encode_cons (c : Char) (text : List Char) :
    (encode (c :: text)).length = c.utf8Size + (encode text).length := by
  rw [encode_cons, List.length_append, String.length_utf8EncodeChar]

theorem length_encode_concat (text : List Char) (c : Char) :
    (encode (text ++ [c])).length = (encode text).length + c.utf8Size := by
  rw [encode_append, List.length_append, length_encode_cons, encode_nil, List.length_nil, Nat.add_zero]

theorem encode_eq_nil : encode text = [] ↔ text = [] := by
  cases text with
  | nil => simp
  | cons c text => simp [encode_cons, String.utf8EncodeChar_ne_nil]

/-- No character's bytes begin those of another. -/
theorem eq_of_utf8EncodeChar_append {c d : Char} {a b : List UInt8}
    (h : String.utf8EncodeChar c ++ a = String.utf8EncodeChar d ++ b) : c = d := by
  have hbytes := congrArg (fun l => (List.toByteArray l).utf8DecodeChar? 0) h
  simpa [List.toByteArray_append, ByteArray.utf8DecodeChar?_utf8EncodeChar_append] using hbytes

theorem encode_prefix_iff : encode marker <+: encode text ↔ marker <+: text := by
  constructor
  · intro h
    induction marker generalizing text with
    | nil => exact List.nil_prefix
    | cons c marker ih =>
      cases text with
      | nil => exact absurd (encode_eq_nil.1 (List.prefix_nil.1 h)) (List.cons_ne_nil c marker)
      | cons d text =>
        obtain ⟨more, he⟩ := h
        rw [encode_cons, encode_cons, List.append_assoc] at he
        obtain rfl := eq_of_utf8EncodeChar_append he
        exact List.cons_prefix_cons.2 ⟨rfl, ih ⟨more, List.append_cancel_left he⟩⟩
  · rintro ⟨more, rfl⟩
    exact ⟨encode more, (encode_append _ _).symm⟩

/-- The byte at an offset within a character is a first byte just at its start. -/
theorem any_getElem?_encode_cons (h : i < c.utf8Size) (text : List Char) :
    ((encode (c :: text))[i]?.any fun b => decide b.IsUTF8FirstByte) = decide (i = 0) := by
  have hi : i < (String.utf8EncodeChar c).length := by rwa [String.length_utf8EncodeChar]
  rw [encode_cons, List.getElem?_append_left hi, List.getElem?_eq_getElem hi, Option.any_some,
    decide_eq_decide]
  exact UInt8.isUTF8FirstByte_getElem_utf8EncodeChar

theorem getElem?_encode_cons_add : (encode (c :: text))[c.utf8Size + i]? = (encode text)[i]? := by
  rw [encode_cons, List.getElem?_append_right (by simp), String.length_utf8EncodeChar,
    Nat.add_sub_cancel_left]

end Utf8

open Utf8 (encode)

/-- The offset is that of a place in the text. -/
def IsPlace (text : List Char) (i : Nat) : Prop :=
  ∃ before after, text = before ++ after ∧ i = (encode before).length

theorem isPlace_length : IsPlace (before ++ after) (encode before).length := ⟨before, after, rfl, rfl⟩

theorem IsPlace.le_length (h : IsPlace text i) : i ≤ (encode text).length := by
  obtain ⟨before, after, rfl, rfl⟩ := h
  rw [Utf8.encode_append, List.length_append]
  exact Nat.le_add_right _ _

theorem isPlace_cons_iff (c : Char) (text : List Char) :
    IsPlace (c :: text) i ↔ i = 0 ∨ ∃ j, i = c.utf8Size + j ∧ IsPlace text j := by
  constructor
  · rintro ⟨before, after, he, rfl⟩
    cases before with
    | nil => exact .inl rfl
    | cons d before =>
      obtain ⟨rfl, rfl⟩ := List.cons.inj he
      exact .inr ⟨_, Utf8.length_encode_cons c before, isPlace_length⟩
  · rintro (rfl | ⟨j, rfl, before, after, rfl, rfl⟩)
    · exact ⟨[], c :: text, rfl, rfl⟩
    · exact ⟨c :: before, after, rfl, (Utf8.length_encode_cons c before).symm⟩

namespace Bytes

/-- Within the first character only its start is a place. -/
theorem isCharBoundary_cons_of_lt (h : i < c.utf8Size) :
    isCharBoundary (encode (c :: text)) i = decide (i = 0) := by
  have hlen : i ≠ (encode (c :: text)).length := by
    rw [Utf8.length_encode_cons]
    omega
  rw [isCharBoundary, Utf8.any_getElem?_encode_cons h]
  simp [hlen]

theorem isCharBoundary_cons_add (c : Char) (text : List Char) (j : Nat) :
    isCharBoundary (encode (c :: text)) (c.utf8Size + j) = isCharBoundary (encode text) j := by
  have hpos := c.utf8Size_pos
  rw [isCharBoundary, isCharBoundary, Utf8.getElem?_encode_cons_add, Utf8.length_encode_cons]
  rcases Nat.eq_zero_or_pos j with rfl | hj
  · cases text with
    | nil => simp [Utf8.encode_nil]
    | cons d text => simp [Utf8.any_getElem?_encode_cons d.utf8Size_pos]
  · have hj' : j ≠ 0 := by omega
    rw [Bool.eq_iff_iff]
    simp [hj']

/-- The bytes tell which offsets are those of places. -/
theorem isCharBoundary_iff (text : List Char) (i : Nat) :
    i ≤ (encode text).length ∧ isCharBoundary (encode text) i = true ↔ IsPlace text i := by
  induction text generalizing i with
  | nil =>
    constructor
    · rintro ⟨hi, -⟩
      exact ⟨[], [], rfl, Nat.le_zero.1 hi⟩
    · intro h
      have hi := Nat.le_zero.1 h.le_length
      subst hi
      exact ⟨Nat.le_refl _, rfl⟩
  | cons c text ih =>
    rw [isPlace_cons_iff, Utf8.length_encode_cons]
    have hpos := c.utf8Size_pos
    rcases Nat.lt_or_ge i c.utf8Size with hlt | hge
    · rw [isCharBoundary_cons_of_lt hlt, decide_eq_true_iff]
      constructor
      · exact fun h => .inl h.2
      · rintro (rfl | ⟨j, rfl, -⟩)
        · exact ⟨Nat.zero_le _, rfl⟩
        · omega
    · obtain ⟨j, rfl⟩ := Nat.exists_eq_add_of_le hge
      rw [isCharBoundary_cons_add, Nat.add_le_add_iff_left, ih]
      constructor
      · exact fun h => .inr ⟨j, rfl, h⟩
      · rintro (h0 | ⟨k, hk, h⟩)
        · omega
        · rwa [Nat.add_left_cancel hk]

/-- A slice succeeds just from a place to one that is not before it. -/
theorem slice_encode_eq_ok_iff {part : List UInt8} : slice (encode text) i j = .ok part ↔
    i ≤ j ∧ IsPlace text i ∧ IsPlace text j ∧ (encode text).extract i j = part := by
  rw [slice_eq_ok_iff, ← isCharBoundary_iff, ← isCharBoundary_iff]
  constructor
  · rintro ⟨⟨hij, hj⟩, ⟨hi, hj'⟩, hpart⟩
    exact ⟨hij, ⟨Nat.le_trans hij hj, hi⟩, ⟨hj, hj'⟩, hpart⟩
  · rintro ⟨hij, ⟨-, hi⟩, ⟨hj, hj'⟩, hpart⟩
    exact ⟨⟨hij, hj⟩, ⟨hi, hj'⟩, hpart⟩

/-- Between two places are the bytes of the characters between them. -/
theorem slice_encode (before inside after : List Char) :
    slice (encode (before ++ inside ++ after)) (encode before).length
      (encode (before ++ inside)).length = .ok (encode inside) := by
  refine slice_encode_eq_ok_iff.2 ⟨?_, ⟨before, inside ++ after, by simp, rfl⟩, isPlace_length, ?_⟩
  · simp
  · simp [Utf8.encode_append]

theorem slice_encode_length (before after : List Char) :
    slice (encode (before ++ after)) (encode before).length (encode (before ++ after)).length =
      .ok (encode after) := by
  simpa using slice_encode before after []

/-- Where no character starts, the bytes of characters do not start. -/
theorem not_prefix_drop_of_pos (hm : marker ≠ []) (hpos : 0 < i) (hi : i < c.utf8Size) :
    ¬encode marker <+: (encode (c :: text)).drop i := by
  cases marker with
  | nil => exact absurd rfl hm
  | cons m marker =>
    rintro ⟨more, he⟩
    have hsame : (encode (m :: marker))[0]? = (encode (c :: text))[i]? := by
      have hget := congrArg (·[0]?) he
      have hlen : 0 < (encode (m :: marker)).length := by
        rw [Utf8.length_encode_cons]
        exact Nat.add_pos_left m.utf8Size_pos _
      simpa [List.getElem?_append_left hlen] using hget
    have hfirst := Utf8.any_getElem?_encode_cons m.utf8Size_pos marker
    rw [hsame, Utf8.any_getElem?_encode_cons hi, decide_eq_decide] at hfirst
    omega

theorem find?_append_of_not_prefix {needle a b : List UInt8}
    (h : ∀ i < a.length, ¬needle <+: (a ++ b).drop i) :
    find? needle (a ++ b) = (find? needle b).map (· + a.length) := by
  induction a with
  | nil => simp
  | cons x a ih =>
    have hhead : ¬needle <+: x :: (a ++ b) := h 0 (Nat.succ_pos _)
    have hrest : ∀ i < a.length, ¬needle <+: (a ++ b).drop i := fun i hi =>
      h (i + 1) (Nat.succ_lt_succ hi)
    rw [List.cons_append, find?, if_neg (by simpa using hhead), ih hrest, Option.map_map]
    congr 1

/-- The bytes of some characters are found where the characters are. -/
theorem find?_encode_cons (hm : marker ≠ []) (c : Char) (text : List Char) :
    find? (encode marker) (encode (c :: text)) =
      if marker <+: c :: text then some 0
      else (find? (encode marker) (encode text)).map (· + c.utf8Size) := by
  split
  · next hp =>
    obtain ⟨b, bytes, hb⟩ := List.exists_cons_of_ne_nil
      (fun he => List.cons_ne_nil c text (Utf8.encode_eq_nil.1 he))
    have hp' := Utf8.encode_prefix_iff.2 hp
    rw [hb] at hp' ⊢
    rw [find?, if_pos (List.isPrefixOf_iff_prefix.2 hp')]
  · next hp =>
    have hno : ∀ i < (String.utf8EncodeChar c).length,
        ¬encode marker <+: (String.utf8EncodeChar c ++ encode text).drop i := by
      intro i hi
      rw [String.length_utf8EncodeChar] at hi
      rw [← Utf8.encode_cons]
      rcases Nat.eq_zero_or_pos i with rfl | hpos
      · rw [List.drop_zero, Utf8.encode_prefix_iff]
        exact hp
      · exact not_prefix_drop_of_pos hm hpos hi
    rw [Utf8.encode_cons, find?_append_of_not_prefix hno, String.length_utf8EncodeChar]

theorem find?_encode_nil (hm : marker ≠ []) : find? (encode marker) (encode []) = none := by
  rw [Utf8.encode_nil, find?, if_neg]
  exact fun he => hm (Utf8.encode_eq_nil.1 he)

/-- The first line feed is where the line ends. -/
theorem find?_newline (text : List Char) : find? [0x0a] (encode text) =
    if '\n' ∈ text then some (encode (Lines.takeLine text)).length else none := by
  have hnewline : ([0x0a] : List UInt8) = encode ['\n'] := by decide
  rw [hnewline]
  induction text with
  | nil => exact find?_encode_nil (List.cons_ne_nil _ _)
  | cons c text ih =>
    rw [find?_encode_cons (List.cons_ne_nil _ _), ih, Lines.takeLine_cons]
    by_cases hc : c = '\n'
    · simp [hc]
    · have hc' : '\n' ≠ c := Ne.symm hc
      by_cases hn : '\n' ∈ text
      · simp [hc, hc', hn, Utf8.length_encode_cons, Nat.add_comm]
      · simp [hc', hn]

end Bytes
end ScriptBundle
