import ScriptBundle.Proofs.Block.Survivors
import ScriptBundle.Proofs.Text.Bytes

/-!
# What a pass leaves alone

A pass changes a text only by putting a space for a block, and two braces outweigh a space. So weighing
the result tells whether anything was removed, and where nothing was no block of either form starts
anywhere: then no opener has a closer behind it, on its line or on a later one. The weight can be the
number of characters or of bytes.
-/

namespace ScriptBundle

variable {weight : Char → Nat} {label text result : List Char}

/-- The weights of all characters together. -/
def weigh (weight : Char → Nat) : List Char → Nat
  | [] => 0
  | c :: text => weight c + weigh weight text

@[simp] theorem weigh_nil (weight : Char → Nat) : weigh weight [] = 0 := rfl

@[simp] theorem weigh_cons (weight : Char → Nat) (c : Char) (text : List Char) :
    weigh weight (c :: text) = weight c + weigh weight text := rfl

@[simp] theorem weigh_append (weight : Char → Nat) (a b : List Char) :
    weigh weight (a ++ b) = weigh weight a + weigh weight b := by
  induction a with
  | nil => rw [List.nil_append, weigh_nil, Nat.zero_add]
  | cons c a ih => rw [List.cons_append, weigh_cons, weigh_cons, ih, Nat.add_assoc]

theorem weigh_one (text : List Char) : weigh (fun _ => 1) text = text.length := by
  induction text with
  | nil => rfl
  | cons c text ih => rw [weigh_cons, ih, List.length_cons, Nat.add_comm]

theorem weigh_utf8Size (text : List Char) :
    weigh Char.utf8Size text = (Utf8.encode text).length := by
  induction text with
  | nil => rfl
  | cons c text ih => rw [weigh_cons, ih, Utf8.length_encode_cons]

/-- If what goes outweighs a space, then either nothing goes or the result is lighter. -/
theorem Thinned.eq_or_weigh_lt {Kept : List Char → Prop} {Removed : List Char → List Char → Prop}
    (hr : ∀ b t, Removed b t → weight ' ' < weigh weight b)
    (h : Thinned Kept Removed text result) :
    (result = text ∧ ∀ before after, text = before ++ after → after ≠ [] → Kept after) ∨
      weigh weight result < weigh weight text := by
  induction h with
  | nil => exact .inl ⟨rfl, fun _ _ he hne => absurd (List.append_eq_nil_iff.1 he.symm).2 hne⟩
  | @keep c text result hk _ ih =>
    rcases ih with ⟨rfl, hkept⟩ | hlt
    · refine .inl ⟨rfl, fun before after he hne => ?_⟩
      cases before with
      | nil =>
        rw [List.nil_append] at he
        exact he ▸ hk
      | cons b before => exact hkept before after (List.cons.inj he).2 hne
    · exact .inr (by simpa using hlt)
  | @drop block text result hb _ ih =>
    have hspace := hr _ _ hb
    have hle : weigh weight result ≤ weigh weight text := by
      rcases ih with ⟨rfl, -⟩ | hlt
      · exact Nat.le_refl _
      · exact Nat.le_of_lt hlt
    exact .inr (by simp only [weigh_cons, weigh_append]; omega)

/-- A block has two braces. -/
theorem Form.Takes.weigh_lt {form : Form} {block rest : List Char}
    (hw : weight ' ' < weight '{' + weight '}') (h : form.Takes label block rest) :
    weight ' ' < weigh weight block := by
  obtain ⟨inside, hm, -⟩ := h
  rw [List.append_cancel_right hm.split]
  simp only [opener, closer, weigh_append, weigh_cons]
  omega

/-- Either no block starts anywhere and nothing is changed, or the result is lighter. -/
theorem Form.remove_eq_or_weigh_lt (form : Form) (label text : List Char)
    (hw : weight ' ' < weight '{' + weight '}') :
    (form.remove label text = text ∧ ∀ before after, text = before ++ after → after ≠ [] →
        form.afterBlock? label after = none) ∨
      weigh weight (form.remove label text) < weigh weight text :=
  (form.thinned_remove label text).eq_or_weigh_lt fun _ _ hb => hb.weigh_lt hw

theorem stripLabel_eq_or_weigh_lt (weight : Char → Nat) (hl : '\n' ∉ label) (text : List Char)
    (hw : weight ' ' < weight '{' + weight '}') :
    (stripLabel label text = text ∧ ¬Paired label text) ∨
      weigh weight (stripLabel label text) < weigh weight text := by
  rw [stripLabel]
  rcases Form.singleLine.remove_eq_or_weigh_lt label text hw with ⟨hsingle, hone⟩ | hlt
  · rw [hsingle]
    rcases Form.multiLine.remove_eq_or_weigh_lt label text hw with ⟨hmulti, hmore⟩ | hlt
    · refine .inl ⟨hmulti, ?_⟩
      rintro ⟨before, body, inside, rest, he, hm⟩
      have hbody : body ≠ [] := by simp [hm.split]
      -- with a line feed between its markers the pair is a block of one form, without one of the other
      by_cases hn : '\n' ∈ inside
      · exact Form.not_marked_of_afterBlock? hl (hmore before body he hbody) hm hn
      · exact Form.not_marked_of_afterBlock? hl (hone before body he hbody) hm hn
    · exact .inr hlt
  · refine .inr (Nat.lt_of_le_of_lt ?_ hlt)
    rcases Form.multiLine.remove_eq_or_weigh_lt label (Form.singleLine.remove label text) hw with
      ⟨hmulti, -⟩ | hle
    · exact Nat.le_of_eq (congrArg _ hmulti)
    · exact Nat.le_of_lt hle

theorem not_paired_iff : ¬Paired label text ↔
    ∀ i k, Marker.At (opener label) text i → i + (opener label).length ≤ k →
      ¬Marker.At (closer label) text k := by
  constructor
  · intro hp i k ho hik hc
    exact hp (paired_of_at ho hc hik)
  · rintro h ⟨before, body, inside, rest, rfl, hm⟩
    have hdrop : (before ++ body).drop before.length = body := List.drop_left
    rw [← hdrop] at hm
    obtain ⟨ho, hc, -, -⟩ := at_of_marked hm
    exact h _ _ ho (Nat.le_add_right _ _) hc

theorem weigh_stripLabel (weight : Char → Nat) (hl : '\n' ∉ label) (text : List Char)
    (hw : weight ' ' < weight '{' + weight '}') :
    weigh weight (stripLabel label text) ≤ weigh weight text ∧
      (stripLabel label text ≠ text →
        weigh weight (stripLabel label text) < weigh weight text) := by
  rcases stripLabel_eq_or_weigh_lt weight hl text hw with ⟨he, -⟩ | hlt
  · exact ⟨Nat.le_of_eq (by rw [he]), fun hne => absurd he hne⟩
  · exact ⟨Nat.le_of_lt hlt, fun _ => hlt⟩

theorem stripLabel_eq_self_iff_not_paired (hl : '\n' ∉ label) :
    stripLabel label text = text ↔ ¬Paired label text := by
  constructor
  · intro he
    rcases stripLabel_eq_or_weigh_lt (fun _ => 1) hl text (by decide) with ⟨-, hp⟩ | hlt
    · exact hp
    · rw [he] at hlt
      exact absurd hlt (Nat.lt_irrefl _)
  · intro hp
    rw [stripLabel, Form.remove_of_not_paired hl hp, Form.remove_of_not_paired hl hp]

/-- A pass never makes a text longer. It leaves just those texts as they are in which no opener has a
closer at or behind its end, and makes all others shorter. -/
theorem stripLabel_eq_self_iff (label : List Char) (hl : '\n' ∉ label) (text : List Char) :
    ((stripLabel label text).length ≤ text.length ∧
        (Utf8.encode (stripLabel label text)).length ≤ (Utf8.encode text).length) ∧
      (stripLabel label text = text ↔
        ∀ i k, Marker.At (opener label) text i → i + (opener label).length ≤ k →
          ¬Marker.At (closer label) text k) ∧
      (stripLabel label text ≠ text →
        (stripLabel label text).length < text.length ∧
          (Utf8.encode (stripLabel label text)).length < (Utf8.encode text).length) := by
  have hchars := weigh_stripLabel (fun _ => 1) hl text (by decide)
  have hbytes := weigh_stripLabel Char.utf8Size hl text (by decide)
  rw [weigh_one, weigh_one] at hchars
  rw [weigh_utf8Size, weigh_utf8Size] at hbytes
  refine ⟨⟨hchars.1, hbytes.1⟩, ?_, fun hne => ⟨hchars.2 hne, hbytes.2 hne⟩⟩
  rw [stripLabel_eq_self_iff_not_paired hl, not_paired_iff]

/-- The label ends in no word, so its markers end where a word begins: the first text has an opener
and a closer, but in this order no pair; in the second the pair is behind an opener and around a closer
that are none. -/
theorem stripLabel_eq_self_iff_starred :
    '\n' ∉ "d *".toList ∧
      (∀ i k, Marker.At (opener "d *".toList)
          "\x7d@d *a \x7b@d *b \x7b@d * é \x7d@d *".toList i →
        i + (opener "d *".toList).length ≤ k →
        ¬Marker.At (closer "d *".toList) "\x7d@d *a \x7b@d *b \x7b@d * é \x7d@d *".toList k) ∧
      (stripLabel "d *".toList "\x7b@d * \x7b@d *a é \x7d@d *\n\x7d@d *b".toList).length <
        "\x7b@d * \x7b@d *a é \x7d@d *\n\x7d@d *b".toList.length := by
  have hl : '\n' ∉ "d *".toList := by decide
  have hsame : stripLabel "d *".toList "\x7d@d *a \x7b@d *b \x7b@d * é \x7d@d *".toList =
      "\x7d@d *a \x7b@d *b \x7b@d * é \x7d@d *".toList := by decide +kernel
  have hother : stripLabel "d *".toList "\x7b@d * \x7b@d *a é \x7d@d *\n\x7d@d *b".toList ≠
      "\x7b@d * \x7b@d *a é \x7d@d *\n\x7d@d *b".toList := by decide +kernel
  exact ⟨hl, (stripLabel_eq_self_iff _ hl _).2.1.1 hsame,
    ((stripLabel_eq_self_iff _ hl _).2.2 hother).1⟩

end ScriptBundle
