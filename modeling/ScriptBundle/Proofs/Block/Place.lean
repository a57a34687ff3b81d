import ScriptBundle.Proofs.Block.Marked
import ScriptBundle.Proofs.Text.Scan

/-!
# Places of markers and blocks

The same by positions in a text. A marker stands at a position if its characters follow there and it
ends on the edge of a word; what the edge of a word is depends on the two characters next to it in
the whole text. A block of a form runs from an opener to a closer that does not overlap it, with a
line feed between them in the multi-line form and none in the other.
-/

namespace ScriptBundle

theorem drop_add_length {text a b : List Char} {i : Nat} (h : text.drop i = a ++ b) :
    text.drop (i + a.length) = b := by
  rw [← List.drop_drop, h, List.drop_left]

/-- Whether a word starts or ends at a position. -/
def isEdge (text : List Char) (i : Nat) : Bool :=
  Marker.isBoundary (text.take i) (text.drop i)

/-- The marker stands at a position. -/
structure Marker.At (marker text : List Char) (i : Nat) : Prop where
  stands : marker <+: text.drop i
  edge : isEdge text (i + marker.length) = true

namespace Marker

instance (marker text : List Char) (i : Nat) : Decidable (At marker text i) :=
  decidable_of_iff (marker <+: text.drop i ∧ isEdge text (i + marker.length) = true)
    ⟨fun h => ⟨h.1, h.2⟩, fun h => ⟨h.stands, h.edge⟩⟩

/-- The edge at the end of a marker that is there depends on the marker and on what follows. -/
theorem isEdge_add_length {marker text rest : List Char} {i : Nat} (hm : marker ≠ [])
    (h : text.drop i = marker ++ rest) :
    isEdge text (i + marker.length) = isBoundary marker rest := by
  have hrest := drop_add_length h
  have htake : text.take (i + marker.length) = text.take i ++ marker := by
    rw [List.take_add, h, List.take_left]
  rw [isEdge, hrest, htake, isBoundary_append hm]

theorem at_iff {marker text : List Char} {i : Nat} (hm : marker ≠ []) :
    At marker text i ↔
      ∃ rest, text.drop i = marker ++ rest ∧ isBoundary marker rest = true := by
  constructor
  · rintro ⟨⟨rest, hr⟩, he⟩
    exact ⟨rest, hr.symm, by rw [← isEdge_add_length hm hr.symm, he]⟩
  · rintro ⟨rest, hr, hb⟩
    exact ⟨⟨rest, hr.symm⟩, by rw [isEdge_add_length hm hr, hb]⟩

theorem at_cons_succ {marker text : List Char} {c : Char} {i : Nat} (hm : marker ≠ []) :
    At marker (c :: text) (i + 1) ↔ At marker text i := by
  rw [at_iff hm, at_iff hm, List.drop_succ_cons]

/-- A marker behind the first character is one of the whole text. -/
theorem not_at_of_cons {marker text : List Char} {c : Char} (hm : marker ≠ [])
    (h : ∀ i, ¬At marker (c :: text) i) (i : Nat) : ¬At marker text i :=
  fun ha => h (i + 1) ((at_cons_succ hm).2 ha)

theorem At.add_length_le {marker text : List Char} {i : Nat} (hm : marker ≠ [])
    (h : At marker text i) : i + marker.length ≤ text.length := by
  have hl := h.stands.length_le
  have hpos := List.length_pos_iff.2 hm
  rw [List.length_drop] at hl
  omega

theorem not_at_of_forall_lt {marker text : List Char} (hm : marker ≠ [])
    (h : ∀ i < text.length, ¬At marker text i) (i : Nat) : ¬At marker text i := by
  intro ha
  have hlen := ha.add_length_le hm
  have hpos := List.length_pos_iff.2 hm
  exact h i (by omega) ha

end Marker

/-- An opener and a closer at or behind its end mark a stretch. -/
theorem marked_of_at {label text : List Char} {i k : Nat} (ho : Marker.At (opener label) text i)
    (hc : Marker.At (closer label) text k) (hik : i + (opener label).length ≤ k) :
    Marked label (text.drop i) (text.extract (i + (opener label).length) k)
      (text.drop (k + (closer label).length)) := by
  obtain ⟨body, hbody, hob⟩ := (Marker.at_iff (opener_ne_nil label)).1 ho
  obtain ⟨rest, hrest, hcb⟩ := (Marker.at_iff (closer_ne_nil label)).1 hc
  have hbody' := drop_add_length hbody
  have hrest' := drop_add_length hrest
  have hsplit : body = text.extract (i + (opener label).length) k ++ (closer label ++ rest) := by
    have hdrop : body.drop (k - (i + (opener label).length)) = closer label ++ rest := by
      rw [← hbody', List.drop_drop, Nat.add_sub_cancel' hik, hrest]
    rw [List.extract_eq_take_drop, hbody', ← hdrop, List.take_append_drop]
  rw [hrest']
  refine ⟨?_, ?_, hcb⟩
  · rw [hbody, List.append_assoc, List.append_assoc, ← hsplit]
  · rw [List.append_assoc, ← hsplit]
    exact hob

theorem at_of_marked {label text inside rest : List Char} {i : Nat}
    (h : Marked label (text.drop i) inside rest) :
    Marker.At (opener label) text i ∧
      Marker.At (closer label) text (i + (opener label).length + inside.length) ∧
      text.extract (i + (opener label).length) (i + (opener label).length + inside.length) =
        inside ∧
      text.drop (i + (opener label).length + inside.length + (closer label).length) = rest := by
  obtain ⟨hs, ho, hc⟩ := h
  simp only [List.append_assoc] at hs ho
  have hbody := drop_add_length hs
  have hclose := drop_add_length hbody
  refine ⟨(Marker.at_iff (opener_ne_nil label)).2 ⟨_, hs, ho⟩,
    (Marker.at_iff (closer_ne_nil label)).2 ⟨rest, hclose, hc⟩, ?_, drop_add_length hclose⟩
  rw [List.extract_eq_take_drop, hbody, Nat.add_sub_cancel_left, List.take_left]

/-- A block of the form may run from `i` to `j`. -/
def Form.Block (form : Form) (label text : List Char) (i j : Nat) : Prop :=
  Marker.At (opener label) text i ∧
    ∃ k, i + (opener label).length ≤ k ∧ Marker.At (closer label) text k ∧
      form.Admits (text.extract (i + (opener label).length) k) ∧ j = k + (closer label).length

namespace Form

variable {form : Form} {label text rest : List Char} {i j : Nat}

theorem block_iff : form.Block label text i j ↔
    ∃ inside rest, Marked label (text.drop i) inside rest ∧ form.Admits inside ∧
      j = i + (opener label).length + inside.length + (closer label).length := by
  constructor
  · rintro ⟨ho, k, hik, hc, ha, rfl⟩
    refine ⟨_, _, marked_of_at ho hc hik, ha, ?_⟩
    have hk := hc.add_length_le (closer_ne_nil label)
    simp only [List.extract_eq_take_drop, List.length_take, List.length_drop]
    omega
  · rintro ⟨inside, rest, hm, ha, rfl⟩
    obtain ⟨ho, hc, hi, -⟩ := at_of_marked hm
    exact ⟨ho, _, Nat.le_add_right _ _, hc, by rwa [hi], rfl⟩

theorem Block.lt (h : form.Block label text i j) : i < j ∧ j ≤ text.length := by
  obtain ⟨-, k, hik, hc, -, rfl⟩ := h
  have hk := hc.add_length_le (closer_ne_nil label)
  simp only [length_opener, length_closer] at hik hk ⊢
  omega

/-- Looking for a block at a position finds the shortest one that may start there. -/
theorem block_of_afterBlock? (hl : '\n' ∉ label)
    (h : form.afterBlock? label (text.drop i) = some rest) :
    ∃ j, form.Block label text i j ∧ text.drop j = rest ∧
      ∀ j', form.Block label text i j' → j ≤ j' := by
  obtain ⟨inside, hm, ha⟩ := marked_of_afterBlock? h
  refine ⟨_, block_iff.2 ⟨inside, rest, hm, ha, rfl⟩, (at_of_marked hm).2.2.2, ?_⟩
  intro j' hb
  obtain ⟨inside', rest', hm', ha', rfl⟩ := block_iff.1 hb
  obtain ⟨r, hr, hlen⟩ := exists_afterBlock?_of_marked hl hm' ha'
  rw [h] at hr
  cases hr
  have he := congrArg List.length (hm.split.symm.trans hm'.split)
  simp only [List.length_append] at he
  omega

theorem not_block_of_afterBlock? (hl : '\n' ∉ label)
    (h : form.afterBlock? label (text.drop i) = none) (j : Nat) : ¬form.Block label text i j := by
  intro hb
  obtain ⟨inside, rest, hm, ha, -⟩ := block_iff.1 hb
  exact not_marked_of_afterBlock? hl h hm ha

/-- Removing the blocks of a form replaces the spans of a scan for them. -/
theorem exists_scan_remove (form : Form) (hl : '\n' ∉ label) (text : List Char) (start : Nat) :
    ∃ spans, Scan (form.Block label text) start spans ∧
      form.remove label (text.drop start) = replaceSpans text start spans := by
  generalize hd : text.drop start = suffix
  fun_induction remove form label suffix generalizing start with
  | case1 =>
    refine ⟨[], .done fun i j hs hb => ?_, hd.symm⟩
    have hlen := List.drop_eq_nil_iff.1 hd
    have hij := hb.lt
    omega
  | case2 c suffix rest h ih =>
    rw [← hd] at h
    obtain ⟨j, hb, hj, hshort⟩ := block_of_afterBlock? hl h
    obtain ⟨spans, hs, he⟩ := ih j hj
    refine ⟨(start, j) :: spans, .next (Nat.le_refl _) hb ?_ hshort hs, ?_⟩
    · intro i' j' hle hlt
      omega
    · simp [replaceSpans, he]
  | case3 c suffix h ih =>
    have hlt : start < text.length := List.length_lt_of_drop_ne_nil (by simp [hd])
    obtain ⟨hc, hsuffix⟩ := List.cons.inj ((List.drop_eq_getElem_cons hlt).symm.trans hd)
    obtain ⟨spans, hs, he⟩ := ih (start + 1) hsuffix
    rw [← hd] at h
    refine ⟨spans, hs.of_succ (not_block_of_afterBlock? hl h), ?_⟩
    rw [replaceSpans_succ hlt hs, hc, he]

theorem remove_of_not_block (hl : '\n' ∉ label) (h : ∀ i j, ¬form.Block label text i j) :
    form.remove label text = text := by
  obtain ⟨spans, hs, he⟩ := form.exists_scan_remove hl text 0
  rw [hs.unique (.done fun i j _ => h i j), replaceSpans, List.drop_zero] at he
  exact he

end Form
end ScriptBundle
