import ScriptBundle.Proofs.Block.Place
import ScriptBundle.Proofs.Block.Thinned

/-!
# What stripping cuts out

A cutting lists, in order, what is kept of a text and what is cut out between. Every thinned text
has one. So stripping changes nothing but stretches that a label marks in the text as it was after
its line endings were normalized, whatever was removed in which pass (`exists_cutting_strip`).
-/

namespace ScriptBundle

structure Cutting where
  first : List Char
  /-- Each stretch that is cut out, with what is kept behind it. -/
  cuts : List (List Char × List Char)
  deriving DecidableEq, Repr

namespace Cutting

/-- The text before the cuts. -/
def whole (c : Cutting) : List Char := c.first ++ c.cuts.flatMap fun (cut, kept) => cut ++ kept

/-- The text with a space for every cut. -/
def spaced (c : Cutting) : List Char := c.first ++ c.cuts.flatMap fun (_, kept) => ' ' :: kept

/-- A stretch is cut out at a position of the whole text. -/
def CutAt (c : Cutting) (i : Nat) (cut : List Char) : Prop :=
  ∃ before kept after, c.cuts = before ++ (cut, kept) :: after ∧
    i = (Cutting.mk c.first before).whole.length

/-- What is kept before the first cut moves all of them. -/
theorem cutAt_cons {c : Char} {first cut : List Char} {cuts : List (List Char × List Char)}
    {i : Nat} (h : CutAt ⟨c :: first, cuts⟩ i cut) : ∃ i', i = i' + 1 ∧ CutAt ⟨first, cuts⟩ i' cut := by
  obtain ⟨before, kept, after, hc, hi⟩ := h
  exact ⟨_, by simpa [whole] using hi, before, kept, after, hc, rfl⟩

/-- A cut is the first one, or one of those behind it. -/
theorem cutAt_of_cuts_cons {block first cut : List Char} {cuts : List (List Char × List Char)}
    {i : Nat} (h : CutAt ⟨[], (block, first) :: cuts⟩ i cut) :
    i = 0 ∧ cut = block ∨ ∃ i', i = block.length + i' ∧ CutAt ⟨first, cuts⟩ i' cut := by
  obtain ⟨before, kept, after, hc, hi⟩ := h
  cases before with
  | nil =>
    cases hc
    exact .inl ⟨hi, rfl⟩
  | cons b before =>
    obtain ⟨rfl, hrest⟩ := List.cons.inj hc
    refine .inr ⟨_, ?_, before, kept, after, hrest, rfl⟩
    simpa [whole, Nat.add_assoc] using hi

end Cutting

variable {Kept : List Char → Prop} {Removed : List Char → List Char → Prop}
variable {text result : List Char}

/-- A thinned text is the text with spaces for some of its stretches, and each of them goes where
the text has it. -/
theorem Thinned.exists_cutting (h : Thinned Kept Removed text result) :
    ∃ c : Cutting, c.whole = text ∧ c.spaced = result ∧
      ∀ i cut, c.CutAt i cut → ∃ rest, text.drop i = cut ++ rest ∧ Removed cut rest := by
  induction h with
  | nil =>
    refine ⟨⟨[], []⟩, rfl, rfl, ?_⟩
    rintro i cut ⟨before, kept, after, hc, -⟩
    exact absurd hc.symm (List.append_ne_nil_of_right_ne_nil _ (List.cons_ne_nil _ _))
  | @keep c text result _ _ ih =>
    obtain ⟨⟨first, cuts⟩, rfl, rfl, hcut⟩ := ih
    refine ⟨⟨c :: first, cuts⟩, rfl, rfl, ?_⟩
    intro i cut h
    obtain ⟨i', rfl, h'⟩ := Cutting.cutAt_cons h
    exact hcut i' cut h'
  | @drop block text result hb _ ih =>
    obtain ⟨⟨first, cuts⟩, rfl, rfl, hcut⟩ := ih
    refine ⟨⟨[], (block, first) :: cuts⟩, by simp [Cutting.whole], rfl, ?_⟩
    intro i cut h
    rcases Cutting.cutAt_of_cuts_cons h with ⟨rfl, rfl⟩ | ⟨i', rfl, h'⟩
    · exact ⟨_, rfl, hb⟩
    · obtain ⟨rest, hd, hr⟩ := hcut i' cut h'
      exact ⟨rest, by rw [← List.drop_drop, List.drop_left, hd], hr⟩

/-- Stripping keeps everything but some stretches of the normalized text, in order, and puts a space
for each of them; each is marked by one of the labels, and both of its markers end on the edge of a
word in the normalized text. -/
theorem exists_cutting_strip (labels : List String) (hl : ∀ label ∈ labels, ' ' ∉ label.toList)
    (text : String) :
    ∃ c : Cutting, c.whole = Lines.normalize text.toList ∧
      c.spaced = (strip labels text).toList ∧
      ∀ i cut, c.CutAt i cut → ∃ label ∈ labels, ∃ inside,
        cut = opener label.toList ++ inside ++ closer label.toList ∧
          isEdge (Lines.normalize text.toList) (i + (opener label.toList).length) = true ∧
          isEdge (Lines.normalize text.toList) (i + cut.length) = true := by
  have hl' : ∀ label ∈ labels.map String.toList, ' ' ∉ label := List.forall_mem_map.2 hl
  obtain ⟨c, hwhole, hspaced, hcut⟩ :=
    (thinned_stripLabels hl' (Lines.normalize text.toList)).exists_cutting
  refine ⟨c, hwhole, by rw [toList_strip, hspaced], ?_⟩
  intro i cut h
  obtain ⟨rest, hd, label, hm, inside, hmk⟩ := hcut i cut h
  obtain ⟨l, hmem, rfl⟩ := List.mem_map.1 hm
  have he : cut = opener l.toList ++ inside ++ closer l.toList := List.append_cancel_right hmk.split
  rw [← hd] at hmk
  obtain ⟨ho, hc, -, -⟩ := at_of_marked hmk
  refine ⟨l, hmem, inside, he, ho.edge, ?_⟩
  have hlen : i + cut.length =
      i + (opener l.toList).length + inside.length + (closer l.toList).length := by
    rw [he, List.length_append, List.length_append]
    omega
  rw [hlen]
  exact hc.edge

/-- The block of the second label is cut out as it was, with the block that the first pass took. -/
theorem exists_cutting_strip_nested :
    (∀ label ∈ ["a", "b"], ' ' ∉ label.toList) ∧
      ∃ c : Cutting, c.whole = "x \x7b@b\nX \x7b@a y \x7d@a Z\n\x7d@b\n\x7b@a é \x7d@a".toList ∧
        c.spaced = "x  \n ".toList ∧
        ∀ i cut, c.CutAt i cut → ∃ label ∈ ["a", "b"], ∃ inside,
          cut = opener label.toList ++ inside ++ closer label.toList := by
  have hl : ∀ label ∈ ["a", "b"], ' ' ∉ label.toList := by decide
  obtain ⟨c, hwhole, hspaced, hcut⟩ :=
    exists_cutting_strip ["a", "b"] hl "x \x7b@b\r\nX \x7b@a y \x7d@a Z\r\x7d@b\n\x7b@a é \x7d@a"
  refine ⟨hl, c, hwhole.trans (by decide +kernel), hspaced.trans (by decide +kernel), ?_⟩
  intro i cut h
  obtain ⟨label, hm, inside, he, -⟩ := hcut i cut h
  exact ⟨label, hm, inside, he⟩

end ScriptBundle
