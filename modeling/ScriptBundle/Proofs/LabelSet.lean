import ScriptBundle.LabelSet
import ScriptBundle.Proofs.Block.Survivors

/-!
# Repeated labels

A label set leaves out the repeats of a list of labels. That changes no result: after a label's pass no
opener of it has a closer behind it, later passes make no such pair, and a pass without one to remove
leaves the text as it is.
-/

namespace ScriptBundle

/-- The pass of a label that had one before, whatever passes ran in between, changes nothing. -/
theorem stripLabel_stripLabels {labels : List (List Char)} {label : List Char}
    (hs : ∀ label ∈ labels, ' ' ∉ label) (hn : ∀ label ∈ labels, '\n' ∉ label) (h : label ∈ labels)
    (text : List Char) : stripLabel label (stripLabels labels text) = stripLabels labels text := by
  have hp := not_paired_stripLabels hs hn h text
  rw [stripLabel, Form.remove_of_not_paired (hn label h) hp, Form.remove_of_not_paired (hn label h) hp]

variable {labels : List String} {label text : String}

theorem strip_append_singleton_of_mem
    (hl : ∀ label ∈ labels, ' ' ∉ label.toList ∧ '\n' ∉ label.toList) (h : label ∈ labels)
    (text : String) : strip (labels ++ [label]) text = strip labels text := by
  apply String.toList_injective
  rw [toList_strip, toList_strip, List.map_append, stripLabels_append]
  exact stripLabel_stripLabels (List.forall_mem_map.2 fun label hm => (hl label hm).1)
    (List.forall_mem_map.2 fun label hm => (hl label hm).2) (List.mem_map_of_mem h) _

/-- What further passes leave depends on nothing but the text that they read. -/
theorem strip_append_congr {other : List String} (h : strip labels text = strip other text)
    (more : List String) : strip (labels ++ more) text = strip (other ++ more) text := by
  have hlist := congrArg String.toList h
  rw [toList_strip, toList_strip] at hlist
  apply String.toList_injective
  rw [toList_strip, toList_strip, List.map_append, List.map_append, stripLabels_append,
    stripLabels_append, hlist]

namespace LabelSet

theorem bare_of_head?_ne (h : label.toList.head? ≠ some '@') : bare label = label := by
  unfold bare
  split
  · next he => exact absurd (by rw [he]; rfl) h
  · rfl

theorem toList_insert_of_bare_eq (hb : bare label = label) (hne : label ≠ "") (s : LabelSet) :
    (s.insert label).toList = if label ∈ s.toList then s.toList else s.toList ++ [label] := by
  rw [toList_insert]
  by_cases h : label ∈ s.toList <;> simp [accepts, hb, hne, h]

/-- Stripping for labels that are added to a set is stripping for the set and then for all of them. -/
theorem strip_extend (s : LabelSet) (names : List String)
    (hbare : ∀ name ∈ names, bare name = name ∧ name ≠ "")
    (hl : ∀ label ∈ s.toList ++ names, ' ' ∉ label.toList ∧ '\n' ∉ label.toList) :
    strip (s.extend names).toList text = strip (s.toList ++ names) text := by
  induction names generalizing s with
  | nil => rw [extend_nil, List.append_nil]
  | cons name names ih =>
    obtain ⟨hname, hrest⟩ := List.forall_mem_cons.1 hbare
    have hinsert := toList_insert_of_bare_eq hname.1 hname.2 s
    rw [extend_cons]
    by_cases hmem : name ∈ s.toList
    · rw [if_pos hmem] at hinsert
      have hset := fun label hm => hl label (List.mem_append_left _ hm)
      have hcongr := strip_append_congr (strip_append_singleton_of_mem hset hmem text) names
      rw [List.append_assoc, List.singleton_append] at hcongr
      rw [ih (s.insert name) hrest, hinsert, hcongr]
      rw [hinsert]
      intro label hm
      rcases List.mem_append.1 hm with hm | hm
      · exact hset label hm
      · exact hl label (List.mem_append_right _ (List.mem_cons_of_mem _ hm))
    · rw [if_neg hmem] at hinsert
      have hall : (s.insert name).toList ++ names = s.toList ++ name :: names := by
        rw [hinsert, List.append_assoc, List.singleton_append]
      rw [ih (s.insert name) hrest (hall ▸ hl), hall]

end LabelSet

/-- Stripping for a list of labels is stripping for the set of them, because the passes of a label after
its first one change nothing. -/
theorem strip_ofList (labels : List String)
    (hl : ∀ label ∈ labels, label ≠ "" ∧ label.toList.head? ≠ some '@' ∧ ' ' ∉ label.toList ∧
      '\n' ∉ label.toList) (text : String) :
    strip labels text = strip (LabelSet.ofList labels).toList text ∧
      ∀ before label after, labels = before ++ label :: after → label ∈ before →
        strip (before ++ [label]) text = strip before text := by
  constructor
  · refine (LabelSet.strip_extend .empty labels (fun label hm => ?_) fun label hm => ?_).symm
    · exact ⟨LabelSet.bare_of_head?_ne (hl label hm).2.1, (hl label hm).1⟩
    · exact (hl label hm).2.2
  · rintro before label after rfl hmem
    exact strip_append_singleton_of_mem (fun l hm => (hl l (List.mem_append_left _ hm)).2.2) hmem _

/-- With one label a part of the other, and the pass of one between two of the other. -/
theorem strip_ofList_interleaved :
    (∀ label ∈ ["a", "ab", "a", "ab"], label ≠ "" ∧ label.toList.head? ≠ some '@' ∧
        ' ' ∉ label.toList ∧ '\n' ∉ label.toList) ∧
      strip ["a", "ab", "a", "ab"] "\x7b@ab\n\x7b@a\n1 \x7d@ab\x7b@a\n2 \x7d@a \x7b@ab 3 \x7d@ab" =
        strip ["a", "ab"] "\x7b@ab\n\x7b@a\n1 \x7d@ab\x7b@a\n2 \x7d@a \x7b@ab 3 \x7d@ab" ∧
      strip ["a", "ab", "a"] "\x7b@ab\n\x7b@a\n1 \x7d@ab\x7b@a\n2 \x7d@a \x7b@ab 3 \x7d@ab" =
        strip ["a", "ab"] "\x7b@ab\n\x7b@a\n1 \x7d@ab\x7b@a\n2 \x7d@a \x7b@ab 3 \x7d@ab" := by
  have hl : ∀ label ∈ ["a", "ab", "a", "ab"], label ≠ "" ∧ label.toList.head? ≠ some '@' ∧
      ' ' ∉ label.toList ∧ '\n' ∉ label.toList := by decide
  have hset : (LabelSet.ofList ["a", "ab", "a", "ab"]).toList = ["a", "ab"] := by decide
  have h := strip_ofList ["a", "ab", "a", "ab"] hl
    "\x7b@ab\n\x7b@a\n1 \x7d@ab\x7b@a\n2 \x7d@a \x7b@ab 3 \x7d@ab"
  rw [hset] at h
  exact ⟨hl, h.1, h.2 ["a", "ab"] "a" ["ab"] rfl (by decide)⟩

end ScriptBundle
