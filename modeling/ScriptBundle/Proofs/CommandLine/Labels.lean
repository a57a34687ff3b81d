import Mathlib.Data.List.Pairwise
import ScriptBundle.CommandLine.Matches
import ScriptBundle.Proofs.CommandLine.Items
import ScriptBundle.Proofs.LabelList

/-!
# Labels in the order of the line

Values by kind lose the order of the line, and their indices bring it back: sorting permutes them
into the one list that has growing indices (`map_inOrder_collect`). So a configuration is the same
whether the labels are kept in one list or collected in two (`config_collect`).
-/

namespace ScriptBundle.CommandLine

variable {env : Environment} {a : Arguments} {items : List Item}

namespace Matches

variable {index : Nat → Nat} {value? : Item → Option String}

theorem map_pick (index : Nat → Nat) (value? : Item → Option String) (items : List Item) :
    (pick index value? items).map (·.2) = items.filterMap value? := by
  have hfst := congrArg (List.filterMap value?) (List.zipIdx_map_fst 0 items)
  rw [← hfst, pick, List.map_filterMap, List.filterMap_map]
  congr 1
  funext x
  cases h : value? x.1 <;> simp [h]

/-- What is picked comes with growing indices. -/
theorem pairwise_pick (hindex : ∀ i j, i < j → index i < index j) (value? : Item → Option String)
    (items : List Item) : (pick index value? items).Pairwise fun x y => x.1 < y.1 := by
  unfold pick
  rw [List.pairwise_filterMap, List.pairwise_iff_getElem]
  intro i j hi hj hij x hx y hy
  rw [List.getElem_zipIdx] at hx hy
  obtain ⟨_, -, rfl⟩ := Option.map_eq_some_iff.1 hx
  obtain ⟨_, -, rfl⟩ := Option.map_eq_some_iff.1 hy
  exact hindex _ _ (by omega)

/-- Two kinds that share no item make up one kind. -/
theorem perm_pick {f g : Item → Option String} (h : ∀ item, f item = none ∨ g item = none)
    (index : Nat → Nat) (items : List Item) :
    (pick index f items ++ pick index g items).Perm
      (pick index (fun item => (f item).or (g item)) items) := by
  unfold pick
  induction items.zipIdx with
  | nil => exact .refl _
  | cons x l ih =>
    rcases h x.1 with hf | hg
    · cases hg : g x.1 with
      | none => simpa [hf, hg] using ih
      | some text => simpa [hf, hg] using List.perm_middle.trans (ih.cons (index x.2, text))
    · cases hf : f x.1 with
      | none => simpa [hf, hg] using ih
      | some text => simpa [hf, hg] using ih.cons (index x.2, text)

/-- Sorting by indices finds the order in which they grow. -/
theorem mergeSort_eq_of_perm {l l' : List (Nat × String)} (hperm : l.Perm l')
    (hl : l'.Pairwise fun x y => x.1 < y.1) : (l.mergeSort fun x y => x.1 ≤ y.1) = l' := by
  have hsorted : (l.mergeSort fun x y => x.1 ≤ y.1).Pairwise fun x y => decide (x.1 ≤ y.1) = true :=
    List.pairwise_mergeSort (by simp; omega) (by simp; omega) l
  have hne : l'.Pairwise fun x y => x.1 ≠ y.1 := hl.imp fun h => Nat.ne_of_lt h
  have hsorted' : l'.Pairwise fun x y => decide (x.1 ≤ y.1) = true :=
    hl.imp fun h => decide_eq_true (Nat.le_of_lt h)
  have hp := (List.mergeSort_perm l fun x y => x.1 ≤ y.1).trans hperm
  refine hp.eq_of_pairwise (fun x y hx hy hxy hyx => ?_) hsorted hsorted'
  have : Std.Symm fun x y : Nat × String => x.1 ≠ y.1 := ⟨fun _ _ h => h.symm⟩
  by_contra hxy'
  simp only [decide_eq_true_eq] at hxy hyx
  exact hne.forall (hp.mem_iff.1 hx) hy hxy' (Nat.le_antisymm hxy hyx)

end Matches

/-- The names of labels among the items, in order. -/
def labelNames (items : List Item) : List String :=
  items.filterMap fun item => item.bare?.or (item.value? .label)

theorem map_text_filterMap (items : List Item) :
    (items.filterMap Item.label?).map (·.text) = labelNames items := by
  rw [List.map_filterMap, labelNames]
  congr 1
  funext item
  cases item with
  | bare text => rfl
  | valued v value => cases v <;> rfl
  | flag f => rfl

/-- Only a bare argument can be no label. -/
theorem strayArgument?_filterMap (items : List Item) :
    strayArgument? (items.filterMap Item.label?) =
      (items.filterMap Item.bare?).find? (·.toList.head? ≠ some '@') := by
  unfold strayArgument?
  induction items with
  | nil => rfl
  | cons item items ih =>
    cases item with
    | bare text =>
      by_cases h : text.toList.head? = some '@'
      · simpa [Item.label?, Item.bare?, h] using ih
      · simp [Item.label?, Item.bare?, h]
    | valued v value => cases v <;> simpa [Item.label?, Item.bare?, Item.value?] using ih
    | flag f => exact ih

namespace Matches

variable {index : Nat → Nat}

theorem map_inOrder_collect (hindex : ∀ i j, i < j → index i < index j) (items : List Item)
    (a : Arguments) : (collect index items a).inOrder.map (·.2) = labelNames items := by
  have hperm := perm_pick (f := Item.bare?) (g := Item.value? .label)
    (fun item => by cases item <;> simp [Item.bare?, Item.value?]) index items
  rw [inOrder, collect, mergeSort_eq_of_perm hperm (pairwise_pick hindex _ items), map_pick,
    labelNames]

/-- A configuration is the same whether its labels were kept in one list or collected in two. -/
theorem config_collect (hindex : ∀ i j, i < j → index i < index j)
    (h : a = items.foldl Arguments.add {}) (env : Environment) :
    (collect index items a).config env = CommandLine.config env a := by
  have hlabels : a.labels = items.filterMap Item.label? := by
    rw [h, Arguments.labels_foldl_add]
  have hset : (collect index items a).labels = .extend .defaults (a.labels.map (·.text)) := by
    rw [labels, map_inOrder_collect hindex, hlabels, map_text_filterMap]
  have hstray : (collect index items a).stray? = strayArgument? a.labels := by
    rw [stray?, collect, map_pick, hlabels, strayArgument?_filterMap]
  rw [config, hstray, hset]
  cases hs : strayArgument? a.labels with
  | some text =>
    rw [config_of_stray hs]
    rfl
  | none =>
    rw [config_eq hs]
    change (CommandLine.config env { a with labels := [] } >>= fun c => _) = _
    rw [config_eq rfl]
    simp only [bind_assoc]
    refine bind_congr fun t => bind_congr fun listed => bind_congr fun c => ?_
    change (if a.has .package then _ else _) >>= _ = _
    split <;> rfl

end Matches

theorem labels_of_run_config {c : Config} {w w' : Workspace}
    (h : (config env a).run w = (.ok c, w')) :
    c.labels = .extend .defaults (a.labels.map (·.text)) := by
  rw [config_eq (of_run_config h).1, Action.run_bind_ok Action.run_files] at h
  obtain ⟨listed, w₁, -, h⟩ := Action.run_bind_eq_ok h
  obtain ⟨base, w₂, -, h⟩ := Action.run_bind_eq_ok h
  dsimp only at h
  split at h <;> cases h <;> rfl

/-- The labels of a configuration are the default ones and then those of the line, each where it
came first, without its at sign; empty names and repeats are left out. How a label is given and how
its option is spelled does not matter, and neither does it that a reader may collect bare arguments
and options apart, with any indices that grow along the line. If a bare argument is no label, the
first such is reported, whatever else is wrong. -/
theorem labels_of_line (env : Environment) (line : List String) (a : Arguments) (w : Workspace)
    (hp : Arguments.parse line = .ok a) :
    (∃ items, Reads line items) ∧ ∀ items, Reads line items →
      (∀ index : Nat → Nat, (∀ i j, i < j → index i < index j) →
        (Matches.collect index items a).config env = config env a) ∧
      (∀ text, (items.filterMap Item.bare?).find? (·.toList.head? ≠ some '@') = some text →
        (config env a).run w = (.error (.unknownArgument text), w)) ∧
      ∀ c w', (config env a).run w = (.ok c, w') → c.labels.toList =
        ["dev", "debug", "assert"] ++
          LabelList.fresh ["dev", "debug", "assert"] (labelNames items) := by
  refine ⟨?_, fun items hreads => ?_⟩
  · obtain ⟨items, hreads, -⟩ := Arguments.exists_items_of_parse hp
    exact ⟨items, hreads⟩
  have ha := Arguments.eq_of_reads hp hreads
  have hlabels : a.labels = items.filterMap Item.label? := by
    rw [ha, Arguments.labels_foldl_add]
  refine ⟨fun index hindex => Matches.config_collect hindex ha env, fun text htext => ?_,
    fun c w' hc => ?_⟩
  · rw [← strayArgument?_filterMap, ← hlabels] at htext
    rw [config_of_stray htext]
    rfl
  · have hdefaults : LabelSet.defaults.toList = ["dev", "debug", "assert"] := by decide
    rw [labels_of_run_config hc, LabelList.toList_extend, hlabels, map_text_filterMap, hdefaults]

/-- Both kinds and both spellings, with repeats of a default label and of another one, an empty name
and one with two at signs; and a line with two bare arguments that are no labels and a source that
is no pattern. -/
theorem labels_of_line_mixed :
    ∃ (mixed stray : Arguments) (w : Workspace),
      Arguments.parse ["--label", "b", "@a", "--label=@dev", "-v", "--source", "x.js", "--", "@b",
        "@", "@@c"] = .ok mixed ∧
      (∃ c w', (config [] mixed).run w = (.ok c, w') ∧
        c.labels.toList = ["dev", "debug", "assert", "b", "a", "@c"]) ∧
      Arguments.parse ["@dev", "release", "--source", "[", "debug"] = .ok stray ∧
      (config [] stray).run w = (.error (.unknownArgument "release"), w) := by
  obtain ⟨mixed, hmixed⟩ : ∃ mixed : Arguments, mixed =
      { labels := [.option "b", .bare "@a", .option "@dev", .bare "@b", .bare "@", .bare "@@c"]
        sources := ["x.js"]
        flags := [.verbose] } := ⟨_, rfl⟩
  obtain ⟨stray, hstray⟩ : ∃ stray : Arguments, stray =
      { labels := [.bare "@dev", .bare "release", .bare "debug"], sources := ["["] } := ⟨_, rfl⟩
  have hparse : Arguments.parse ["--label", "b", "@a", "--label=@dev", "-v", "--source", "x.js", "--",
      "@b", "@", "@@c"] = .ok mixed := by
    rw [hmixed]
    exact eq_ok_of_toOption (by decide +kernel)
  have hparse' : Arguments.parse ["@dev", "release", "--source", "[", "debug"] = .ok stray := by
    rw [hstray]
    exact eq_ok_of_toOption (by decide +kernel)
  have hreads : Reads ["--label", "b", "@a", "--label=@dev", "-v", "--source", "x.js", "--", "@b",
      "@", "@@c"] [.valued .label "b", .bare "@a", .valued .label "@dev", .flag .verbose,
        .valued .source "x.js", .bare "@b", .bare "@", .bare "@@c"] :=
    .apart .label (.inr (by decide)) (.bare (by decide) (.joined .label "@dev"
      (.cluster ['v'] [.verbose] (by decide) (by decide)
        (.apart .source (.inr (by decide)) (.dashes ["@b", "@", "@@c"])))))
  have hreads' : Reads ["@dev", "release", "--source", "[", "debug"] [.bare "@dev", .bare "release",
      .valued .source "[", .bare "debug"] :=
    .bare (by decide) (.bare (by decide) (.apart .source (.inr (by decide))
      (.bare (by decide) .nil)))
  have hok : ((config [] mixed).run ⟨⟨[], []⟩, []⟩).1.toOption.isSome = true := by
    rw [hmixed]
    decide +kernel
  obtain ⟨c, hc⟩ := Option.isSome_iff_exists.1 hok
  have hrun := Action.run_eq_of_result (eq_ok_of_toOption hc)
  refine ⟨mixed, stray, _, hparse, ⟨c, _, hrun, ?_⟩, hparse', ?_⟩
  · exact (((labels_of_line [] _ mixed _ hparse).2 _ hreads).2.2 c _ hrun).trans (by decide +kernel)
  · exact ((labels_of_line [] _ stray _ hparse').2 _ hreads').2.1 "release" (by decide +kernel)

end ScriptBundle.CommandLine
