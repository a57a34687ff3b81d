import ScriptBundle.Proofs.CommandLine.Reading
import ScriptBundle.Proofs.Uncompiled

/-!
# What the items of a line come to

Items are added one by one, and most lists among the arguments only ever grow, so they can be read
off the items (`list_foldl_add`). A configuration takes the labels, the sources and the output from
the arguments, and all else does not depend on these three (`config_eq`).
-/

namespace ScriptBundle.CommandLine

namespace Arguments

variable {a b : Arguments} {items : List Item} {line : List String}

theorem eq_foldl_add (h : items.foldlM take a = .ok b) : b = items.foldl add a := by
  induction items generalizing a with
  | nil => exact (Except.ok.inj h).symm
  | cons item items ih =>
    rw [List.foldlM_cons] at h
    cases ht : a.take item with
    | error e =>
      rw [ht] at h
      cases h
    | ok a' =>
      rw [ht] at h
      rw [ih h, eq_add_of_take ht, List.foldl_cons]

/-- An accepted line reads as some items, and its arguments are what these come to. -/
theorem exists_items_of_parse (h : parse line = .ok a) :
    ∃ items, Reads line items ∧ a = items.foldl add {} := by
  obtain ⟨items, hreads, htake⟩ := parse_eq_ok_iff.1 h
  exact ⟨items, hreads, eq_foldl_add htake⟩

theorem eq_of_reads (h : parse line = .ok a) (hreads : Reads line items) : a = items.foldl add {} :=
  eq_foldl_add ((parse_of_reads hreads).symm.trans h)

/-- What only grows holds what each of the items has for it. -/
theorem list_foldl_add {α : Type} {list : Arguments → List α} {part? : Item → Option α}
    (h : ∀ a item, list (add a item) = list a ++ (part? item).toList) (a : Arguments)
    (items : List Item) : list (items.foldl add a) = list a ++ items.filterMap part? := by
  induction items generalizing a with
  | nil => exact (List.append_nil _).symm
  | cons item items ih =>
    rw [List.foldl_cons, ih, h, List.append_assoc]
    cases hp : part? item <;> simp [hp]

theorem labels_add (a : Arguments) (item : Item) :
    (a.add item).labels = a.labels ++ item.label?.toList := by
  cases item with
  | bare text => rfl
  | valued v value => cases v <;> simp [add, put, Item.label?, Item.bare?, Item.value?]
  | flag f => exact (List.append_nil _).symm

theorem sources_add (a : Arguments) (item : Item) :
    (a.add item).sources = a.sources ++ (item.value? .source).toList := by
  cases item with
  | bare text => exact (List.append_nil _).symm
  | valued v value => cases v <;> simp [add, put, Item.value?]
  | flag f => exact (List.append_nil _).symm

theorem flags_add (a : Arguments) (item : Item) :
    (a.add item).flags = a.flags ++ item.flag?.toList := by
  cases item with
  | bare text => exact (List.append_nil _).symm
  | valued v value => cases v <;> exact (List.append_nil _).symm
  | flag f => rfl

theorem labels_foldl_add (items : List Item) :
    (items.foldl add {}).labels = items.filterMap Item.label? :=
  list_foldl_add labels_add {} items

theorem sources_foldl_add (items : List Item) :
    (items.foldl add {}).sources = items.filterMap (Item.value? .source) :=
  list_foldl_add sources_add {} items

theorem has_foldl_add {items : List Item} {f : Flag} :
    (items.foldl add {}).has f = true ↔ Item.flag f ∈ items := by
  have hflags : (items.foldl add {}).flags = items.filterMap Item.flag? :=
    list_foldl_add flags_add {} items
  rw [has, hflags, List.contains_iff_mem, List.mem_filterMap]
  constructor
  · rintro ⟨item, hmem, hf⟩
    cases item <;> cases hf
    exact hmem
  · exact fun h => ⟨_, h, rfl⟩

/-- All that is no label, no source and not the output. -/
def others (a : Arguments) : Arguments := { a with labels := [], sources := [], output := none }

end Arguments

variable {env : Environment} {a : Arguments}

theorem config_of_stray {text : String} (h : strayArgument? a.labels = some text) :
    config env a = throw (.unknownArgument text) := by
  unfold config
  rw [h]
  rfl

/-- Labels, sources and output come to their places in the configuration that all else describes,
unless a manifest has put its own there. -/
theorem config_eq (h : strayArgument? a.labels = none) : config env a = do
    let listed ← Action.ofExcept id (Sources.expand (← Action.files) a.sources)
    let c ← config env a.others
    let labels := LabelSet.defaults.extend (a.labels.map (·.text))
    if a.has .package then return { c with labels }
    else return { c with labels, sources := listed, output := a.output.map Path.mk } := by
  have hnone : ∀ f : List Path → Action Config,
      (Action.files >>= fun t => Action.ofExcept id (Sources.expand t []) >>= f) = f [] :=
    fun _ => rfl
  unfold config
  rw [h]
  simp only [bind_assoc, strayArgument?, List.findSome?_nil, Arguments.others]
  refine bind_congr fun t => bind_congr fun listed => ?_
  rw [hnone]
  refine bind_congr fun header => bind_congr fun footer => ?_
  change (if a.has .package then _ else _) = (if a.has .package then _ else _) >>= _
  split
  · simp only [Config.applyPackage, bind_assoc, pure_bind]
    rfl
  · rfl

end ScriptBundle.CommandLine
