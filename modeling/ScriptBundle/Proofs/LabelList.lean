import ScriptBundle.LabelList
import ScriptBundle.Proofs.LabelSet

/-!
# What a label list comes to

An insertion does to a list what it does to the label set with that list (`run_insert_toList`), so a
run of operations leaves no empty label and no repeat. What a run adds can be said without running
it: the names without their at signs, less the empty ones and those that are there, each where it
came first (`fresh`).
-/

namespace ScriptBundle

namespace LabelSet

theorem bare_at (name : String) : bare ("@" ++ name) = name := by
  have h : ("@" ++ name).toList = '@' :: name.toList := by simp
  unfold bare
  rw [h]
  exact String.ofList_toList

end LabelSet

namespace LabelList

open LabelSet (bare)

/-- What names add to known labels. -/
def fresh (known names : List String) : List String :=
  ((names.map bare).filter fun label => label ≠ "" ∧ label ∉ known).eraseDups

theorem fresh_cons (known : List String) (name : String) (names : List String) :
    fresh known (name :: names) =
      if bare name = "" ∨ bare name ∈ known then fresh known names
      else bare name :: fresh (known ++ [bare name]) names := by
  unfold fresh
  rw [List.map_cons, List.filter_cons]
  split
  · next h =>
    rw [decide_eq_true_eq] at h
    rw [if_neg (not_or.2 h), List.eraseDups_cons, List.filter_filter]
    congr 3
    funext label
    by_cases hl : label = bare name <;> simp [hl]
  · next h =>
    rw [decide_eq_true_eq, ← not_or, Decidable.not_not] at h
    rw [if_pos h]

theorem fresh_append (known names more : List String) :
    fresh known (names ++ more) = fresh known names ++ fresh (known ++ fresh known names) more := by
  induction names generalizing known with
  | nil => simp [fresh]
  | cons name names ih =>
    rw [List.cons_append, fresh_cons, fresh_cons]
    split
    · exact ih known
    · rw [ih, List.cons_append, List.append_assoc, List.singleton_append]

/-- The names that an operation adds, in order of arrival. -/
def Operation.names : Operation → List String
  | .insert name => [name]
  | .extend names => names

/-- The operation on a set. -/
def Operation.applyTo (s : LabelSet) : Operation → LabelSet
  | .insert name => s.insert name
  | .extend names => s.extend names

def Start.names : Start → List String
  | .empty => []
  | .defaults => ["dev", "debug", "assert"]
  | .collected names => names

def Start.set : Start → LabelSet
  | .empty => .empty
  | .defaults => .defaults
  | .collected names => .ofList names

/-- No label is empty, and none is there twice. -/
structure Proper (labels : List String) : Prop where
  nodup : labels.Nodup
  nonempty : "" ∉ labels

theorem run_insert (labels : List String) (name : String) : (insert name).run labels =
    if bare name = "" ∨ bare name ∈ labels then (false, labels) else (true, labels ++ [bare name]) := by
  by_cases h : bare name = "" ∨ bare name ∈ labels
  · rw [if_pos h]
    simp [insert, h]
    rfl
  · rw [if_neg h]
    simp [insert, h]
    rfl

theorem run_extend_cons (labels : List String) (name : String) (names : List String) :
    (extend (name :: names)).run labels = (extend names).run ((insert name).run labels).2 :=
  rfl

theorem run_extend (labels names : List String) :
    ((extend names).run labels).2 = labels ++ fresh labels names := by
  induction names generalizing labels with
  | nil => exact (List.append_nil labels).symm
  | cons name names ih =>
    rw [run_extend_cons, ih, run_insert, fresh_cons]
    split
    · rfl
    · rw [List.append_assoc, List.singleton_append]

theorem run_perform (labels : List String) (op : Operation) :
    (op.perform.run labels).2 = labels ++ fresh labels op.names := by
  cases op with
  | insert name => exact run_extend labels [name]
  | extend names => exact run_extend labels names

theorem run_performAll (labels : List String) (ops : List Operation) :
    ((performAll ops).run labels).2 = labels ++ fresh labels (ops.flatMap Operation.names) := by
  induction ops generalizing labels with
  | nil => exact (List.append_nil labels).symm
  | cons op ops ih =>
    change ((performAll ops).run (op.perform.run labels).2).2 = _
    rw [ih, run_perform, List.flatMap_cons, fresh_append, List.append_assoc]

/-- An insertion does to a list what it does to a set. -/
theorem run_insert_toList (s : LabelSet) (name : String) :
    (insert name).run s.toList = (s.accepts name, (s.insert name).toList) := by
  have haccepts : s.accepts name = true ↔ ¬ (bare name = "" ∨ bare name ∈ s.toList) := by
    simp [LabelSet.accepts]
  rw [run_insert, LabelSet.toList_insert]
  by_cases h : bare name = "" ∨ bare name ∈ s.toList
  · rw [if_pos h, Bool.eq_false_iff.2 fun ha => haccepts.1 ha h]
    rfl
  · rw [if_neg h, haccepts.2 h]
    rfl

theorem run_extend_toList (s : LabelSet) (names : List String) :
    ((extend names).run s.toList).2 = (s.extend names).toList := by
  induction names generalizing s with
  | nil => rfl
  | cons name names ih => rw [run_extend_cons, run_insert_toList, ih, LabelSet.extend_cons]

theorem toList_extend (s : LabelSet) (names : List String) :
    (s.extend names).toList = s.toList ++ fresh s.toList names := by
  rw [← run_extend_toList, run_extend]

theorem run_performAll_toList (s : LabelSet) (ops : List Operation) :
    ((performAll ops).run s.toList).2 = (ops.foldl Operation.applyTo s).toList := by
  induction ops generalizing s with
  | nil => rfl
  | cons op ops ih =>
    have hop : (op.perform.run s.toList).2 = (Operation.applyTo s op).toList := by
      cases op with
      | insert name => exact congrArg Prod.snd (run_insert_toList s name)
      | extend names => exact run_extend_toList s names
    change ((performAll ops).run (op.perform.run s.toList).2).2 = _
    rw [hop, ih, List.foldl_cons]

theorem labels_start (start : Start) : start.labels = start.set.toList := by
  cases start with
  | empty => rfl
  | defaults => exact run_extend_toList .empty _
  | collected names => exact run_extend_toList .empty names

/-- The list that operations lead to. -/
def reached (start : Start) (ops : List Operation) : List String :=
  ((performAll ops).run start.labels).2

theorem toList_foldl_applyTo (start : Start) (ops : List Operation) :
    (ops.foldl Operation.applyTo start.set).toList = reached start ops := by
  rw [reached, labels_start, run_performAll_toList]

theorem proper_reached (start : Start) (ops : List Operation) : Proper (reached start ops) := by
  rw [← toList_foldl_applyTo]
  exact ⟨LabelSet.nodup _, fun h => LabelSet.nonempty _ "" h rfl⟩

theorem run_performAll_append (labels : List String) (ops more : List Operation) :
    ((performAll (ops ++ more)).run labels).2 =
      ((performAll more).run ((performAll ops).run labels).2).2 := by
  induction ops generalizing labels with
  | nil => rfl
  | cons op ops ih => exact ih (op.perform.run labels).2

theorem run_extend_append (labels names more : List String) :
    ((extend (names ++ more)).run labels).2 =
      ((extend more).run ((extend names).run labels).2).2 := by
  rw [run_extend, run_extend, run_extend, fresh_append, List.append_assoc]

/-- Whatever is done to a list, from whatever start: it has no empty label and no repeat; it is the
start and then what the added names without their at signs bring that is new, each where it came
first; every step leaves what was there as a prefix; an insertion says whether the list grew by the
name that it was given; names may be collected at once or in parts. A label set comes to the same
list. -/
theorem reached_eq_append_fresh (start : Start) (ops : List Operation) :
    Proper (reached start ops) ∧ start.labels = fresh [] start.names ∧
      reached start ops = start.labels ++ fresh start.labels (ops.flatMap Operation.names) ∧
      (∀ op, reached start (ops ++ [op]) = (op.perform.run (reached start ops)).2 ∧
        reached start ops <+: reached start (ops ++ [op])) ∧
      (∀ name, (((insert name).run (reached start ops)).1 = true ↔
          ((insert name).run (reached start ops)).2 = reached start ops ++ [bare name]) ∧
        (((insert name).run (reached start ops)).1 = false ↔
          ((insert name).run (reached start ops)).2 = reached start ops)) ∧
      (∀ names more, collect (names ++ more) = ((extend more).run (collect names)).2) ∧
      (∀ name, bare ("@" ++ name) = name) ∧
      (∀ name, name.toList.head? ≠ some '@' → bare name = name) ∧
      (ops.foldl Operation.applyTo start.set).toList = reached start ops := by
  refine ⟨proper_reached start ops, ?_, run_performAll _ ops, fun op => ?_, fun name => ?_,
    run_extend_append [], LabelSet.bare_at, fun name => LabelSet.bare_of_head?_ne,
    toList_foldl_applyTo start ops⟩
  · cases start with
    | empty => rfl
    | defaults => exact run_extend [] _
    | collected names => exact run_extend [] names
  · have hconcat : reached start (ops ++ [op]) = (op.perform.run (reached start ops)).2 :=
      run_performAll_append _ ops [op]
    refine ⟨hconcat, ?_⟩
    rw [hconcat, run_perform]
    exact List.prefix_append _ _
  · rw [run_insert]
    split <;> simp

end LabelList
end ScriptBundle
