/-!
# Label sets

A label set is an ordered list of labels without repeats and without the empty label. Order counts,
because each label's pass reads what the passes before it left. An inserted name loses one leading
at sign; the empty name and a name that is there already are left out.
-/

namespace ScriptBundle

structure LabelSet where
  toList : List String
  nodup : toList.Nodup
  nonempty : ∀ label ∈ toList, label ≠ ""

namespace LabelSet

@[ext] theorem ext {s t : LabelSet} (h : s.toList = t.toList) : s = t := by
  cases s
  cases t
  cases h
  rfl

instance : DecidableEq LabelSet := fun s t =>
  if h : s.toList = t.toList then isTrue (ext h) else isFalse fun e => h (e ▸ rfl)

def empty : LabelSet := ⟨[], List.nodup_nil, by simp⟩

/-- The name without one leading at sign. -/
def bare (name : String) : String :=
  match name.toList with
  | '@' :: rest => String.ofList rest
  | _ => name

/-- Whether a name would be added. -/
def accepts (s : LabelSet) (name : String) : Bool := bare name ≠ "" && bare name ∉ s.toList

def insert (s : LabelSet) (name : String) : LabelSet :=
  if h : bare name = "" ∨ bare name ∈ s.toList then s
  else
    { toList := s.toList ++ [bare name]
      nodup := by
        rw [List.nodup_append]
        refine ⟨s.nodup, by simp, ?_⟩
        intro a ha b hb
        rw [List.mem_singleton.1 hb]
        exact fun e => h (.inr (e ▸ ha))
      nonempty := by
        intro label hl
        rcases List.mem_append.1 hl with hl | hl
        · exact s.nonempty label hl
        · rw [List.mem_singleton.1 hl]
          exact fun e => h (.inl e) }

theorem toList_insert (s : LabelSet) (name : String) :
    (s.insert name).toList = if s.accepts name then s.toList ++ [bare name] else s.toList := by
  unfold insert accepts
  split <;> rename_i h
  · rcases h with h | h <;> simp [h]
  · rw [not_or] at h
    simp [h.1, h.2]

/-- Adds the names in order. -/
def extend (s : LabelSet) (names : List String) : LabelSet := names.foldl insert s

@[simp] theorem extend_nil (s : LabelSet) : s.extend [] = s := rfl

@[simp] theorem extend_cons (s : LabelSet) (name : String) (names : List String) :
    s.extend (name :: names) = (s.insert name).extend names := rfl

def ofList (names : List String) : LabelSet := empty.extend names

/-- The labels that every build strips. -/
def defaults : LabelSet := ofList ["dev", "debug", "assert"]

/-- Whether the label is there, as it is written. -/
def contains (s : LabelSet) (label : String) : Bool := s.toList.contains label

end LabelSet
end ScriptBundle
