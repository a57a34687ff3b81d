import ScriptBundle.Sources

/-!
# Lists up to repeats

Two lists have the same firsts if whatever is looked for in them, the first that is found is the same.
They hold the same in the same order then, but one may repeat what the other does not, and leaving out
repeats makes them equal (`SameFirsts.dropRepeats_eq`). What is done to both lists keeps their firsts the
same; a stable sort does so too, because among what it takes for equal it keeps the first one first.
-/

namespace ScriptBundle

variable {α β : Type} {l l' m m' : List α} {p q : α → Bool} {le : α → α → Bool} {a b : α}

def SameFirsts (l l' : List α) : Prop := ∀ q : α → Bool, l'.find? q = l.find? q

/-- What is found first in a sorted list comes before all that could be found. -/
theorem le_of_find?_eq_some (total : ∀ a b, (le a b || le b a) = true)
    (hl : l.Pairwise fun a b => le a b = true) (ha : l.find? q = some a) (hb : b ∈ l)
    (hq : q b = true) : le a b = true := by
  obtain ⟨-, before, after, rfl, hbefore⟩ := List.find?_eq_some_iff_append.1 ha
  rcases List.mem_append.1 hb with hb | hb
  · have hno := hbefore b hb
    rw [hq] at hno
    cases hno
  · rcases List.mem_cons.1 hb with rfl | hb
    · simpa using total b b
    · exact List.rel_of_pairwise_cons (List.pairwise_append.1 hl).2.1 hb

namespace SameFirsts

theorem refl (l : List α) : SameFirsts l l := fun _ => rfl

theorem mem_iff (h : SameFirsts l l') : a ∈ l' ↔ a ∈ l := by
  classical
  have hsome := congrArg Option.isSome (h fun x => decide (x = a))
  rw [Bool.eq_iff_iff, List.find?_isSome, List.find?_isSome] at hsome
  simpa using hsome

theorem append (h : SameFirsts l l') (hm : SameFirsts m m') : SameFirsts (l ++ m) (l' ++ m') := by
  intro q
  rw [List.find?_append, List.find?_append, h q, hm q]

theorem filter (h : SameFirsts l l') (p : α → Bool) : SameFirsts (l.filter p) (l'.filter p) := by
  intro q
  rw [List.find?_filter, List.find?_filter, h]

/-- Filtering keeps the firsts of what a filter leaves. -/
theorem filter_filter (h : SameFirsts (l.filter p) (l'.filter p)) (q : α → Bool) :
    SameFirsts ((l.filter q).filter p) ((l'.filter q).filter p) := by
  have hcomm : ∀ l : List α, (l.filter q).filter p = (l.filter p).filter q := fun l => by
    rw [List.filter_filter, List.filter_filter]
    exact congrArg (List.filter · l) (funext fun a => Bool.and_comm _ _)
  rw [hcomm, hcomm]
  exact h.filter q

theorem map (h : SameFirsts l l') (f : α → β) : SameFirsts (l.map f) (l'.map f) := by
  intro q
  rw [List.find?_map, List.find?_map, h]

/-- What is put in for every member may differ in its repeats as well. -/
theorem flatMap {f f' : α → List β} (h : SameFirsts l l') (hf : ∀ a, SameFirsts (f a) (f' a)) :
    SameFirsts (l.flatMap f) (l'.flatMap f') := by
  intro q
  have hsome : ∀ (g : α → Option β) (l : List α), l.findSome? g =
      (l.find? fun a => (g a).isSome).bind g := by
    intro g l
    induction l with
    | nil => rfl
    | cons a l ih => cases hg : g a <;> simp [hg, ih]
  rw [List.find?_flatMap, List.find?_flatMap, funext fun a => hf a q, hsome, hsome, h]

/-- Sorted lists with the same members differ in their repeats only. -/
theorem of_pairwise (total : ∀ a b, (le a b || le b a) = true)
    (antisymm : ∀ a b, le a b = true → le b a = true → a = b)
    (hl : l.Pairwise fun a b => le a b = true) (hl' : l'.Pairwise fun a b => le a b = true)
    (hmem : ∀ a, a ∈ l' ↔ a ∈ l) : SameFirsts l l' := by
  intro q
  cases ha : l.find? q with
  | none =>
    rw [List.find?_eq_none] at ha ⊢
    exact fun x hx => ha x ((hmem x).1 hx)
  | some a =>
    have hqa := List.find?_some ha
    have hla := (hmem a).2 (List.mem_of_find?_eq_some ha)
    cases hb : l'.find? q with
    | none => exact absurd hqa (List.find?_eq_none.1 hb a hla)
    | some b =>
      have hlb := (hmem b).1 (List.mem_of_find?_eq_some hb)
      rw [antisymm a b (le_of_find?_eq_some total hl ha hlb (List.find?_some hb))
        (le_of_find?_eq_some total hl' hb hla hqa)]

end SameFirsts

/-- Sorting keeps the order of what it takes for equal. -/
theorem filter_mergeSort (trans : ∀ a b c, le a b = true → le b c = true → le a c = true)
    (total : ∀ a b, (le a b || le b a) = true)
    (hp : ∀ a ∈ l, p a = true → ∀ b ∈ l, p b = true → le a b = true) :
    (l.mergeSort le).filter p = l.filter p := by
  have hpairwise : (l.filter p).Pairwise fun a b => le a b = true :=
    List.pairwise_of_forall_mem_list fun a ha b hb =>
      hp a (List.mem_filter.1 ha).1 (List.mem_filter.1 ha).2 b (List.mem_filter.1 hb).1
        (List.mem_filter.1 hb).2
  have hsub := (List.sublist_mergeSort trans total hpairwise List.filter_sublist).filter p
  rw [List.filter_filter, funext fun a => Bool.and_self (p a)] at hsub
  exact (hsub.eq_of_length ((List.mergeSort_perm l le).filter p).length_eq.symm).symm

/-- What is found in a sorted list is what is found first, in the list as it was, among all that is not
after it. -/
theorem find?_of_mergeSort (trans : ∀ a b c, le a b = true → le b c = true → le a c = true)
    (total : ∀ a b, (le a b || le b a) = true) (ha : (l.mergeSort le).find? q = some a) :
    l.find? (fun x => q x && le x a) = some a := by
  have hsorted := List.pairwise_mergeSort trans total l
  rw [← List.head?_filter, ← filter_mergeSort trans total, List.head?_filter]
  · obtain ⟨hq, before, after, hl, hbefore⟩ := List.find?_eq_some_iff_append.1 ha
    refine List.find?_eq_some_iff_append.2 ⟨?_, before, after, hl, fun x hx => ?_⟩
    · simpa [hq] using total a a
    · have hno := hbefore x hx
      simp_all
  · intro x hx hpx y hy hpy
    rw [Bool.and_eq_true] at hpx hpy
    exact trans x a y hpx.2 (le_of_find?_eq_some total hsorted ha (List.mem_mergeSort.2 hy) hpy.1)

/-- Sorted, the lists differ in their repeats only where they have the same members. -/
theorem SameFirsts.filter_mergeSort (trans : ∀ a b c, le a b = true → le b c = true → le a c = true)
    (total : ∀ a b, (le a b || le b a) = true)
    (antisymm : ∀ a b, le a b = true → le b a = true → a = b)
    (hmem : ∀ a, p a = true → (a ∈ l' ↔ a ∈ l)) :
    SameFirsts ((l.mergeSort le).filter p) ((l'.mergeSort le).filter p) := by
  refine .of_pairwise total antisymm ((List.pairwise_mergeSort trans total l).filter p)
    ((List.pairwise_mergeSort trans total l').filter p) fun a => ?_
  rw [List.mem_filter, List.mem_filter, List.mem_mergeSort, List.mem_mergeSort]
  exact and_congr_left (hmem a)

theorem SameFirsts.mergeSort (trans : ∀ a b c, le a b = true → le b c = true → le a c = true)
    (total : ∀ a b, (le a b || le b a) = true) (h : SameFirsts l l') :
    SameFirsts (l.mergeSort le) (l'.mergeSort le) := by
  intro q
  cases ha : (l.mergeSort le).find? q with
  | none =>
    rw [List.find?_eq_none] at ha ⊢
    exact fun x hx => ha x (List.mem_mergeSort.2 (h.mem_iff.1 (List.mem_mergeSort.1 hx)))
  | some a =>
    have hqa := List.find?_some ha
    have hal := List.mem_mergeSort.1 (List.mem_of_find?_eq_some ha)
    cases hb : (l'.mergeSort le).find? q with
    | none =>
      exact absurd hqa (List.find?_eq_none.1 hb a (List.mem_mergeSort.2 (h.mem_iff.2 hal)))
    | some b =>
      have hbl := List.mem_mergeSort.1 (List.mem_of_find?_eq_some hb)
      have hab : le a b = true := le_of_find?_eq_some total (List.pairwise_mergeSort trans total l) ha
        (List.mem_mergeSort.2 (h.mem_iff.1 hbl)) (List.find?_some hb)
      have hba : le b a = true := le_of_find?_eq_some total (List.pairwise_mergeSort trans total l') hb
        (List.mem_mergeSort.2 (h.mem_iff.2 hal)) hqa
      -- Both are found among the same ones.
      have hsame : (fun x => q x && le x a) = fun x => q x && le x b := by
        funext x
        congr 1
        exact Bool.eq_iff_iff.2 ⟨fun hx => trans x a b hx hab, fun hx => trans x b a hx hba⟩
      have hfound := find?_of_mergeSort trans total ha
      rw [← h, hsame, find?_of_mergeSort trans total hb] at hfound
      exact hfound

namespace Sources

variable {paths : List Path}

/-- What was kept already keeps out of the rest what is the same. -/
theorem foldl_dropRepeats (kept paths : List Path) :
    paths.foldl (fun kept p => if kept.any (·.same p) then kept else kept ++ [p]) kept =
      kept ++ dropRepeats (paths.filter fun p => !kept.any (·.same p)) := by
  unfold dropRepeats
  -- The rest is filtered before it is gone through again, so the induction is on its length.
  induction h : paths.length using Nat.strongRecOn generalizing kept paths with
  | _ n ih =>
    cases paths with
    | nil => simp
    | cons p paths =>
      subst h
      rw [List.foldl_cons]
      split
      · next hkept =>
        rw [ih paths.length (Nat.lt_succ_self _) kept paths rfl, List.filter_cons_of_neg (by simp [hkept])]
      · next hkept =>
        have hlt := Nat.lt_succ_of_le (List.length_filter_le (fun p => !kept.any (·.same p)) paths)
        rw [ih paths.length (Nat.lt_succ_self _) (kept ++ [p]) paths rfl,
          List.filter_cons_of_pos (by simpa using hkept), List.foldl_cons, List.any_nil,
          if_neg Bool.false_ne_true, List.nil_append, ih _ hlt [p] _ rfl, List.filter_filter,
          List.append_assoc]
        congr 4
        funext q
        simp [Bool.and_comm]

theorem dropRepeats_cons (p : Path) (paths : List Path) :
    dropRepeats (p :: paths) = p :: dropRepeats (paths.filter fun q => !p.same q) := by
  have h := foldl_dropRepeats [p] paths
  simpa [dropRepeats] using h

/-- Induction along what is left of a list when all that is the same as its first path goes. -/
@[elab_as_elim]
theorem dropRepeats_induction {motive : List Path → Prop} (nil : motive [])
    (cons : ∀ p rest, motive (rest.filter fun q => !p.same q) → motive (p :: rest))
    (paths : List Path) : motive paths := by
  induction hn : paths.length using Nat.strongRecOn generalizing paths with
  | _ n ih =>
    cases paths with
    | nil => exact nil
    | cons p rest =>
      have hlt := Nat.lt_succ_of_le (List.length_filter_le (fun q => !p.same q) rest)
      exact cons p rest (ih _ (hn ▸ hlt) _ rfl)

/-- What is left out is the same as something that stays. -/
theorem exists_same_of_mem {p : Path} (hp : p ∈ paths) : ∃ q ∈ dropRepeats paths, q.same p = true := by
  induction paths using dropRepeats_induction with
  | nil => exact nomatch hp
  | cons first rest ih =>
    rw [dropRepeats_cons]
    by_cases hsame : first.same p = true
    · exact ⟨first, List.mem_cons_self, hsame⟩
    · have hself : first.same first = true := by simp [Path.same]
      have hrest : p ∈ rest := (List.mem_cons.1 hp).resolve_left fun he => hsame (he ▸ hself)
      obtain ⟨q, hq, hqp⟩ := ih (List.mem_filter.2 ⟨hrest, by simpa using hsame⟩)
      exact ⟨q, List.mem_cons_of_mem _ hq, hqp⟩

end Sources

/-- Without its repeats a list is known by its firsts. -/
theorem SameFirsts.dropRepeats_eq {paths paths' : List Path} (h : SameFirsts paths paths') :
    Sources.dropRepeats paths' = Sources.dropRepeats paths := by
  induction paths using Sources.dropRepeats_induction generalizing paths' with
  | nil =>
    cases paths' with
    | nil => rfl
    | cons p' rest' => cases h fun _ => true
  | cons p rest ih =>
    have hhead := h fun _ => true
    cases paths' with
    | nil => cases hhead
    | cons p' rest' =>
      obtain rfl : p' = p := by simpa using hhead
      have hself : (!p'.same p') = false := by simp [Path.same]
      have hrest := h.filter fun q => !p'.same q
      rw [List.filter_cons_of_neg (by simp [hself]), List.filter_cons_of_neg (by simp [hself])]
        at hrest
      rw [Sources.dropRepeats_cons, Sources.dropRepeats_cons, ih hrest]

end ScriptBundle
