import ScriptBundle.Proofs.Files.Walk

/-!
# Parents of paths

The parent of a path is spelled as a beginning of it, and its parts are those of the path but the
last (`parts_parent`). So a path leads to the key of its parent, changed by its last part, and away
from every other name in the directory of its parent.
-/

namespace ScriptBundle.Path

variable {leading : Bool} {start : Nat} {segment text : List Char} {p q : Path}

/-- The part that a segment makes, if it makes one. -/
def partOf? (leading : Bool) (segment : List Char) : Option Part :=
  if segment = [] then none
  else if segment = ['.'] then if leading then some .here else none
  else if segment = ['.', '.'] then some .up
  else some (.name (String.ofList segment))

theorem placeSegments_cons (rest : List (List Char)) :
    placeSegments leading start (segment :: rest) =
      ((partOf? leading segment).map (⟨·, start + segment.length⟩)).toList ++
        placeSegments false (start + segment.length + 1) rest := by
  rw [placeSegments, partOf?]
  split
  · rfl
  · split
    · split <;> rfl
    · split <;> rfl

theorem ne_nil_of_partOf? {part : Part} (h : partOf? leading segment = some part) :
    segment ≠ [] := by
  rintro rfl
  cases h

theorem take_segment {rest : List Char} {stop : Nat} (h : start + segment.length + 1 < stop) :
    (segment ++ '/' :: rest).take (stop - start) =
      segment ++ '/' :: rest.take (stop - (start + segment.length + 1)) := by
  have hcount : stop - start = segment.length + (stop - (start + segment.length + 1) + 1) := by
    omega
  rw [hcount, List.take_length_add_append, List.take_succ_cons]

/-- Up to the end of a part a text has the parts up to this one. -/
theorem placeSegments_take {leading : Bool} {start : Nat} {text : List Char}
    {before after : List Placed} {b : Placed}
    (h : placeSegments leading start (text.splitOn '/') = before ++ b :: after) :
    start < b.stop ∧
      placeSegments leading start ((text.take (b.stop - start)).splitOn '/') = before ++ [b] := by
  by_cases hslash : '/' ∈ text
  · obtain ⟨segment, rest, htext, hsegment⟩ := List.eq_append_cons_of_mem hslash
    have hshort : rest.length < text.length := by
      rw [htext, List.length_append, List.length_cons]
      omega
    rw [htext, List.splitOn_append_cons_self_of_not_mem hsegment, placeSegments_cons] at h
    rw [htext]
    -- A part behind the first segment is one of the rest of the text.
    have hrest : ∀ before', placeSegments false (start + segment.length + 1) (rest.splitOn '/') =
        before' ++ b :: after → start < b.stop ∧ placeSegments leading start
          (((segment ++ '/' :: rest).take (b.stop - start)).splitOn '/') =
            ((partOf? leading segment).map (⟨·, start + segment.length⟩)).toList ++
              (before' ++ [b]) := by
      intro before' h'
      obtain ⟨hlt, htake⟩ := placeSegments_take h'
      rw [take_segment hlt, List.splitOn_append_cons_self_of_not_mem hsegment, placeSegments_cons,
        htake]
      exact ⟨by omega, rfl⟩
    cases hp : partOf? leading segment with
    | none =>
      rw [hp] at h hrest
      exact hrest before h
    | some part =>
      rw [hp] at h hrest
      cases before with
      | nil =>
        obtain ⟨rfl, -⟩ := List.cons.inj h
        have hpos := List.length_pos_iff.2 (ne_nil_of_partOf? hp)
        have htake : (segment ++ '/' :: rest).take (start + segment.length - start) = segment := by
          rw [Nat.add_sub_cancel_left, List.take_left]
        rw [htake, List.splitOn_eq_singleton hsegment, placeSegments_cons, hp]
        exact ⟨by dsimp only; omega, rfl⟩
      | cons first before =>
        obtain ⟨rfl, hbefore⟩ := List.cons.inj h
        exact hrest before hbefore
  · rw [List.splitOn_eq_singleton hslash, placeSegments_cons] at h
    cases hp : partOf? leading text with
    | none =>
      rw [hp] at h
      exact absurd h (by simp [placeSegments])
    | some part =>
      rw [hp] at h
      cases before with
      | nil =>
        obtain ⟨rfl, -⟩ := List.cons.inj h
        have hpos := List.length_pos_iff.2 (ne_nil_of_partOf? hp)
        rw [Nat.add_sub_cancel_left, List.take_length, List.splitOn_eq_singleton hslash,
          placeSegments_cons, hp]
        exact ⟨by dsimp only; omega, rfl⟩
      | cons first before =>
        obtain ⟨-, h⟩ := List.cons.inj h
        exact absurd h (by simp [placeSegments])
termination_by text.length

/-- The path up to the end of a part has the parts up to this one, and starts where the path does. -/
theorem placed_take {before after : List Placed} {b : Placed} (h : p.placed = before ++ b :: after)
    (hq : q = ⟨String.ofList (p.spelling.toList.take b.stop)⟩) :
    q.placed = before ++ [b] ∧ q.isAbsolute = p.isAbsolute := by
  have htext : q.spelling.toList = p.spelling.toList.take b.stop := by
    rw [hq, String.toList_ofList]
  have hstart : 0 < b.stop → q.isAbsolute = p.isAbsolute := by
    intro hpos
    rw [isAbsolute, isAbsolute, htext, List.head?_take, if_neg (by omega)]
  unfold placed at h
  cases ha : p.isAbsolute with
  | false =>
    rw [ha, if_neg Bool.false_ne_true] at h
    obtain ⟨hpos, htake⟩ := placeSegments_take h
    have hqa := (hstart hpos).trans ha
    rw [placed, hqa, if_neg Bool.false_ne_true, segments, htext]
    exact ⟨htake, rfl⟩
  | true =>
    rw [ha, if_pos rfl] at h
    cases before with
    | nil =>
      obtain ⟨rfl, -⟩ := List.cons.inj h
      have hqa := (hstart Nat.one_pos).trans ha
      obtain ⟨tail, htail⟩ : ∃ tail, p.spelling.toList = '/' :: tail :=
        List.head?_eq_some_iff.1 (eq_of_beq ha)
      rw [placed, hqa, if_pos rfl, segments, htext, htail]
      exact ⟨rfl, rfl⟩
    | cons first before =>
      obtain ⟨rfl, hrest⟩ := List.cons.inj h
      obtain ⟨hpos, htake⟩ := placeSegments_take hrest
      have hqa := (hstart hpos).trans ha
      rw [placed, hqa, if_pos rfl, segments, htext, ← Nat.sub_zero b.stop, htake]
      exact ⟨rfl, rfl⟩

/-- A parent has the parts of the path but the last, and starts where the path does. -/
theorem parts_parent (h : p.parent? = some q) :
    ∃ last, p.parts = q.parts ++ [last] ∧ q.isAbsolute = p.isAbsolute := by
  unfold parent? at h
  cases hr : p.placed.reverse with
  | nil => simp [hr] at h
  | cons last before =>
    rw [hr] at h
    dsimp only at h
    split at h
    · cases h
    · next hlast =>
      have hplaced : p.placed = before.reverse ++ [last] := by
        rw [← List.reverse_reverse p.placed, hr, List.reverse_cons]
      cases before with
      | nil =>
        cases h
        refine ⟨last.part, by rw [parts, hplaced]; rfl, ?_⟩
        cases ha : p.isAbsolute with
        | false => rfl
        | true =>
          rw [placed, ha, if_pos rfl] at hplaced
          obtain ⟨rfl, -⟩ := List.cons.inj hplaced
          exact absurd rfl hlast
      | cons b before =>
        rw [List.reverse_cons, List.append_assoc] at hplaced
        obtain ⟨hparts, habsolute⟩ := placed_take hplaced (Option.some.inj h).symm
        refine ⟨last.part, ?_, habsolute⟩
        rw [parts, parts, hplaced, hparts]
        simp

/-- The name that a part leads on to. -/
def Part.step? : Part → Option String
  | .root | .here => none
  | .up => some ".."
  | .name text => some text

theorem step?_partOf? (leading : Bool) (segment : List Char) :
    (partOf? leading segment).bind Part.step? =
      if segment = [] ∨ segment = ['.'] then none else some (String.ofList segment) := by
  unfold partOf?
  by_cases hnil : segment = []
  · simp [hnil]
  · by_cases hdot : segment = ['.']
    · cases leading <;> simp [hdot, Part.step?]
    · by_cases hup : segment = ['.', '.']
      · simp [hup, Part.step?]
      · simp [hnil, hdot, hup, Part.step?]

/-- A segment makes no root. -/
theorem part_ne_root {segments : List (List Char)} {placed : Placed}
    (h : placed ∈ placeSegments leading start segments) : placed.part ≠ .root := by
  induction segments generalizing leading start with
  | nil => cases h
  | cons segment rest ih =>
    rw [placeSegments_cons, List.mem_append] at h
    rcases h with h | h
    · rw [Option.mem_toList, Option.map_eq_some_iff] at h
      obtain ⟨part, hp, rfl⟩ := h
      rintro rfl
      unfold partOf? at hp
      repeat' split at hp
      all_goals cases hp
    · exact ih h

/-- A path without a parent leads on to no name. -/
theorem filterMap_step?_of_parent? (h : p.parent? = none) : p.parts.filterMap Part.step? = [] := by
  unfold parent? at h
  cases hr : p.placed.reverse with
  | nil => rw [parts, List.reverse_eq_nil_iff.1 hr]; rfl
  | cons last before =>
    have hplaced : p.placed = before.reverse ++ [last] := by
      rw [← List.reverse_reverse p.placed, hr, List.reverse_cons]
    rw [hr] at h
    dsimp only at h
    split at h
    · next hroot =>
      -- Only the first part of an absolute path is a root.
      have hsegments : ∀ leading, last ∉ placeSegments leading 0 p.segments :=
        fun leading hm => part_ne_root hm hroot
      have hlast : p.placed.getLast? = some last := by rw [hplaced, List.getLast?_concat]
      unfold parts placed
      unfold placed at hlast
      cases ha : p.isAbsolute with
      | false =>
        rw [ha, if_neg Bool.false_ne_true] at hlast
        exact absurd (List.mem_of_getLast? hlast) (hsegments true)
      | true =>
        rw [ha, if_pos rfl] at hlast
        rw [if_pos rfl]
        cases hs : placeSegments false 0 p.segments with
        | nil => rfl
        | cons first rest =>
          rw [hs, List.getLast?_cons_cons, ← hs] at hlast
          exact absurd (List.mem_of_getLast? hlast) (hsegments false)
    · cases h

/-- The name that the path ends in, if its last part is one. -/
def fileName? (p : Path) : Option String :=
  match p.parts.getLast? with
  | some (.name text) => some text
  | _ => none

end ScriptBundle.Path

namespace ScriptBundle.FileTree

open ScriptBundle.Path

variable {p q : Path} {start key : Key}

/-- The names of a path, dots left out, are those of its parts. -/
theorem filter_names (p : Path) : (names p).filter (· ≠ ".") = p.parts.filterMap Part.step? := by
  have hsegments : ∀ (segments : List (List Char)) (leading : Bool) (start : Nat),
      ((placeSegments leading start segments).map (·.part)).filterMap Part.step? =
        ((segments.filter (!·.isEmpty)).map String.ofList).filter (· ≠ ".") := by
    intro segments
    induction segments with
    | nil => exact fun _ _ => rfl
    | cons segment rest ih =>
      intro leading start
      have hfirst : (((partOf? leading segment).map
          (⟨·, start + segment.length⟩)).toList.map Placed.part).filterMap Part.step? =
            ((partOf? leading segment).bind Part.step?).toList := by
        cases hp : partOf? leading segment with
        | none => rfl
        | some part => cases hs : part.step? <;> simp [hs]
      rw [placeSegments_cons, List.map_append, List.filterMap_append, ih, hfirst, step?_partOf?]
      by_cases hnil : segment = []
      · simp [hnil]
      · by_cases hdot : segment = ['.']
        · simp [hdot]
        · have hname : String.ofList segment ≠ "." := fun he => hdot (String.ofList_injective he)
          simp [hnil, hdot, hname]
  rw [names, parts, placed]
  cases p.isAbsolute with
  | false => rw [if_neg Bool.false_ne_true, hsegments]
  | true => rw [if_pos rfl, List.map_cons, List.filterMap_cons_none rfl, hsegments]

/-- A dot leads nowhere. -/
theorem foldl_keyAfter_filter (names : List String) (key : Key) :
    (names.filter (· ≠ ".")).foldl keyAfter key = names.foldl keyAfter key := by
  induction names generalizing key with
  | nil => rfl
  | cons name names ih =>
    by_cases hdot : name = "."
    · rw [List.filter_cons_of_neg (by simp [hdot]), ih, List.foldl_cons, hdot]
      rfl
    · rw [List.filter_cons_of_pos (by simp [hdot]), List.foldl_cons, List.foldl_cons, ih]

/-- A path leads where its parts lead. -/
theorem keyOf_eq_foldl (start : Key) (p : Path) : keyOf start p =
    (p.parts.filterMap Part.step?).foldl keyAfter (if p.isAbsolute then [] else start) := by
  rw [keyOf, ← foldl_keyAfter_filter, filter_names]

theorem keyAfter_ne {name other : String} (h : other ≠ name) : keyAfter key other ≠ key ++ [name] := by
  unfold keyAfter
  intro he
  split at he
  · exact absurd (congrArg List.length he) (by simp)
  · split at he
    · exact absurd (congrArg List.length he) (by simp)
    · exact h (List.singleton_inj.1 (List.append_cancel_left he))

/-- A path leads to no other name in the directory of its parent. -/
theorem keyOf_ne_of_parent? {name : String} (start : Key) (h : p.parent? = some q)
    (hname : p.fileName? ≠ some name) (hup : name ≠ "..") :
    keyOf start p ≠ keyOf start q ++ [name] := by
  obtain ⟨last, hparts, habsolute⟩ := parts_parent h
  rw [fileName?, hparts, List.getLast?_concat] at hname
  have hkey : keyOf start p = ((last.step?).toList).foldl keyAfter (keyOf start q) := by
    rw [keyOf_eq_foldl, keyOf_eq_foldl, hparts, List.filterMap_append, List.foldl_append, habsolute]
    cases hs : last.step? <;> simp [hs]
  rw [hkey]
  cases last with
  | root => exact fun he => absurd (congrArg List.length he) (by simp [Part.step?])
  | here => exact fun he => absurd (congrArg List.length he) (by simp [Part.step?])
  | up => exact keyAfter_ne hup.symm
  | name text => exact keyAfter_ne fun he => hname (congrArg some he)

theorem keyOf_of_parent?_none (start : Key) (h : p.parent? = none) :
    keyOf start p = if p.isAbsolute then [] else start := by
  rw [keyOf_eq_foldl, filterMap_step?_of_parent? h]
  rfl

end ScriptBundle.FileTree
