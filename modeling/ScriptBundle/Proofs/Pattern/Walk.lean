import ScriptBundle.Proofs.Files.Altered
import ScriptBundle.Proofs.Sources.Repeats

/-!
# Patterns in trees that differ in files

A walk passes through directories only, and a file that came or went is found only by a path that leads
to it. So two trees with the same directories make a pattern stand for the same paths in the same order,
but for those that lead to what is altered (`paths_sameFirsts`). Paths that the one tree repeats and the
other does not are not told apart, as the entries of a tree may repeat a key.
-/

namespace ScriptBundle.Pattern

open ScriptBundle.FileTree

variable {t t' : FileTree} {dir p : Path} {name : String} {names : List String} {start : Key}

theorem keyOf_of_parts_here (start : Key) (h : dir.parts = [.here]) : keyOf start dir = start := by
  have habsolute : dir.isAbsolute = false := by
    refine Bool.eq_false_iff.2 fun ha => ?_
    rw [Path.parts, Path.placed, if_pos ha] at h
    cases h
  rw [keyOf_eq_foldl, h, habsolute]
  rfl

theorem keyOf_name (start : Key) (hn : isProper name = true) :
    keyOf start ⟨name⟩ = start ++ [name] := by
  obtain ⟨hne, hdot, hup, hslash⟩ := isProper_iff.1 hn
  have hnames : FileTree.names ⟨name⟩ = [name] := by
    rw [names_eq_piecesOf, piecesOf_of_not_mem hslash (by simpa using hne), String.ofList_toList]
  have habsolute : (Path.mk name).isAbsolute = false := by
    refine Bool.eq_false_iff.2 fun ha => hslash ?_
    exact List.mem_of_mem_head? (by simpa [Path.isAbsolute] using ha)
  rw [keyOf, hnames, habsolute]
  simp [keyAfter, hdot, hup]

/-- Going into a directory by a proper name leads down by it. -/
theorem keyOf_inside (start : Key) (hn : isProper name = true) :
    keyOf start (inside dir name) = keyOf start dir ++ [name] := by
  unfold inside
  split
  · next hhere => rw [keyOf_name start hn, keyOf_of_parts_here start hhere]
  · by_cases hd : dir.spelling = ""
    · obtain ⟨spelling⟩ := dir
      cases hd
      exact keyOf_name start hn
    · obtain ⟨hne, hdot, hup, hslash⟩ := isProper_iff.1 hn
      exact keyOf_join dir hd hslash hne ⟨hdot, hup⟩

theorem keyOf_foldl_inside (start : Key) (hn : ∀ name ∈ names, isProper name = true) :
    keyOf start (names.foldl inside dir) = keyOf start dir ++ names := by
  induction names generalizing dir with
  | nil => simp
  | cons name names ih =>
    obtain ⟨hname, hnames⟩ := List.forall_mem_cons.1 hn
    rw [List.foldl_cons, ih hnames, keyOf_inside start hname, List.append_assoc]
    rfl

theorem listing_of_not_isDirectory (hd : t.isDirectory dir = false) : listing t dir = [] := by
  rw [listing, hd]

theorem listingBelow_of_not_isDirectory (hd : t.isDirectory dir = false) :
    listingBelow t dir = [] := by
  rw [listingBelow, hd]

theorem reach_of_not_isDirectory (tokens : List Token) (hd : t.isDirectory dir = false)
    (hs : dir.spelling ≠ "") (hhere : dir.parts ≠ [.here]) : reach t tokens dir = [] := by
  unfold reach
  cases literal? tokens with
  | none => simp [listing_of_not_isDirectory hd, hd]
  | some name =>
    have hhas : t.has (inside dir (String.ofList name)) = false := by
      rw [inside, if_neg hhere]
      refine Bool.eq_false_iff.2 fun h => ?_
      rw [isDirectory_of_has_join hs h] at hd
      cases hd
    simp [hd, hhas]

/-- Steps lead nowhere from what is no directory. -/
theorem walk_of_not_isDirectory (hd : t.isDirectory dir = false) (hs : dir.spelling ≠ "")
    (hhere : dir.parts ≠ [.here]) : ∀ steps : List Step, steps ≠ [] → walk t steps dir = []
  | [], hne => absurd rfl hne
  | .name tokens :: rest, _ => by
    rw [walk, reach_of_not_isDirectory tokens hd hs hhere]
    rfl
  | [.depth], _ => by
    rw [walk, listingBelow_of_not_isDirectory hd]
    rfl
  | .depth :: .depth :: rest, _ =>
    walk_of_not_isDirectory hd hs hhere (.depth :: rest) (List.cons_ne_nil _ _)
  | .depth :: .name tokens :: rest, _ => by
    rw [walk, listingBelow_of_not_isDirectory hd]
    rfl

/-- Whether a path leads to nothing that is altered. -/
def away (t t' : FileTree) (p : Path) : Bool := !altered t t' (keyOf t.start p)

/-- What is made of two lists has the same firsts among the good paths, if the lists have the same
firsts among the good members and no other member makes a good path. -/
theorem map_filter_sameFirsts {α : Type} {l l' : List α} {f : α → Path} {good : α → Bool}
    {ok : Path → Bool} (h : SameFirsts (l.filter good) (l'.filter good))
    (hgood : ∀ a, good a = false → ok (f a) = false) :
    SameFirsts ((l.map f).filter ok) ((l'.map f).filter ok) := by
  have hfilter : ∀ l : List α, (l.map f).filter ok = ((l.filter good).map f).filter ok := by
    intro l
    rw [List.filter_map, List.filter_map, List.filter_filter]
    congr 2
    funext a
    cases hg : good a with
    | true => rw [Bool.and_true]
    | false => rw [Bool.and_false, Function.comp_apply, hgood a hg]
  rw [hfilter l, hfilter l']
  exact (h.map f).filter ok

/-- Members that nothing is put in for may be left out. -/
theorem flatMap_filter_sameFirsts {l l' : List Path} {f f' : Path → List Path} {ok : Path → Bool}
    (h : SameFirsts (l.filter ok) (l'.filter ok))
    (hf : ∀ p, SameFirsts ((f p).filter ok) ((f' p).filter ok))
    (hok : ∀ p, ok p = false → (f p).filter ok = [] ∧ (f' p).filter ok = []) :
    SameFirsts ((l.flatMap f).filter ok) ((l'.flatMap f').filter ok) := by
  have hfilter : ∀ (l : List Path) (g : Path → List Path), (∀ p, ok p = false → g p = []) →
      l.flatMap g = (l.filter ok).flatMap g := by
    intro l g hg
    induction l with
    | nil => rfl
    | cons p l ih =>
      cases hp : ok p with
      | true => rw [List.filter_cons_of_pos hp, List.flatMap_cons, List.flatMap_cons, ih]
      | false =>
        rw [List.filter_cons_of_neg (by simp [hp]), List.flatMap_cons, hg p hp, ih, List.nil_append]
  rw [List.filter_flatMap, List.filter_flatMap, hfilter l _ fun p hp => (hok p hp).1,
    hfilter l' _ fun p hp => (hok p hp).2]
  exact h.flatMap hf

theorem listing_sameFirsts (hs : SameDirectories t t') (dir : Path) :
    SameFirsts ((listing t dir).filter fun n => !altered t t' (keyOf t.start dir ++ [n]))
      ((listing t' dir).filter fun n => !altered t t' (keyOf t.start dir ++ [n])) := by
  cases hd : t.isDirectory dir with
  | false =>
    rw [listing_of_not_isDirectory hd, listing_of_not_isDirectory ((hs.isDirectory_eq dir).trans hd)]
    exact .refl _
  | true =>
    obtain ⟨key, hl, -⟩ := isDirectory_iff.1 hd
    rw [listing, listing, hs.isDirectory_eq, hd, hl, hs.locate hl, ← eq_keyOf_of_locate hl]
    refine .filter_mergeSort (fun a b c hab hbc => ?_) (fun a b => ?_) (fun a b hab hba => ?_)
      fun n hn => ?_
    · simpa using String.le_trans (of_decide_eq_true hab) (of_decide_eq_true hbc)
    · simpa using String.le_total a b
    · exact String.le_antisymm (of_decide_eq_true hab) (of_decide_eq_true hba)
    · rw [mem_children_iff, mem_children_iff, isSome_node?_eq (by simpa using hn)]

theorem listingBelow_sameFirsts (hs : SameDirectories t t') (dir : Path) :
    SameFirsts ((listingBelow t dir).filter fun names => !altered t t' (keyOf t.start dir ++ names))
      ((listingBelow t' dir).filter fun names => !altered t t' (keyOf t.start dir ++ names)) := by
  cases hd : t.isDirectory dir with
  | false =>
    rw [listingBelow_of_not_isDirectory hd,
      listingBelow_of_not_isDirectory ((hs.isDirectory_eq dir).trans hd)]
    exact .refl _
  | true =>
    obtain ⟨key, hl, -⟩ := isDirectory_iff.1 hd
    rw [listingBelow, listingBelow, hs.isDirectory_eq, hd, hl, hs.locate hl, ← eq_keyOf_of_locate hl]
    refine .filter_mergeSort (fun a b c hab hbc => ?_) (fun a b => ?_) (fun a b hab hba => ?_)
      fun names hn => ?_
    · rw [Bool.not_eq_true', List.lex_eq_false_iff_ge] at hab hbc ⊢
      exact List.le_trans hab hbc
    · rw [Bool.or_eq_true, Bool.not_eq_true', Bool.not_eq_true', List.lex_eq_false_iff_ge,
        List.lex_eq_false_iff_ge]
      exact List.le_total a b
    · rw [Bool.not_eq_true', List.lex_eq_false_iff_ge] at hab hba
      exact List.le_antisymm hab hba
    · rw [mem_below_iff, mem_below_iff, isSome_node?_eq (by simpa using hn)]

/-- All that is altered stands at keys of proper names, and it is not where relative paths start. -/
structure AlteredFiles (t t' : FileTree) : Prop extends SameDirectories t t' where
  names : ∀ key, altered t t' key = true → ∀ name ∈ key, isProper name = true
  atStart : altered t t' t.start = false

namespace AlteredFiles

theorem away_inside (h : AlteredFiles t t') (hn : (!altered t t' (keyOf t.start dir ++ [name])) = false) :
    away t t' (inside dir name) = false := by
  rw [Bool.not_eq_false'] at hn
  have hname := h.names _ hn name (List.mem_append_right _ List.mem_cons_self)
  rw [away, keyOf_inside t.start hname, hn]
  rfl

theorem away_foldl_inside (h : AlteredFiles t t')
    (hn : (!altered t t' (keyOf t.start dir ++ names)) = false) :
    away t t' (names.foldl inside dir) = false := by
  rw [Bool.not_eq_false'] at hn
  have hnames := fun name hmem => h.names _ hn name (List.mem_append_right _ hmem)
  rw [away, keyOf_foldl_inside t.start hnames, hn]
  rfl

theorem reach_sameFirsts (h : AlteredFiles t t') (tokens : List Token) (dir : Path) :
    SameFirsts ((reach t tokens dir).filter (away t t'))
      ((reach t' tokens dir).filter (away t t')) := by
  unfold reach
  cases literal? tokens with
  | some name =>
    dsimp only
    rw [h.isDirectory_eq]
    split
    · exact .refl _
    · cases ha : away t t' (inside dir (String.ofList name)) with
      | true =>
        rw [h.has_eq (by simpa [away] using ha)]
        exact .refl _
      | false =>
        have hnil : ∀ b : Bool, (if b then [inside dir (String.ofList name)] else []).filter
            (away t t') = [] := fun b => by cases b <;> simp [ha]
        rw [hnil, hnil]
        exact .refl _
  | none =>
    dsimp only
    rw [h.isDirectory_eq, List.filter_append, List.filter_append]
    refine .append (.refl _) (map_filter_sameFirsts ?_ fun name => h.away_inside)
    exact (listing_sameFirsts h.toSameDirectories dir).filter_filter _

/-- What is altered is passed by no walk. -/
theorem walk_filter_eq_nil (h : AlteredFiles t t') (steps : List Step) (ha : away t t' dir = false) :
    (walk t steps dir).filter (away t t') = [] := by
  by_cases hsteps : steps = []
  · simp [hsteps, walk, ha]
  · have haltered : altered t t' (keyOf t.start dir) = true := by simpa [away] using ha
    have hne : keyOf t.start dir ≠ t.start := fun he => by
      rw [he, h.atStart] at haltered
      cases haltered
    have hd : t.isDirectory dir = false := by
      refine Bool.eq_false_iff.2 fun hd => ?_
      obtain ⟨key, hl, hkey⟩ := isDirectory_iff.1 hd
      rw [eq_keyOf_of_locate hl, h.holdsDirectory_of_altered haltered] at hkey
      cases hkey
    rw [walk_of_not_isDirectory hd ?_ ?_ steps hsteps]
    · rfl
    · intro hempty
      obtain ⟨spelling⟩ := dir
      cases hempty
      exact hne rfl
    · exact fun hhere => hne (keyOf_of_parts_here _ hhere)

theorem symm (h : AlteredFiles t t') : AlteredFiles t' t where
  toSameDirectories := h.toSameDirectories.symm
  names := fun key hk => h.names key (altered_comm t' t key ▸ hk)
  atStart := by rw [altered_comm, h.start, h.atStart]

theorem away_comm (h : AlteredFiles t t') : away t' t = away t t' := by
  funext p
  rw [away, away, altered_comm, h.start]

/-- What is put in for the paths that a step reaches can differ for those only that lead to what is
altered, and for these it is nothing. -/
theorem flatMap_walk_sameFirsts (h : AlteredFiles t t') {l l' : List Path} (rest : List Step)
    (hl : SameFirsts (l.filter (away t t')) (l'.filter (away t t')))
    (ih : ∀ p, SameFirsts ((walk t rest p).filter (away t t'))
      ((walk t' rest p).filter (away t t'))) :
    SameFirsts ((l.flatMap (walk t rest)).filter (away t t'))
      ((l'.flatMap (walk t' rest)).filter (away t t')) := by
  refine flatMap_filter_sameFirsts hl ih fun p hp => ⟨h.walk_filter_eq_nil rest hp, ?_⟩
  rw [← h.away_comm] at hp ⊢
  exact h.symm.walk_filter_eq_nil rest hp

/-- One step after the other, a walk reaches the same away from what is altered. -/
theorem walk_sameFirsts (h : AlteredFiles t t') : ∀ (steps : List Step) (dir : Path),
    SameFirsts ((walk t steps dir).filter (away t t')) ((walk t' steps dir).filter (away t t'))
  | [], dir => .refl _
  | .name tokens :: rest, dir =>
    h.flatMap_walk_sameFirsts rest (h.reach_sameFirsts tokens dir) (h.walk_sameFirsts rest)
  | [.depth], dir => by
    rw [walk, walk, funext h.isDirectory_eq]
    exact (map_filter_sameFirsts (listingBelow_sameFirsts h.toSameDirectories dir)
      fun names => h.away_foldl_inside).filter_filter _
  | .depth :: .depth :: rest, dir => h.walk_sameFirsts (.depth :: rest) dir
  | .depth :: .name tokens :: rest, dir =>
    h.flatMap_walk_sameFirsts rest
      (map_filter_sameFirsts ((listingBelow_sameFirsts h.toSameDirectories dir).filter_filter _)
        fun names => h.away_foldl_inside)
      (h.walk_sameFirsts rest)

/-- A pattern stands for the same paths in both trees, but for those that lead to what is altered. -/
theorem paths_sameFirsts (h : AlteredFiles t t') (q : Pattern) :
    SameFirsts ((q.paths t).filter (away t t')) ((q.paths t').filter (away t t')) := by
  have hwalk := h.walk_sameFirsts q.steps (if q.absolute then ⟨"/"⟩ else ⟨"."⟩)
  unfold paths
  dsimp only
  split
  · rw [funext h.isDirectory_eq]
    exact hwalk.filter_filter _
  · exact hwalk

end AlteredFiles

end ScriptBundle.Pattern
