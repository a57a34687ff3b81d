import ScriptBundle.Proofs.Block.Tiled

/-!
# Borders inside a line

What stands at the end of a text is read together with what follows it: a closer at the end counts no
longer if a word goes on behind it, and an opener may come into being across the border. If neither
happens, and a pass leaves no opener, then it does with the text what it does alone, although lines
may run across the border (`stripLabel_append_of_cleanBorder`).

A pass goes over the text piece by piece: a character that stays starts no opener, alone or with what
follows, and a stretch that goes is sealed. What a pass leaves on both sides of a border keeps it
clean, since a marker is there only if it was there before.
-/

namespace ScriptBundle

open Piece (shown whole)

variable {marker label text more : List Char}

namespace Marker

/-- With more text behind it no marker begins in the text that was not there before. -/
def NoneAcross (marker text more : List Char) : Prop :=
  ∀ before after rest, text = before ++ after → after ≠ [] →
    after? marker (after ++ more) = some rest → ∃ rest', after? marker after = some rest'

/-- With more text behind it every marker of the text is still there. -/
def Lasting (marker text more : List Char) : Prop :=
  ∀ before after rest, text = before ++ after →
    after? marker after = some rest → after? marker (after ++ more) = some (rest ++ more)

theorem NoneAcross.of_append {before : List Char} (h : NoneAcross marker (before ++ text) more) :
    NoneAcross marker text more :=
  fun before' after rest he => h (before ++ before') after rest (by rw [he, List.append_assoc])

theorem Lasting.of_append {before : List Char} (h : Lasting marker (before ++ text) more) :
    Lasting marker text more :=
  fun before' after rest he => h (before ++ before') after rest (by rw [he, List.append_assoc])

theorem noneAcross_of_at (hm : marker ≠ [])
    (h : ∀ i < text.length, At marker (text ++ more) i → At marker text i) :
    NoneAcross marker text more := by
  rintro before after rest rfl hne hr
  have hlt : before.length < (before ++ after).length := by
    have hpos := List.length_pos_iff.2 hne
    rw [List.length_append]
    omega
  have hat := h before.length hlt
  rw [at_iff hm, at_iff hm, List.append_assoc, List.drop_left, List.drop_left] at hat
  obtain ⟨rest', hr'⟩ := hat ⟨rest, after?_eq_some_iff.1 hr⟩
  exact ⟨rest', after?_eq_some_iff.2 hr'⟩

theorem lasting_of_at (hm : marker ≠ []) (h : ∀ i, At marker text i → At marker (text ++ more) i) :
    Lasting marker text more := by
  rintro before after rest rfl hr
  have hat := h before.length
  rw [at_iff hm, at_iff hm, List.append_assoc, List.drop_left, List.drop_left] at hat
  obtain ⟨rest', he, hb⟩ := hat ⟨rest, after?_eq_some_iff.1 hr⟩
  have hrest : rest ++ more = rest' := by
    rw [eq_append_of_after? hr, List.append_assoc] at he
    exact List.append_cancel_left he
  rw [hrest]
  exact after?_eq_some_iff.2 ⟨he, hb⟩

end Marker

/-- A stretch that begins with a brace, whatever follows. -/
def Braced (block _rest : List Char) : Prop := block.head? = some '{'

theorem Braced.startsInWord {block rest : List Char} (h : Braced block rest) :
    Marker.startsInWord (block ++ rest) = false := by
  obtain ⟨tail, rfl⟩ := List.head?_eq_some_iff.1 h
  rfl

/-- Texts from which only such stretches are gone. -/
abbrev ThinnedByBraced := Thinned (fun _ => True) Braced

namespace ThinnedByBraced

variable {result more' : List Char}

theorem append (h : ThinnedByBraced text result) (h' : ThinnedByBraced more more') :
    ThinnedByBraced (text ++ more) (result ++ more') := by
  induction h with
  | nil => exact h'
  | keep _ _ ih => exact .keep trivial ih
  | drop hb _ ih =>
    rw [List.append_assoc]
    exact .drop hb ih

theorem eq_nil (h : ThinnedByBraced [] result) : result = [] := by
  generalize ht : ([] : List Char) = text at h
  cases h with
  | nil => rfl
  | keep => cases ht
  | drop hb =>
    rw [(List.append_eq_nil_iff.1 ht.symm).1] at hb
    cases hb

theorem isBoundary_eq (h : ThinnedByBraced text result) :
    Marker.isBoundary marker result = Marker.isBoundary marker text := by
  rw [Marker.isBoundary, Marker.isBoundary, h.startsInWord_eq fun _ _ h => h.startsInWord]

/-- A marker that is there was there before. -/
theorem exists_after? {rest : List Char} (hs : ' ' ∉ marker) (h : ThinnedByBraced text result)
    (ha : Marker.after? marker result = some rest) :
    ∃ rest', Marker.after? marker text = some rest' ∧ ThinnedByBraced rest' rest := by
  obtain ⟨rfl, hb⟩ := Marker.after?_eq_some_iff.1 ha
  obtain ⟨rest', rfl, hr⟩ := Thinned.split_kept hs h
  rw [isBoundary_eq hr] at hb
  exact ⟨rest', Marker.after?_eq_some_iff.2 ⟨rfl, hb⟩, hr⟩

end ThinnedByBraced

theorem thinnedByBraced_stripLabels {labels : List (List Char)}
    (hl : ∀ label ∈ labels, IsName label) (text : List Char) :
    ThinnedByBraced text (stripLabels labels text) := by
  have hspace : ∀ label ∈ labels, ' ' ∉ label := fun label hm => (hl label hm).not_mem (by decide)
  refine (thinned_stripLabels hspace text).mono (fun _ _ => trivial) ?_
  rintro block rest ⟨label, -, inside, hm⟩
  rw [List.append_cancel_right hm.split]
  rfl

theorem thinnedByBraced_stripLabel (hl : IsName label) (text : List Char) :
    ThinnedByBraced text (stripLabel label text) :=
  thinnedByBraced_stripLabels (List.forall_mem_singleton.2 hl) text

namespace Marker

variable {text' more' : List Char}

/-- Thinning on both sides of a border loses no marker there. -/
theorem Lasting.thinned (hs : ' ' ∉ marker) (ht : ThinnedByBraced text text')
    (hm : ThinnedByBraced more more') (h : Lasting marker text more) :
    Lasting marker text' more' := by
  rintro before' after' rest' rfl hr
  obtain ⟨before, after, rfl, ha⟩ := ht.split
  obtain ⟨rest, hrest, hthin⟩ := ThinnedByBraced.exists_after? hs ha hr
  have hb := (after?_eq_some_iff.1 (h before after rest rfl hrest)).2
  rw [← (ThinnedByBraced.append hthin hm).isBoundary_eq] at hb
  refine after?_eq_some_iff.2 ⟨?_, hb⟩
  rw [eq_append_of_after? hr, List.append_assoc]

/-- Thinning on both sides of a border makes no marker there. -/
theorem NoneAcross.thinned (hs : ' ' ∉ marker) (ht : ThinnedByBraced text text')
    (hm : ThinnedByBraced more more') (h : NoneAcross marker text more) :
    NoneAcross marker text' more' := by
  rintro before' after' result' rfl hne hr
  obtain ⟨before, after, rfl, ha⟩ := ht.split
  have hafter : after ≠ [] := by
    rintro rfl
    exact hne (ThinnedByBraced.eq_nil ha)
  obtain ⟨result, hresult, -⟩ :=
    ThinnedByBraced.exists_after? hs (ThinnedByBraced.append ha hm) hr
  obtain ⟨rest, hrest⟩ := h before after result rfl hafter hresult
  obtain ⟨rfl, hb⟩ := after?_eq_some_iff.1 hrest
  -- The marker ends before the border, or all that is left of the text is its beginning.
  rcases List.append_eq_append_iff.1 (eq_append_of_after? hr) with
    ⟨tail, hmarker, -⟩ | ⟨tail, rfl, -⟩
  · have hkept : ThinnedByBraced (marker ++ rest) (after' ++ []) := by
      rwa [List.append_nil]
    have hsafter : ' ' ∉ after' := fun hm => hs (hmarker ▸ List.mem_append_left tail hm)
    obtain ⟨last, hlast, hnil⟩ := Thinned.split_kept hsafter hkept
    cases hnil
    rw [hlast, List.append_nil] at hrest
    exact ⟨rest, hrest⟩
  · obtain ⟨rest', he, hthin⟩ := Thinned.split_kept hs ha
    rw [← List.append_cancel_left he] at hthin
    exact ⟨tail, after?_eq_some_iff.2 ⟨rfl, by rwa [ThinnedByBraced.isBoundary_eq hthin]⟩⟩

/-- A marker of the joined texts is one of the second, or was one of the first. -/
theorem NoneAcross.not_at (hm : marker ≠ []) (h : NoneAcross marker text more)
    (ht : ∀ i, ¬At marker text i) (hmore : ∀ i, ¬At marker more i) (i : Nat) :
    ¬At marker (text ++ more) i := by
  induction text generalizing i with
  | nil => exact hmore i
  | cons c text ih =>
    cases i with
    | zero =>
      intro ha
      obtain ⟨rest, hr⟩ := (at_iff hm).1 ha
      obtain ⟨rest', hr'⟩ :=
        h [] (c :: text) rest rfl (List.cons_ne_nil c text) (after?_eq_some_iff.2 hr)
      exact ht 0 ((at_iff hm).2 ⟨rest', after?_eq_some_iff.1 hr'⟩)
    | succ i =>
      rw [List.cons_append, at_cons_succ hm]
      exact ih (NoneAcross.of_append (List.singleton_append ▸ h : NoneAcross marker ([c] ++ text) more))
        (not_at_of_cons hm ht) i

end Marker

/-- No opener of the label begins across the border, and no closer of it ends at the border if a word
goes on behind. -/
structure CleanBorder (label text more : List Char) : Prop where
  noneAcross : Marker.NoneAcross (opener label) text more
  lasting : Marker.Lasting (closer label) text more

theorem CleanBorder.of_append {before : List Char} (h : CleanBorder label (before ++ text) more) :
    CleanBorder label text more :=
  ⟨h.noneAcross.of_append, h.lasting.of_append⟩

theorem CleanBorder.thinned {text' more' : List Char} (hl : IsName label)
    (h : CleanBorder label text more) (ht : ThinnedByBraced text text')
    (hm : ThinnedByBraced more more') : CleanBorder label text' more' :=
  ⟨h.noneAcross.thinned hl.space_not_mem_opener ht hm, h.lasting.thinned hl.space_not_mem_closer ht hm⟩

/-- Behind the block that ends a text no word goes on. -/
theorem CleanBorder.startsInWord (hl : IsName label) {before : List Char}
    (h : CleanBorder label (before ++ closer label) more) : Marker.startsInWord more = false := by
  have hend : Marker.after? (closer label) (closer label) = some [] :=
    Marker.after?_eq_some_iff.2 ⟨(List.append_nil _).symm, (hl.isBoundary_closer []).2 rfl⟩
  have hmore := h.lasting before _ [] rfl hend
  exact (hl.isBoundary_closer more).1 (Marker.after?_eq_some_iff.1 hmore).2

/-- Piece by piece a pass does with the text what it does alone. -/
theorem stripLabel_whole_append (hl : IsName label) {ps : List Piece} (hp : Tiled label ps)
    (hc : ∀ i, ¬Marker.At (opener label) (shown ps) i) (h : CleanBorder label (whole ps) more) :
    stripLabel label (whole ps ++ more) = shown ps ++ stripLabel label more := by
  induction hp with
  | nil => rfl
  | @kept c ps hp ih =>
    have hrest := ih (Marker.not_at_of_cons (opener_ne_nil label) hc)
      (CleanBorder.of_append (List.singleton_append ▸ h : CleanBorder label ([c] ++ whole ps) more))
    have hno : Marker.after? (opener label) (c :: (whole ps ++ more)) = none := by
      rw [Option.eq_none_iff_forall_ne_some]
      intro rest hr
      obtain ⟨rest', hr'⟩ := h.noneAcross [] _ rest rfl (List.cons_ne_nil c (whole ps)) hr
      obtain ⟨rest'', hs⟩ := (Tiled.kept hp).after?_shown hl.opening_not_mem_tail hr'
      exact hc 0 ((Marker.at_iff (opener_ne_nil label)).2 ⟨rest'', Marker.after?_eq_some_iff.1 hs⟩)
    rw [Piece.whole_kept, List.cons_append, stripLabel_cons hl hno, hrest]
    rfl
  | @cut stretch inside ps hm hs hp ih =>
    have hrest := ih (Marker.not_at_of_cons (opener_ne_nil label) hc) h.of_append
    have hword : Marker.startsInWord (whole ps ++ more) = false := by
      cases hw : whole ps with
      | nil =>
        rw [Piece.whole_cut, hw, List.append_nil] at h
        rw [List.append_cancel_right hm.split] at h
        exact h.startsInWord hl
      | cons c tail =>
        rw [← hw, Marker.startsInWord_append (by simp [hw])]
        exact (hl.isBoundary_closer _).1 hm.closes
    rw [Piece.whole_cut, List.append_assoc, hs _ hword, hrest]
    rfl

/-- A pass over a text that keeps no opener does not depend on what follows a clean border. -/
theorem stripLabel_append_of_cleanBorder (hl : IsName label)
    (hc : ∀ i, ¬Marker.At (opener label) (stripLabel label text) i)
    (h : CleanBorder label text more) :
    stripLabel label (text ++ more) = stripLabel label text ++ stripLabel label more := by
  rw [← whole_stripPieces label text] at h
  rw [← shown_stripPieces] at hc
  have happend := stripLabel_whole_append hl (tiled_stripPieces hl text) hc h
  rwa [whole_stripPieces, shown_stripPieces] at happend

theorem stripLabels_append_of_cleanBorder {labels : List (List Char)}
    (hl : ∀ label ∈ labels, IsName label) (hc : ClearsOpeners labels text)
    (h : ∀ label ∈ labels, CleanBorder label text more) :
    stripLabels labels (text ++ more) = stripLabels labels text ++ stripLabels labels more := by
  induction labels generalizing text more with
  | nil => rfl
  | cons label labels ih =>
    have hlabel := hl label List.mem_cons_self
    have hrest : ClearsOpeners labels (stripLabel label text) := by
      intro before l after he
      exact hc (label :: before) l after (by rw [he, List.cons_append])
    have hborders : ∀ l ∈ labels, CleanBorder l (stripLabel label text) (stripLabel label more) :=
      fun l hm => (h l (List.mem_cons_of_mem label hm)).thinned (hl l (List.mem_cons_of_mem label hm))
        (thinnedByBraced_stripLabel hlabel text) (thinnedByBraced_stripLabel hlabel more)
    rw [stripLabels_cons, stripLabels_cons, stripLabels_cons,
      stripLabel_append_of_cleanBorder hlabel (hc [] label labels rfl) (h label List.mem_cons_self)]
    exact ih (fun l hm => hl l (List.mem_cons_of_mem label hm)) hrest hborders

end ScriptBundle
