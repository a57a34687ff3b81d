import ScriptBundle.CommandLine.Item

/-!
# How a command line reads

`Reads` says which items a command line consists of: an option and its value are two arguments or
one with an equals sign between, flags have long names or stand together behind one dash, and behind
two dashes everything is bare. A line that reads as some items is the same as taking them one by one
(`parse_of_reads`), and every accepted line reads so (`parse_eq_ok_iff`).
-/

namespace ScriptBundle.CommandLine

/-- The long spelling of a switch. -/
def Switch.spelled (s : Switch) : String := "--" ++ s.name

/-- Whether an argument is no option. A lone dash is none. -/
def IsPlain (argument : String) : Prop := argument.toList.head? ≠ some '-' ∨ argument = "-"

instance (argument : String) : Decidable (IsPlain argument) := inferInstanceAs (Decidable (_ ∨ _))

inductive Reads : List String → List Item → Prop
  | nil : Reads [] []
  | bare {text : String} {line : List String} {items : List Item} (hplain : IsPlain text)
    (hline : Reads line items) : Reads (text :: line) (.bare text :: items)
  | apart (v : Valued) {value : String} {line : List String} {items : List Item}
    (hvalue : v.takesDashes = true ∨ IsPlain value) (hline : Reads line items) :
    Reads ((Switch.valued v).spelled :: value :: line) (.valued v value :: items)
  | joined (v : Valued) (value : String) {line : List String} {items : List Item}
    (hline : Reads line items) :
    Reads (((Switch.valued v).spelled ++ "=" ++ value) :: line) (.valued v value :: items)
  | flag (f : Flag) {line : List String} {items : List Item} (hline : Reads line items) :
    Reads ((Switch.flag f).spelled :: line) (.flag f :: items)
  /-- Short names of flags. -/
  | cluster (letters : List Char) (flags : List Flag) {line : List String} {items : List Item}
    (hne : flags ≠ []) (hletters : letters.map Switch.ofShort? = flags.map fun f => some (.flag f))
    (hline : Reads line items) :
    Reads (String.ofList ('-' :: letters) :: line) (flags.map .flag ++ items)
  | dashes (texts : List String) : Reads ("--" :: texts) (texts.map .bare)

namespace Switch

theorem name_of_ofName? {name : String} {s : Switch} (h : ofName? name = some s) : s.name = name := by
  simpa using List.find?_some h

theorem short?_of_ofShort? {c : Char} {s : Switch} (h : ofShort? c = some s) : s.short? = some c := by
  simpa using List.find?_some h

theorem equals_not_mem_name (s : Switch) : '=' ∉ s.name.toList := by
  cases s with
  | valued v => cases v <;> decide
  | flag f => cases f <;> decide
  | help => decide
  | version => decide

theorem name_ne_empty (s : Switch) : s.name ≠ "" := by
  cases s with
  | valued v => cases v <;> decide
  | flag f => cases f <;> decide
  | help => decide
  | version => decide

theorem ofShort?_dash : ofShort? '-' = none := by decide

theorem takeWhile_name_append (s : Switch) (rest : List Char) :
    (s.name.toList ++ rest).takeWhile (· ≠ '=') = s.name.toList ++ rest.takeWhile (· ≠ '=') :=
  List.takeWhile_append_of_pos fun _ hc =>
    decide_eq_true (ne_of_mem_of_not_mem hc s.equals_not_mem_name)

theorem dropWhile_name_append (s : Switch) (rest : List Char) :
    (s.name.toList ++ rest).dropWhile (· ≠ '=') = rest.dropWhile (· ≠ '=') :=
  List.dropWhile_append_of_pos fun _ hc =>
    decide_eq_true (ne_of_mem_of_not_mem hc s.equals_not_mem_name)

end Switch

namespace Progress

/-- What comes of the rest of a line. -/
def finish (p : Progress) (line : List String) : Except Usage Arguments := do
  let p ← line.foldlM step p
  return (← p.settle).arguments

variable {a : Arguments} {p q : Progress} {v : Valued} {value argument : String}
variable {line : List String} {items : List Item}

theorem finish_cons (p : Progress) (argument : String) (line : List String) :
    p.finish (argument :: line) = p.step argument >>= fun q => q.finish line := by
  simp only [finish, List.foldlM_cons, bind_assoc]

/-- No option waits for a value, and no two dashes came. -/
structure AtItem (p : Progress) : Prop where
  bareOnly : p.bareOnly = false
  waiting : ∀ v, p.waiting ≠ .value v

theorem AtItem.takesAnything (h : p.AtItem) : p.takesAnything = false := by
  unfold Progress.takesAnything
  split
  · next v hv => exact absurd hv (h.waiting v)
  · rfl

theorem AtItem.plain_eq (h : p.AtItem) (text : String) : p.plain text = p.bare text := by
  unfold plain
  split
  · next v hv => exact absurd hv (h.waiting v)
  · rfl

theorem step_of_isPlain (hb : p.bareOnly = false) (h : IsPlain argument) :
    p.step argument = p.plain argument := by
  unfold step
  rw [hb, if_neg Bool.false_ne_true]
  split
  · rfl
  · rcases h with h | rfl
    · split <;> simp_all
    · rfl

theorem step_of_takesAnything (hb : p.bareOnly = false) (ht : p.takesAnything = true) :
    p.step argument = p.plain argument := by
  simp [step, hb, ht]

theorem AtItem.step_dashes (h : p.AtItem) : p.step "--" = .ok { p with bareOnly := true } := by
  simp [step, h.bareOnly, h.takesAnything]

theorem AtItem.step_long (h : p.AtItem) (text : List Char) (hne : text ≠ [])
    (ha : argument.toList = '-' :: '-' :: text) : p.step argument = p.long text := by
  obtain ⟨c, text, rfl⟩ := List.exists_cons_of_ne_nil hne
  simp [step, h.bareOnly, h.takesAnything, ha]

theorem AtItem.step_short (h : p.AtItem) {c : Char} {text : List Char} (hc : c ≠ '-')
    (ha : argument.toList = '-' :: c :: text) : p.step argument = p.short (c :: text) := by
  simp [step, h.bareOnly, h.takesAnything, ha, hc]

theorem AtItem.step_spelled (h : p.AtItem) (s : Switch) : p.step s.spelled = p.switch s := by
  rw [h.step_long (s.name.toList ++ []) (by simpa using s.name_ne_empty) (by simp [Switch.spelled])]
  unfold long
  rw [s.takeWhile_name_append, s.dropWhile_name_append]
  simp [Switch.ofName?_name]

theorem AtItem.step_joined (h : p.AtItem) (v : Valued) (value : String) :
    p.step ((Switch.valued v).spelled ++ "=" ++ value) =
      p.settle >>= fun q => do return { q with arguments := ← q.arguments.record v value } := by
  rw [h.step_long ((Switch.valued v).name.toList ++ '=' :: value.toList) (by simp)
    (by simp [Switch.spelled])]
  unfold long
  rw [Switch.takeWhile_name_append, Switch.dropWhile_name_append]
  simp [Switch.ofName?_name]

theorem short_cons {c : Char} {s : Switch} (hs : Switch.ofShort? c = some s) (p : Progress)
    (letters : List Char) : p.short (c :: letters) = p.switch s >>= fun q => q.short letters := by
  rw [short, List.foldlM_cons, hs]
  rfl

theorem short_eq {letters : List Char} {flags : List Flag}
    (h : letters.map Switch.ofShort? = flags.map fun f => some (.flag f)) (p : Progress) :
    p.short letters = flags.foldlM (fun p f => p.switch (.flag f)) p := by
  induction letters generalizing flags p with
  | nil =>
    obtain rfl := List.map_eq_nil_iff.1 h.symm
    rfl
  | cons c letters ih =>
    cases flags with
    | nil => cases h
    | cons f flags =>
      obtain ⟨hc, h⟩ := List.cons_eq_cons.1 h
      rw [short_cons hc, List.foldlM_cons]
      exact bind_congr fun q => ih h q

theorem AtItem.step_cluster (h : p.AtItem) {letters : List Char} {flags : List Flag}
    (hne : flags ≠ []) (hletters : letters.map Switch.ofShort? = flags.map fun f => some (.flag f)) :
    p.step (String.ofList ('-' :: letters)) = flags.foldlM (fun p f => p.switch (.flag f)) p := by
  cases letters with
  | nil => exact absurd (List.map_eq_nil_iff.1 hletters.symm) hne
  | cons c letters =>
    have hc : c ≠ '-' := by
      rintro rfl
      obtain ⟨f, flags, rfl⟩ := List.exists_cons_of_ne_nil hne
      rw [List.map_cons, Switch.ofShort?_dash] at hletters
      cases hletters
    rw [h.step_short hc (String.toList_ofList ..), short_eq hletters]

theorem settle_eq (a : Arguments) (b : Bool) :
    (⟨a, .nothing, b⟩ : Progress).settle = .ok ⟨a, .nothing, b⟩ :=
  rfl

/-- What is settled waits for nothing. -/
theorem eq_of_settle (h : p.settle = .ok q) : q = ⟨q.arguments, .nothing, p.bareOnly⟩ := by
  obtain ⟨a, w, b⟩ := p
  cases w with
  | nothing =>
    cases h
    rfl
  | value v => cases h
  | place v value =>
    unfold settle at h
    dsimp only at h
    cases hr : a.record v value with
    | error e =>
      rw [hr] at h
      cases h
    | ok c =>
      rw [hr] at h
      cases h
      rfl

theorem settle_bind_congr {α : Type} {f g : Progress → Except Usage α}
    (h : ∀ a, f ⟨a, .nothing, p.bareOnly⟩ = g ⟨a, .nothing, p.bareOnly⟩) :
    (p.settle >>= f) = (p.settle >>= g) := by
  cases hs : p.settle with
  | error e => rfl
  | ok q =>
    rw [eq_of_settle hs]
    exact h q.arguments

/-- To put what waits in its place is to record it. -/
theorem settle_place_bind {α : Type} (a : Arguments) (v : Valued) (value : String) (b : Bool)
    (f : Arguments → Except Usage α) :
    ((⟨a, .place v value, b⟩ : Progress).settle >>= fun q => f q.arguments) =
      a.record v value >>= f := by
  unfold settle
  dsimp only
  cases a.record v value with
  | error e => rfl
  | ok c => rfl

theorem settled_atItem (a : Arguments) : AtItem ⟨a, .nothing, false⟩ := ⟨rfl, nofun⟩

theorem switch_flag (a : Arguments) (b : Bool) (f : Flag) :
    (⟨a, .nothing, b⟩ : Progress).switch (.flag f) =
      (a.take (.flag f)).map fun a => ⟨a, .nothing, b⟩ := by
  by_cases h : a.has f = true
  · simp [switch, settle_eq, Arguments.take, h, Except.map, bind, Except.bind]
  · simp [switch, settle_eq, Arguments.take, h, Except.map, bind, Except.bind]

theorem foldlM_switch_flag (flags : List Flag) (a : Arguments) (b : Bool) :
    flags.foldlM (fun p f => p.switch (.flag f)) (⟨a, .nothing, b⟩ : Progress) =
      ((flags.map Item.flag).foldlM Arguments.take a).map fun a => ⟨a, .nothing, b⟩ := by
  induction flags generalizing a with
  | nil => rfl
  | cons f flags ih =>
    rw [List.map_cons, List.foldlM_cons, List.foldlM_cons, switch_flag]
    cases a.take (.flag f) with
    | error e => rfl
    | ok a => exact ih a

/-- What waits is put in its place before anything else is done. -/
theorem switch_eq (p : Progress) (s : Switch) : p.switch s = p.settle >>= fun q => q.switch s :=
  settle_bind_congr fun _ => rfl

/-- After two dashes all is bare. -/
theorem finish_of_bareOnly (texts : List String) (hb : p.bareOnly = true) :
    p.finish texts =
      p.settle >>= fun q => (texts.map Item.bare).foldlM Arguments.take q.arguments := by
  induction texts generalizing p with
  | nil => rfl
  | cons text texts ih =>
    rw [finish_cons, step, hb, if_pos rfl, bare, bind_assoc]
    refine settle_bind_congr fun a => ?_
    rw [hb]
    exact ih rfl

theorem step_value (hvalue : v.takesDashes = true ∨ IsPlain value) (a : Arguments) :
    (⟨a, .value v, false⟩ : Progress).step value = .ok ⟨a, .place v value, false⟩ := by
  rcases hvalue with htakes | hplain
  · exact step_of_takesAnything (p := ⟨a, .value v, false⟩) rfl htakes
  · exact step_of_isPlain (p := ⟨a, .value v, false⟩) rfl hplain

/-- A line that reads as some items is the same as taking them, after what waits is in its place. -/
theorem finish_of_reads (h : Reads line items) (hp : p.AtItem) :
    p.finish line = p.settle >>= fun q => items.foldlM Arguments.take q.arguments := by
  induction h generalizing p with
  | nil => rfl
  | bare hplain _ ih =>
    rw [finish_cons, step_of_isPlain hp.bareOnly hplain, hp.plain_eq, bare, bind_assoc]
    refine settle_bind_congr fun a => ?_
    rw [hp.bareOnly]
    exact ih (settled_atItem _)
  | @apart v value line items hvalue _ ih =>
    rw [finish_cons, hp.step_spelled, switch_eq, bind_assoc]
    refine settle_bind_congr fun a => ?_
    rw [hp.bareOnly]
    -- The value waits for its place until the rest of the line is read.
    change finish ⟨a, .value v, false⟩ (value :: line) =
      (a.record v value >>= items.foldlM Arguments.take)
    rw [finish_cons, step_value hvalue]
    exact (ih (p := ⟨a, .place v value, false⟩) ⟨rfl, nofun⟩).trans
      (settle_place_bind a v value false (items.foldlM Arguments.take))
  | @joined v value line items _ ih =>
    rw [finish_cons, hp.step_joined, bind_assoc]
    refine settle_bind_congr fun a => ?_
    rw [hp.bareOnly]
    change (a.record v value).map (fun a => (⟨a, .nothing, false⟩ : Progress)) >>= _ =
      (a.record v value >>= items.foldlM Arguments.take)
    cases a.record v value with
    | error e => rfl
    | ok a => exact ih (settled_atItem a)
  | @flag f line items _ ih =>
    rw [finish_cons, hp.step_spelled, switch_eq, bind_assoc]
    refine settle_bind_congr fun a => ?_
    rw [hp.bareOnly, switch_flag, List.foldlM_cons]
    cases a.take (.flag f) with
    | error e => rfl
    | ok a => exact ih (settled_atItem a)
  | @cluster letters flags line items hne hletters _ ih =>
    obtain ⟨f, flags, rfl⟩ := List.exists_cons_of_ne_nil hne
    rw [finish_cons, hp.step_cluster hne hletters, List.foldlM_cons, switch_eq, bind_assoc, bind_assoc]
    refine settle_bind_congr fun a => ?_
    rw [hp.bareOnly, ← bind_assoc, ← List.foldlM_cons (f := fun p f => switch p (.flag f)),
      foldlM_switch_flag, List.foldlM_append]
    cases ((f :: flags).map Item.flag).foldlM Arguments.take a with
    | error e => rfl
    | ok a => exact ih (settled_atItem a)
  | dashes texts =>
    rw [finish_cons, hp.step_dashes]
    refine (finish_of_bareOnly (p := { p with bareOnly := true }) texts rfl).trans ?_
    obtain ⟨a, w, b⟩ := p
    cases w with
    | nothing => rfl
    | value v => exact absurd rfl (hp.waiting v)
    | place v value =>
      have hsettle := fun b =>
        settle_place_bind a v value b ((texts.map Item.bare).foldlM Arguments.take)
      exact (hsettle true).trans (hsettle b).symm

/-- The ways in which an argument is read where an item may begin, and what they leave. -/
inductive Turn : String → Progress → Prop
  | bare {argument : String} {q : Progress} (hplain : IsPlain argument) (hq : q.AtItem) :
    Turn argument q
  | option (v : Valued) (a : Arguments) : Turn (Switch.valued v).spelled ⟨a, .value v, false⟩
  | joined (v : Valued) (value : String) {q : Progress} (hq : q.AtItem) :
    Turn ((Switch.valued v).spelled ++ "=" ++ value) q
  | flag (f : Flag) {q : Progress} (hq : q.AtItem) : Turn (Switch.flag f).spelled q
  | cluster {letters : List Char} {flags : List Flag} {q : Progress} (hne : flags ≠ [])
    (hletters : letters.map Switch.ofShort? = flags.map fun f => some (.flag f)) (hq : q.AtItem) :
    Turn (String.ofList ('-' :: letters)) q
  | dashes (q : Progress) : Turn "--" q

theorem isPlain_of_toList (h : ∀ c text, argument.toList ≠ '-' :: c :: text) : IsPlain argument := by
  by_cases hhead : argument.toList.head? = some '-'
  · obtain ⟨text, ht⟩ := List.head?_eq_some_iff.1 hhead
    cases text with
    | nil => exact .inr (String.toList_injective ht)
    | cons c text => exact absurd ht (h c text)
  · exact .inl hhead

theorem settle_bind_eq_ok {α : Type} {f : Progress → Except Usage α} {x : α}
    (h : (p.settle >>= f) = .ok x) : ∃ a, f ⟨a, .nothing, p.bareOnly⟩ = .ok x := by
  cases hs : p.settle with
  | error e =>
    rw [hs] at h
    cases h
  | ok q =>
    rw [hs, eq_of_settle hs] at h
    exact ⟨_, h⟩

theorem switch_eq_ok {s : Switch} (h : p.switch s = .ok q) :
    (∃ v a, s = .valued v ∧ q = ⟨a, .value v, p.bareOnly⟩) ∨
      ∃ f a, s = .flag f ∧ q = ⟨a, .nothing, p.bareOnly⟩ := by
  obtain ⟨a, h⟩ := settle_bind_eq_ok h
  cases s with
  | help => cases h
  | version => cases h
  | valued v =>
    cases h
    exact .inl ⟨v, a, rfl, rfl⟩
  | flag f =>
    dsimp only at h
    split at h
    · cases h
    · cases h
      exact .inr ⟨f, _, rfl, rfl⟩

theorem record_eq_ok {x : Except Usage Arguments}
    (h : (do return { p with arguments := ← x }) = Except.ok q) : ∃ a, q = { p with arguments := a } := by
  cases x with
  | error e => cases h
  | ok a =>
    cases h
    exact ⟨a, rfl⟩

theorem spelled_of_ofName? {text : List Char} {s : Switch} (ha : argument.toList = '-' :: '-' :: text)
    (hs : Switch.ofName? (String.ofList (text.takeWhile (· ≠ '='))) = some s) :
    argument = s.spelled ++ String.ofList (text.dropWhile (· ≠ '=')) := by
  apply String.toList_injective
  rw [ha, Switch.spelled, Switch.name_of_ofName? hs]
  simp

theorem turn_of_long {text : List Char} (hb : p.bareOnly = false)
    (ha : argument.toList = '-' :: '-' :: text) (h : p.long text = .ok q) : Turn argument q := by
  unfold long at h
  dsimp only at h
  split at h
  · cases h
  · next s hname hdrop =>
    have hspelled := spelled_of_ofName? ha hname
    rw [hdrop, String.append_empty] at hspelled
    rcases switch_eq_ok h with ⟨v, a, rfl, rfl⟩ | ⟨f, a, rfl, rfl⟩
    · rw [hspelled, hb]
      exact .option v a
    · rw [hspelled, hb]
      exact .flag f (settled_atItem a)
  · next v c value hname hdrop =>
    have hspelled := spelled_of_ofName? ha hname
    have hc : c = '=' := by
      have hhead := List.head?_dropWhile_not (· ≠ '=') text
      rw [hdrop] at hhead
      simpa using hhead
    have hjoined : String.ofList (c :: value) = "=" ++ String.ofList value := by
      rw [hc]
      exact String.toList_injective (by simp)
    obtain ⟨a, h⟩ := settle_bind_eq_ok h
    obtain ⟨b, rfl⟩ := record_eq_ok h
    rw [hspelled, hdrop, hjoined, ← String.append_assoc, hb]
    exact .joined v _ (settled_atItem b)
  · cases h

theorem exists_flags_of_short {letters : List Char} (hp : p.AtItem) (h : p.short letters = .ok q) :
    (∃ flags : List Flag, letters.map Switch.ofShort? = flags.map fun f => some (.flag f)) ∧
      q.AtItem := by
  induction letters generalizing p with
  | nil =>
    cases h
    exact ⟨⟨[], rfl⟩, hp⟩
  | cons c letters ih =>
    cases hs : Switch.ofShort? c with
    | none =>
      rw [short, List.foldlM_cons, hs] at h
      cases h
    | some s =>
      rw [short_cons hs] at h
      cases hr : p.switch s with
      | error e =>
        rw [hr] at h
        cases h
      | ok q' =>
        rw [hr] at h
        rcases switch_eq_ok hr with ⟨v, a, rfl, -⟩ | ⟨f, a, rfl, rfl⟩
        -- No option with a value has a short name.
        · cases Switch.short?_of_ofShort? hs
        · rw [hp.bareOnly] at h
          obtain ⟨⟨flags, hflags⟩, hq⟩ := ih (settled_atItem a) h
          exact ⟨⟨f :: flags, by rw [List.map_cons, hs, hflags, List.map_cons]⟩, hq⟩

theorem AtItem.turn (hp : p.AtItem) (h : p.step argument = .ok q) : Turn argument q := by
  unfold step at h
  rw [hp.bareOnly, if_neg Bool.false_ne_true, hp.takesAnything, if_neg Bool.false_ne_true] at h
  split at h
  · next ha =>
    obtain rfl : argument = "--" := String.toList_injective ha
    exact .dashes q
  · next text _ ha => exact turn_of_long hp.bareOnly ha h
  · next c text _ _ ha =>
    obtain ⟨⟨flags, hflags⟩, hq⟩ := exists_flags_of_short hp h
    rw [← String.ofList_toList (s := argument), ha]
    refine .cluster ?_ hflags hq
    rintro rfl
    cases hflags
  · next hplain =>
    rw [hp.plain_eq] at h
    obtain ⟨a, h⟩ := settle_bind_eq_ok h
    cases h
    rw [hp.bareOnly]
    exact .bare (isPlain_of_toList hplain) (settled_atItem _)

/-- Where a value has to come, only two dashes are read as anything else. -/
theorem step_of_waiting (hb : p.bareOnly = false) (hw : p.waiting = .value v)
    (h : p.step argument = .ok q) :
    (v.takesDashes = true ∨ IsPlain argument) ∧ q.AtItem ∨ q = { p with bareOnly := true } := by
  have hsettle : p.settle = .error (.missingValue v) := by rw [settle, hw]
  have hswitch : ∀ s, p.switch s = .error (.missingValue v) := fun s => by
    rw [switch, hsettle]
    rfl
  have hplain : p.plain argument = .ok q → q.AtItem := by
    unfold plain
    rw [hw]
    rintro ⟨⟩
    exact ⟨hb, nofun⟩
  have htakes : p.takesAnything = v.takesDashes := by rw [Progress.takesAnything, hw]
  unfold step at h
  rw [hb, if_neg Bool.false_ne_true, htakes] at h
  split at h
  · next hv => exact .inl ⟨.inl hv, hplain h⟩
  · split at h
    · cases h
      exact .inr rfl
    · next text _ ha =>
      unfold long at h
      dsimp only at h
      split at h
      · cases h
      · rw [hswitch] at h
        cases h
      · rw [hsettle] at h
        cases h
      · cases h
    · next c text _ _ ha =>
      cases hs : Switch.ofShort? c with
      | none =>
        rw [short, List.foldlM_cons, hs] at h
        cases h
      | some s =>
        rw [short_cons hs, hswitch] at h
        cases h
    · next hp => exact .inl ⟨.inr (isPlain_of_toList hp), hplain h⟩

/-- What is read to its end without a fault reads as some items, after the value that comes first if
one has to. -/
theorem exists_reads_of_finish (hb : p.bareOnly = false) (h : p.finish line = .ok a) :
    ((∀ v, p.waiting ≠ .value v) → ∃ items, Reads line items) ∧
      ∀ v, p.waiting = .value v → ∃ value rest items, line = value :: rest ∧
        (v.takesDashes = true ∨ IsPlain value) ∧ Reads rest items := by
  induction line generalizing p with
  | nil =>
    refine ⟨fun _ => ⟨[], .nil⟩, fun v hw => ?_⟩
    rw [finish, List.foldlM_nil, pure_bind, settle, hw] at h
    cases h
  | cons argument line ih =>
    rw [finish_cons] at h
    cases hs : p.step argument with
    | error e =>
      rw [hs] at h
      cases h
    | ok q =>
      rw [hs] at h
      refine ⟨fun hw => ?_, fun v hw => ?_⟩
      · cases AtItem.turn ⟨hb, hw⟩ hs with
        | bare hplain hq =>
          obtain ⟨items, hline⟩ := (ih hq.bareOnly h).1 hq.waiting
          exact ⟨_, .bare hplain hline⟩
        | option v a =>
          obtain ⟨value, rest, items, rfl, hvalue, hrest⟩ := (ih rfl h).2 v rfl
          exact ⟨_, .apart v hvalue hrest⟩
        | joined v value hq =>
          obtain ⟨items, hline⟩ := (ih hq.bareOnly h).1 hq.waiting
          exact ⟨_, .joined v value hline⟩
        | flag f hq =>
          obtain ⟨items, hline⟩ := (ih hq.bareOnly h).1 hq.waiting
          exact ⟨_, .flag f hline⟩
        | @cluster letters flags _ hne hletters hq =>
          obtain ⟨items, hline⟩ := (ih hq.bareOnly h).1 hq.waiting
          exact ⟨_, .cluster letters flags hne hletters hline⟩
        | dashes => exact ⟨_, .dashes line⟩
      · rcases step_of_waiting hb hw hs with ⟨hvalue, hq⟩ | rfl
        · obtain ⟨items, hline⟩ := (ih hq.bareOnly h).1 hq.waiting
          exact ⟨argument, line, items, rfl, hvalue, hline⟩
        · have hfinish := h.symm.trans (finish_of_bareOnly (p := { p with bareOnly := true }) line rfl)
          rw [settle, hw] at hfinish
          cases hfinish

end Progress

open Progress

/-- A line that reads as some items is the same as taking them one by one. -/
theorem parse_of_reads {line : List String} {items : List Item} (h : Reads line items) :
    Arguments.parse line = items.foldlM Arguments.take {} :=
  finish_of_reads (p := {}) h ⟨rfl, nofun⟩

/-- A line is accepted just when it reads as items that can be taken. -/
theorem parse_eq_ok_iff {line : List String} {a : Arguments} : Arguments.parse line = .ok a ↔
    ∃ items, Reads line items ∧ items.foldlM Arguments.take {} = .ok a := by
  constructor
  · intro h
    obtain ⟨items, hreads⟩ := (exists_reads_of_finish (p := {}) rfl h).1 nofun
    exact ⟨items, hreads, (parse_of_reads hreads).symm.trans h⟩
  · rintro ⟨items, hreads, h⟩
    exact (parse_of_reads hreads).trans h

end ScriptBundle.CommandLine
