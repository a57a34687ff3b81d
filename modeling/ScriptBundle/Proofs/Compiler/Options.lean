import Mathlib.Data.List.DropRight
import Mathlib.Data.List.Forall2
import ScriptBundle.Compiler.Options
import ScriptBundle.Proofs.Text.Words

/-!
# Compiler options in normal form

The arguments for a further option are told by what the option spells (`Contributes`). An option is
written anew from its arguments: with other white space between and around them, and with any number
of dashes but none before the first (`Rewrites`). Both relations go through the words of a text
alone, so an option written anew contributes what the first one did.
-/

namespace ScriptBundle.Compiler

/-- The output wrapper, or a word. -/
def IsArgument (entry : String) : Prop := entry = outputWrapper ∨ IsWord entry.toList

instance (entry : String) : Decidable (IsArgument entry) := inferInstanceAs (Decidable (_ ∨ _))

/-- A word without the dashes that it starts with. -/
def undashed (word : List Char) : List Char := word.dropWhile (· == '-')

/-- What a further option stands for: nothing if it is blank, and else the flag that its first word
names and its other words. -/
inductive Contributes (option : String) : List String → Prop
  | blank (isGap : allBlank option.toList) : Contributes option []
  | flag {name : List Char} {values : List (List Char)}
      (spells : Spells (name :: values) option.toList) :
      Contributes option (("--" ++ String.ofList (undashed name)) :: values.map String.ofList)

/-- The text is these arguments with white space between them, and any white space around them; the
first has some number of dashes, but not none. -/
inductive Rewrites : List String → String → Prop
  | blank {text : String} (isGap : allBlank text.toList) : Rewrites [] text
  | flag {first : String} {values : List String} {text : String} (dashes : Nat) (hd : 0 < dashes)
      (spells : Spells ((List.replicate dashes '-' ++ undashed first.toList) ::
        values.map String.toList) text.toList) :
      Rewrites (first :: values) text

variable {option text : String} {entries : List String}

theorem undashed_replicate_append (n : Nat) (word : List Char) :
    undashed (List.replicate n '-' ++ word) = undashed word :=
  List.dropWhile_append_of_pos fun c hc => by simp [(List.mem_replicate.1 hc).2]

theorem undashed_undashed (word : List Char) : undashed (undashed word) = undashed word :=
  List.dropWhile_idempotent _ word

theorem toList_flag (word : List Char) :
    ("--" ++ String.ofList word).toList = List.replicate 2 '-' ++ word := by
  simp [List.replicate]

/-- A flag names what the word it was made of names. -/
theorem undashed_flag (word : List Char) :
    undashed ("--" ++ String.ofList (undashed word)).toList = undashed word := by
  rw [toList_flag, undashed_replicate_append, undashed_undashed]

theorem isWord_flag {name : List Char} (h : IsWord name) :
    IsWord ("--" ++ String.ofList (undashed name)).toList := by
  rw [toList_flag]
  refine ⟨List.cons_ne_nil _ _, fun c hc => ?_⟩
  rcases List.mem_append.1 hc with hdash | hname
  · rw [(List.mem_replicate.1 hdash).2]
    rfl
  · exact h.2 c ((List.dropWhile_sublist _).mem hname)

theorem extraOption_of_blank (h : allBlank option.toList) : extraOption option = [] := by
  unfold extraOption
  rw [words_of_spells (.blank h)]

theorem extraOption_of_spells {name : List Char} {values : List (List Char)}
    (h : Spells (name :: values) option.toList) : extraOption option =
      ("--" ++ String.ofList (undashed name)) :: values.map String.ofList := by
  unfold extraOption
  rw [words_of_spells h]
  have same : String.ofList ('-' :: '-' :: undashed name) = "--" ++ String.ofList (undashed name) :=
    String.toList_injective (by simp)
  rw [← same]
  rfl

example : extraOption "\u2003-define\n X=1 -v " = ["--define", "X=1", "-v"] := by decide +kernel

theorem extraOption_of_contributes (h : Contributes option entries) :
    extraOption option = entries := by
  cases h with
  | blank isGap => exact extraOption_of_blank isGap
  | flag spells => exact extraOption_of_spells spells

theorem contributes_extraOption (option : String) : Contributes option (extraOption option) := by
  obtain ⟨list, h⟩ := exists_spells option.toList
  cases list with
  | nil =>
    have isGap : allBlank option.toList := by
      cases h
      assumption
    rw [extraOption_of_blank isGap]
    exact .blank isGap
  | cons name values =>
    rw [extraOption_of_spells h]
    exact .flag h

theorem Contributes.isWord (h : Contributes option entries) :
    ∀ entry ∈ entries, IsWord entry.toList := by
  cases h with
  | blank => simp
  | flag spells =>
    obtain ⟨hname, hvalues⟩ := List.forall_mem_cons.1 spells.isWord_of_mem
    refine List.forall_mem_cons.2 ⟨isWord_flag hname, List.forall_mem_map.2 fun value hvalue => ?_⟩
    rw [String.toList_ofList]
    exact hvalues value hvalue

/-- An option written anew from its arguments contributes them again. -/
theorem Contributes.of_rewrites (h : Contributes option entries) (again : Rewrites entries text) :
    Contributes text entries := by
  cases h with
  | blank =>
    cases again with
    | blank isGap => exact .blank isGap
  | @flag name values =>
    cases again with
    | flag dashes _ spells =>
      rw [undashed_flag, List.map_map, String.toList_comp_ofList, List.map_id] at spells
      have same : undashed (List.replicate dashes '-' ++ undashed name) = undashed name := by
        rw [undashed_replicate_append, undashed_undashed]
      rw [← same]
      exact .flag spells

theorem forall₂_extraOption (list : List String) :
    List.Forall₂ Contributes list (list.map extraOption) :=
  List.forall₂_map_right_iff.2 (List.forall₂_same.2 fun option _ => contributes_extraOption option)

theorem flatMap_extraOption {list : List String} {contributed : List (List String)}
    (h : List.Forall₂ Contributes list contributed) :
    list.flatMap extraOption = contributed.flatten := by
  induction h with
  | nil => rfl
  | cons head _ ih => rw [List.flatMap_cons, List.flatten_cons, ih, extraOption_of_contributes head]

theorem forall₂_rewrites {list others : List String} {contributed : List (List String)}
    (h : List.Forall₂ Contributes list contributed)
    (again : List.Forall₂ Rewrites contributed others) : List.Forall₂ Contributes others contributed := by
  induction h generalizing others with
  | nil =>
    cases again
    exact .nil
  | cons head _ ih =>
    cases again with
    | cons first rest => exact .cons (head.of_rewrites first) (ih rest)

theorem forall_mode (c : Config) {flag language : String} (hflag : IsArgument flag)
    (h : language = "ECMASCRIPT5" ∨ language = "ECMASCRIPT6") :
    ∀ entry ∈ [flag, mode c language], IsArgument entry := by
  have hmode : IsArgument (mode c language) := by
    unfold mode
    rcases h with rfl | rfl <;> split <;> decide +kernel
  simpa using ⟨hflag, hmode⟩

theorem isArgument_baseOptions (c : Config) : ∀ entry ∈ baseOptions c, IsArgument entry := by
  simp only [baseOptions, List.forall_mem_append]
  refine ⟨⟨⟨⟨?level, ?wrapper⟩, ?input⟩, ?output⟩, ?format⟩
  case level => split <;> decide +kernel
  case wrapper => split <;> decide +kernel
  case input =>
    refine forall_mode c (by decide +kernel) ?_
    unfold languageIn
    split <;> simp
  case output =>
    cases h : languageOut? c with
    | none => simp
    | some language =>
      refine forall_mode c (by decide +kernel) ?_
      unfold languageOut? at h
      split at h <;> simp_all
  case format => split <;> decide +kernel

theorem options_eq {c : Config} {contributed : List (List String)}
    (h : List.Forall₂ Contributes c.options contributed) :
    options c = baseOptions c ++ contributed.flatten := by
  rw [options, flatMap_extraOption h]

theorem options_without (c : Config) : options { c with options := [] } = baseOptions c :=
  List.append_nil _

theorem isArgument_options (c : Config) : ∀ entry ∈ options c, IsArgument entry := by
  refine List.forall_mem_append.2 ⟨isArgument_baseOptions c, fun entry he => ?_⟩
  obtain ⟨option, -, he⟩ := List.mem_flatMap.1 he
  exact .inr ((contributes_extraOption option).isWord entry he)

/-- The arguments are those of the switches and then what each further option contributes. Each one
is the output wrapper or a word. Options written anew from what they contribute change nothing. -/
theorem options_normalForm (c : Config) : ∃ contributed : List (List String),
    List.Forall₂ Contributes c.options contributed ∧
    options c = options { c with options := [] } ++ contributed.flatten ∧
    (∀ entry ∈ options c, entry ≠ "" ∧
      (entry ≠ outputWrapper → ∀ char ∈ entry.toList, isBlank char = false)) ∧
    ∀ others : List String, List.Forall₂ Rewrites contributed others →
      options { c with options := others } = options c := by
  have parts : List.Forall₂ Contributes c.options (c.options.map extraOption) :=
    forall₂_extraOption c.options
  refine ⟨_, parts, ?_, fun entry he => ?_, fun others again => ?_⟩
  · rw [options_eq parts, options_without]
  · rcases isArgument_options c entry he with rfl | ⟨nonempty, plain⟩
    · exact ⟨by decide +kernel, fun h => absurd rfl h⟩
    · exact ⟨fun h => nonempty (congrArg String.toList h), fun _ => plain⟩
  · rw [options_eq parts, options_eq (forall₂_rewrites parts again)]
    rfl

/-- Three dashes for one, tabs and more blanks for single spaces, and another white space for a blank
option: all of them say the same. -/
theorem options_normalForm_rewritten :
    List.Forall₂ Rewrites [["--define", "A=1", "B"], []] ["\t---define  A=1\tB ", "\u2003"] ∧
      options { options := ["-define A=1 B", " "] } =
        options { options := [] } ++ ["--define", "A=1", "B"] ∧
      options { options := ["\t---define  A=1\tB ", "\u2003"] } =
        options { options := ["-define A=1 B", " "] } := by
  have again : List.Forall₂ Rewrites [["--define", "A=1", "B"], []]
      ["\t---define  A=1\tB ", "\u2003"] :=
    .cons (.flag 3 (by decide) (by decide +kernel)) (.cons (.blank (by decide +kernel)) .nil)
  obtain ⟨contributed, parts, joined, -, stable⟩ :=
    options_normalForm { options := ["-define A=1 B", " "] }
  have same : contributed = [["--define", "A=1", "B"], []] := by
    rcases parts with _ | ⟨first, _ | ⟨second, _ | _⟩⟩
    rw [← extraOption_of_contributes first, ← extraOption_of_contributes second]
    decide +kernel
  rw [same] at joined stable
  exact ⟨again, joined, stable _ again⟩

end ScriptBundle.Compiler
