import ScriptBundle.Text.Blank

/-!
# Texts and their words

What a text spells is said without splitting it: a run of white space, a word, and what spells the
other words, which starts with white space unless it is empty. Every text spells one list of words,
and splitting it at white space finds that list (`words_eq_iff`).
-/

namespace ScriptBundle

/-- At least one character, and no white space. -/
def IsWord (word : List Char) : Prop := word ≠ [] ∧ ∀ c ∈ word, isBlank c = false

instance (word : List Char) : Decidable (IsWord word) :=
  decidable_of_iff (word ≠ [] ∧ word.any isBlank = false) (by simp [IsWord])

/-- The text is these words with white space between them, and any white space around them. -/
inductive Spells : List (List Char) → List Char → Prop
  | blank {gap : List Char} (isGap : allBlank gap) : Spells [] gap
  | word {list : List (List Char)} (gap : List Char) {word rest : List Char} (isGap : allBlank gap)
      (isWord : IsWord word) (apart : ∀ c ∈ rest.head?, isBlank c) (more : Spells list rest) :
      Spells (word :: list) (gap ++ word ++ rest)

namespace Spells

variable {list : List (List Char)} {text : List Char}

theorem isWord_of_mem (h : Spells list text) : ∀ word ∈ list, IsWord word := by
  induction h with
  | blank => simp
  | word _ _ isWord _ _ ih => simpa using ⟨isWord, ih⟩

theorem cons_blank {c : Char} (hc : isBlank c) (h : Spells list text) : Spells list (c :: text) := by
  cases h with
  | blank isGap => exact .blank (by simpa [allBlank, hc] using isGap)
  | word gap isGap isWord apart more =>
    exact .word (c :: gap) (by simpa [allBlank, hc] using isGap) isWord apart more

/-- One more character at the front starts a word of its own before white space, and else belongs to
the first word. -/
theorem exists_cons {c : Char} (hc : isBlank c = false) (h : Spells list text) :
    ∃ list', Spells list' (c :: text) := by
  have alone : IsWord [c] := ⟨List.cons_ne_nil c [], by simpa using hc⟩
  cases h with
  | blank isGap =>
    refine ⟨[[c]], .word [] rfl alone ?_ (.blank isGap)⟩
    intro d hd
    exact List.all_eq_true.1 isGap d (List.mem_of_mem_head? hd)
  | @word list gap word rest isGap isWord apart more =>
    cases gap with
    | nil =>
      have longer : IsWord (c :: word) := ⟨List.cons_ne_nil c word, by simpa [hc] using isWord.2⟩
      exact ⟨(c :: word) :: list, .word [] rfl longer apart more⟩
    | cons d gap =>
      have hd : isBlank d := List.all_eq_true.1 isGap d List.mem_cons_self
      exact ⟨[c] :: word :: list,
        .word [] rfl alone (by simpa using hd) (.word (d :: gap) isGap isWord apart more)⟩

end Spells

theorem exists_spells (text : List Char) : ∃ list, Spells list text := by
  induction text with
  | nil => exact ⟨[], .blank rfl⟩
  | cons c text ih =>
    obtain ⟨list, h⟩ := ih
    cases hc : isBlank c with
    | true => exact ⟨list, h.cons_blank hc⟩
    | false => exact h.exists_cons hc

theorem words_cons_blank {c : Char} (hc : isBlank c) (text : List Char) :
    words (c :: text) = words text := by
  simp [words, List.splitOnP_cons_eq_if_modifyHead, hc]

theorem words_append_of_allBlank {gap : List Char} (h : allBlank gap) (text : List Char) :
    words (gap ++ text) = words text := by
  induction gap with
  | nil => rfl
  | cons c gap ih =>
    obtain ⟨hc, hgap⟩ := by simpa [allBlank] using h
    rw [List.cons_append, words_cons_blank hc, ih (by simpa [allBlank] using hgap)]

theorem words_append_of_isWord {word rest : List Char} (h : IsWord word)
    (apart : ∀ c ∈ rest.head?, isBlank c) : words (word ++ rest) = word :: words rest := by
  cases rest with
  | nil => simp [words, List.splitOnP_eq_singleton h.2, h.1]
  | cons c rest =>
    have hc : isBlank c := apart c rfl
    rw [words_cons_blank hc]
    simp [words, List.splitOnP_append_cons_of_forall_mem h.2 c hc, h.1]

theorem words_of_spells {list : List (List Char)} {text : List Char} (h : Spells list text) :
    words text = list := by
  induction h with
  | @blank gap isGap =>
    calc words gap = words (gap ++ []) := by rw [List.append_nil]
      _ = words [] := words_append_of_allBlank isGap []
      _ = [] := rfl
  | word _ isGap isWord apart _ ih =>
    rw [List.append_assoc, words_append_of_allBlank isGap, words_append_of_isWord isWord apart, ih]

theorem words_eq_iff {text : List Char} {list : List (List Char)} :
    words text = list ↔ Spells list text := by
  refine ⟨?_, words_of_spells⟩
  rintro rfl
  obtain ⟨list, h⟩ := exists_spells text
  rwa [words_of_spells h]

instance (list : List (List Char)) (text : List Char) : Decidable (Spells list text) :=
  decidable_of_iff _ words_eq_iff

example : Spells ["x".toList, "y".toList] "\u2003x\n\u00a0 y".toList := by decide +kernel

end ScriptBundle
