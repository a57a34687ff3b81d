import ScriptBundle.Text.Lines

/-!
# Lines and line feeds

How the split at the first line feed meets concatenation, and what normalizing leaves. A text that
ends with its line can be put before any other text: no line and no line ending then runs across
the border.
-/

namespace ScriptBundle.Lines

@[simp] theorem takeLine_cons (c : Char) (text : List Char) :
    takeLine (c :: text) = if c = '\n' then [] else c :: takeLine text := by
  by_cases h : c = '\n' <;> simp [takeLine, h]

@[simp] theorem dropLine_cons (c : Char) (text : List Char) :
    dropLine (c :: text) = if c = '\n' then c :: text else dropLine text := by
  by_cases h : c = '\n' <;> simp [dropLine, h]

theorem not_mem_takeLine (text : List Char) : '\n' ∉ takeLine text := by
  induction text with
  | nil => simp [takeLine]
  | cons c text ih =>
    by_cases hc : c = '\n'
    · simp [hc]
    · simpa [hc, Ne.symm hc] using ih

/-- Behind a line there is nothing or a line feed. -/
theorem dropLine_cases (text : List Char) :
    dropLine text = [] ∨ ∃ below, dropLine text = '\n' :: below := by
  induction text with
  | nil => exact .inl rfl
  | cons c text ih =>
    by_cases hc : c = '\n'
    · exact .inr ⟨text, by simp [hc]⟩
    · simpa [hc] using ih

theorem takeLine_append {a : List Char} (h : '\n' ∉ a) (b : List Char) :
    takeLine (a ++ b) = a ++ takeLine b := by
  apply List.takeWhile_append_of_pos
  intro c hc
  have hne : c ≠ '\n' := fun e => h (e ▸ hc)
  simpa using hne

theorem dropLine_append {a : List Char} (h : '\n' ∉ a) (b : List Char) :
    dropLine (a ++ b) = dropLine b := by
  apply List.dropWhile_append_of_pos
  intro c hc
  have hne : c ≠ '\n' := fun e => h (e ▸ hc)
  simpa using hne

/-- A text with a line feed in it has its own first line, whatever follows. -/
theorem takeLine_append_of_mem {a : List Char} (h : '\n' ∈ a) (b : List Char) :
    takeLine (a ++ b) = takeLine a := by
  induction a with
  | nil => cases h
  | cons c a ih =>
    by_cases hc : c = '\n'
    · simp [hc]
    · have ha : '\n' ∈ a := (List.mem_cons.1 h).resolve_left (Ne.symm hc)
      simp [hc, ih ha]

theorem dropLine_append_of_mem {a : List Char} (h : '\n' ∈ a) (b : List Char) :
    dropLine (a ++ b) = dropLine a ++ b := by
  have hab := takeLine_append_dropLine (a ++ b)
  rw [takeLine_append_of_mem h] at hab
  have ha := congrArg (· ++ b) (takeLine_append_dropLine a)
  simp only [List.append_assoc] at ha
  exact List.append_cancel_left (hab.trans ha.symm)

theorem exists_dropLine_eq {text : List Char} (h : '\n' ∈ text) :
    ∃ below, dropLine text = '\n' :: below := by
  rcases dropLine_cases text with hd | hd
  · rw [← takeLine_append_dropLine text, hd, List.append_nil] at h
    exact absurd h (not_mem_takeLine text)
  · exact hd

/-- The text holds nothing, or its last line is ended. -/
def Ended (text : List Char) : Prop := text = [] ∨ text.getLast? = some '\n'

instance (text : List Char) : Decidable (Ended text) := inferInstanceAs (Decidable (_ ∨ _))

theorem ended_nil : Ended [] := .inl rfl

theorem ended_newline : Ended ['\n'] := .inr rfl

theorem Ended.mem {text : List Char} (h : Ended text) (hne : text ≠ []) : '\n' ∈ text := by
  rcases h with h | h
  · exact absurd h hne
  · exact List.mem_of_getLast? h

theorem Ended.of_append {a b : List Char} (h : Ended (a ++ b)) : Ended b := by
  cases b with
  | nil => exact ended_nil
  | cons c b => exact .inr (by simpa [Ended, List.getLast?_append] using h)

theorem Ended.of_cons {c : Char} {text : List Char} (h : Ended (c :: text)) : Ended text :=
  h.of_append (a := [c])

/-- A part of the text that has no line feed is not where its last line ends. -/
theorem Ended.mem_of_append {a b : List Char} (h : Ended (a ++ b)) (hne : a ≠ [])
    (ha : '\n' ∉ a) : '\n' ∈ b := by
  have hm := h.mem (List.append_ne_nil_of_left_ne_nil hne b)
  exact (List.mem_append.1 hm).resolve_left ha

theorem Ended.cons {text : List Char} (h : Ended text) (hne : text ≠ []) (c : Char) :
    Ended (c :: text) := by
  rcases h with h | h
  · exact absurd h hne
  · exact .inr (by simp [List.getLast?_cons, h])

theorem Ended.append {a b : List Char} (ha : Ended a) (hb : Ended b) : Ended (a ++ b) := by
  cases b with
  | nil => simpa using ha
  | cons c b => exact .inr (by simpa [Ended, List.getLast?_append] using hb)

theorem not_mem_normalize (text : List Char) : '\r' ∉ normalize text := by
  fun_induction normalize text with
  | case1 => simp
  | case2 rest ih => simpa using ih
  | case3 c rest hc ih =>
    by_cases h : c = '\r'
    · simpa [h] using ih
    · simpa [h, Ne.symm h] using ih

theorem normalize_append_of_not_mem {line : List Char} (h : '\r' ∉ line) (below : List Char) :
    normalize (line ++ below) = line ++ normalize below := by
  induction line with
  | nil => rfl
  | cons c line ih =>
    have hc : c ≠ '\r' := fun e => h (e ▸ List.mem_cons_self)
    rw [List.cons_append, normalize_cons hc, ih fun hl => h (List.mem_cons_of_mem c hl),
      List.cons_append]

/-- Without carriage returns there is nothing to normalize. -/
theorem normalize_of_not_mem {text : List Char} (h : '\r' ∉ text) : normalize text = text := by
  simpa using normalize_append_of_not_mem h []

theorem normalize_normalize (text : List Char) : normalize (normalize text) = normalize text :=
  normalize_of_not_mem (not_mem_normalize text)

theorem normalize_cr {below : List Char} (h : below.head? ≠ some '\n') :
    normalize ('\r' :: below) = '\n' :: normalize below := by
  rw [normalize]
  · rfl
  · rintro rest - rfl
    exact h rfl

/-- Line endings on the two sides of an ended line do not meet. -/
theorem normalize_append {a : List Char} (h : Ended a) (b : List Char) :
    normalize (a ++ b) = normalize a ++ normalize b := by
  fun_induction normalize a with
  | case1 => rfl
  | case2 rest ih => simpa using ih h.of_cons.of_cons
  | case3 c rest hc ih =>
    have hr := ih h.of_cons
    by_cases hr' : c = '\r'
    · subst hr'
      cases rest with
      | nil => simp [Ended] at h
      | cons d rest =>
        have hd : (d :: rest ++ b).head? ≠ some '\n' := fun e =>
          hc rest rfl (by rw [Option.some.inj e])
        rw [List.cons_append, normalize_cr hd, hr]
        simp
    · rw [List.cons_append, normalize_cons hr', hr]
      simp [hr']

theorem normalize_ne_nil {text : List Char} (h : text ≠ []) : normalize text ≠ [] := by
  fun_cases normalize text <;> simp_all

theorem ended_normalize {text : List Char} (h : Ended text) : Ended (normalize text) := by
  fun_induction normalize text with
  | case1 => exact ended_nil
  | case2 rest ih =>
    exact ended_newline.append (ih h.of_cons.of_cons)
  | case3 c rest hc ih =>
    have hr := ih h.of_cons
    cases rest with
    | nil =>
      have he : c = '\n' := by simpa [Ended] using h
      subst he
      exact ended_newline
    | cons d rest => exact hr.cons (normalize_ne_nil (List.cons_ne_nil d rest)) _

end ScriptBundle.Lines
