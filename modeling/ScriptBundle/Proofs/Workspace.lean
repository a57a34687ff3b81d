import ScriptBundle.Workspace

/-!
# Running actions

An action runs on a workspace and gives a result and the workspace it leaves. These equations run an
action step by step.
-/

namespace ScriptBundle

theorem eq_ok_of_toOption {ε α : Type} {x : Except ε α} {a : α} (h : x.toOption = some a) :
    x = .ok a := by
  cases x with
  | error e => cases h
  | ok b => exact congrArg _ (Option.some.inj h)

section Steps

variable {σ ε α β : Type} {s s' : σ} {x : ExceptT ε (StateM σ) α}

/-- After a step that succeeds the rest runs on what that step left, whatever the state is. -/
theorem run_bind_of_ok {a : α} (h : x.run s = (.ok a, s')) (f : α → ExceptT ε (StateM σ) β) :
    (x >>= f).run s = (f a).run s' := by
  change (match x.run s with | (a, s) => ExceptT.bindCont f a s) = _
  rw [h]
  rfl

/-- After a step that fails nothing runs. -/
theorem run_bind_of_error {e : ε} (h : x.run s = (.error e, s')) (f : α → ExceptT ε (StateM σ) β) :
    (x >>= f).run s = (.error e, s') := by
  change (match x.run s with | (a, s) => ExceptT.bindCont f a s) = _
  rw [h]
  rfl

end Steps

namespace Action

variable {α β : Type} {w w' : Workspace}

theorem run_bind_ok {x : Action α} {a : α} (h : x.run w = (.ok a, w')) (f : α → Action β) :
    (x >>= f).run w = (f a).run w' :=
  run_bind_of_ok h f

theorem run_bind_error {x : Action α} {e : Error} (h : x.run w = (.error e, w'))
    (f : α → Action β) : (x >>= f).run w = (.error e, w') :=
  run_bind_of_error h f

/-- What succeeds has succeeded step by step. -/
theorem run_bind_eq_ok {x : Action α} {f : α → Action β} {b : β}
    (h : (x >>= f).run w = (.ok b, w')) :
    ∃ a w₁, x.run w = (.ok a, w₁) ∧ (f a).run w₁ = (.ok b, w') := by
  cases hr : x.run w with
  | mk result w₁ =>
    cases result with
    | ok a => exact ⟨a, w₁, rfl, (run_bind_ok hr f).symm.trans h⟩
    | error e =>
      rw [run_bind_error hr] at h
      cases h

/-- What fails has failed at one of its steps. -/
theorem run_bind_eq_error {x : Action α} {f : α → Action β} {e : Error}
    (h : (x >>= f).run w = (.error e, w')) :
    x.run w = (.error e, w') ∨
      ∃ a w₁, x.run w = (.ok a, w₁) ∧ (f a).run w₁ = (.error e, w') := by
  cases hr : x.run w with
  | mk result w₁ =>
    cases result with
    | ok a => exact .inr ⟨a, w₁, rfl, (run_bind_ok hr f).symm.trans h⟩
    | error cause =>
      rw [run_bind_error hr] at h
      cases h
      exact .inl rfl

theorem run_eq_of_result {x : Action α} {result : Except Error α} (h : (x.run w).1 = result) :
    x.run w = (result, (x.run w).2) :=
  Prod.ext h rfl

theorem run_pure (a : α) : (pure a : Action α).run w = (.ok a, w) := rfl

theorem run_files : files.run w = (.ok w.files, w) := rfl

theorem run_setFiles (t : FileTree) : (setFiles t).run w = (.ok (), { w with files := t }) := rfl

theorem run_ofExcept {ε : Type} (wrap : ε → Error) (x : Except ε α) :
    (ofExcept wrap x).run w = (x.mapError wrap, w) := by
  cases x <;> rfl

theorem run_ofExcept_iff {ε : Type} {wrap : ε → Error} {x : Except ε α} {a : α} :
    (ofExcept wrap x).run w = (.ok a, w') ↔ x = .ok a ∧ w' = w := by
  rw [run_ofExcept]
  refine (Prod.mk.injEq ..).to_iff.trans (and_congr ?_ eq_comm)
  cases x with
  | ok b => exact (Except.ok.injEq ..).to_iff.trans (Except.ok.injEq ..).to_iff.symm
  | error cause => exact ⟨nofun, nofun⟩

theorem run_ofExcept_error_iff {ε : Type} {wrap : ε → Error} {x : Except ε α} {e : Error} :
    (ofExcept wrap x).run w = (.error e, w') ↔
      (∃ cause, x = .error cause ∧ e = wrap cause) ∧ w' = w := by
  rw [run_ofExcept]
  refine (Prod.mk.injEq ..).to_iff.trans (and_congr ?_ eq_comm)
  cases x with
  | ok a => exact ⟨nofun, nofun⟩
  | error cause =>
    constructor
    · rintro ⟨⟩
      exact ⟨cause, rfl, rfl⟩
    · rintro ⟨_, ⟨⟩, rfl⟩
      rfl

theorem run_readText (p : Path) :
    (readText p).run w = ((w.files.readText p).mapError (.read p), w) := by
  rw [readText, run_bind_ok run_files, run_ofExcept]

theorem run_readText_iff {p : Path} {text : String} :
    (readText p).run w = (.ok text, w') ↔ w.files.readText p = .ok text ∧ w' = w := by
  rw [readText, run_bind_ok run_files, run_ofExcept_iff]

theorem run_readText_error_iff {p : Path} {e : Error} :
    (readText p).run w = (.error e, w') ↔
      (∃ cause, w.files.readText p = .error cause ∧ e = .read p cause) ∧ w' = w := by
  rw [readText, run_bind_ok run_files, run_ofExcept_error_iff]

/-- Writing leaves the files as they were if it fails. -/
theorem run_writeText (p : Path) (text : String) : (writeText p text).run w =
    match w.files.writeText p text with
    | .ok t => (.ok (), { w with files := t })
    | .error cause => (.error (.write p cause), w) := by
  rw [writeText, run_bind_ok run_files]
  cases h : w.files.writeText p text with
  | ok t => rw [run_bind_ok (run_ofExcept _ _), run_setFiles]
  | error cause => rw [run_bind_error (run_ofExcept _ _)]

theorem run_remove (p : Path) : (remove p).run w =
    match w.files.remove p with
    | .ok t => (.ok (), { w with files := t })
    | .error cause => (.error (.cleanup cause), w) := by
  rw [remove, run_bind_ok run_files]
  cases h : w.files.remove p with
  | ok t => rw [run_bind_ok (run_ofExcept _ _), run_setFiles]
  | error cause => rw [run_bind_error (run_ofExcept _ _)]

theorem run_discard (p : Path) : (discard p).run w =
    (.ok (), { w with files := (w.files.remove p).toOption.getD w.files }) := by
  rw [discard, run_bind_ok run_files]
  cases w.files.remove p <;> rfl

theorem run_report (level : Level) (origin : Origin) (text : String) :
    (report level origin text).run w =
      (.ok (), { w with log := w.log ++ [⟨level, origin, text⟩] }) :=
  rfl

/-- Running it changes no file, whether it fails or not. -/
def KeepsFiles (x : Action α) : Prop := ∀ w, (x.run w).2.files = w.files

namespace KeepsFiles

theorem pure (a : α) : KeepsFiles (pure a) := fun _ => rfl

theorem bind {x : Action α} {f : α → Action β} (hx : KeepsFiles x) (hf : ∀ a, KeepsFiles (f a)) :
    KeepsFiles (x >>= f) := by
  intro w
  have hfiles := hx w
  cases hr : x.run w with
  | mk result w' =>
    rw [hr] at hfiles
    cases result with
    | ok a => rw [run_bind_ok hr, hf a w', hfiles]
    | error e => rw [run_bind_error hr, hfiles]

theorem files : KeepsFiles files := fun _ => rfl

theorem report (level : Level) (origin : Origin) (text : String) :
    KeepsFiles (report level origin text) :=
  fun _ => rfl

theorem ofExcept {ε : Type} (wrap : ε → Error) (x : Except ε α) : KeepsFiles (ofExcept wrap x) :=
  fun w => by rw [run_ofExcept]

theorem readText (p : Path) : KeepsFiles (readText p) := fun w => by rw [run_readText]

end KeepsFiles
end Action
end ScriptBundle
