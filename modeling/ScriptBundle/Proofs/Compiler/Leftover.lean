import ScriptBundle.Proofs.Compiler

/-!
# What the compiler leaves

If the process changes nothing but its result, compiling changes nothing but the two files, and each way
to end leaves them in a definite state (`Exit.leaves`). Only a good run takes the input away, unless it
is to be kept. The result is left by a run alone that could not read it, or that did not start.
-/

namespace ScriptBundle.Compiler

open ScriptBundle.FileTree (ChangesOnly)

variable {launch : Launcher} {c : Config} {js : String} {t after : FileTree}
variable {result : Except Error String}

/-- The process changes nothing but the file that it was given for its result. -/
def ChangesResultOnly (launch : Launcher) (c : Config) : Prop :=
  ∀ t finished, launch t c.launcher (arguments c) = .ok finished →
    ChangesOnly t finished.files [outputFile c]

/-- Compiling changes nothing but the two files, whichever way it ends. -/
theorem Exit.changesOnly (hlaunch : ChangesResultOnly launch c)
    (h : Exit launch c js t result after) : ChangesOnly t after [inputFile c, outputFile c] := by
  have hinput : [inputFile c] ⊆ [inputFile c, outputFile c] := by simp
  have houtput : [outputFile c] ⊆ [inputFile c, outputFile c] := by simp
  have hwrite : ∀ written, t.writeText (inputFile c) js = .ok written →
      ChangesOnly t written [inputFile c, outputFile c] := fun written hw =>
    (FileTree.isWith_write hw).changesOnly.mono hinput
  have hended : ∀ finished, Ended launch c js t finished →
      ChangesOnly t finished.files [inputFile c, outputFile c] := by
    rintro finished ⟨written, hw, hl⟩
    exact (hwrite written hw).trans ((hlaunch written finished hl).mono houtput)
  cases h with
  | notWritten hw => exact .refl t _
  | notLaunched hw hl => exact hwrite _ hw
  | @failed finished _ he hs ho hno =>
    rcases Classical.em (finished.files.LeadsToFile (outputFile c)) with hfile | hfile
    · exact (hended finished he).trans ((ho hfile).changesOnly.mono houtput)
    · rw [hno hfile]
      exact hended finished he
  | unreadable he hs hr => exact hended _ he
  | uncleared he hs hr hk hno hw => exact (hended _ he).trans (hw.changesOnly.mono houtput)
  | good he hs hr hi hw =>
    refine (hended _ he).trans (hw.changesOnly.mono ?_)
    cases c.keep <;> simp

/-- The compiler's input was written and is still there, and nothing else is changed but what stands in
the result's place. -/
def KeepsInput (c : Config) (t after : FileTree) : Prop :=
  ∃ js written, t.writeText (inputFile c) js = .ok written ∧
    ChangesOnly written after [outputFile c]

theorem keepsInput_of_ended {finished : Finished} (hlaunch : ChangesResultOnly launch c)
    (he : Ended launch c js t finished) : KeepsInput c t finished.files := by
  obtain ⟨written, hw, hl⟩ := he
  exact ⟨js, written, hw, hlaunch written finished hl⟩

namespace KeepsInput

variable {between : FileTree}

theorem without (h : KeepsInput c t between) (hw : after.IsWithout between [outputFile c]) :
    KeepsInput c t after := by
  obtain ⟨js, written, hwrite, hchange⟩ := h
  exact ⟨js, written, hwrite, hchange.trans hw.changesOnly⟩

/-- The path leads to a regular file, or to the device that it led to. -/
theorem find_cases (h : KeepsInput c t after) :
    (∃ bytes mode, after.find (inputFile c) = .ok (.file bytes mode)) ∨
      ∃ kind taken taken', t.find (inputFile c) = .ok (.device kind taken) ∧
        after.find (inputFile c) = .ok (.device kind taken') := by
  obtain ⟨js, written, hwrite, hchange⟩ := h
  have hfind : ∀ node, after.find (inputFile c) = .ok node ↔
      written.find (inputFile c) = .ok node := fun node => by
    refine hchange.find_eq_ok_iff fun key hi p hp => ?_
    rw [List.mem_singleton.1 hp]
    exact fun ho => locate_inputFile_ne ho hi
  simp only [hfind]
  rcases (FileTree.isWith_write hwrite).find_cases with
    ⟨mode, hf⟩ | ⟨kind, taken, node, hdevice, hafter, hf⟩
  · exact .inl ⟨_, mode, hf⟩
  · obtain ⟨taken', rfl⟩ := FileTree.exists_of_deviceAfter hafter
    exact .inr ⟨kind, taken, taken', hdevice, hf⟩

theorem leadsToFile (h : KeepsInput c t after) : after.LeadsToFile (inputFile c) := by
  rcases h.find_cases with ⟨bytes, mode, hf⟩ | ⟨kind, taken, taken', -, hf⟩
  · exact ⟨_, hf, rfl⟩
  · exact ⟨_, hf, rfl⟩

theorem isFile (h : KeepsInput c t after) (hf : t.isFile (inputFile c) = true) :
    after.isFile (inputFile c) = true := by
  rcases h.find_cases with ⟨bytes, mode, hafter⟩ | ⟨kind, taken, taken', hdevice, -⟩
  · rw [FileTree.isFile, hafter]
    rfl
  · rw [FileTree.isFile, hdevice] at hf
    cases hf

end KeepsInput

/-- What each way to end leaves of the two files. -/
def Leaves (c : Config) (t : FileTree) : Except Error String → FileTree → Prop
  | .ok _, after => after.isFile (outputFile c) = false ∧
      (c.keep = false → after.isFile (inputFile c) = false) ∧ (c.keep = true → KeepsInput c t after)
  | .error (.write ..), after => after = t
  | .error (.launch ..), after =>
      after.isFile (outputFile c) = t.isFile (outputFile c) ∧ KeepsInput c t after
  | .error (.compilerFailed ..), after => after.isFile (outputFile c) = false ∧ KeepsInput c t after
  | .error (.read ..), after => KeepsInput c t after
  | .error _, _ => False

/-- The input is taken away by a good run alone that does not keep it. The result is taken away by a run
that failed, and by a good one that could read it. -/
theorem Exit.leaves (hlaunch : ChangesResultOnly launch c) (h : Exit launch c js t result after) :
    Leaves c t result after := by
  cases h with
  | notWritten hw => rfl
  | notLaunched hw hl =>
    refine ⟨?_, js, _, hw, .refl _ _⟩
    have hwith := FileTree.isWith_write hw
    rw [Bool.eq_iff_iff, FileTree.isFile_iff, FileTree.isFile_iff]
    refine exists_congr fun key => ?_
    rw [hwith.sameDirectories.locate_eq_ok_iff]
    refine and_congr_right fun ho => ?_
    rw [hwith.kept key (locate_inputFile_ne ho)]
  | @failed finished _ he hs ho hno =>
    have hkeeps := keepsInput_of_ended hlaunch he
    rcases Classical.em (finished.files.LeadsToFile (outputFile c)) with hfile | hfile
    · exact ⟨(ho hfile).isFile_eq_false List.mem_cons_self, hkeeps.without (ho hfile)⟩
    · rw [hno hfile]
      exact ⟨eq_false_of_ne_true fun hf => hfile (FileTree.leadsToFile_iff.2 (.inl hf)), hkeeps⟩
  | unreadable he hs hr => exact keepsInput_of_ended hlaunch he
  | uncleared he hs hr hk hno hw => exact hno (keepsInput_of_ended hlaunch he).leadsToFile
  | good he hs hr hi hw =>
    refine ⟨hw.isFile_eq_false List.mem_cons_self, fun hk => ?_, fun hk => ?_⟩
    · rw [hk] at hw
      exact hw.isFile_eq_false (List.mem_cons_of_mem _ List.mem_cons_self)
    · rw [hk] at hw
      exact (keepsInput_of_ended hlaunch he).without hw

end ScriptBundle.Compiler
