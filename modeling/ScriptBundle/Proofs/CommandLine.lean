import ScriptBundle.CommandLine.Run
import ScriptBundle.Proofs.Bundle
import ScriptBundle.Proofs.Compiler
import ScriptBundle.Proofs.Path

/-!
# Runs that fail

A run has two halves. The first one reads the command line and what it names, and checks the
configuration (`checked`); it only reads, and knows no launcher. The second one (`produce`) builds the
bundle and writes it. It changes the compiler's two files, which lie beside the output under other
names, and the output itself in its last step that can fail. So a run that fails leaves the output as
it was, and one that fails in the first half leaves everything (`failed_run_keeps_output`).
-/

namespace ScriptBundle

open ScriptBundle.Action (KeepsFiles)

theorem Config.keepsFiles_applyPackage (c : Config) (p : Path) : KeepsFiles (c.applyPackage p) := by
  unfold applyPackage
  refine .bind (.readText p) fun text => .bind (.ofExcept _ _) fun webModule => ?_
  refine .bind (.report _ _ _) fun _ => .bind .files fun t => .bind (.ofExcept _ _) fun sources => ?_
  exact .pure _

namespace CommandLine

theorem keepsFiles_textOf (given : Option String) : KeepsFiles (textOf given) := by
  cases given with
  | none => exact .pure ""
  | some path => exact .readText ⟨path⟩

theorem keepsFiles_config (env : Environment) (a : Arguments) : KeepsFiles (config env a) := by
  unfold config
  cases strayArgument? a.labels with
  | some text => exact fun _ => rfl
  | none =>
    refine .bind .files fun t => .bind (.ofExcept _ _) fun sources => ?_
    refine .bind (keepsFiles_textOf _) fun header => .bind (keepsFiles_textOf _) fun footer => ?_
    dsimp only
    split
    · exact Config.keepsFiles_applyPackage _ _
    · exact .pure _

/-- The configuration that a command line describes, checked: all that is done before the build. -/
def checked (env : Environment) (a : Arguments) : Action Config := do
  let c ← config env a
  Action.ofExcept id (c.validate (← Action.files))
  return c

theorem keepsFiles_checked (env : Environment) (a : Arguments) : KeepsFiles (checked env a) :=
  .bind (keepsFiles_config env a) fun c =>
    .bind .files fun _ => .bind (.ofExcept _ _) fun _ => .pure c

/-- Builds the bundle of a checked configuration, and writes it. -/
def produce (launch : Launcher) (c : Config) : Action Unit := do
  let js ← Bundle.build launch c
  match c.output with
  | none => throw .noOutput
  | some output =>
    Action.writeText output js
    Action.report .info .commandLine s!"Wrote {output}"

theorem run_eq (launch : Launcher) (env : Environment) (a : Arguments) :
    run launch env a = checked env a >>= produce launch := by
  simp only [run, checked, bind_assoc, pure_bind]
  rfl

/-- A checked configuration names an output. -/
theorem exists_output {env : Environment} {a : Arguments} {c : Config} {w w' : Workspace}
    (h : (checked env a).run w = (.ok c, w')) : ∃ output, c.output = some output := by
  obtain ⟨c', w₁, -, h⟩ := Action.run_bind_eq_ok h
  obtain ⟨t, w₂, -, h⟩ := Action.run_bind_eq_ok h
  obtain ⟨_, w₃, hv, hc⟩ := Action.run_bind_eq_ok h
  rw [Action.run_pure] at hc
  cases hc
  rw [Action.run_ofExcept] at hv
  cases ho : c.output with
  | some output => exact ⟨output, rfl⟩
  | none =>
    have hinvalid : ∃ e, c.validate t = .error e := by
      unfold Config.validate
      rw [ho]
      split
      · exact ⟨_, rfl⟩
      · exact ⟨_, rfl⟩
    obtain ⟨e, he⟩ := hinvalid
    rw [he] at hv
    cases hv

end CommandLine

/-- The output leads to no other name in the work directory. -/
theorem Config.keyOf_output_ne {c : Config} {output : Path} {name : String} (start : Key)
    (h : c.output = some output) (hname : output.fileName? ≠ some name) (hup : name ≠ "..") :
    FileTree.keyOf start output ≠ FileTree.keyOf start c.workDir ++ [name] := by
  have hhere : FileTree.keyOf start ⟨"."⟩ = start := rfl
  unfold workDir
  rw [h, Option.bind_some]
  cases hp : output.parent? with
  | none =>
    dsimp only
    rw [FileTree.keyOf_of_parent?_none start hp, hhere]
    intro he
    split at he
    · exact absurd (congrArg List.length he) (by simp)
    · exact absurd (congrArg List.length he) (by simp)
  | some parent =>
    have hne := FileTree.keyOf_ne_of_parent? start hp hname hup
    dsimp only
    split
    · next hempty =>
      obtain ⟨spelling⟩ := parent
      cases hempty
      exact hne
    · exact hne

theorem Compiler.avoids_output {c : Config} {output : Path} (h : c.output = some output)
    (hinput : output.fileName? ≠ some inputName) (houtput : output.fileName? ≠ some outputName) :
    Avoids c output := by
  intro start
  rw [keyOf_inputFile, keyOf_outputFile]
  exact ⟨c.keyOf_output_ne start h hinput (by decide), c.keyOf_output_ne start h houtput (by decide)⟩

namespace CommandLine

/-- With the compiler, a build ends as the compiler's run does. -/
theorem exit_build (launch : Launcher) {c : Config} (hc : c.compile = true) (w : Workspace) :
    ∃ js, Compiler.Exit launch c js w.files ((Bundle.build launch c).run w).1
      ((Bundle.build launch c).run w).2.files := by
  obtain ⟨log, hrun⟩ := Bundle.run_build_eq launch c w
  refine ⟨strip c.labels.toList (String.join (Bundle.texts w.files c)), ?_⟩
  obtain ⟨log', hminify⟩ := Compiler.run_minify launch c
    (strip c.labels.toList (String.join (Bundle.texts w.files c))) { w with log }
  rw [hrun, hc, if_pos rfl, hminify]
  exact Compiler.exit_compiled launch c _ w.files

/-- A build that fails has failed in the compiler; else the files are those of the compiler's good
run, or unchanged. -/
theorem build_cases (launch : Launcher) (c : Config) (w : Workspace) :
    ∃ js, Compiler.Exit launch c js w.files ((Bundle.build launch c).run w).1
          ((Bundle.build launch c).run w).2.files ∨
      ((Bundle.build launch c).run w).1 = .ok js ∧
        ((Bundle.build launch c).run w).2.files = w.files := by
  cases hc : c.compile with
  | false =>
    obtain ⟨log, hrun⟩ := Bundle.run_build launch hc w
    rw [hrun]
    exact ⟨_, .inr ⟨rfl, rfl⟩⟩
  | true =>
    obtain ⟨js, hexit⟩ := exit_build launch hc w
    exact ⟨js, .inl hexit⟩

/-- Producing a bundle fails in the compiler, or in writing the output after a build. -/
theorem produce_error {launch : Launcher} {c : Config} {output : Path} {e : Error} {w w' : Workspace}
    (hout : c.output = some output) (h : (produce launch c).run w = (.error e, w')) :
    (∃ js, Compiler.Exit launch c js w.files (.error e) w'.files) ∨
      (∃ cause, e = .write output cause) ∧
        (w'.files = w.files ∨ ∃ js text, Compiler.Exit launch c js w.files (.ok text) w'.files) := by
  obtain ⟨js, hbuild⟩ := build_cases launch c w
  unfold produce at h
  rw [hout] at h
  cases hr : (Bundle.build launch c).run w with
  | mk result w₁ =>
    rw [hr] at hbuild
    cases result with
    | error e' =>
      rw [Action.run_bind_error hr] at h
      cases h
      rcases hbuild with hexit | ⟨hok, -⟩
      · exact .inl ⟨js, hexit⟩
      · cases hok
    | ok text =>
      rw [Action.run_bind_ok hr] at h
      have hwrite := Action.run_writeText (w := w₁) output text
      cases hw : w₁.files.writeText output text with
      | ok t =>
        rw [hw] at hwrite
        rw [Action.run_bind_ok hwrite, Action.run_report] at h
        cases h
      | error cause =>
        rw [hw] at hwrite
        rw [Action.run_bind_error hwrite] at h
        cases h
        refine .inr ⟨⟨cause, rfl⟩, ?_⟩
        rcases hbuild with hexit | ⟨-, hfiles⟩
        · exact .inr ⟨js, text, hexit⟩
        · exact .inl hfiles

theorem run_of_checked_error {launch : Launcher} {env : Environment} {a : Arguments} {e : Error}
    {w w' : Workspace} (h : (checked env a).run w = (.error e, w')) :
    (run launch env a).run w = (.error e, w') := by
  rw [run_eq, Action.run_bind_error h]

theorem run_of_checked_ok {launch : Launcher} {env : Environment} {a : Arguments} {c : Config}
    {w w' : Workspace} (h : (checked env a).run w = (.ok c, w')) :
    (run launch env a).run w = (produce launch c).run w' := by
  rw [run_eq, Action.run_bind_ok h]

end CommandLine

/-- Whether an error can only come from a command line, from what it names, or from the checks. -/
def Error.isOfChecks : Error → Bool
  | .noSources | .noOutput | .sourceNotFound _ | .unknownArgument _ | .manifest .. | .pattern .. =>
    true
  | .read .. | .write .. | .launch .. | .compilerFailed .. | .cleanup _ => false

theorem Compiler.Exit.not_isOfChecks {launch : Launcher} {c : Config} {js : String}
    {t after : FileTree} {e : Error} (h : Exit launch c js t (.error e) after) :
    e.isOfChecks = false := by
  cases h <;> rfl

namespace CommandLine

variable {launch : Launcher} {env : Environment} {a : Arguments} {line : List String}
variable {files : FileTree}

/-- If a command line cannot be read or its configuration does not pass the checks, then nothing
changes, and nothing depends on the launcher. -/
theorem outcome_of_not_checked
    (h : ∀ a, Arguments.parse line = .ok a → ∀ c, ((checked env a).run { files }).1 ≠ .ok c) :
    (outcome launch env line files).files = files ∧
      ∀ launch', outcome launch' env line files = outcome launch env line files := by
  unfold outcome
  cases hp : Arguments.parse line with
  | error usage => cases usage <;> exact ⟨rfl, fun _ => rfl⟩
  | ok a =>
    have hkeep := keepsFiles_checked env a { files }
    cases hr : (checked env a).run { files } with
    | mk result w =>
      cases result with
      | ok c => exact absurd (by rw [hr]) (h a hp c)
      | error e =>
        rw [hr] at hkeep
        have hrun : ∀ launch, (run launch env a).run { files } = (.error e, w) :=
          fun launch => run_of_checked_error hr
        refine ⟨?_, fun launch' => ?_⟩
        · dsimp only
          rw [hrun launch]
          exact hkeep
        · dsimp only
          rw [hrun launch, hrun launch']

/-- An error of the kinds that checks give is one of the checks. -/
theorem checked_of_isOfChecks {e : Error} (he : e.isOfChecks = true)
    (h : ((run launch env a).run { files }).1 = .error e) :
    ((checked env a).run { files }).1 = .error e := by
  cases hr : (checked env a).run { files } with
  | mk result w =>
    cases result with
    | error e' =>
      rw [run_of_checked_error hr] at h
      cases h
      rfl
    | ok c =>
      obtain ⟨output, hout⟩ := exists_output hr
      rw [run_of_checked_ok hr] at h
      have hproduce : (produce launch c).run w = (.error e, ((produce launch c).run w).2) :=
        Prod.ext h rfl
      rcases produce_error hout hproduce with ⟨js, hexit⟩ | ⟨⟨cause, rfl⟩, -⟩
      · rw [hexit.not_isOfChecks] at he
        cases he
      · cases he

/-- A bundle that is not produced leaves what the output path leads to. -/
theorem find_output_of_error {c : Config} {output : Path} {e : Error} {w w' : Workspace}
    (hout : c.output = some output) (hq : Compiler.Avoids c output)
    (hkeep : ∀ t program arguments finished, launch t program arguments = .ok finished →
      ∀ node, finished.files.find output = .ok node ↔ t.find output = .ok node)
    (h : (produce launch c).run w = (.error e, w')) (node : Node) :
    w'.files.find output = .ok node ↔ w.files.find output = .ok node := by
  rcases produce_error hout h with ⟨js, hexit⟩ | ⟨-, hfiles | ⟨js, text, hexit⟩⟩
  · exact hexit.find_eq_ok_iff hq hkeep
  · rw [hfiles]
  · exact hexit.find_eq_ok_iff hq hkeep

/-- The program leaves the files of its run, and its code says whether that failed. -/
theorem outcome_of_parse (launch : Launcher) (env : Environment) (files : FileTree)
    (hp : Arguments.parse line = .ok a) :
    (outcome launch env line files).files = ((run launch env a).run { files }).2.files ∧
      ((outcome launch env line files).code ≠ 0 →
        ∃ e, ((run launch env a).run { files }).1 = .error e) := by
  unfold outcome
  rw [hp]
  dsimp only
  cases (run launch env a).run { files } with
  | mk result w =>
    cases result with
    | ok u => exact ⟨rfl, fun h => absurd rfl h⟩
    | error e => exact ⟨rfl, fun _ => ⟨e, rfl⟩⟩

/-- A run that fails leaves what its output path leads to, if the process lets it be and the output
is not named like one of the compiler's files. A run that fails before the build leaves everything,
and starts no process: it is the same whatever the launcher. -/
theorem failed_run_keeps_output (launch : Launcher) (env : Environment) (line : List String)
    (files : FileTree) :
    ((∀ a, Arguments.parse line = .ok a → ∀ c, ((checked env a).run { files }).1 ≠ .ok c) →
      (outcome launch env line files).files = files ∧
        ∀ launch', outcome launch' env line files = outcome launch env line files) ∧
    ∀ a, Arguments.parse line = .ok a →
      (∀ e, ((run launch env a).run { files }).1 = .error e → e.isOfChecks = true →
        ∀ c, ((checked env a).run { files }).1 ≠ .ok c) ∧
      ∀ c output, ((checked env a).run { files }).1 = .ok c → c.output = some output →
        output.fileName? ≠ some Compiler.inputName → output.fileName? ≠ some Compiler.outputName →
        (∀ t program arguments finished, launch t program arguments = .ok finished →
          ∀ node, finished.files.find output = .ok node ↔ t.find output = .ok node) →
        (outcome launch env line files).code ≠ 0 →
        ∀ node, (outcome launch env line files).files.find output = .ok node ↔
          files.find output = .ok node := by
  refine ⟨outcome_of_not_checked, fun a hp => ⟨?_, ?_⟩⟩
  · intro e hrun he c hc
    rw [checked_of_isOfChecks he hrun] at hc
    cases hc
  · intro c output hc hout hinput houtput hkeep hfail node
    have hfiles := keepsFiles_checked env a { files }
    obtain ⟨hafter, herror⟩ := outcome_of_parse launch env files hp
    obtain ⟨e, he⟩ := herror hfail
    cases hr : (checked env a).run { files } with
    | mk result w =>
      rw [hr] at hc hfiles
      cases hc
      rw [run_of_checked_ok hr] at hafter he
      have hproduce : (produce launch c).run w = (.error e, ((produce launch c).run w).2) :=
        Prod.ext he rfl
      have hfind := find_output_of_error hout (Compiler.avoids_output hout hinput houtput) hkeep
        hproduce node
      rw [show w.files = files from hfiles] at hfind
      rwa [hafter]

/-- Without sources nothing happens; a compiler that fails, and leaves something for a result, leaves
an older bundle as it was. -/
theorem failed_run_keeps_output_older :
    ∃ (launch : Launcher) (files : FileTree) (idle failing : Arguments) (c : Config) (output : Path),
      (launch = fun t _ _ =>
        .ok ⟨.exited 1, [], (t.write ⟨"rel/.Minify.output.js"⟩ [122]).toOption.getD t⟩) ∧
      files =
        { start := ["work"]
          entries := [(["work"], .directory Mode.directory),
            (["work", "a.js"], .file [120] Mode.file), (["work", "rel"], .directory Mode.directory),
            (["work", "rel", "out.js"], .file [121] Mode.file)] } ∧
      Arguments.parse ["--output", "rel/out.js"] = .ok idle ∧
      ((run launch [] idle).run { files }).1 = .error .noSources ∧
      (outcome launch [] ["--output", "rel/out.js"] files).files = files ∧
      (∀ launch', outcome launch' [] ["--output", "rel/out.js"] files =
        outcome launch [] ["--output", "rel/out.js"] files) ∧
      Arguments.parse ["--source", "a.js", "--output", "rel/out.js"] = .ok failing ∧
      ((checked [] failing).run { files }).1 = .ok c ∧ c.output = some output ∧
      output.fileName? ≠ some Compiler.inputName ∧ output.fileName? ≠ some Compiler.outputName ∧
      (∀ t program arguments finished, launch t program arguments = .ok finished →
        ∀ node, finished.files.find output = .ok node ↔ t.find output = .ok node) ∧
      (outcome launch [] ["--source", "a.js", "--output", "rel/out.js"] files).code ≠ 0 ∧
      ∀ node, (outcome launch [] ["--source", "a.js", "--output", "rel/out.js"] files).files.find
        output = .ok node ↔ files.find output = .ok node := by
  obtain ⟨files, hfiles⟩ : ∃ files : FileTree, files =
      { start := ["work"]
        entries := [(["work"], .directory Mode.directory),
          (["work", "a.js"], .file [120] Mode.file), (["work", "rel"], .directory Mode.directory),
          (["work", "rel", "out.js"], .file [121] Mode.file)] } := ⟨_, rfl⟩
  obtain ⟨launch, hlaunch⟩ : ∃ launch : Launcher, launch = fun t _ _ =>
      .ok ⟨.exited 1, [], (t.write ⟨"rel/.Minify.output.js"⟩ [122]).toOption.getD t⟩ := ⟨_, rfl⟩
  have hidle : Arguments.parse ["--output", "rel/out.js"] = .ok { output := some "rel/out.js" } :=
    eq_ok_of_toOption (by decide +kernel)
  have hnone : ((run launch [] { output := some "rel/out.js" }).run { files }).1 =
      .error .noSources := by
    rw [hfiles]
    rfl
  have hfailing : Arguments.parse ["--source", "a.js", "--output", "rel/out.js"] =
      .ok { sources := ["a.js"], output := some "rel/out.js" } :=
    eq_ok_of_toOption (by decide +kernel)
  have hchecked : ((checked [] { sources := ["a.js"], output := some "rel/out.js" }).run
      { files }).1 = .ok { sources := [⟨"a.js"⟩], output := some ⟨"rel/out.js"⟩ } := by
    refine eq_ok_of_toOption ?_
    rw [hfiles]
    decide +kernel
  have hinput : (Path.mk "rel/out.js").fileName? ≠ some Compiler.inputName := by decide +kernel
  have houtput : (Path.mk "rel/out.js").fileName? ≠ some Compiler.outputName := by decide +kernel
  have hkeep : ∀ t program arguments finished, launch t program arguments = .ok finished →
      ∀ node, finished.files.find ⟨"rel/out.js"⟩ = .ok node ↔
        t.find ⟨"rel/out.js"⟩ = .ok node := by
    intro t program arguments finished h node
    rw [hlaunch] at h
    cases h
    cases hw : t.write ⟨"rel/.Minify.output.js"⟩ [122] with
    | error cause => exact Iff.rfl
    | ok t' =>
      refine (FileTree.isWith_write hw).find_eq_ok_iff fun key => ?_
      refine FileTree.locate_ne_of_keyOf_ne ?_
      change (t.start ++ ["rel"]) ++ ["out.js"] ≠ (t.start ++ ["rel"]) ++ [".Minify.output.js"]
      exact fun he => absurd (List.append_cancel_left he) (by decide)
  have hcode : (outcome launch [] ["--source", "a.js", "--output", "rel/out.js"] files).code ≠ 0 := by
    rw [hlaunch, hfiles]
    decide +kernel
  have hunchecked := ((failed_run_keeps_output launch [] ["--output", "rel/out.js"] files).2
    _ hidle).1 .noSources hnone rfl
  have hunchanged := (failed_run_keeps_output launch [] ["--output", "rel/out.js"] files).1
    fun a ha c => by
      rw [hidle] at ha
      cases ha
      exact hunchecked c
  exact ⟨launch, files, _, _, _, _, hlaunch, hfiles, hidle, hnone, hunchanged.1, hunchanged.2,
    hfailing, hchecked, rfl, hinput, houtput, hkeep, hcode,
    ((failed_run_keeps_output launch [] ["--source", "a.js", "--output", "rel/out.js"] files).2
      _ hfailing).2 _ _ hchecked rfl hinput houtput hkeep hcode⟩

end CommandLine
end ScriptBundle
