import ScriptBundle.Compiler.Run
import ScriptBundle.Proofs.Files.Change
import ScriptBundle.Proofs.Workspace

/-!
# The files of the compiler

A run of the compiler ends in one of six ways, and each leaves other files: the text could not be
written, the compiler could not be started, it failed, its result could not be read, a file could not
be removed, or all went well. What a run comes to is a function of the file tree (`compiled`), and
what it does to the tree is read off that function (`minify_life_cycle`).

Nothing is assumed of the process. It may change directories too, so the paths of the two files are
followed anew in the tree that it left. They lead to different keys there, because their names differ,
and removing the one does not change where the other leads. Nor need they lead to regular files: a device
can be removed too, and does not have to hold what is written to it (`life_cycle_on_devices`).
-/

namespace ScriptBundle.Compiler

variable {launch : Launcher} {c : Config} {js : String} {t t' : FileTree} {finished : Finished}

/-- What a process that ended comes to, and the tree after its files are cleared away. -/
def concluded (c : Config) (finished : Finished) : Except Error String × FileTree :=
  if succeeded finished then
    match finished.files.readText (outputFile c) with
    | .error cause => (.error (.read (outputFile c) cause), finished.files)
    | .ok minified =>
      match finished.files.remove (outputFile c) with
      | .error cause => (.error (.cleanup cause), finished.files)
      | .ok t =>
        if c.keep then (.ok minified, t)
        else
          match t.remove (inputFile c) with
          | .error cause => (.error (.cleanup cause), t)
          | .ok t => (.ok minified, t)
  else
    (.error (.compilerFailed finished.status (String.ofList (Utf8.decodeLossy finished.stderr))),
      (finished.files.remove (outputFile c)).toOption.getD finished.files)

/-- What compiling a text comes to, and the tree that it leaves. -/
def compiled (launch : Launcher) (c : Config) (js : String) (t : FileTree) :
    Except Error String × FileTree :=
  match t.writeText (inputFile c) js with
  | .error cause => (.error (.write (inputFile c) cause), t)
  | .ok written =>
    match launch written c.launcher (arguments c) with
    | .error cause => (.error (.launch c.launcher cause), written)
    | .ok finished => concluded c finished

/-- What is done once the process has ended. -/
theorem run_concluded (c : Config) (finished : Finished) (log : List Record) :
    ∃ log', (if succeeded finished then do
        let minified ← Action.readText (outputFile c)
        Action.remove (outputFile c)
        unless c.keep do Action.remove (inputFile c)
        return minified
      else do
        Action.discard (outputFile c)
        Action.report .warn .compiler s!"Temporary input kept at {inputFile c}"
        throw (.compilerFailed finished.status (String.ofList (Utf8.decodeLossy finished.stderr))) :
          Action String).run ⟨finished.files, log⟩ =
      ((concluded c finished).1, ⟨(concluded c finished).2, log'⟩) := by
  unfold concluded
  cases hs : succeeded finished with
  | false =>
    rw [if_neg Bool.false_ne_true, if_neg Bool.false_ne_true,
      Action.run_bind_ok (Action.run_discard _), Action.run_bind_ok (Action.run_report _ _ _)]
    exact ⟨_, rfl⟩
  | true =>
    rw [if_pos rfl, if_pos rfl]
    have hread := Action.run_readText (w := ⟨finished.files, log⟩) (outputFile c)
    cases hr : finished.files.readText (outputFile c) with
    | error cause =>
      rw [hr] at hread
      exact ⟨log, Action.run_bind_error hread _⟩
    | ok minified =>
      rw [hr] at hread
      rw [Action.run_bind_ok hread]
      have hremove := Action.run_remove (w := ⟨finished.files, log⟩) (outputFile c)
      cases ho : finished.files.remove (outputFile c) with
      | error cause =>
        rw [ho] at hremove
        exact ⟨log, Action.run_bind_error hremove _⟩
      | ok t =>
        rw [ho] at hremove
        rw [Action.run_bind_ok hremove]
        cases hk : c.keep with
        | true => exact ⟨log, rfl⟩
        | false =>
          have hinput := Action.run_remove (w := ⟨t, log⟩) (inputFile c)
          refine ⟨log, ?_⟩
          change (Action.remove (inputFile c) >>= fun _ => pure minified).run ⟨t, log⟩ = _
          cases hi : t.remove (inputFile c) with
          | error cause =>
            rw [hi] at hinput
            rw [Action.run_bind_error hinput]
            simp [hi]
          | ok t' =>
            rw [hi] at hinput
            rw [Action.run_bind_ok hinput, Action.run_pure]
            simp [hi]

/-- Compiling does just that, and writes to the log. -/
theorem run_minify (launch : Launcher) (c : Config) (js : String) (w : Workspace) :
    ∃ log, (minify launch c js).run w =
      ((compiled launch c js w.files).1, ⟨(compiled launch c js w.files).2, log⟩) := by
  unfold minify compiled
  have hwrite := Action.run_writeText (w := w) (inputFile c) js
  cases hw : w.files.writeText (inputFile c) js with
  | error cause =>
    rw [hw] at hwrite
    exact ⟨w.log, Action.run_bind_error hwrite _⟩
  | ok written =>
    rw [hw] at hwrite
    rw [Action.run_bind_ok hwrite, Action.run_bind_ok (Action.run_report _ _ _),
      Action.run_bind_ok (Action.run_report _ _ _), Action.run_bind_ok Action.run_files]
    dsimp only
    cases hl : launch written c.launcher (arguments c) with
    | error cause => exact ⟨_, Action.run_bind_error (Action.run_ofExcept _ _) _⟩
    | ok finished =>
      rw [Action.run_bind_ok (Action.run_ofExcept _ _), Action.run_bind_ok (Action.run_setFiles _)]
      exact run_concluded c finished _

theorem spelling_workDir_ne (c : Config) : c.workDir.spelling ≠ "" := by
  unfold Config.workDir
  split
  · split
    · decide
    · assumption
  · decide

theorem keyOf_inputFile (start : Key) (c : Config) :
    FileTree.keyOf start (inputFile c) = FileTree.keyOf start c.workDir ++ [inputName] :=
  FileTree.keyOf_join c.workDir (spelling_workDir_ne c) (by decide) (by decide) (by decide)

theorem keyOf_outputFile (start : Key) (c : Config) :
    FileTree.keyOf start (outputFile c) = FileTree.keyOf start c.workDir ++ [outputName] :=
  FileTree.keyOf_join c.workDir (spelling_workDir_ne c) (by decide) (by decide) (by decide)

theorem wantsDirectory_inputFile (c : Config) : FileTree.wantsDirectory (inputFile c) = false :=
  FileTree.wantsDirectory_join_eq_false c.workDir (spelling_workDir_ne c)
    (show inputName.toList.getLast? = some 's' by decide) (by decide)

theorem wantsDirectory_outputFile (c : Config) : FileTree.wantsDirectory (outputFile c) = false :=
  FileTree.wantsDirectory_join_eq_false c.workDir (spelling_workDir_ne c)
    (show outputName.toList.getLast? = some 's' by decide) (by decide)

/-- The two files stand side by side. -/
theorem keyOf_outputFile_ne (start : Key) (c : Config) :
    FileTree.keyOf start (outputFile c) ≠ FileTree.keyOf start (inputFile c) := by
  rw [keyOf_outputFile, keyOf_inputFile]
  exact fun he => absurd (List.append_cancel_left he) (by decide)

theorem locate_inputFile_ne {key : Key} (h : t.locate (outputFile c) = .ok key) :
    t.locate (inputFile c) ≠ .ok key :=
  FileTree.locate_ne_of_keyOf_ne (keyOf_outputFile_ne t.start c) h

/-- The text could be written, and a process was started and has ended. -/
def Ended (launch : Launcher) (c : Config) (js : String) (t : FileTree) (finished : Finished) : Prop :=
  ∃ written, t.writeText (inputFile c) js = .ok written ∧
    launch written c.launcher (arguments c) = .ok finished

theorem Ended.unique {finished' : Finished} (h : Ended launch c js t finished)
    (h' : Ended launch c js t finished') : finished = finished' := by
  obtain ⟨written, hw, hl⟩ := h
  obtain ⟨written', hw', hl'⟩ := h'
  rw [hw] at hw'
  cases hw'
  rw [hl] at hl'
  exact Except.ok.inj hl'

/-- The ways in which compiling ends, and the tree that each of them leaves. -/
inductive Exit (launch : Launcher) (c : Config) (js : String) (t : FileTree) :
    Except Error String → FileTree → Prop where
  | notWritten {cause : FileError} : t.writeText (inputFile c) js = .error cause →
      Exit launch c js t (.error (.write (inputFile c) cause)) t
  | notLaunched {written : FileTree} {cause : FileError} :
      t.writeText (inputFile c) js = .ok written →
      launch written c.launcher (arguments c) = .error cause →
      Exit launch c js t (.error (.launch c.launcher cause)) written
  | failed {finished : Finished} {after : FileTree} : Ended launch c js t finished →
      succeeded finished = false →
      (finished.files.LeadsToFile (outputFile c) → after.IsWithout finished.files [outputFile c]) →
      (¬finished.files.LeadsToFile (outputFile c) → after = finished.files) →
      Exit launch c js t (.error (.compilerFailed finished.status
        (String.ofList (Utf8.decodeLossy finished.stderr)))) after
  | unreadable {finished : Finished} {cause : FileError} : Ended launch c js t finished →
      succeeded finished = true → finished.files.readText (outputFile c) = .error cause →
      Exit launch c js t (.error (.read (outputFile c) cause)) finished.files
  | uncleared {finished : Finished} {after : FileTree} {minified : String} {cause : FileError} :
      Ended launch c js t finished → succeeded finished = true →
      finished.files.readText (outputFile c) = .ok minified → c.keep = false →
      ¬finished.files.LeadsToFile (inputFile c) →
      after.IsWithout finished.files [outputFile c] →
      Exit launch c js t (.error (.cleanup cause)) after
  | good {finished : Finished} {after : FileTree} {minified : String} :
      Ended launch c js t finished → succeeded finished = true →
      finished.files.readText (outputFile c) = .ok minified →
      (c.keep = true ∨ finished.files.LeadsToFile (inputFile c)) →
      after.IsWithout finished.files (outputFile c :: if c.keep then [] else [inputFile c]) →
      Exit launch c js t (.ok minified) after

/-- Taking away the result leaves the input as it was. -/
theorem find_inputFile {after : FileTree} {node : Node} (h : after.IsWithout t [outputFile c]) :
    after.find (inputFile c) = .ok node ↔ t.find (inputFile c) = .ok node := by
  refine h.find_eq_ok_iff fun key hi p hp => ?_
  rw [List.mem_singleton.1 hp]
  exact fun ho => locate_inputFile_ne ho hi

/-- A path that leads to neither of the two files, wherever it starts. -/
def Avoids (c : Config) (q : Path) : Prop :=
  ∀ start, FileTree.keyOf start q ≠ FileTree.keyOf start (inputFile c) ∧
    FileTree.keyOf start q ≠ FileTree.keyOf start (outputFile c)

theorem Avoids.locate_ne {q p : Path} {key : Key} (h : Avoids c q) (hq : t.locate q = .ok key)
    (hp : p = inputFile c ∨ p = outputFile c) : t.locate p ≠ .ok key := by
  rcases hp with rfl | rfl
  · exact FileTree.locate_ne_of_keyOf_ne (h t.start).1 hq
  · exact FileTree.locate_ne_of_keyOf_ne (h t.start).2 hq

theorem exit_concluded (he : Ended launch c js t finished) :
    Exit launch c js t (concluded c finished).1 (concluded c finished).2 := by
  unfold concluded
  cases hs : succeeded finished with
  | false =>
    rw [if_neg Bool.false_ne_true]
    refine .failed he hs ?_ ?_
    · intro ho
      obtain ⟨after, hafter⟩ := ho.remove
      rw [hafter]
      exact FileTree.isWithout_remove hafter
    · intro ho
      cases hr : finished.files.remove (outputFile c) with
      | ok after =>
        obtain ⟨-, -, hfile, -⟩ := FileTree.remove_eq_ok_iff.1 hr
        exact absurd hfile ho
      | error cause => rfl
  | true =>
    rw [if_pos rfl]
    cases hr : finished.files.readText (outputFile c) with
    | error cause => exact .unreadable he hs hr
    | ok minified =>
      obtain ⟨cleared, ho⟩ := (FileTree.leadsToFile_of_readText hr).remove
      have hwithout := FileTree.isWithout_remove ho
      have hinput : cleared.LeadsToFile (inputFile c) ↔ finished.files.LeadsToFile (inputFile c) :=
        exists_congr fun node => and_congr_left fun _ => find_inputFile hwithout
      rw [ho]
      cases hk : c.keep with
      | true => exact .good he hs hr (.inl hk) (by rwa [hk, if_pos rfl])
      | false =>
        dsimp only
        rw [if_neg Bool.false_ne_true]
        cases hi : cleared.remove (inputFile c) with
        | error cause =>
          refine .uncleared he hs hr hk (fun hfile => ?_) hwithout
          obtain ⟨after, hafter⟩ := (hinput.2 hfile).remove
          rw [hi] at hafter
          cases hafter
        | ok after =>
          obtain ⟨-, -, hfile, -⟩ := FileTree.remove_eq_ok_iff.1 hi
          refine .good he hs hr (.inr (hinput.1 hfile)) ?_
          rw [hk, if_neg Bool.false_ne_true]
          exact hwithout.trans (FileTree.isWithout_remove hi)

theorem exit_compiled (launch : Launcher) (c : Config) (js : String) (t : FileTree) :
    Exit launch c js t (compiled launch c js t).1 (compiled launch c js t).2 := by
  unfold compiled
  cases hw : t.writeText (inputFile c) js with
  | error cause => exact .notWritten hw
  | ok written =>
    dsimp only
    cases hl : launch written c.launcher (arguments c) with
    | error cause => exact .notLaunched hw hl
    | ok finished => exact exit_concluded ⟨written, hw, hl⟩

namespace Exit

variable {result : Except Error String} {after : FileTree}

/-- There is a result just when every step could be done. -/
theorem eq_ok_iff {text : String} (h : Exit launch c js t result after) : result = .ok text ↔
    ∃ finished, Ended launch c js t finished ∧ succeeded finished = true ∧
      finished.files.readText (outputFile c) = .ok text ∧
      (c.keep = true ∨ finished.files.LeadsToFile (inputFile c)) := by
  constructor
  · rintro rfl
    cases h with
    | good he hs hr hi _ => exact ⟨_, he, hs, hr, hi⟩
  · rintro ⟨finished, he, hs, hr, hi⟩
    cases h with
    | notWritten hw =>
      obtain ⟨written, hw', -⟩ := he
      rw [hw] at hw'
      cases hw'
    | notLaunched hw hl =>
      obtain ⟨written, hw', hl'⟩ := he
      rw [hw] at hw'
      cases hw'
      rw [hl] at hl'
      cases hl'
    | failed he' hs' _ _ =>
      rw [he'.unique he, hs] at hs'
      cases hs'
    | unreadable he' _ hr' =>
      rw [he'.unique he, hr] at hr'
      cases hr'
    | uncleared he' _ _ hk hno _ =>
      rw [he'.unique he] at hno
      rw [hk] at hi
      exact absurd (hi.resolve_left Bool.false_ne_true) hno
    | good he' _ hr' _ _ =>
      rw [he'.unique he, hr] at hr'
      cases hr'
      rfl

/-- What a path that avoids the two files leads to stays, if the process lets it be. -/
theorem find_eq_ok_iff {q : Path} {node : Node} (h : Exit launch c js t result after)
    (hq : Avoids c q)
    (hkeep : ∀ t program arguments finished, launch t program arguments = .ok finished →
      ∀ node, finished.files.find q = .ok node ↔ t.find q = .ok node) :
    after.find q = .ok node ↔ t.find q = .ok node := by
  have hwrite : ∀ written, t.writeText (inputFile c) js = .ok written →
      (written.find q = .ok node ↔ t.find q = .ok node) := fun written hw =>
    (FileTree.isWith_write hw).find_eq_ok_iff fun key hl => hq.locate_ne hl (.inl rfl)
  have hended : ∀ finished, Ended launch c js t finished →
      (finished.files.find q = .ok node ↔ t.find q = .ok node) := by
    rintro finished ⟨written, hw, hl⟩
    exact (hkeep _ _ _ _ hl node).trans (hwrite written hw)
  have hwithout : ∀ (t : FileTree) (paths : List Path), after.IsWithout t paths →
      (∀ p ∈ paths, p = inputFile c ∨ p = outputFile c) →
        (after.find q = .ok node ↔ t.find q = .ok node) := fun t paths hw hpaths =>
    hw.find_eq_ok_iff fun key hl p hp => hq.locate_ne hl (hpaths p hp)
  cases h with
  | notWritten hw => exact Iff.rfl
  | notLaunched hw hl => exact hwrite _ hw
  | @failed finished _ he hs ho hno =>
    refine Iff.trans ?_ (hended finished he)
    rcases Classical.em (finished.files.LeadsToFile (outputFile c)) with hfile | hfile
    · exact hwithout _ _ (ho hfile) (by simp)
    · rw [hno hfile]
  | unreadable he hs hr => exact hended _ he
  | uncleared he hs hr hk hno hw => exact (hwithout _ _ hw (by simp)).trans (hended _ he)
  | good he hs hr hi hw =>
    refine (hwithout _ _ hw ?_).trans (hended _ he)
    cases c.keep <;> simp

end Exit

/-- The life of the compiler's files, whatever the process does. There is a result just when the text
could be written, the process was started and ended well without a word, its result can be read, and
its input can be removed or is to be kept. Each way to end leaves the files of the process, or the
files before it, with a definite change. -/
theorem minify_life_cycle (launch : Launcher) (c : Config) (js : String) (w : Workspace) :
    (∀ text, ((minify launch c js).run w).1 = .ok text ↔
      ∃ written finished, w.files.writeText (inputFile c) js = .ok written ∧
        launch written c.launcher (arguments c) = .ok finished ∧
        finished.status.success = true ∧ allBlank (Utf8.decodeLossy finished.stderr) = true ∧
        finished.files.readText (outputFile c) = .ok text ∧
        (c.keep = true ∨ finished.files.LeadsToFile (inputFile c))) ∧
      match (minify launch c js).run w with
      | (.ok _, after) => ∃ finished, Ended launch c js w.files finished ∧
          after.files.IsWithout finished.files
            (outputFile c :: if c.keep then [] else [inputFile c])
      | (.error (.write p cause), after) =>
          p = inputFile c ∧ w.files.writeText p js = .error cause ∧ after.files = w.files
      | (.error (.launch program cause), after) =>
          w.files.writeText (inputFile c) js = .ok after.files ∧ program = c.launcher ∧
            launch after.files program (arguments c) = .error cause ∧
            after.files.IsWith w.files (inputFile c) (Utf8.encode js.toList)
      | (.error (.compilerFailed status stderr), after) =>
          ∃ finished, Ended launch c js w.files finished ∧ status = finished.status ∧
            stderr.toList = Utf8.decodeLossy finished.stderr ∧
            (finished.files.LeadsToFile (outputFile c) →
              after.files.IsWithout finished.files [outputFile c]) ∧
            (¬finished.files.LeadsToFile (outputFile c) → after.files = finished.files) ∧
            ∀ node, after.files.find (inputFile c) = .ok node ↔
              finished.files.find (inputFile c) = .ok node
      | (.error (.read p cause), after) =>
          ∃ finished, Ended launch c js w.files finished ∧ p = outputFile c ∧
            finished.files.readText p = .error cause ∧ after.files = finished.files
      | (.error (.cleanup _), after) =>
          ∃ finished, Ended launch c js w.files finished ∧ c.keep = false ∧
            ¬finished.files.LeadsToFile (inputFile c) ∧
            after.files.IsWithout finished.files [outputFile c]
      | (.error _, _) => False := by
  obtain ⟨log, hrun⟩ := run_minify launch c js w
  have hexit := exit_compiled launch c js w.files
  rw [hrun]
  generalize (compiled launch c js w.files).1 = result at hexit ⊢
  generalize (compiled launch c js w.files).2 = after at hexit ⊢
  constructor
  · intro text
    rw [hexit.eq_ok_iff]
    constructor
    · rintro ⟨finished, ⟨written, hw, hl⟩, hs, hr, hi⟩
      obtain ⟨hstatus, hblank⟩ := Bool.and_eq_true_iff.1 hs
      exact ⟨written, finished, hw, hl, hstatus, hblank, hr, hi⟩
    · rintro ⟨written, finished, hw, hl, hstatus, hblank, hr, hi⟩
      exact ⟨finished, ⟨written, hw, hl⟩, Bool.and_eq_true_iff.2 ⟨hstatus, hblank⟩, hr, hi⟩
  · cases hexit with
    | notWritten hw => exact ⟨rfl, hw, rfl⟩
    | notLaunched hw hl => exact ⟨hw, rfl, hl, FileTree.isWith_write hw⟩
    | failed he hs ho hno =>
      refine ⟨_, he, rfl, String.toList_ofList, ho, hno, fun node => ?_⟩
      rcases Classical.em (FileTree.LeadsToFile _ (outputFile c)) with hfile | hfile
      · exact find_inputFile (ho hfile)
      · exact iff_of_eq (by rw [hno hfile])
    | unreadable he hs hr => exact ⟨_, he, rfl, hr, rfl⟩
    | uncleared he hs hr hk hno hwithout => exact ⟨_, he, hk, hno, hwithout⟩
    | good he hs hr hi hwithout => exact ⟨_, he, hwithout⟩

/-- A directory to work in, then with the compiler's input in it. -/
def workTree : FileTree := { start := ["work"], entries := [(["work"], .directory Mode.directory)] }

def inputTree : FileTree :=
  workTree.insert ["work", inputName] (.file (Utf8.encode "a();".toList) Mode.file)

/-- The configuration of a build into that directory. -/
def workConfig : Config := { output := some ⟨"out.js"⟩ }

/-- A device that drops what it is given, in the place of one of the two files. -/
def dropping (t : FileTree) (name : String) : FileTree :=
  t.insert ["work", name] (.device .null [])

/-- A process that leaves a tree and ends with a code. -/
def ending (code : Nat) (left : FileTree) : Launcher := fun _ _ _ => .ok ⟨.exited code, [], left⟩

/-- What a good process leaves that puts a device in the place of its input. -/
def swappedTree : FileTree :=
  (dropping workTree inputName).insert ["work", outputName]
    (.file (Utf8.encode "min();".toList) Mode.file)

theorem ended_ending (code : Nat) (left : FileTree) :
    Ended (ending code left) workConfig "a();" workTree ⟨.exited code, [], left⟩ :=
  ⟨inputTree, eq_ok_of_toOption (by decide +kernel), rfl⟩

/-- With a device in the place of a file, the life of the files is not that of regular ones. There is a
result though the input is no regular file any more, a failed run takes a result away that is none, and
an input that could be written does not hold the text. -/
theorem life_cycle_on_devices :
    (Ended (ending 0 swappedTree) workConfig "a();" workTree ⟨.exited 0, [], swappedTree⟩ ∧
      workConfig.keep = false ∧ swappedTree.isFile (inputFile workConfig) = false ∧
      ((minify (ending 0 swappedTree) workConfig "a();").run { files := workTree }).1 =
        .ok "min();") ∧
    (Ended (ending 1 (dropping workTree outputName)) workConfig "a();" workTree
        ⟨.exited 1, [], dropping workTree outputName⟩ ∧
      (dropping workTree outputName).isFile (outputFile workConfig) = false ∧
      ((minify (ending 1 (dropping workTree outputName)) workConfig "a();").run
        { files := workTree }).1 = .error (.compilerFailed (.exited 1) "") ∧
      ((minify (ending 1 (dropping workTree outputName)) workConfig "a();").run
        { files := workTree }).2.files ≠ dropping workTree outputName) ∧
    ((minify (fun _ _ _ => .error .notFound) workConfig "a();").run
        { files := dropping workTree inputName }).1 = .error (.launch workConfig.launcher .notFound) ∧
      ((minify (fun _ _ _ => .error .notFound) workConfig "a();").run
        { files := dropping workTree inputName }).2.files.readText (inputFile workConfig) = .ok "" :=
  ⟨⟨ended_ending 0 swappedTree, rfl, by decide +kernel, by rfl⟩,
    ⟨ended_ending 1 (dropping workTree outputName), by decide +kernel, by rfl, by decide +kernel⟩,
    by rfl, eq_ok_of_toOption (by decide +kernel)⟩

end ScriptBundle.Compiler
