import ScriptBundle.Proofs.Compiler
import ScriptBundle.Proofs.Files.Alike

/-!
# The compiler's result

The result comes back through a file at a fixed place. Two things are said about it. After a process
has ended, the file is gone, but for one exit: a good run whose result is no text
(`minify_isFile_outputFile_iff`). And the place is not cleared before the process starts, so a file
that an earlier run left there is taken for the result of a process that ends well and writes none;
otherwise what stood there makes no difference (`minify_eq_of_older_iff`).
-/

namespace ScriptBundle.Compiler

open ScriptBundle.FileTree (SameBut onWay)

variable {launch : Launcher} {c : Config} {js : String} {t t' : FileTree}
variable {finished finished' : Finished} {bytes : List UInt8} {key : Key}

theorem compiled_eq (he : Ended launch c js t finished) :
    compiled launch c js t = concluded c finished := by
  obtain ⟨written, hw, hl⟩ := he
  unfold compiled
  rw [hw]
  dsimp only
  rw [hl]

/-- After a process has ended, the result is that of its conclusion, and so are the files. -/
theorem run_minify_of_ended {w : Workspace} (he : Ended launch c js w.files finished) :
    ((minify launch c js).run w).1 = (concluded c finished).1 ∧
      ((minify launch c js).run w).2.files = (concluded c finished).2 := by
  obtain ⟨log, hrun⟩ := run_minify launch c js w
  rw [hrun, compiled_eq he]
  exact ⟨rfl, rfl⟩

theorem Ended.writeText_ne_error {cause : FileError} (he : Ended launch c js t finished) :
    t.writeText (inputFile c) js ≠ .error cause := by
  obtain ⟨written, hw, -⟩ := he
  rw [hw]
  exact nofun

theorem Ended.launch_ne_error {written : FileTree} {cause : FileError}
    (he : Ended launch c js t finished) (hw : t.writeText (inputFile c) js = .ok written) :
    launch written c.launcher (arguments c) ≠ .error cause := by
  obtain ⟨written', hw', hl⟩ := he
  rw [hw] at hw'
  cases hw'
  rw [hl]
  exact nofun

/-- A regular file that cannot be read as a text has bytes that are none. -/
theorem eq_notText_of_isFile {p : Path} {cause : FileError} (hf : t.isFile p = true)
    (h : t.readText p = .error cause) : cause = .notText := by
  unfold FileTree.isFile at hf
  unfold FileTree.readText FileTree.read at h
  cases hfind : t.find p with
  | error other =>
    rw [hfind] at hf
    cases hf
  | ok node =>
    rw [hfind] at hf h
    cases node with
    | directory mode => cases hf
    | device kind taken => cases hf
    | file content mode =>
      dsimp only [bind, Except.bind] at h
      split at h
      · cases h
      · exact (Except.error.inj h).symm

/-- A good run whose result is a regular file that cannot be read as a text, for a cause. -/
def Unreadable (c : Config) (finished : Finished) (cause : FileError) : Prop :=
  succeeded finished = true ∧ finished.files.isFile (outputFile c) = true ∧
    finished.files.readText (outputFile c) = .error cause

/-- Once a process has ended, no regular file is left at the result's place, but for one exit: a good run
whose result is a regular file that cannot be read. Its error says so, and all files stay as they were.
Modes hinder no reading here, so the one cause is that the bytes are no text. -/
theorem minify_isFile_outputFile_iff (launch : Launcher) (c : Config) (js : String) (w : Workspace)
    (finished : Finished) (he : Ended launch c js w.files finished) :
    (((minify launch c js).run w).2.files.isFile (outputFile c) = true ↔
      ∃ cause, Unreadable c finished cause) ∧
      ∀ cause, Unreadable c finished cause →
        ((minify launch c js).run w).1 = .error (.read (outputFile c) cause) ∧
          ((minify launch c js).run w).2.files = finished.files ∧ cause = .notText := by
  obtain ⟨hresult, hfiles⟩ := run_minify_of_ended he
  have hexit := exit_concluded he
  rw [hresult, hfiles]
  generalize (concluded c finished).1 = result at hexit ⊢
  generalize (concluded c finished).2 = after at hexit ⊢
  -- In every exit but one the file is gone, and it was not that it could not be read.
  have hgone : ∀ {blamed : FileError → Prop}, after.isFile (outputFile c) = false →
      (∀ cause, ¬Unreadable c finished cause) →
      (after.isFile (outputFile c) = true ↔ ∃ cause, Unreadable c finished cause) ∧
        ∀ cause, Unreadable c finished cause → blamed cause := by
    intro blamed hno hread
    rw [hno]
    exact ⟨⟨nofun, fun ⟨cause, h⟩ => absurd h (hread cause)⟩, fun cause h => absurd h (hread cause)⟩
  have hreadable : ∀ {text : String}, finished.files.readText (outputFile c) = .ok text →
      ∀ cause, ¬Unreadable c finished cause := by
    rintro text hr cause ⟨-, -, hcause⟩
    rw [hr] at hcause
    cases hcause
  cases hexit with
  | notWritten hw => exact absurd hw he.writeText_ne_error
  | notLaunched hw hl => exact absurd hl (he.launch_ne_error hw)
  | failed he' hs ho hno =>
    rw [he'.unique he] at hs ho hno
    refine hgone ?_ fun cause h => ?_
    · rcases Classical.em (finished.files.LeadsToFile (outputFile c)) with hfile | hfile
      · exact (ho hfile).isFile_eq_false (List.mem_singleton.2 rfl)
      · rw [hno hfile, ← Bool.not_eq_true]
        exact fun hf => hfile (FileTree.leadsToFile_iff.2 (.inl hf))
    · rw [Unreadable, hs] at h
      exact Bool.false_ne_true h.1
  | @unreadable _ cause he' hs hr =>
    rw [he'.unique he] at hs hr ⊢
    refine ⟨⟨fun hf => ⟨cause, hs, hf, hr⟩, fun ⟨_, _, hf, _⟩ => hf⟩, ?_⟩
    rintro other ⟨-, hf, hother⟩
    rw [hr] at hother
    cases hother
    exact ⟨rfl, rfl, eq_notText_of_isFile hf hr⟩
  | uncleared he' hs hr hk hinput hwithout =>
    rw [he'.unique he] at hr hwithout
    exact hgone (hwithout.isFile_eq_false (List.mem_singleton.2 rfl)) (hreadable hr)
  | good he' hs hr hinput hwithout =>
    rw [he'.unique he] at hr hwithout
    exact hgone (hwithout.isFile_eq_false List.mem_cons_self) (hreadable hr)

/-- A process that leaves bytes in a file and ends with a code. -/
def leaving (p : Path) (bytes : List UInt8) (code : Nat) : Launcher := fun t _ _ =>
  .ok ⟨.exited code, [], (t.write p bytes).toOption.getD t⟩

/-- The directory to work in with a result beside the compiler's input. -/
def resultTree (bytes : List UInt8) : FileTree :=
  inputTree.insert ["work", outputName] (.file bytes Mode.file)

theorem ended_leaving (bytes : List UInt8) (code : Nat) :
    Ended (leaving (outputFile workConfig) bytes code) workConfig "a();" workTree
      ⟨.exited code, [], resultTree bytes⟩ := by
  have hwrite : (inputTree.write (outputFile workConfig) bytes).toOption = some (resultTree bytes) :=
    rfl
  refine ⟨inputTree, eq_ok_of_toOption (by decide +kernel), ?_⟩
  unfold leaving
  rw [hwrite]
  rfl

/-- A failed run that left a result is cleared of it. -/
theorem failed_result_is_cleared :
    Ended (leaving (outputFile workConfig) [255] 1) workConfig "a();" workTree
      ⟨.exited 1, [], resultTree [255]⟩ ∧
      (resultTree [255]).isFile (outputFile workConfig) = true ∧
      ((minify (leaving (outputFile workConfig) [255] 1) workConfig "a();").run
        { files := workTree }).2.files.isFile (outputFile workConfig) = false := by
  have hiff := minify_isFile_outputFile_iff (leaving (outputFile workConfig) [255] 1) workConfig
    "a();" { files := workTree } ⟨.exited 1, [], resultTree [255]⟩ (ended_leaving [255] 1)
  refine ⟨ended_leaving [255] 1, by decide +kernel, ?_⟩
  rw [← Bool.not_eq_true, hiff.1]
  rintro ⟨cause, hs, -, -⟩
  exact absurd hs (by decide)

/-- A good run that left the same byte for a result leaves it in its place. -/
theorem unreadable_result_stays :
    Ended (leaving (outputFile workConfig) [255] 0) workConfig "a();" workTree
      ⟨.exited 0, [], resultTree [255]⟩ ∧
      ((minify (leaving (outputFile workConfig) [255] 0) workConfig "a();").run
        { files := workTree }).2.files.isFile (outputFile workConfig) = true := by
  refine ⟨ended_leaving [255] 0, ?_⟩
  rw [(run_minify_of_ended (w := { files := workTree }) (ended_leaving [255] 0)).2]
  decide +kernel

/-- What a good run comes to depends on nothing but what its files hold. -/
theorem concluded_eq (hstatus : finished'.status = finished.status)
    (hstderr : finished'.stderr = finished.stderr) (h : SameBut [] finished.files finished'.files) :
    (concluded c finished').1 = (concluded c finished).1 := by
  have hs : succeeded finished' = succeeded finished := by
    rw [succeeded, succeeded, hstatus, hstderr]
  have hr : finished'.files.readText (outputFile c) = finished.files.readText (outputFile c) :=
    FileTree.readText_eq (h.find_eq (fun _ _ => List.not_mem_nil) fun _ _ => List.not_mem_nil)
  unfold concluded
  rw [hs, hr, hstatus, hstderr]
  split
  · split
    · rfl
    · rcases h.remove (outputFile c) with ⟨cause, hrm, hrm'⟩ | ⟨u, u', hrm, hrm', hu⟩
      · rw [hrm, hrm']
      · rw [hrm, hrm']
        dsimp only
        split
        · rfl
        · rcases hu.remove (inputFile c) with ⟨cause, hi, hi'⟩ | ⟨v, v', hi, hi', -⟩
          · rw [hi, hi']
          · rw [hi, hi']
  · rfl

/-- Both files are reached by one way. -/
theorem onWay_inputFile (start : Key) (c : Config) :
    onWay start (inputFile c) = onWay start (outputFile c) := by
  have hd := spelling_workDir_ne c
  unfold inputFile outputFile
  rw [FileTree.onWay_join start c.workDir hd (by decide) (by decide),
    FileTree.onWay_join start c.workDir hd (by decide) (by decide)]

/-- The place of a result that could be there is not on the way to it. -/
theorem not_mem_onWay (hl : t.locate (outputFile c) = .ok key) (hk : t.holdsDirectory key = false) :
    ∀ k ∈ onWay t.start (outputFile c), k ∉ [key] := by
  intro k hmem hkey
  rw [List.mem_singleton.1 hkey] at hmem
  rw [FileTree.holdsDirectory_of_mem_onWay hl key hmem] at hk
  cases hk

/-- An older result: a regular file stands where nothing stood. -/
theorem exists_key_of_older (habsent : t.has (outputFile c) = false)
    (holder : t'.IsWith t (outputFile c) bytes) :
    ∃ key, t.locate (outputFile c) = .ok key ∧ t.node? key = none ∧
      (∃ mode, t'.node? key = some (.file bytes mode)) ∧
      ∀ k, k ≠ key → t'.node? k = t.node? k := by
  obtain ⟨key, hl, -, hnode⟩ := holder.holds
  have hnone : t.node? key = none := by
    cases hn : t.node? key with
    | none => rfl
    | some node =>
      have hfind : t.find (outputFile c) = .ok node :=
        FileTree.find_eq_ok_iff.2 ⟨key, hl, hn, .inr (wantsDirectory_outputFile c)⟩
      rw [FileTree.has, hfind] at habsent
      cases habsent
  refine ⟨key, hl, hnone, ?_, fun k hk => holder.kept k ?_⟩
  · rcases hnode with ⟨-, hfile⟩ | ⟨kind, taken, -, hdevice, -⟩
    · exact hfile
    · rw [hnone] at hdevice
      cases hdevice
  · rw [hl]
    exact fun he => hk (Except.ok.inj he).symm

/-- Without anything there, no result stands in its place. -/
theorem has_outputFile_eq_false (h : ∀ key, t.locate (outputFile c) = .ok key → t.node? key = none) :
    t.has (outputFile c) = false := by
  unfold FileTree.has
  cases hf : t.find (outputFile c) with
  | error cause => rfl
  | ok node =>
    obtain ⟨key, hl, hn, -⟩ := FileTree.find_eq_ok_iff.1 hf
    rw [h key hl] at hn
    cases hn

/-- The text for the compiler is written beside an older result as without it. -/
theorem writeText_of_older (js : String) (habsent : t.has (outputFile c) = false)
    (holder : t'.IsWith t (outputFile c) bytes) :
    (∃ cause, t.writeText (inputFile c) js = .error cause ∧
      t'.writeText (inputFile c) js = .error cause) ∨
    ∃ written written', t.writeText (inputFile c) js = .ok written ∧
      t'.writeText (inputFile c) js = .ok written' ∧ written.has (outputFile c) = false ∧
      written'.IsWith written (outputFile c) bytes := by
  obtain ⟨key, hl, hnone, ⟨mode, hfile⟩, hkept⟩ := exists_key_of_older habsent holder
  have hkey : t.holdsDirectory key = false := by rw [FileTree.holdsDirectory, hnone]; rfl
  have hbut : SameBut [key] t t' := ⟨holder.start, fun k hk => by
    rw [hkept k fun he => hk (List.mem_singleton.2 he)]⟩
  have hinput : t'.locate (inputFile c) = t.locate (inputFile c) := by
    refine hbut.locate_eq ?_
    rw [onWay_inputFile]
    exact not_mem_onWay hl hkey
  have hne : ∀ k, t.locate (inputFile c) = .ok k → k ≠ key := by
    rintro k hk rfl
    exact locate_inputFile_ne hl hk
  unfold FileTree.writeText
  rcases FileTree.write_cases (Utf8.encode js.toList) hinput
      (fun k hk => hkept k (hne k hk)) with hfail | ⟨k, node, hk, hw, hw'⟩
  · exact .inl hfail
  · have hknil : k ≠ [] := by
      obtain ⟨k', -, hk', -, hdir, -⟩ := FileTree.write_eq_ok hw
      rw [hk] at hk'
      cases hk'
      rintro rfl
      cases hdir
    have hdirs := (FileTree.isWith_write hw).sameDirectories
    have hwl : (t.insert k node).locate (outputFile c) = .ok key := hdirs.locate hl
    have hkeyk : key ≠ k := (hne k hk).symm
    have hwnone : (t.insert k node).node? key = none := by
      rw [FileTree.node?_insert hknil, if_neg hkeyk, hnone]
    refine .inr ⟨_, _, hw, hw', ?_, holder.start, holder.asFile,
      ⟨key, hwl, ?_, .inl ⟨by simp [hwnone], mode, ?_⟩⟩, ?_⟩
    · refine has_outputFile_eq_false fun other ho => ?_
      rw [hwl] at ho
      cases ho
      exact hwnone
    · rw [hdirs.holds, hkey]
    · rw [FileTree.node?_insert hknil, if_neg hkeyk, hfile]
    · intro other ho
      have hother : other ≠ key := by
        rintro rfl
        exact ho hwl
      rw [FileTree.node?_insert hknil, FileTree.node?_insert hknil, hkept other hother]

/-- The two ends of a process that was started in one tree and in another, which differ at a place:
it ends alike and does the same to both. At the place it leaves a content of its own, or what it found
there. Where relative paths start is not its to change. -/
structure EndsAlike (place : Key) (t t' : FileTree) (finished finished' : Finished) : Prop where
  status : finished'.status = finished.status
  stderr : finished'.stderr = finished.stderr
  start : finished.files.start = t.start
  start' : finished'.files.start = t'.start
  others : ∀ key, key ≠ place →
    (finished'.files.node? key).map Node.plain = (finished.files.node? key).map Node.plain
  own : (finished'.files.node? place).map Node.plain = (finished.files.node? place).map Node.plain ∨
    finished.files.node? place = t.node? place ∧ finished'.files.node? place = t'.node? place

/-- The process does not look at a file that stands at a path already. -/
def Overlooks (launch : Launcher) (p : Path) : Prop :=
  ∀ t t' bytes program arguments, t.has p = false → t'.IsWith t p bytes →
    match launch t program arguments, launch t' program arguments with
    | .ok finished, .ok finished' =>
      EndsAlike (FileTree.keyOf t.start p) t t' finished finished'
    | .error cause, .error cause' => cause' = cause
    | _, _ => False

theorem concluded_of_failed (hs : succeeded finished = false) : (concluded c finished).1 =
    .error (.compilerFailed finished.status (String.ofList (Utf8.decodeLossy finished.stderr))) := by
  unfold concluded
  rw [hs, if_neg Bool.false_ne_true]

theorem concluded_of_unreadable {cause : FileError} (hs : succeeded finished = true)
    (hr : finished.files.readText (outputFile c) = .error cause) :
    (concluded c finished).1 = .error (.read (outputFile c) cause) := by
  unfold concluded
  rw [hs, if_pos rfl, hr]

theorem readText_of_find_eq_error {p : Path} {cause : FileError} (h : t.find p = .error cause) :
    t.readText p = .error cause := by
  simp [FileTree.readText, FileTree.read, h, bind, Except.bind]

theorem concluded_of_readable {text : String} (hs : succeeded finished = true)
    (hr : finished.files.readText (outputFile c) = .ok text) :
    (concluded c finished).1 = .ok text ∨
      ∃ cause, (concluded c finished).1 = .error (.cleanup cause) := by
  unfold concluded
  rw [hs, if_pos rfl, hr]
  dsimp only
  cases finished.files.remove (outputFile c) with
  | error cause => exact .inr ⟨cause, rfl⟩
  | ok cleared =>
    dsimp only
    split
    · exact .inl rfl
    · cases cleared.remove (inputFile c) with
      | error cause => exact .inr ⟨cause, rfl⟩
      | ok cleared => exact .inl rfl

/-- A result is what was read in its place. -/
theorem readText_of_concluded {text : String} (h : (concluded c finished).1 = .ok text) :
    finished.files.readText (outputFile c) = .ok text := by
  cases hs : succeeded finished with
  | false =>
    rw [concluded_of_failed hs] at h
    cases h
  | true =>
    cases hr : finished.files.readText (outputFile c) with
    | error cause =>
      rw [concluded_of_unreadable hs hr] at h
      cases h
    | ok minified =>
      rcases concluded_of_readable hs hr with hok | ⟨cause, herror⟩
      · rw [hok] at h
        exact congrArg _ (Except.ok.inj h)
      · rw [herror] at h
        cases h

/-- The text of a regular file is what its bytes stand for. -/
theorem readText_of_find {p : Path} {mode : Mode} (h : t.find p = .ok (.file bytes mode)) :
    t.readText p =
      ((Utf8.decode? bytes).map fun text => .ok (String.ofList text)).getD (.error .notText) := by
  unfold FileTree.readText FileTree.read
  rw [h]
  dsimp only [bind, Except.bind]
  cases Utf8.decode? bytes <;> rfl

theorem isFile_of_find_eq_error {p : Path} {cause : FileError} (h : t.find p = .error cause) :
    t.isFile p = false := by
  rw [FileTree.isFile, h]

namespace EndsAlike

variable {mode : Mode}

theorem succeeded_eq (h : EndsAlike key t t' finished finished') :
    succeeded finished' = succeeded finished := by
  rw [succeeded, succeeded, h.status, h.stderr]

theorem start_eq (h : EndsAlike key t t' finished finished') (hs : t'.start = t.start) :
    finished'.files.start = finished.files.start := by
  rw [h.start', h.start, hs]

/-- Where the process left a content of its own, nothing depends on what stood there. -/
theorem concluded_of_own (h : EndsAlike key t t' finished finished') (hs : t'.start = t.start)
    (hown : (finished'.files.node? key).map Node.plain =
      (finished.files.node? key).map Node.plain) :
    (concluded c finished').1 = (concluded c finished).1 ∧
      (finished.files.has (outputFile c) = false →
        finished'.files.isFile (outputFile c) = false) := by
  have hbut : SameBut [] finished.files finished'.files := ⟨h.start_eq hs, fun k _ => by
    by_cases hk : k = key
    · rw [hk, hown]
    · exact h.others k hk⟩
  refine ⟨concluded_eq h.status h.stderr hbut, fun hno => ?_⟩
  have hfind := hbut.find_eq (p := outputFile c) (fun _ _ => List.not_mem_nil)
    fun _ _ => List.not_mem_nil
  rcases FileTree.cases_of_map_plain_eq hfind with ⟨cause, -, hf'⟩ | ⟨node, node', hf, -, -⟩
  · exact isFile_of_find_eq_error hf'
  · rw [FileTree.has, hf] at hno
    cases hno

/-- Where it left what it found, a good run comes to the older result, if there still is a way to it. -/
theorem concluded_of_kept (h : EndsAlike key t t' finished finished') (hs : t'.start = t.start)
    (hsucc : succeeded finished = true) (hl : t.locate (outputFile c) = .ok key)
    (hkey : t.holdsDirectory key = false) (hleft : finished.files.node? key = none)
    (hleft' : finished'.files.node? key = some (.file bytes mode)) :
    (concluded c finished').1 = (concluded c finished).1 ∧
        finished'.files.isFile (outputFile c) = false ∨
      finished.files.find (outputFile c) = .error .notFound ∧
        finished'.files.find (outputFile c) = .ok (.file bytes mode) := by
  have hway : ∀ k ∈ onWay finished.files.start (outputFile c), k ∉ [key] := by
    rw [h.start]
    exact not_mem_onWay hl hkey
  have hbut : SameBut [key] finished.files finished'.files :=
    ⟨h.start_eq hs, fun k hk => h.others k fun he => hk (List.mem_singleton.2 he)⟩
  have hlocate : finished'.files.locate (outputFile c) = finished.files.locate (outputFile c) :=
    hbut.locate_eq hway
  cases hf : finished.files.locate (outputFile c) with
  | error cause =>
    have hfind : ∀ t : FileTree, t.locate (outputFile c) = .error cause →
        t.find (outputFile c) = .error cause := fun t ht => by
      simp [FileTree.find, ht, bind, Except.bind]
    have hfind' := hfind _ (hlocate.trans hf)
    left
    rw [concluded_of_unreadable hsucc (readText_of_find_eq_error (hfind _ hf)),
      concluded_of_unreadable (h.succeeded_eq.trans hsucc) (readText_of_find_eq_error hfind')]
    exact ⟨rfl, isFile_of_find_eq_error hfind'⟩
  | ok other =>
    have hother : other = key := by
      rw [FileTree.eq_keyOf_of_locate hf, FileTree.eq_keyOf_of_locate hl, h.start]
    rw [hother] at hf
    refine .inr ⟨?_, ?_⟩
    · simp [FileTree.find, hf, hleft, bind, Except.bind]
    · exact FileTree.find_eq_ok_iff.2
        ⟨key, hlocate.trans hf, hleft', .inr (wantsDirectory_outputFile c)⟩

end EndsAlike

/-- What a process that ends alike comes to: the same, but for a good run that leaves no result and
finds an older one. -/
theorem concluded_of_older (habsent : t.has (outputFile c) = false)
    (holder : t'.IsWith t (outputFile c) bytes)
    (h : EndsAlike (FileTree.keyOf t.start (outputFile c)) t t' finished finished') :
    (concluded c finished').1 = (concluded c finished).1 ∧
        (succeeded finished = true → finished.files.has (outputFile c) = false →
          finished'.files.isFile (outputFile c) = false) ∨
      succeeded finished = true ∧ succeeded finished' = true ∧
        finished.files.find (outputFile c) = .error .notFound ∧
        ∃ mode, finished'.files.find (outputFile c) = .ok (.file bytes mode) := by
  obtain ⟨key, hl, hnone, ⟨mode, hfile⟩, -⟩ := exists_key_of_older habsent holder
  rw [← FileTree.eq_keyOf_of_locate hl] at h
  rcases h.own with hown | ⟨hleft, hleft'⟩
  · obtain ⟨heq, hgone⟩ := h.concluded_of_own (c := c) holder.start hown
    exact .inl ⟨heq, fun _ => hgone⟩
  · rw [hnone] at hleft
    rw [hfile] at hleft'
    have hkey : t.holdsDirectory key = false := by rw [FileTree.holdsDirectory, hnone]; rfl
    cases hsucc : succeeded finished with
    | false =>
      left
      rw [concluded_of_failed hsucc, concluded_of_failed (h.succeeded_eq.trans hsucc), h.status,
        h.stderr]
      exact ⟨rfl, fun htrue => absurd htrue Bool.false_ne_true⟩
    | true =>
      rcases h.concluded_of_kept holder.start hsucc hl hkey hleft hleft' with
        ⟨heq, hgone⟩ | ⟨hf, hf'⟩
      · exact .inl ⟨heq, fun _ _ => hgone⟩
      · exact .inr ⟨rfl, h.succeeded_eq.trans hsucc, hf, mode, hf'⟩

/-- No older result is found after a good run that leaves none of its own. -/
def FindsNoOlder (launch : Launcher) (c : Config) (js : String) (t t' : FileTree) : Prop :=
  ∀ finished finished', Ended launch c js t finished → Ended launch c js t' finished' →
    succeeded finished = true → finished.files.has (outputFile c) = false →
      finished'.files.isFile (outputFile c) = false

theorem compiled_of_older (habsent : t.has (outputFile c) = false)
    (holder : t'.IsWith t (outputFile c) bytes) (hlaunch : Overlooks launch (outputFile c)) :
    (compiled launch c js t').1 = (compiled launch c js t).1 ∧ FindsNoOlder launch c js t t' ∨
      ∃ finished finished' mode, Ended launch c js t finished ∧ Ended launch c js t' finished' ∧
        succeeded finished = true ∧ succeeded finished' = true ∧
        finished.files.find (outputFile c) = .error .notFound ∧
        finished'.files.find (outputFile c) = .ok (.file bytes mode) := by
  rcases writeText_of_older js habsent holder with
    ⟨cause, hw, hw'⟩ | ⟨written, written', hw, hw', hno, hwith⟩
  · left
    rw [compiled, compiled, hw, hw']
    exact ⟨rfl, fun finished _ he => absurd hw he.writeText_ne_error⟩
  · have hends := hlaunch written written' bytes c.launcher (arguments c) hno hwith
    cases hl : launch written c.launcher (arguments c) with
    | error cause =>
      cases hl' : launch written' c.launcher (arguments c) with
      | ok finished' =>
        rw [hl, hl'] at hends
        exact hends.elim
      | error cause' =>
        rw [hl, hl'] at hends
        dsimp only at hends
        left
        rw [compiled, compiled, hw, hw']
        dsimp only
        rw [hl, hl', hends]
        exact ⟨rfl, fun finished _ he => absurd hl (he.launch_ne_error hw)⟩
    | ok finished =>
      cases hl' : launch written' c.launcher (arguments c) with
      | error cause' =>
        rw [hl, hl'] at hends
        exact hends.elim
      | ok finished' =>
        rw [hl, hl'] at hends
        have he : Ended launch c js t finished := ⟨written, hw, hl⟩
        have he' : Ended launch c js t' finished' := ⟨written', hw', hl'⟩
        rw [compiled_eq he, compiled_eq he']
        rcases concluded_of_older hno hwith hends with ⟨heq, hcond⟩ | ⟨hs, hs', hf, mode, hf'⟩
        · refine .inl ⟨heq, fun other other' ho ho' => ?_⟩
          rw [ho.unique he, ho'.unique he']
          exact hcond
        · exact .inr ⟨finished, finished', mode, he, he', hs, hs', hf, hf'⟩

theorem overlooks_leaving (c : Config) (content : List UInt8) (code : Nat) :
    Overlooks (leaving (outputFile c) content code) (outputFile c) := by
  intro t t' bytes program arguments habsent holder
  obtain ⟨key, hl, hnone, ⟨mode, hfile⟩, hkept⟩ := exists_key_of_older habsent holder
  have hl' : t'.locate (outputFile c) = .ok key := holder.sameDirectories.locate hl
  have hne : key ≠ [] := by
    rintro rfl
    cases hnone
  have hw : t.write (outputFile c) content = .ok (t.insert key (.file content Mode.file)) := by
    simp [FileTree.write, FileTree.writeAs, hl, hnone, wantsDirectory_outputFile, bind, Except.bind]
  have hw' : t'.write (outputFile c) content = .ok (t'.insert key (.file content mode)) := by
    simp [FileTree.write, FileTree.writeAs, hl', hfile, wantsDirectory_outputFile, bind, Except.bind]
  unfold leaving
  dsimp only
  rw [hw, hw', ← FileTree.eq_keyOf_of_locate hl]
  refine ⟨rfl, rfl, rfl, rfl, fun k hk => ?_, .inl ?_⟩
  · dsimp only [Except.toOption, Option.getD_some]
    rw [FileTree.node?_insert hne, FileTree.node?_insert hne, if_neg hk, if_neg hk, hkept k hk]
  · dsimp only [Except.toOption, Option.getD_some]
    rw [FileTree.node?_insert hne, FileTree.node?_insert hne, if_pos rfl, if_pos rfl]
    rfl

/-- A process that does nothing and ends well. -/
def idle : Launcher := fun t _ _ => .ok ⟨.exited 0, [], t⟩

theorem overlooks_idle (c : Config) : Overlooks idle (outputFile c) := by
  intro t t' bytes program arguments habsent holder
  obtain ⟨key, hl, -, -, hkept⟩ := exists_key_of_older habsent holder
  rw [← FileTree.eq_keyOf_of_locate hl]
  exact ⟨rfl, rfl, rfl, rfl, fun k hk => congrArg _ (hkept k hk), .inr ⟨rfl, rfl⟩⟩

/-- Compiling in a tree with an older result in place, when the process does not look at it. It comes
to the same as without it just when no good run that leaves no result finds the older one. Otherwise
it should say that there is no result, and the text that it gives instead is the older one. -/
theorem minify_eq_of_older_iff (launch : Launcher) (c : Config) (js : String) (w w' : Workspace)
    (bytes : List UInt8) (habsent : w.files.has (outputFile c) = false)
    (holder : w'.files.IsWith w.files (outputFile c) bytes)
    (hlaunch : Overlooks launch (outputFile c)) :
    (((minify launch c js).run w').1 = ((minify launch c js).run w).1 ↔
      FindsNoOlder launch c js w.files w'.files) ∧
    (((minify launch c js).run w').1 ≠ ((minify launch c js).run w).1 →
      ((minify launch c js).run w).1 = .error (.read (outputFile c) .notFound) ∧
        ∀ text, ((minify launch c js).run w').1 = .ok text →
          Utf8.decode? bytes = some text.toList) := by
  have hrun : ∀ w : Workspace,
      ((minify launch c js).run w).1 = (compiled launch c js w.files).1 := fun w => by
    obtain ⟨log, hrun⟩ := run_minify launch c js w
    rw [hrun]
  rw [hrun w, hrun w']
  rcases compiled_of_older habsent holder hlaunch with ⟨heq, hno⟩ |
    ⟨finished, finished', mode, he, he', hs, hs', hf, hf'⟩
  · exact ⟨⟨fun _ => hno, fun _ => heq⟩, fun hne => absurd heq hne⟩
  · have hr' := readText_of_find hf'
    rw [compiled_eq he, compiled_eq he',
      concluded_of_unreadable hs (readText_of_find_eq_error hf)]
    refine ⟨⟨fun heq => ?_, fun hno => ?_⟩, fun _ => ⟨rfl, fun text htext => ?_⟩⟩
    · -- The older file is found, so what is said is not that there is none.
      exfalso
      cases hd : Utf8.decode? bytes with
      | none =>
        rw [hd] at hr'
        rw [concluded_of_unreadable hs' hr'] at heq
        cases heq
      | some text =>
        rw [hd] at hr'
        rcases concluded_of_readable hs' hr' with hok | ⟨cause, herror⟩
        · rw [hok] at heq
          cases heq
        · rw [herror] at heq
          cases heq
    · have hgone := hno finished finished' he he' hs (by rw [FileTree.has, hf]; rfl)
      rw [FileTree.isFile, hf'] at hgone
      cases hgone
    · rw [readText_of_concluded htext] at hr'
      cases hd : Utf8.decode? bytes with
      | none =>
        rw [hd] at hr'
        cases hr'
      | some chars =>
        rw [hd] at hr'
        rw [Except.ok.inj hr', String.toList_ofList]

/-- The directory to work in with an older result. -/
def olderTree : FileTree :=
  workTree.insert ["work", outputName] (.file (Utf8.encode "old();".toList) Mode.file)

theorem isWith_olderTree :
    olderTree.IsWith workTree (outputFile workConfig) (Utf8.encode "old();".toList) :=
  FileTree.isWith_write (eq_ok_of_toOption (by decide +kernel))

/-- A result of the process's own is taken, and not the older one. -/
theorem minify_eq_of_older_rewritten :
    workTree.has (outputFile workConfig) = false ∧
      olderTree.IsWith workTree (outputFile workConfig) (Utf8.encode "old();".toList) ∧
      Overlooks (leaving (outputFile workConfig) [59] 0) (outputFile workConfig) ∧
      ((minify (leaving (outputFile workConfig) [59] 0) workConfig "a();").run
          { files := olderTree }).1 =
        ((minify (leaving (outputFile workConfig) [59] 0) workConfig "a();").run
          { files := workTree }).1 := by
  have habsent : workTree.has (outputFile workConfig) = false := by decide +kernel
  have hlaunch := overlooks_leaving workConfig [59] 0
  refine ⟨habsent, isWith_olderTree, hlaunch, ?_⟩
  refine (minify_eq_of_older_iff _ _ _ { files := workTree } { files := olderTree } _ habsent
    isWith_olderTree hlaunch).1.2 fun finished _ he _ _ hno => ?_
  rw [he.unique (ended_leaving [59] 0)] at hno
  exact absurd hno (by decide +kernel)

/-- If the process writes no result, the older one is returned. -/
theorem older_result_is_returned :
    workTree.has (outputFile workConfig) = false ∧
      olderTree.IsWith workTree (outputFile workConfig) (Utf8.encode "old();".toList) ∧
      Overlooks idle (outputFile workConfig) ∧
      ((minify idle workConfig "a();").run { files := olderTree }).1 = .ok "old();" ∧
      ((minify idle workConfig "a();").run { files := workTree }).1 =
        .error (.read (outputFile workConfig) .notFound) :=
  ⟨by decide +kernel, isWith_olderTree, overlooks_idle workConfig, by rfl, by rfl⟩

end ScriptBundle.Compiler
