import ScriptBundle.Proofs.CommandLine
import ScriptBundle.Proofs.Compiler.Leftover
import ScriptBundle.Proofs.Compiler.Result
import ScriptBundle.Proofs.Pattern.Walk
import ScriptBundle.Proofs.Sources.Merge

/-!
# What a build leaves for the patterns

If the process changes nothing but its result, a build changes nothing but the compiler's two files. A
good run that keeps nothing leaves neither, so the patterns make the same source list as before if they
found neither before. Other runs keep the input, and the list is the same if no pattern finds it there
(`expand_after_build`). Nothing keeps the two out of what a pattern finds, so there are runs that add the
kept input to the list, or take an older result out of it (`leftovers_are_found`).
-/

namespace ScriptBundle

namespace FileTree

variable {t t' : FileTree} {paths : List Path} {key : Key}

/-- What is altered is what one of the paths leads to. -/
theorem ChangesOnly.exists_locate_of_altered (h : ChangesOnly t t' paths)
    (ha : altered t t' key = true) : ∃ p ∈ paths, t.locate p = .ok key := by
  refine Classical.byContradiction fun hno => ?_
  have hkept := h.kept key fun p hp hl => hno ⟨p, hp, hl⟩
  rw [altered_eq_false_of_node?_eq hkept] at ha
  cases ha

/-- Relative paths start from a directory, and no name on the way to it is one that a path cannot
spell. -/
structure Settled (t : FileTree) : Prop where
  directory : t.holdsDirectory t.start = true
  names : ∀ name ∈ t.start, isProper name = true

theorem Settled.of_sameDirectories (h : t.Settled) (hs : SameDirectories t t') : t'.Settled where
  directory := by rw [hs.start, hs.holds, h.directory]
  names := by
    rw [hs.start]
    exact h.names

theorem ChangesOnly.alteredFiles (h : ChangesOnly t t' paths) (hstart : t.Settled) :
    Pattern.AlteredFiles t t' where
  toSameDirectories := h.toSameDirectories
  names := by
    intro key hk
    obtain ⟨p, -, hl⟩ := h.exists_locate_of_altered hk
    rw [eq_keyOf_of_locate hl]
    exact isProper_of_mem_keyOf hstart.names
  atStart := by
    refine Bool.eq_false_iff.2 fun ha => ?_
    have hno := h.holdsDirectory_of_altered ha
    rw [hstart.directory] at hno
    cases hno

end FileTree

open FileTree (ChangesOnly)

namespace Compiler

/-- Whether a path leads to one of the two files. -/
def IsLeftover (start : Key) (c : Config) (p : Path) : Prop :=
  FileTree.keyOf start p = FileTree.keyOf start (inputFile c) ∨
    FileTree.keyOf start p = FileTree.keyOf start (outputFile c)

end Compiler

open Compiler (ChangesResultOnly IsLeftover KeepsInput Leaves inputFile outputFile)

theorem Bundle.changesOnly_build {launch : Launcher} {c : Config} (hlaunch : ChangesResultOnly launch c)
    (w : Workspace) : ChangesOnly w.files ((build launch c).run w).2.files
      [inputFile c, outputFile c] := by
  obtain ⟨js, hexit | ⟨-, hfiles⟩⟩ := CommandLine.build_cases launch c w
  · exact hexit.changesOnly hlaunch
  · rw [hfiles]
    exact .refl _ _

namespace Sources

variable {t t' : FileTree} {q : Pattern} {p : Path} {entries : List String}

/-- Whether a pattern finds a regular file by a path. -/
def Finds (t : FileTree) (entry : String) (p : Path) : Prop :=
  ∃ q, Pattern.parse entry.toList = .ok q ∧ p ∈ found q t

/-- Away from what is altered the same files are found. -/
theorem mem_found_iff (h : Pattern.AlteredFiles t t') (hp : Pattern.away t t' p = true) :
    p ∈ found q t' ↔ p ∈ found q t := by
  have hmem := (h.paths_sameFirsts q).mem_iff (a := p)
  rw [List.mem_filter, List.mem_filter, and_iff_left hp, and_iff_left hp] at hmem
  rw [found, found, List.mem_filter, List.mem_filter, hmem,
    h.isFile_eq (by simpa [Pattern.away] using hp)]

/-- If what is altered is found on neither side, then what is found is the same. -/
theorem found_sameFirsts (h : Pattern.AlteredFiles t t')
    (hno : ∀ p, Pattern.away t t' p = false → p ∉ found q t)
    (hno' : ∀ p, Pattern.away t t' p = false → p ∉ found q t') :
    SameFirsts (found q t) (found q t') := by
  have hself : (found q t).filter (Pattern.away t t') = found q t :=
    List.filter_eq_self.2 fun p hp => eq_true_of_ne_false fun haway => hno p haway hp
  have hself' : (found q t').filter (Pattern.away t t') = found q t' :=
    List.filter_eq_self.2 fun p hp => eq_true_of_ne_false fun haway => hno' p haway hp
  have hfile : (found q t').filter (Pattern.away t t') =
      ((q.paths t').filter t.isFile).filter (Pattern.away t t') := by
    rw [found, List.filter_filter, List.filter_filter]
    refine List.filter_congr fun p _ => ?_
    cases hp : Pattern.away t t' p with
    | false => rfl
    | true => rw [h.isFile_eq (by simpa [Pattern.away] using hp)]
  rw [← hself, ← hself', hfile]
  exact (h.paths_sameFirsts q).filter_filter _

/-- A path to none of the files that are changed is found as before. -/
theorem finds_iff {paths : List Path} {entry : String} (hstart : t.Settled)
    (h : ChangesOnly t t' paths)
    (hp : ∀ file ∈ paths, FileTree.keyOf t.start p ≠ FileTree.keyOf t.start file) :
    Finds t' entry p ↔ Finds t entry p := by
  refine exists_congr fun q => and_congr_right fun _ =>
    mem_found_iff (h.alteredFiles hstart) (eq_true_of_ne_false fun hno => ?_)
  obtain ⟨file, hfile, hl⟩ := h.exists_locate_of_altered (by simpa [Pattern.away] using hno)
  exact hp file hfile (FileTree.eq_keyOf_of_locate hl)

/-- No pattern among the entries finds what a path leads to, by this path or by another. -/
def Misses (t : FileTree) (entries : List String) (p : Path) : Prop :=
  ∀ entry ∈ entries, Pattern.hasWildcard entry = true →
    ∀ q, FileTree.keyOf t.start q = FileTree.keyOf t.start p → ¬Finds t entry q

/-- A path leads to no regular file, or to one that the patterns miss. -/
def Unseen (t : FileTree) (entries : List String) (p : Path) : Prop :=
  t.isFile p = false ∨ Misses t entries p

theorem Unseen.not_mem_found {file : Path} {entry : String} (h : Unseen t entries file)
    (hw : FileTree.wantsDirectory file = false)
    (hl : t.locate file = .ok (FileTree.keyOf t.start p)) (hmem : entry ∈ entries)
    (hwild : Pattern.hasWildcard entry = true) (hq : Pattern.parse entry.toList = .ok q) :
    p ∉ found q t := by
  intro hp
  rcases h with hno | hmisses
  · obtain ⟨key, hl', hfile, -⟩ := FileTree.isFile_iff.1 (List.mem_filter.1 hp).2
    rw [FileTree.eq_keyOf_of_locate hl'] at hfile
    rw [FileTree.isFile_iff.2 ⟨_, hl, hfile, hw⟩] at hno
    cases hno
  · exact hmisses entry hmem hwild p (FileTree.eq_keyOf_of_locate hl) ⟨q, hq, hp⟩

/-- Whatever has become of what a path leads to, no pattern can tell. -/
def Unnoticed (t t' : FileTree) (entries : List String) (p : Path) : Prop :=
  t'.isFile p = t.isFile p ∨ Unseen t entries p ∧ Unseen t' entries p

theorem unnoticed_of_gone (h : Unseen t entries p) (hgone : t'.isFile p = false) :
    Unnoticed t t' entries p :=
  .inr ⟨h, .inl hgone⟩

/-- If nothing is changed but files of which no pattern can tell, the source list stays as it was. -/
theorem expand_of_unnoticed {paths sources : List Path} (hstart : t.Settled)
    (h : ChangesOnly t t' paths) (hw : ∀ file ∈ paths, FileTree.wantsDirectory file = false)
    (hno : ∀ file ∈ paths, Unnoticed t t' entries file) (hexpand : expand t entries = .ok sources) :
    expand t' entries = .ok sources := by
  -- What is altered is one of the files, and none of these is a regular file on both sides.
  have hunseen : ∀ p, Pattern.away t t' p = false → ∃ file ∈ paths,
      t.locate file = .ok (FileTree.keyOf t.start p) ∧ Unseen t entries file ∧
        Unseen t' entries file := by
    intro p hp
    obtain ⟨file, hfile, hl⟩ := h.exists_locate_of_altered (by simpa [Pattern.away] using hp)
    refine ⟨file, hfile, hl, ?_⟩
    rcases hno file hfile with hsame | hunseen
    · cases hf : t.isFile file with
      | false => exact ⟨.inl hf, .inl (hsame.trans hf)⟩
      | true =>
        have haway := h.altered_of_isFile hf (hsame.trans hf)
        rw [← FileTree.eq_keyOf_of_locate hl] at haway
        rw [Pattern.away, haway] at hp
        cases hp
    · exact hunseen
  refine expand_eq_of_sameFirsts (fun entry hmem hwild q hq => ?_) hexpand
  refine found_sameFirsts (h.alteredFiles hstart) (fun p hp => ?_) fun p hp => ?_
  · obtain ⟨file, hfile, hl, hbefore, -⟩ := hunseen p hp
    exact hbefore.not_mem_found (hw file hfile) hl hmem hwild hq
  · obtain ⟨file, hfile, hl, -, hafter⟩ := hunseen p hp
    refine hafter.not_mem_found (hw file hfile) ?_ hmem hwild hq
    rw [h.start, h.locate hl]

end Sources

open Sources (Unseen Unnoticed)

/-- Were the input written, no pattern would find it. -/
def Compiler.MissesInput (c : Config) (t : FileTree) (entries : List String) : Prop :=
  ∀ js written, t.writeText (inputFile c) js = .ok written →
    Sources.Misses written entries (inputFile c)

open Compiler (MissesInput)

/-- An input that is kept goes unnoticed if it was a file before, or if the patterns miss it. -/
theorem Compiler.KeepsInput.unnoticed {c : Config} {t after : FileTree} {entries : List String}
    (hstart : t.Settled) (h : KeepsInput c t after)
    (hin : t.isFile (inputFile c) = true ∨ MissesInput c t entries) :
    Unnoticed t after entries (inputFile c) := by
  cases hf : t.isFile (inputFile c) with
  | true => exact .inl ((h.isFile hf).trans hf.symm)
  | false =>
    refine .inr ⟨.inl hf, .inr ?_⟩
    obtain ⟨js, written, hwrite, hchange⟩ := h
    have hmisses := hin.resolve_left (by simp [hf]) js written hwrite
    intro entry hmem hwild q hkey
    rw [hchange.start] at hkey
    rw [Sources.finds_iff (hstart.of_sameDirectories (FileTree.isWith_write hwrite).sameDirectories)
      hchange fun file hfile => ?_]
    · exact hmisses entry hmem hwild q hkey
    · rw [List.mem_singleton.1 hfile, hkey]
      exact (Compiler.keyOf_outputFile_ne written.start c).symm

/-- A build leaves what the compiler's run leaves, and without the compiler all files as they were. -/
theorem Bundle.leaves_build {launch : Launcher} {c : Config} (hlaunch : ChangesResultOnly launch c)
    (w : Workspace) :
    (c.compile = true →
      Leaves c w.files ((build launch c).run w).1 ((build launch c).run w).2.files) ∧
    (c.compile = false → (∃ js, ((build launch c).run w).1 = .ok js) ∧
      ((build launch c).run w).2.files = w.files) := by
  refine ⟨fun hc => ?_, fun hc => ?_⟩
  · obtain ⟨js, hexit⟩ := CommandLine.exit_build launch hc w
    exact hexit.leaves hlaunch
  · obtain ⟨log, hrun⟩ := Bundle.run_build launch hc w
    rw [hrun]
    exact ⟨⟨_, rfl⟩, rfl⟩

/-- After a build whose process changes nothing but its result, every pattern finds the files that it
found before, but for the compiler's two. Each way to end leaves these in a definite state. The source
list is the same again if no change of the two can be seen by a pattern: always if nothing was compiled
or written, after a good run if neither was seen before and the input is not kept, and if it is kept
where no pattern sees it. And if the source list is the same, then whatever a pattern finds is in it. -/
theorem expand_after_build (launch : Launcher) (c : Config) (w : Workspace) (entries : List String)
    (sources : List Path) (hstart : w.files.Settled) (hlaunch : ChangesResultOnly launch c)
    (hexpand : Sources.expand w.files entries = .ok sources) :
    (∀ entry p, ¬IsLeftover w.files.start c p →
      (Sources.Finds ((Bundle.build launch c).run w).2.files entry p ↔
        Sources.Finds w.files entry p)) ∧
    (match (Bundle.build launch c).run w with
      | (.ok _, after) =>
        if c.compile = false then
          after.files = w.files ∧ Sources.expand after.files entries = .ok sources
        else if c.keep = false then
          after.files.isFile (outputFile c) = false ∧ after.files.isFile (inputFile c) = false ∧
            (Unseen w.files entries (outputFile c) → Unseen w.files entries (inputFile c) →
              Sources.expand after.files entries = .ok sources)
        else
          after.files.isFile (outputFile c) = false ∧ KeepsInput c w.files after.files ∧
            (Unseen w.files entries (outputFile c) →
              (w.files.isFile (inputFile c) = true ∨ MissesInput c w.files entries) →
              Sources.expand after.files entries = .ok sources)
      | (.error (.write ..), after) =>
        after.files = w.files ∧ Sources.expand after.files entries = .ok sources
      | (.error (.launch ..), after) =>
        after.files.isFile (outputFile c) = w.files.isFile (outputFile c) ∧
          KeepsInput c w.files after.files ∧
          ((w.files.isFile (inputFile c) = true ∨ MissesInput c w.files entries) →
            Sources.expand after.files entries = .ok sources)
      | (.error (.compilerFailed ..), after) =>
        after.files.isFile (outputFile c) = false ∧ KeepsInput c w.files after.files ∧
          (Unseen w.files entries (outputFile c) →
            (w.files.isFile (inputFile c) = true ∨ MissesInput c w.files entries) →
            Sources.expand after.files entries = .ok sources)
      | (.error (.read ..), after) =>
        KeepsInput c w.files after.files ∧
          (after.files.isFile (outputFile c) = false → Unseen w.files entries (outputFile c) →
            (w.files.isFile (inputFile c) = true ∨ MissesInput c w.files entries) →
            Sources.expand after.files entries = .ok sources)
      | (.error _, _) => False) ∧
    (Sources.expand ((Bundle.build launch c).run w).2.files entries = .ok sources →
      ∀ entry ∈ entries, Pattern.hasWildcard entry = true →
        ∀ p, Sources.Finds ((Bundle.build launch c).run w).2.files entry p →
          ∃ source ∈ sources, source.same p = true) := by
  have hchange := Bundle.changesOnly_build hlaunch w
  obtain ⟨hcompiled, hplain⟩ := Bundle.leaves_build hlaunch w
  generalize (Bundle.build launch c).run w = outcome at hchange hcompiled hplain ⊢
  obtain ⟨result, after⟩ := outcome
  dsimp only at hchange hcompiled hplain ⊢
  have again : Unnoticed w.files after.files entries (inputFile c) →
      Unnoticed w.files after.files entries (outputFile c) →
        Sources.expand after.files entries = .ok sources := fun hi ho => by
    refine Sources.expand_of_unnoticed hstart hchange ?_ ?_ hexpand
    · simp [Compiler.wantsDirectory_inputFile, Compiler.wantsDirectory_outputFile]
    · simp [hi, ho]
  refine ⟨fun entry p hp => ?_, ?_, fun hagain entry hmem hw p hfinds => ?_⟩
  · refine Sources.finds_iff hstart hchange ?_
    simpa [IsLeftover] using hp
  · cases hc : c.compile with
    | false =>
      obtain ⟨⟨js, rfl⟩, hfiles⟩ := hplain hc
      exact ⟨hfiles, by rw [hfiles, hexpand]⟩
    | true =>
      have hleaves := hcompiled hc
      cases result with
      | ok text =>
        obtain ⟨hout, hgone, hkept⟩ := hleaves
        dsimp only
        rw [if_neg Bool.false_ne_true.symm]
        cases hk : c.keep with
        | false =>
          rw [if_pos rfl]
          exact ⟨hout, hgone hk, fun ho hi =>
            again (Sources.unnoticed_of_gone hi (hgone hk)) (Sources.unnoticed_of_gone ho hout)⟩
        | true =>
          rw [if_neg Bool.false_ne_true.symm]
          exact ⟨hout, hkept hk, fun ho hi =>
            again ((hkept hk).unnoticed hstart hi) (Sources.unnoticed_of_gone ho hout)⟩
      | error e =>
        cases e with
        | write => exact ⟨hleaves, by rw [hleaves, hexpand]⟩
        | launch =>
          obtain ⟨hout, hkept⟩ := hleaves
          exact ⟨hout, hkept, fun hi => again (hkept.unnoticed hstart hi) (.inl hout)⟩
        | compilerFailed =>
          obtain ⟨hout, hkept⟩ := hleaves
          exact ⟨hout, hkept, fun ho hi =>
            again (hkept.unnoticed hstart hi) (Sources.unnoticed_of_gone ho hout)⟩
        | read =>
          exact ⟨hleaves, fun hout ho hi =>
            again (hleaves.unnoticed hstart hi) (Sources.unnoticed_of_gone ho hout)⟩
        | _ => exact hleaves
  · obtain ⟨q, hq, hp⟩ := hfinds
    exact Sources.exists_same_of_found hagain hmem hw hq hp

theorem Compiler.changesResultOnly_leaving (c : Config) (bytes : List UInt8) (code : Nat) :
    ChangesResultOnly (leaving (outputFile c) bytes code) c := by
  intro t finished h
  cases h
  cases hw : t.write (outputFile c) bytes with
  | error cause => exact .refl t _
  | ok t' => exact (FileTree.isWith_write hw).changesOnly

/-- A script, and a directory beside it. -/
def projectTree : FileTree :=
  { start := ["work"]
    entries := [(["work"], .directory Mode.directory),
      (["work", "a.js"], .file (Utf8.encode "a();".toList) Mode.file),
      (["work", "out"], .directory Mode.directory)] }

/-- The compiler's input for it, in a directory, and an older result beside the script. -/
def keptIn (directory : Key) (bytes : List UInt8) : FileTree :=
  projectTree.insert (directory ++ [Compiler.inputName]) (.file bytes Mode.file)

def olderProject : FileTree :=
  projectTree.insert ["work", Compiler.outputName] (.file (Utf8.encode "old();".toList) Mode.file)

theorem settled_projectTree : projectTree.Settled := ⟨by decide +kernel, by decide +kernel⟩

/-- What a pattern for all scripts stands for. -/
def scripts : Pattern :=
  { absolute := false, steps := [.name [.anyRun, .char '.', .char 'j', .char 's']],
    wantsDirectory := false }

theorem parse_scripts : Pattern.parse "*.js".toList = .ok scripts :=
  eq_ok_of_toOption (by decide +kernel)

/-- In a directory whose names are listed in order, the pattern finds the files among them. -/
theorem found_scripts {t : FileTree} {paths : List Path} (key : Key) (names : List String)
    (hd : t.isDirectory ⟨"."⟩ = true) (hl : (t.locate ⟨"."⟩).toOption = some key)
    (hn : (t.children key).map (·.1) = names) (hsorted : names.Pairwise fun a b => decide (a ≤ b) = true)
    (hpaths : (((names.filter fun name => Pattern.accepts [.anyRun, .char '.', .char 'j', .char 's']
      name.toList).map Path.mk).filter t.isFile) = paths) : Sources.found scripts t = paths := by
  have hlisting : Pattern.listing t ⟨"."⟩ = names := by
    rw [Pattern.listing, hd, eq_ok_of_toOption hl]
    dsimp only
    rw [hn, List.mergeSort_of_pairwise hsorted]
  have hreach : Pattern.reach t [.anyRun, .char '.', .char 'j', .char 's'] ⟨"."⟩ =
      (names.filter fun name => Pattern.accepts [.anyRun, .char '.', .char 'j', .char 's']
        name.toList).map Path.mk := by
    unfold Pattern.reach
    rw [hlisting]
    rfl
  have hwalk : scripts.paths t =
      (Pattern.reach t [.anyRun, .char '.', .char 'j', .char 's'] ⟨"."⟩).flatMap fun p => [p] := rfl
  rw [Sources.found, hwalk, hreach, List.flatMap_singleton', hpaths]

theorem expand_scripts {t : FileTree} {paths : List Path} (h : Sources.found scripts t = paths)
    (hne : paths ≠ []) (hsorted : paths.Pairwise fun p q => p.le q = true)
    (hdistinct : Sources.dropRepeats paths = paths) : Sources.expand t ["*.js"] = .ok paths := by
  have hone : Sources.expandOne (Sources.glob t) t.isFile "*.js" = _ :=
    Sources.expandOne_of_parse (by decide) parse_scripts
  rw [h, List.mergeSort_of_pairwise hsorted, if_neg hne] at hone
  unfold Sources.expand Sources.expandWith
  rw [List.mapM_cons, hone]
  exact congrArg Except.ok (by simpa using hdistinct)

theorem found_projectTree : Sources.found scripts projectTree = [⟨"a.js"⟩] :=
  found_scripts ["work"] ["a.js", "out"] (by decide +kernel) (by decide +kernel) (by decide +kernel)
    (by decide) (by decide +kernel)

theorem expand_projectTree : Sources.expand projectTree ["*.js"] = .ok [⟨"a.js"⟩] :=
  expand_scripts found_projectTree (by decide) (by decide) (by decide +kernel)

/-- A build of the script, and processes for it: one fails and leaves something for its result, and one
does well. -/
def projectConfig (output : String) : Config := { sources := [⟨"a.js"⟩], output := some ⟨output⟩ }

def failing (output : String) : Launcher :=
  Compiler.leaving (outputFile (projectConfig output)) [255] 1

def minifying (output : String) : Launcher :=
  Compiler.leaving (outputFile (projectConfig output)) (Utf8.encode "m();".toList) 0

/-- The pattern for all scripts misses an input in another directory. -/
theorem missesInput_elsewhere : MissesInput (projectConfig "out/a.js") projectTree ["*.js"] := by
  intro js written hwrite
  have hkept : projectTree.writeText (inputFile (projectConfig "out/a.js")) js =
      .ok (keptIn ["work", "out"] (Utf8.encode js.toList)) := rfl
  rw [hkept] at hwrite
  cases hwrite
  have hfound : Sources.found scripts (keptIn ["work", "out"] (Utf8.encode js.toList)) = [⟨"a.js"⟩] :=
    found_scripts ["work"] ["a.js", "out"] rfl rfl rfl (by decide) rfl
  rintro entry hmem - p hkey ⟨q, hq, hp⟩
  rw [List.mem_singleton.1 hmem, parse_scripts] at hq
  cases hq
  rw [hfound, List.mem_singleton] at hp
  rw [hp, show (keptIn ["work", "out"] (Utf8.encode js.toList)).start = ["work"] from rfl] at hkey
  exact absurd hkey (by decide +kernel)

/-- A good run leaves nothing for the pattern, and a failed one keeps its input where the pattern misses
it. -/
theorem expand_after_build_unseen :
    projectTree.Settled ∧ Sources.expand projectTree ["*.js"] = .ok [⟨"a.js"⟩] ∧
      (ChangesResultOnly (minifying "a.min.js") (projectConfig "a.min.js") ∧
        ((Bundle.build (minifying "a.min.js") (projectConfig "a.min.js")).run
          { files := projectTree }).1 = .ok "m();" ∧
        Sources.expand ((Bundle.build (minifying "a.min.js") (projectConfig "a.min.js")).run
          { files := projectTree }).2.files ["*.js"] = .ok [⟨"a.js"⟩]) ∧
      ChangesResultOnly (failing "out/a.js") (projectConfig "out/a.js") ∧
        ((Bundle.build (failing "out/a.js") (projectConfig "out/a.js")).run
          { files := projectTree }).1 = .error (.compilerFailed (.exited 1) "") ∧
        Sources.expand ((Bundle.build (failing "out/a.js") (projectConfig "out/a.js")).run
          { files := projectTree }).2.files ["*.js"] = .ok [⟨"a.js"⟩] := by
  have hgood : ChangesResultOnly (minifying "a.min.js") (projectConfig "a.min.js") :=
    Compiler.changesResultOnly_leaving _ _ 0
  have hfailed : ChangesResultOnly (failing "out/a.js") (projectConfig "out/a.js") :=
    Compiler.changesResultOnly_leaving _ [255] 1
  obtain ⟨-, hminified, -⟩ := expand_after_build (minifying "a.min.js") (projectConfig "a.min.js")
    { files := projectTree } ["*.js"] [⟨"a.js"⟩] settled_projectTree hgood expand_projectTree
  obtain ⟨-, hkept, -⟩ := expand_after_build (failing "out/a.js") (projectConfig "out/a.js")
    { files := projectTree } ["*.js"] [⟨"a.js"⟩] settled_projectTree hfailed expand_projectTree
  have hok : ((Bundle.build (minifying "a.min.js") (projectConfig "a.min.js")).run
      { files := projectTree }).1 = .ok "m();" := by rfl
  have herror : ((Bundle.build (failing "out/a.js") (projectConfig "out/a.js")).run
      { files := projectTree }).1 = .error (.compilerFailed (.exited 1) "") := by rfl
  refine ⟨settled_projectTree, expand_projectTree, ⟨hgood, hok, ?_⟩, hfailed, herror, ?_⟩
  · generalize (Bundle.build (minifying "a.min.js") (projectConfig "a.min.js")).run
      { files := projectTree } = outcome at hminified hok ⊢
    obtain ⟨result, after⟩ := outcome
    obtain rfl : result = .ok "m();" := hok
    obtain ⟨-, -, hagain⟩ := hminified
    exact hagain (.inl (by decide +kernel)) (.inl (by decide +kernel))
  · generalize (Bundle.build (failing "out/a.js") (projectConfig "out/a.js")).run
      { files := projectTree } = outcome at hkept herror ⊢
    obtain ⟨result, after⟩ := outcome
    obtain rfl : result = .error (.compilerFailed (.exited 1) "") := herror
    obtain ⟨-, -, hagain⟩ := hkept
    exact hagain (.inl (by decide +kernel)) (.inr missesInput_elsewhere)

/-- A build of the script and of an older result that the pattern found beside it. -/
def olderConfig : Config :=
  { projectConfig "a.min.js" with sources := [⟨".Minify.output.js"⟩, ⟨"a.js"⟩] }

/-- Beside the scripts their pattern takes the input that a failed run keeps for a source, and a good run
takes an older result away that the pattern took for one. -/
theorem leftovers_are_found :
    (projectTree.Settled ∧ ChangesResultOnly (failing "a.min.js") (projectConfig "a.min.js") ∧
      Sources.expand projectTree ["*.js"] = .ok [⟨"a.js"⟩] ∧
      (projectConfig "a.min.js").sources = [⟨"a.js"⟩] ∧
      ((Bundle.build (failing "a.min.js") (projectConfig "a.min.js")).run
        { files := projectTree }).2.files = keptIn ["work"] (Utf8.encode "a();".toList) ∧
      Sources.expand ((Bundle.build (failing "a.min.js") (projectConfig "a.min.js")).run
        { files := projectTree }).2.files ["*.js"] = .ok [⟨".Minify.tmp.js"⟩, ⟨"a.js"⟩]) ∧
    olderProject.Settled ∧ ChangesResultOnly (minifying "a.min.js") olderConfig ∧
      Sources.expand olderProject ["*.js"] = .ok olderConfig.sources ∧
      ((Bundle.build (minifying "a.min.js") olderConfig).run { files := olderProject }).1 =
        .ok "m();" ∧
      ((Bundle.build (minifying "a.min.js") olderConfig).run { files := olderProject }).2.files =
        projectTree ∧
      Sources.expand ((Bundle.build (minifying "a.min.js") olderConfig).run
        { files := olderProject }).2.files ["*.js"] = .ok [⟨"a.js"⟩] := by
  have hkept : ((Bundle.build (failing "a.min.js") (projectConfig "a.min.js")).run
      { files := projectTree }).2.files = keptIn ["work"] (Utf8.encode "a();".toList) := by
    decide +kernel
  have hkeptFound : Sources.found scripts (keptIn ["work"] (Utf8.encode "a();".toList)) =
      [⟨".Minify.tmp.js"⟩, ⟨"a.js"⟩] :=
    found_scripts ["work"] [".Minify.tmp.js", "a.js", "out"] (by decide +kernel) (by decide +kernel)
      (by decide +kernel) (by decide) (by decide +kernel)
  have hcleared : ((Bundle.build (minifying "a.min.js") olderConfig).run
      { files := olderProject }).2.files = projectTree := by
    decide +kernel
  have holderFound : Sources.found scripts olderProject = olderConfig.sources :=
    found_scripts ["work"] [".Minify.output.js", "a.js", "out"] (by decide +kernel)
      (by decide +kernel) (by decide +kernel) (by decide) (by decide +kernel)
  refine ⟨⟨settled_projectTree, Compiler.changesResultOnly_leaving _ [255] 1, expand_projectTree, rfl,
    hkept, ?_⟩, ⟨by decide +kernel, by decide +kernel⟩, ?_, ?_, by rfl, hcleared, ?_⟩
  · rw [hkept]
    exact expand_scripts hkeptFound (by decide) (by decide) (by decide +kernel)
  · exact Compiler.changesResultOnly_leaving olderConfig _ 0
  · exact expand_scripts holderFound (by decide) (by decide) (by decide +kernel)
  · rw [hcleared, expand_projectTree]

end ScriptBundle
