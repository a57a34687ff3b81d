import ScriptBundle.Proofs.CommandLine
import ScriptBundle.Proofs.Draft
import ScriptBundle.Proofs.Validation

/-!
# Runs without the compiler

What a run without the compiler comes to can be said without running it. `Ready` lists what such a run
needs of the command line and of the files that the line and the manifest name. If all of it is there,
and the output can be written, the run succeeds, and the output holds the joined texts, stripped; if
anything is missing it fails (`uncompiled_run`). Every text is one of the files before the run, so the
output may be one of the sources, or the header. If it is a device, it need not hold what was written
to it (`uncompiled_output_is_dropped`).
-/

namespace ScriptBundle

namespace CommandLine

/-- What a run without the compiler takes from the files. -/
structure Plan where
  header : String
  footer : String
  sources : List Path
  output : String

/-- What such a run writes. A source that is no text adds nothing. -/
def Plan.text (plan : Plan) (files : FileTree) (a : Arguments) : String :=
  strip (LabelSet.defaults.extend (a.labels.map (·.text))).toList
    (plan.header ++ String.join (plan.sources.filterMap fun p => (files.readText p).toOption) ++
      plan.footer)

/-- The text of a file that may be given: of none it is empty. -/
def TextOf (files : FileTree) (given : Option String) (text : String) : Prop :=
  match given with
  | some path => files.readText ⟨path⟩ = .ok text
  | none => text = ""

/-- The entries for the sources and the output, as the command line or else the manifest names them. -/
inductive Names (files : FileTree) (a : Arguments) : List String → String → Prop
  | line (hno : a.has .package = false) : Names files a a.sources (a.output.getD "")
  | manifest {text : String} {m : WebModule} (hp : a.has .package = true)
    (hr : files.readText packageFile = .ok text) (hd : Manifest.decode text = .ok m) :
    Names files a m.source m.output

/-- All that a run without the compiler needs but that its output can be written. -/
structure Ready (files : FileTree) (a : Arguments) (plan : Plan) : Prop where
  labels : ∀ text, LabelArgument.bare text ∈ a.labels → text.toList.head? = some '@'
  patterns : Sources.Readable a.sources
  header : TextOf files a.header plan.header
  footer : TextOf files a.footer plan.footer
  sources : ∃ entries, Names files a entries plan.output ∧ Sources.Readable entries ∧
    Sources.expand files entries = .ok plan.sources
  sources_ne : plan.sources ≠ []
  output_ne : plan.output ≠ ""
  found : ∀ p ∈ plan.sources, files.has p = true

theorem strayArgument?_eq_none_iff {labels : List LabelArgument} : strayArgument? labels = none ↔
    ∀ text, LabelArgument.bare text ∈ labels → text.toList.head? = some '@' := by
  unfold strayArgument?
  rw [List.findSome?_eq_none_iff]
  constructor
  · intro h text hmem
    have hnone := h _ hmem
    dsimp only at hnone
    split at hnone
    · assumption
    · cases hnone
  · intro h label hmem
    cases label with
    | bare text => exact if_pos (h text hmem)
    | option text => rfl

theorem run_textOf_iff {given : Option String} {text : String} {w w' : Workspace} :
    (textOf given).run w = (.ok text, w') ↔ TextOf w.files given text ∧ w' = w := by
  cases given with
  | none =>
    refine (Prod.mk.injEq ..).to_iff.trans (and_congr ?_ eq_comm)
    rw [Except.ok.injEq, eq_comm, TextOf]
  | some path => exact Action.run_readText_iff

variable {env : Environment} {a : Arguments} {c : Config} {plan : Plan} {w w' : Workspace}
variable {listed : List Path} {header footer : String}

/-- What a configuration takes from the command line whether or not there is a manifest. -/
structure Carries (c : Config) (a : Arguments) (header footer : String) : Prop where
  header : c.header = header
  footer : c.footer = footer
  labels : c.labels = LabelSet.defaults.extend (a.labels.map (·.text))
  compile : c.compile = !a.has .noCompile

/-- The configuration of a line that can be read, before the manifest. -/
theorem run_config (env : Environment) (hstray : strayArgument? a.labels = none)
    (hl : Sources.expand w.files a.sources = .ok listed) (hh : TextOf w.files a.header header)
    (hf : TextOf w.files a.footer footer) :
    ∃ base : Config, (config env a).run w =
        (if a.has .package then base.applyPackage packageFile else pure base).run w ∧
      Carries base a header footer ∧ base.sources = listed ∧
      base.output = a.output.map Path.mk := by
  unfold config
  rw [hstray]
  dsimp only
  rw [Action.run_bind_ok Action.run_files, Action.run_bind_ok (Action.run_ofExcept_iff.2 ⟨hl, rfl⟩),
    Action.run_bind_ok (run_textOf_iff.2 ⟨hh, rfl⟩), Action.run_bind_ok (run_textOf_iff.2 ⟨hf, rfl⟩)]
  exact ⟨_, rfl, ⟨rfl, rfl, rfl, rfl⟩, rfl, rfl⟩

theorem of_run_config (h : (config env a).run w = (.ok c, w')) : strayArgument? a.labels = none ∧
    ∃ listed header footer, Sources.expand w.files a.sources = .ok listed ∧
      TextOf w.files a.header header ∧ TextOf w.files a.footer footer := by
  unfold config at h
  cases hstray : strayArgument? a.labels with
  | some text =>
    rw [hstray] at h
    cases h
  | none =>
    rw [hstray] at h
    dsimp only at h
    rw [Action.run_bind_ok Action.run_files] at h
    obtain ⟨listed, w₁, hl, h₁⟩ := Action.run_bind_eq_ok h
    obtain ⟨header, w₂, hh, h₂⟩ := Action.run_bind_eq_ok h₁
    obtain ⟨footer, w₃, hf, -⟩ := Action.run_bind_eq_ok h₂
    obtain ⟨hexpand, rfl⟩ := Action.run_ofExcept_iff.1 hl
    obtain ⟨hheader, rfl⟩ := run_textOf_iff.1 hh
    exact ⟨rfl, listed, header, footer, hexpand, hheader, (run_textOf_iff.1 hf).1⟩

/-- The sources of a configuration are those that the line or the manifest names, and so is its output
if that is no empty path. -/
structure Named (files : FileTree) (a : Arguments) (entries : List String) (output : String)
    (c : Config) : Prop where
  names : Names files a entries output
  sources : Sources.expand files entries = .ok c.sources
  output : ∀ path : Path, path.spelling ≠ "" → (c.output = some path ↔ path = ⟨output⟩)

theorem named_of_line {base : Config} (hno : a.has .package = false)
    (hl : Sources.expand w.files a.sources = .ok base.sources)
    (ho : base.output = a.output.map Path.mk) :
    Named w.files a a.sources (a.output.getD "") base := by
  refine ⟨.line hno, hl, fun path hpath => ?_⟩
  rw [ho]
  cases a.output with
  | none => exact ⟨nofun, fun h => absurd (congrArg Path.spelling h) hpath⟩
  | some name => simp [eq_comm]

theorem named_of_manifest {text : String} {m : WebModule} {sources : List Path} (base : Config)
    (hp : a.has .package = true) (hr : w.files.readText packageFile = .ok text)
    (hd : Manifest.decode text = .ok m) (he : Sources.expand w.files m.source = .ok sources) :
    Named w.files a m.source m.output
      { base with
        sources
        output := if m.output = "" then none else some ⟨m.output⟩ } := by
  refine ⟨.manifest hp hr hd, he, fun path hpath => ?_⟩
  dsimp only
  split
  · next hempty =>
    rw [hempty]
    exact ⟨nofun, fun h => absurd (congrArg Path.spelling h) hpath⟩
  · simp [eq_comm]

/-- The configuration holds what the plan says. -/
structure Follows (c : Config) (a : Arguments) (plan : Plan) : Prop
    extends Carries c a plan.header plan.footer where
  sources : c.sources = plan.sources
  output : c.output = some ⟨plan.output⟩

/-- A run that passes the checks had all that it needs. -/
theorem of_run_checked (h : (checked env a).run w = (.ok c, w')) :
    ∃ plan, Ready w.files a plan ∧ Follows c a plan := by
  obtain ⟨c₀, w₁, hc, h₁⟩ := Action.run_bind_eq_ok h
  rw [Action.run_bind_ok Action.run_files] at h₁
  obtain ⟨_, w₂, hv, h₂⟩ := Action.run_bind_eq_ok h₁
  obtain ⟨hvalid, rfl⟩ := Action.run_ofExcept_iff.1 hv
  cases h₂
  have hkeep : w'.files = w.files := by
    have hkeep := keepsFiles_config env a w
    rwa [hc] at hkeep
  obtain ⟨hne, ⟨path, hpath, hnonempty⟩, hfound⟩ := Config.validate_eq_ok_iff.1 hvalid
  obtain ⟨hstray, listed, header, footer, hl, hh, hf⟩ := of_run_config hc
  obtain ⟨base, hrun, hcarries, rfl, ho⟩ := run_config env hstray hl hh hf
  -- A manifest puts its own sources and output in the place of those of the line, and leaves the rest.
  have hnamed : ∃ entries output,
      Named w.files a entries output c ∧ Carries c a header footer := by
    rw [hrun] at hc
    split at hc
    · next hp =>
      obtain ⟨text, m, sources, hr, hd, he, rfl⟩ := Config.run_applyPackage_iff.1 ⟨w', hc⟩
      exact ⟨_, _, named_of_manifest base hp hr hd he, hcarries.1, hcarries.2, hcarries.3,
        hcarries.4⟩
    · next hno =>
      cases hc
      exact ⟨_, _, named_of_line (Bool.eq_false_iff.2 hno) hl ho, hcarries⟩
  obtain ⟨entries, output, ⟨hnames, hexpand, hout⟩, hcarries⟩ := hnamed
  obtain rfl := (hout path hnonempty).1 hpath
  rw [hkeep] at hfound
  exact ⟨⟨header, footer, c.sources, output⟩,
    { labels := strayArgument?_eq_none_iff.1 hstray
      patterns := Sources.exists_expand_iff.1 ⟨_, hl⟩
      header := hh
      footer := hf
      sources := ⟨entries, hnames, Sources.exists_expand_iff.1 ⟨_, hexpand⟩, hexpand⟩
      sources_ne := hne
      output_ne := hnonempty
      found := hfound },
    { toCarries := hcarries, sources := rfl, output := hpath }⟩

/-- A run that has all that it needs passes the checks. -/
theorem Ready.run_checked (env : Environment) (h : Ready w.files a plan) :
    ∃ c w', (checked env a).run w = (.ok c, w') ∧ Follows c a plan := by
  obtain ⟨listed, hl⟩ := Sources.exists_expand_iff.2 h.patterns
  obtain ⟨base, hrun, hcarries, rfl, ho⟩ :=
    run_config env (strayArgument?_eq_none_iff.2 h.labels) hl h.header h.footer
  obtain ⟨entries, hnames, -, hexpand⟩ := h.sources
  have hconfig : ∃ c w', (config env a).run w = (.ok c, w') ∧ Carries c a plan.header plan.footer ∧
      c.sources = plan.sources ∧ Named w.files a entries plan.output c := by
    rw [hrun]
    generalize plan.output = output at hnames
    cases hnames with
    | line hno =>
      rw [hno, if_neg Bool.false_ne_true]
      rw [hl] at hexpand
      exact ⟨base, w, rfl, hcarries, Except.ok.inj hexpand, named_of_line hno hl ho⟩
    | manifest hp hr hd =>
      rw [hp, if_pos rfl]
      obtain ⟨w', hpackage⟩ := Config.run_applyPackage_iff.2 ⟨_, _, _, hr, hd, hexpand, rfl⟩
      exact ⟨_, w', hpackage, ⟨hcarries.1, hcarries.2, hcarries.3, hcarries.4⟩, rfl,
        named_of_manifest base hp hr hd hexpand⟩
  obtain ⟨c, w', hc, hcarries, hsources, hnamed⟩ := hconfig
  have hout : c.output = some ⟨plan.output⟩ := (hnamed.output ⟨plan.output⟩ h.output_ne).2 rfl
  have hkeep := keepsFiles_config env a w
  rw [hc] at hkeep
  have hvalid : c.validate w'.files = .ok () := by
    rw [Config.validate_eq_ok_iff, hsources, hkeep]
    exact ⟨h.sources_ne, ⟨_, hout, h.output_ne⟩, h.found⟩
  refine ⟨c, w', ?_, hcarries, hsources, hout⟩
  rw [checked, Action.run_bind_ok hc, Action.run_bind_ok Action.run_files,
    Action.run_bind_ok (Action.run_ofExcept_iff.2 ⟨hvalid, rfl⟩)]
  rfl

theorem join_textOf (files : FileTree) (sources : List Path) :
    String.join (sources.map (Bundle.textOf files)) =
      String.join (sources.filterMap fun p => (files.readText p).toOption) := by
  induction sources with
  | nil => rfl
  | cons p sources ih =>
    rw [List.map_cons, String.join_cons, ih, List.filterMap_cons, Bundle.textOf]
    cases files.readText p with
    | error cause => exact String.empty_append
    | ok text => exact String.join_cons.symm

/-- Without the compiler what is produced is the text of the plan, if it can be written. -/
theorem run_produce (launch : Launcher) (hc : Follows c a plan) (hn : a.has .noCompile = true) :
    ∃ log log', (produce launch c).run w =
      match w.files.writeText ⟨plan.output⟩ (plan.text w.files a) with
      | .ok t => (.ok (), { files := t, log })
      | .error cause => (.error (.write ⟨plan.output⟩ cause), { w with log := log' }) := by
  have hcompile : c.compile = false := by rw [hc.compile, hn]; rfl
  obtain ⟨log, hbuild⟩ := Bundle.run_build launch hcompile w
  have htext : strip c.labels.toList (String.join (Bundle.texts w.files c)) =
      plan.text w.files a := by
    rw [Plan.text, ← join_textOf, ← hc.labels, ← hc.header, ← hc.footer, ← hc.sources]
    simp [Bundle.texts, String.append_assoc]
  rw [htext] at hbuild
  unfold produce
  rw [Action.run_bind_ok hbuild, hc.output]
  dsimp only
  have hwrite := Action.run_writeText (w := { w with log }) ⟨plan.output⟩ (plan.text w.files a)
  dsimp only at hwrite
  cases hw : w.files.writeText ⟨plan.output⟩ (plan.text w.files a) with
  | ok t =>
    rw [hw] at hwrite
    rw [Action.run_bind_ok hwrite, Action.run_report]
    exact ⟨_, [], rfl⟩
  | error cause =>
    rw [hw] at hwrite
    rw [Action.run_bind_error hwrite]
    exact ⟨[], _, rfl⟩

/-- With all that a run without the compiler needs, only writing its output can fail. -/
theorem Ready.run (launch : Launcher) (env : Environment) (h : Ready w.files a plan)
    (hn : a.has .noCompile = true) :
    ∃ log log', (CommandLine.run launch env a).run w =
      match w.files.writeText ⟨plan.output⟩ (plan.text w.files a) with
      | .ok t => (.ok (), { files := t, log })
      | .error cause => (.error (.write ⟨plan.output⟩ cause), { w with log := log' }) := by
  obtain ⟨c, w₁, hc, hfollows⟩ := h.run_checked env
  have hkeep := keepsFiles_checked env a w
  rw [hc] at hkeep
  obtain ⟨files, log₁⟩ := w₁
  cases hkeep
  rw [run_of_checked_ok hc]
  exact run_produce (w := ⟨w.files, log₁⟩) launch hfollows hn

theorem exists_ready_of_run {launch : Launcher}
    (h : (CommandLine.run launch env a).run w = (.ok (), w')) : ∃ plan, Ready w.files a plan := by
  rw [run_eq] at h
  obtain ⟨c, w₁, hc, -⟩ := Action.run_bind_eq_ok h
  obtain ⟨plan, hready, -⟩ := of_run_checked hc
  exact ⟨plan, hready⟩

theorem code_outcome_eq_zero_iff {launch : Launcher} {line : List String} {files : FileTree}
    (hp : Arguments.parse line = .ok a) : (outcome launch env line files).code = 0 ↔
      ((CommandLine.run launch env a).run { files }).1 = .ok () := by
  unfold outcome
  rw [hp]
  dsimp only
  cases (CommandLine.run launch env a).run { files } with
  | mk result w =>
    cases result with
    | ok u => exact ⟨fun _ => rfl, fun _ => rfl⟩
    | error e => exact ⟨nofun, nofun⟩

/-- A run without the compiler succeeds just when there is all that it needs and its output can be
written. It then writes the stripped text of what was there before to the output, and changes nothing
else. Unless the output is a device, it is then a regular file that holds just that text. -/
theorem uncompiled_run (launch : Launcher) (env : Environment) (line : List String)
    (files : FileTree) (a : Arguments) (hp : Arguments.parse line = .ok a)
    (hn : a.has .noCompile = true) :
    ((outcome launch env line files).code = 0 ↔
      ∃ plan, Ready files a plan ∧
        ∃ after, files.writeText ⟨plan.output⟩ (plan.text files a) = .ok after) ∧
    ((outcome launch env line files).code = 0 → ∀ plan, Ready files a plan →
      (outcome launch env line files).files.IsWith files ⟨plan.output⟩
          (Utf8.encode (plan.text files a).toList) ∧
        ((∀ kind taken, files.find ⟨plan.output⟩ ≠ .ok (.device kind taken)) →
          ∃ mode, (outcome launch env line files).files.find ⟨plan.output⟩ =
            .ok (.file (Utf8.encode (plan.text files a).toList) mode))) := by
  rw [code_outcome_eq_zero_iff hp, (outcome_of_parse launch env files hp).1]
  refine ⟨⟨fun hok => ?_, fun ⟨plan, hready, after, hwrite⟩ => ?_⟩, fun hok plan hready => ?_⟩
  · obtain ⟨plan, hready⟩ := exists_ready_of_run (w := { files }) (Prod.ext hok rfl)
    refine ⟨plan, hready, ?_⟩
    obtain ⟨log, log', hrun⟩ := hready.run (w := { files }) launch env hn
    rw [hrun] at hok
    cases hw : files.writeText ⟨plan.output⟩ (plan.text files a) with
    | ok after => exact ⟨after, rfl⟩
    | error cause =>
      rw [hw] at hok
      cases hok
  · obtain ⟨log, log', hrun⟩ := hready.run (w := { files }) launch env hn
    rw [hrun, hwrite]
  · obtain ⟨log, log', hrun⟩ := hready.run (w := { files }) launch env hn
    rw [hrun] at hok ⊢
    cases hw : files.writeText ⟨plan.output⟩ (plan.text files a) with
    | ok after =>
      have hwith := FileTree.isWith_write hw
      exact ⟨hwith, hwith.exists_find_eq⟩
    | error cause =>
      rw [hw] at hok
      cases hok

/-- A text, bytes that are no text, and a directory. -/
def mixedTree : FileTree :=
  { start := ["work"]
    entries := [(["work"], .directory Mode.directory),
      (["work", "a.js"], .file (Utf8.encode "x();\x7b@x y \x7d@x\n".toList) Mode.file),
      (["work", "b.js"], .file [255] Mode.file), (["work", "c.js"], .directory Mode.directory)] }

def mixedPlan : Plan :=
  { header := "x();\x7b@x y \x7d@x\n", footer := "", sources := [⟨"a.js"⟩, ⟨"b.js"⟩, ⟨"c.js"⟩],
    output := "a.js" }

def mixedLine : List String :=
  ["--source", "a.js", "--source", "b.js", "--source", "c.js", "--header", "a.js",
    "--output", "a.js", "--nocompile", "@x"]

def mixedArguments : Arguments :=
  { labels := [.bare "@x"], sources := ["a.js", "b.js", "c.js"], header := some "a.js",
    output := some "a.js", flags := [.noCompile] }

theorem ready_mixedPlan : Ready mixedTree mixedArguments mixedPlan := by
  have hexpand : Sources.expand mixedTree mixedArguments.sources = .ok mixedPlan.sources :=
    eq_ok_of_toOption (by decide +kernel)
  have hpatterns := Sources.exists_expand_iff.1 ⟨_, hexpand⟩
  exact
    { labels := fun text h => by
        rw [mixedArguments, List.mem_singleton] at h
        cases h
        decide
      patterns := hpatterns
      header := eq_ok_of_toOption (by decide +kernel)
      footer := rfl
      sources := ⟨_, .line rfl, hpatterns, hexpand⟩
      sources_ne := by decide
      output_ne := by decide
      found := by decide +kernel }

/-- The compiler cannot be started. -/
def unlaunched : Launcher := fun _ _ _ => .error .notFound

/-- The first source is the header and the output too, and the other two are skipped. -/
theorem uncompiled_run_in_place :
    Arguments.parse mixedLine = .ok mixedArguments ∧ mixedArguments.has .noCompile = true ∧
      (outcome unlaunched [] mixedLine mixedTree).code = 0 ∧
      (outcome unlaunched [] mixedLine mixedTree).files.IsWith mixedTree ⟨"a.js"⟩
        (Utf8.encode "x(); \nx(); \n".toList) ∧
      ∃ mode, (outcome unlaunched [] mixedLine mixedTree).files.find ⟨"a.js"⟩ =
        .ok (.file (Utf8.encode "x(); \nx(); \n".toList) mode) := by
  have hp : Arguments.parse mixedLine = .ok mixedArguments := eq_ok_of_toOption (by decide +kernel)
  have htext : mixedPlan.text mixedTree mixedArguments = "x(); \nx(); \n" := by decide +kernel
  have hwrite : mixedTree.writeText ⟨"a.js"⟩ "x(); \nx(); \n" = .ok (mixedTree.insert ["work", "a.js"]
      (.file (Utf8.encode "x(); \nx(); \n".toList) Mode.file)) :=
    eq_ok_of_toOption (by decide +kernel)
  have hfind : mixedTree.find ⟨"a.js"⟩ =
      .ok (.file (Utf8.encode "x();\x7b@x y \x7d@x\n".toList) Mode.file) :=
    eq_ok_of_toOption (by decide +kernel)
  obtain ⟨hcode, hafter⟩ := uncompiled_run unlaunched [] mixedLine mixedTree mixedArguments
    hp rfl
  have hok := hcode.2 ⟨mixedPlan, ready_mixedPlan, _, by rw [htext]; exact hwrite⟩
  obtain ⟨hwith, hholds⟩ := hafter hok mixedPlan ready_mixedPlan
  rw [htext] at hwith hholds
  refine ⟨hp, rfl, hok, hwith, hholds fun kind taken h => ?_⟩
  rw [mixedPlan, hfind] at h
  cases h

/-- A text, and a device that drops what it is given. -/
def droppingTree : FileTree :=
  { start := ["work"]
    entries := [(["work"], .directory Mode.directory),
      (["work", "a.js"], .file (Utf8.encode "a();\n".toList) Mode.file),
      (["dev"], .directory Mode.directory), (["dev", "null"], .device .null [])] }

def droppedPlan : Plan :=
  { header := "", footer := "", sources := [⟨"a.js"⟩], output := "/dev/null" }

def droppedLine : List String := ["--source", "a.js", "--output", "/dev/null", "--nocompile"]

def droppedArguments : Arguments :=
  { sources := ["a.js"], output := some "/dev/null", flags := [.noCompile] }

theorem ready_droppedPlan : Ready droppingTree droppedArguments droppedPlan := by
  have hexpand : Sources.expand droppingTree droppedArguments.sources = .ok droppedPlan.sources :=
    eq_ok_of_toOption (by decide +kernel)
  have hpatterns := Sources.exists_expand_iff.1 ⟨_, hexpand⟩
  exact
    { labels := nofun
      patterns := hpatterns
      header := rfl
      footer := rfl
      sources := ⟨_, .line rfl, hpatterns, hexpand⟩
      sources_ne := by decide
      output_ne := by decide
      found := by decide +kernel }

/-- A run whose output is that device succeeds, and nothing can be read there. -/
theorem uncompiled_output_is_dropped :
    Arguments.parse droppedLine = .ok droppedArguments ∧ droppedArguments.has .noCompile = true ∧
      Ready droppingTree droppedArguments droppedPlan ∧
      droppedPlan.text droppingTree droppedArguments = "a();\n" ∧
      (outcome unlaunched [] droppedLine droppingTree).code = 0 ∧
      (outcome unlaunched [] droppedLine droppingTree).files.readText ⟨"/dev/null"⟩ = .ok "" := by
  have hp : Arguments.parse droppedLine = .ok droppedArguments :=
    eq_ok_of_toOption (by decide +kernel)
  have htext : droppedPlan.text droppingTree droppedArguments = "a();\n" := by decide +kernel
  have hwrite : droppingTree.writeText ⟨"/dev/null"⟩ "a();\n" =
      .ok (droppingTree.insert ["dev", "null"] (.device .null [])) :=
    eq_ok_of_toOption (by decide +kernel)
  have hread : (droppingTree.insert ["dev", "null"] (.device .null [])).readText ⟨"/dev/null"⟩ =
      .ok "" :=
    eq_ok_of_toOption (by decide +kernel)
  obtain ⟨log, log', hrun⟩ :=
    ready_droppedPlan.run (w := { files := droppingTree }) unlaunched [] rfl
  rw [htext, droppedPlan, hwrite] at hrun
  refine ⟨hp, rfl, ready_droppedPlan, htext, ?_, ?_⟩
  · rw [code_outcome_eq_zero_iff hp, hrun]
  · rw [(outcome_of_parse unlaunched [] droppingTree hp).1, hrun]
    exact hread

end CommandLine
end ScriptBundle
