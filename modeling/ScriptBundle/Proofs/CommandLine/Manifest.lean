import ScriptBundle.Proofs.CommandLine.Labels

/-!
# A manifest against the command line

With a manifest the sources and the output of a command line have no say: but for the expansion of
its sources, which comes first and may fail, the configuration of a line is the same whatever these
are (`config_of_package`). So two lines that read alike apart from them describe the same
configuration.
-/

namespace ScriptBundle.CommandLine

/-- Whether a manifest gives the same thing too. -/
def Item.isOverridden : Item → Bool
  | .valued .source _ | .valued .output _ => true
  | _ => false

namespace Arguments

/-- The arguments without what a manifest gives too. -/
def unnamed (a : Arguments) : Arguments := { a with sources := [], output := none }

theorem unnamed_add (a : Arguments) (item : Item) :
    (a.add item).unnamed = if item.isOverridden then a.unnamed else a.unnamed.add item := by
  cases item with
  | bare text => rfl
  | valued v value => cases v <;> rfl
  | flag f => rfl

theorem unnamed_foldl_add (items : List Item) (a : Arguments) :
    (items.foldl add a).unnamed = (items.filter (!·.isOverridden)).foldl add a.unnamed := by
  induction items generalizing a with
  | nil => rfl
  | cons item items ih =>
    rw [List.foldl_cons, ih, unnamed_add, List.filter_cons]
    cases item.isOverridden <;> rfl

theorem of_unnamed_eq {a a' : Arguments} (h : a.unnamed = a'.unnamed) :
    a.labels = a'.labels ∧ a.others = a'.others ∧ a.flags = a'.flags := by
  obtain ⟨labels, sources, options, output, header, footer, launcher, compilerJar, flags⟩ := a
  obtain ⟨labels', sources', options', output', header', footer', launcher', compilerJar',
    flags'⟩ := a'
  cases h
  exact ⟨rfl, rfl, rfl⟩

end Arguments

variable {env : Environment} {a a' : Arguments} {c : Config} {w w₁ : Workspace}

/-- The configuration of a line with a manifest, after the expansion of its sources. -/
def overridden (env : Environment) (a : Arguments) : Action Config := do
  let c ← config env a.others
  return { c with labels := .extend .defaults (a.labels.map (·.text)) }

/-- With a manifest, what the sources expand to is not looked at. -/
theorem config_of_package (hs : strayArgument? a.labels = none) (hp : a.has .package = true) :
    config env a =
      (Action.files >>= fun t => Action.ofExcept id (Sources.expand t a.sources) >>= fun _ =>
        overridden env a) := by
  rw [config_eq hs]
  refine bind_congr fun t => bind_congr fun listed => bind_congr fun c => ?_
  exact if_pos hp

theorem overridden_congr (env : Environment) (h : a.unnamed = a'.unnamed) :
    overridden env a = overridden env a' := by
  obtain ⟨hlabels, hothers, -⟩ := Arguments.of_unnamed_eq h
  rw [overridden, overridden, hothers, hlabels]

/-- A line with a manifest fails in its sources, or ends as all else on it does. -/
theorem run_config_of_package (hs : strayArgument? a.labels = none) (hp : a.has .package = true)
    (w : Workspace) :
    (∃ e, Sources.expand w.files a.sources = .error e ∧ (config env a).run w = (.error e, w)) ∨
      (config env a).run w = (overridden env a).run w := by
  rw [config_of_package hs hp, Action.run_bind_ok Action.run_files]
  cases hl : Sources.expand w.files a.sources with
  | error e =>
    refine .inl ⟨e, rfl, Action.run_bind_error ?_ _⟩
    exact Action.run_ofExcept_error_iff.2 ⟨⟨e, rfl, rfl⟩, rfl⟩
  | ok listed => exact .inr (Action.run_bind_ok (Action.run_ofExcept_iff.2 ⟨rfl, rfl⟩) _)

theorem run_overridden_of_config (hp : a.has .package = true)
    (h : (config env a).run w = (.ok c, w₁)) : (overridden env a).run w = (.ok c, w₁) := by
  rcases run_config_of_package (of_run_config h).1 hp w with ⟨e, -, herror⟩ | hrun
  · rw [herror] at h
    cases h
  · exact hrun.symm.trans h

/-- Two lines with a manifest that read alike apart from sources and outputs: if both describe a
configuration, it is the same one, and the same is logged. If only one of them does, the first
pattern among the sources of the other that cannot be read is to blame. The indices that such items
take up on the lines have no part in this. -/
theorem config_eq_of_package (env : Environment) (w : Workspace) (line line' : List String)
    (a a' : Arguments) (items items' : List Item) (hparse : Arguments.parse line = .ok a)
    (hparse' : Arguments.parse line' = .ok a') (hreads : Reads line items)
    (hreads' : Reads line' items')
    (hsame : items.filter (!·.isOverridden) = items'.filter (!·.isOverridden))
    (hp : Item.flag .package ∈ items) :
    (∀ index : Nat → Nat, (∀ i j, i < j → index i < index j) →
      (Matches.collect index items a).config env = config env a ∧
        (Matches.collect index items' a').config env = config env a') ∧
    (∀ c c' w₁ w₂, (config env a).run w = (.ok c, w₁) → (config env a').run w = (.ok c', w₂) →
      c = c' ∧ w₁ = w₂) ∧
    ∀ c e w₁ w₂, (config env a).run w = (.ok c, w₁) → (config env a').run w = (.error e, w₂) →
      ∃ before entry after cause, items'.filterMap (Item.value? .source) = before ++ entry :: after ∧
        Sources.Readable before ∧ Pattern.hasWildcard entry = true ∧
        Pattern.parse entry.toList = .error cause ∧ e = .pattern entry cause := by
  have ha := Arguments.eq_of_reads hparse hreads
  have ha' := Arguments.eq_of_reads hparse' hreads'
  have hunnamed : a.unnamed = a'.unnamed := by
    rw [ha, ha', Arguments.unnamed_foldl_add, Arguments.unnamed_foldl_add, hsame]
  obtain ⟨hlabels, -, hflags⟩ := Arguments.of_unnamed_eq hunnamed
  have hpackage : a.has .package = true := ha ▸ Arguments.has_foldl_add.2 hp
  have hpackage' : a'.has .package = true := by rwa [Arguments.has, ← hflags]
  have hcongr := overridden_congr env hunnamed
  refine ⟨fun index hindex => ?_, fun c c' w₁ w₂ hc hc' => ?_, fun c e w₁ w₂ hc he => ?_⟩
  · exact ⟨Matches.config_collect hindex ha env, Matches.config_collect hindex ha' env⟩
  · have hrun := run_overridden_of_config hpackage hc
    rw [hcongr, run_overridden_of_config hpackage' hc'] at hrun
    cases hrun
    exact ⟨rfl, rfl⟩
  · have hstray : strayArgument? a'.labels = none := hlabels ▸ (of_run_config hc).1
    rcases run_config_of_package hstray hpackage' w with ⟨e', hexpand, herror⟩ | hrun
    · rw [herror] at he
      cases he
      rw [ha', Arguments.sources_foldl_add] at hexpand
      exact Sources.expand_eq_error_iff.1 hexpand
    · rw [hrun, ← hcongr, run_overridden_of_config hpackage hc] at he
      cases he

/-- A project with a manifest. -/
def manifestProject : Workspace where
  files :=
    { start := ["work"]
      entries := [(["work"], .directory Mode.directory),
        (["work", "package.json"],
          .file (Utf8.encode
            (Edit.manifestText "\"source\": [\"a.js\"], \"output\": \"m.js\"").toList) Mode.file)] }

/-- The second line has sources and an output around the items of the first, and the third has a
source that is no pattern. -/
theorem config_eq_of_package_interleaved :
    ∃ (first second third : Arguments) (c : Config) (w : Workspace),
      Arguments.parse ["--package", "--label", "b", "@a"] = .ok first ∧
      Arguments.parse ["--source", "old.js", "--package", "--output=x.js", "--label", "b",
        "--source=lib.js", "@a"] = .ok second ∧
      Arguments.parse ["--source", "[", "--package", "--label", "b", "@a"] = .ok third ∧
      (config [] first).run manifestProject = (.ok c, w) ∧
      (config [] second).run manifestProject = (.ok c, w) ∧ c.output = some ⟨"m.js"⟩ ∧
      ∃ cause w', (config [] third).run manifestProject = (.error (.pattern "[" cause), w') := by
  obtain ⟨first, hfirst⟩ : ∃ first : Arguments, first =
      { labels := [.option "b", .bare "@a"], flags := [.package] } := ⟨_, rfl⟩
  obtain ⟨second, hsecond⟩ : ∃ second : Arguments, second =
      { labels := [.option "b", .bare "@a"], sources := ["old.js", "lib.js"], output := some "x.js"
        flags := [.package] } := ⟨_, rfl⟩
  obtain ⟨third, hthird⟩ : ∃ third : Arguments, third =
      { labels := [.option "b", .bare "@a"], sources := ["["], flags := [.package] } := ⟨_, rfl⟩
  have hparse₁ : Arguments.parse ["--package", "--label", "b", "@a"] = .ok first := by
    rw [hfirst]
    exact eq_ok_of_toOption (by decide +kernel)
  have hparse₂ : Arguments.parse ["--source", "old.js", "--package", "--output=x.js", "--label", "b",
      "--source=lib.js", "@a"] = .ok second := by
    rw [hsecond]
    exact eq_ok_of_toOption (by decide +kernel)
  have hparse₃ : Arguments.parse ["--source", "[", "--package", "--label", "b", "@a"] = .ok third := by
    rw [hthird]
    exact eq_ok_of_toOption (by decide +kernel)
  have hlabels : Reads ["--label", "b", "@a"] [.valued .label "b", .bare "@a"] :=
    .apart .label (.inr (by decide)) (.bare (by decide) .nil)
  have hreads₁ : Reads ["--package", "--label", "b", "@a"]
      [.flag .package, .valued .label "b", .bare "@a"] := .flag .package hlabels
  have hreads₂ : Reads ["--source", "old.js", "--package", "--output=x.js", "--label", "b",
      "--source=lib.js", "@a"] [.valued .source "old.js", .flag .package, .valued .output "x.js",
        .valued .label "b", .valued .source "lib.js", .bare "@a"] :=
    .apart .source (.inr (by decide)) (.flag .package (.joined .output "x.js"
      (.apart .label (.inr (by decide)) (.joined .source "lib.js" (.bare (by decide) .nil)))))
  have hreads₃ : Reads ["--source", "[", "--package", "--label", "b", "@a"]
      [.valued .source "[", .flag .package, .valued .label "b", .bare "@a"] :=
    .apart .source (.inr (by decide)) hreads₁
  have hc₁ : ((config [] first).run manifestProject).1 = .ok
      { sources := [⟨"a.js"⟩], output := some ⟨"m.js"⟩
        labels := .ofList ["dev", "debug", "assert", "b", "a"] } := by
    rw [hfirst]
    exact eq_ok_of_toOption (by decide +kernel)
  have hok₂ : ((config [] second).run manifestProject).1.toOption.isSome = true := by
    rw [hsecond]
    decide +kernel
  have hno₃ : ((config [] third).run manifestProject).1.toOption = none := by
    rw [hthird]
    decide +kernel
  have hrun₁ := Action.run_eq_of_result hc₁
  obtain ⟨c₂, hc₂⟩ := Option.isSome_iff_exists.1 hok₂
  have hrun₂ := Action.run_eq_of_result (eq_ok_of_toOption hc₂)
  obtain ⟨e, hrun₃⟩ : ∃ e, (config [] third).run manifestProject =
      (.error e, ((config [] third).run manifestProject).2) := by
    cases hr : ((config [] third).run manifestProject).1 with
    | ok c =>
      rw [hr] at hno₃
      cases hno₃
    | error e => exact ⟨e, Action.run_eq_of_result hr⟩
  obtain ⟨rfl, hlog⟩ := (config_eq_of_package [] manifestProject _ _ first second _ _ hparse₁ hparse₂
    hreads₁ hreads₂ (by decide) (by decide)).2.1 _ _ _ _ hrun₁ hrun₂
  obtain ⟨before, entry, after, cause, hentries, -, -, -, rfl⟩ :=
    (config_eq_of_package [] manifestProject _ _ first third _ _ hparse₁ hparse₃ hreads₁ hreads₃
      (by decide) (by decide)).2.2 _ _ _ _ hrun₁ hrun₃
  have hentry : entry = "[" := by
    have hmem : entry ∈ ["["] := by
      rw [show ["["] = before ++ entry :: after from hentries]
      exact List.mem_append_right before List.mem_cons_self
    exact List.mem_singleton.1 hmem
  rw [hentry] at hrun₃
  rw [← hlog] at hrun₂
  exact ⟨first, second, third, _, _, hparse₁, hparse₂, hparse₃, hrun₁, hrun₂, rfl, cause, _, hrun₃⟩

end ScriptBundle.CommandLine
