import ScriptBundle.Draft
import ScriptBundle.Proofs.Sources.Merge

/-!
# Taking a manifest

All that can fail when a manifest is taken comes before the first change to the configuration, and does
not look at it: `takeManifest` loads the two fields (`loadManifest`) and then assigns both of them
(`takeManifest_eq`). So it takes the whole manifest or nothing of it, and what it takes does not depend
on what was there before (`takeManifest_all_or_nothing`). `Config.applyPackage` puts the same load into
a new configuration (`applyPackage_eq`), which is why it comes to the same.
-/

namespace ScriptBundle

theorem Sources.expand_eq_error_iff {t : FileTree} {entries : List String} {e : Error} :
    expand t entries = .error e ↔ ∃ before entry after cause, entries = before ++ entry :: after ∧
      Readable before ∧ Pattern.hasWildcard entry = true ∧
        Pattern.parse entry.toList = .error cause ∧ e = .pattern entry cause := by
  have hok : ∀ text, (∃ paths, glob t text = .ok paths) ↔ ∃ q, Pattern.parse text.toList = .ok q := by
    intro text
    unfold glob
    cases Pattern.parse text.toList <;> simp [bind, Except.bind, pure, Except.pure]
  have herror : ∀ text cause, glob t text = .error cause ↔ Pattern.parse text.toList = .error cause := by
    intro text cause
    unfold glob
    cases Pattern.parse text.toList <;> simp [bind, Except.bind, pure, Except.pure]
  simp only [expand, expandWith_eq_error_iff, hok, herror, Readable]

/-- The fields that a manifest sets, apart from the configuration that they are meant for. -/
def Action.loadManifest (decode : String → Except Manifest.Error WebModule) (path : Path) :
    Action (List Path × Option Path) := do
  let text ← readText path
  let webModule ← ofExcept (.manifest path) (decode text)
  report .debug .config s!"Loaded webmodule section from {path}"
  let sources ← ofExcept id (Sources.expand (← files) webModule.source)
  return (sources, if webModule.output = "" then none else some ⟨webModule.output⟩)

/-- Why nothing can be taken from the manifest at a path. -/
inductive ManifestFault (decode : String → Except Manifest.Error WebModule) (path : Path)
    (t : FileTree) : Error → Prop where
  | read {cause : FileError} (hread : t.readText path = .error cause) :
    ManifestFault decode path t (.read path cause)
  | manifest {text : String} {cause : Manifest.Error} (hread : t.readText path = .ok text)
    (hdecode : decode text = .error cause) : ManifestFault decode path t (.manifest path cause)
  /-- The first pattern that cannot be read, after any number of entries. -/
  | pattern {text : String} {webModule : WebModule} {before after : List String} {entry : String}
    {cause : Pattern.Error} (hread : t.readText path = .ok text) (hdecode : decode text = .ok webModule)
    (hsource : webModule.source = before ++ entry :: after) (hbefore : Sources.Readable before)
    (hw : Pattern.hasWildcard entry = true) (hparse : Pattern.parse entry.toList = .error cause) :
    ManifestFault decode path t (.pattern entry cause)

variable {decode : String → Except Manifest.Error WebModule} {path : Path} {w w' : Workspace}
variable {c c' : Config} {e : Error}

namespace Action

theorem keepsFiles_loadManifest (decode : String → Except Manifest.Error WebModule) (path : Path) :
    KeepsFiles (loadManifest decode path) :=
  .bind (.readText path) fun _ => .bind (.ofExcept _ _) fun _ => .bind (.report _ _ _) fun _ =>
    .bind .files fun _ => .bind (.ofExcept _ _) fun _ => .pure _

/-- A load fails with the first fault of the manifest. -/
theorem run_loadManifest_error_iff :
    (∃ w', (loadManifest decode path).run w = (.error e, w')) ↔
      ManifestFault decode path w.files e := by
  unfold loadManifest
  constructor
  · rintro ⟨w', h⟩
    rcases run_bind_eq_error h with hr | ⟨text, w₁, hr, h₁⟩
    · obtain ⟨⟨cause, hread, rfl⟩, -⟩ := run_readText_error_iff.1 hr
      exact .read hread
    obtain ⟨hread, rfl⟩ := run_readText_iff.1 hr
    rcases run_bind_eq_error h₁ with hd | ⟨webModule, w₂, hd, h₂⟩
    · obtain ⟨⟨cause, hdecode, rfl⟩, -⟩ := run_ofExcept_error_iff.1 hd
      exact .manifest hread hdecode
    obtain ⟨hdecode, rfl⟩ := run_ofExcept_iff.1 hd
    rw [run_bind_ok (run_report _ _ _), run_bind_ok run_files] at h₂
    rcases run_bind_eq_error h₂ with he | ⟨sources, w₃, -, h₃⟩
    · obtain ⟨⟨_, hexpand, rfl⟩, -⟩ := run_ofExcept_error_iff.1 he
      obtain ⟨before, entry, after, cause, hsource, hbefore, hw, hparse, rfl⟩ :=
        Sources.expand_eq_error_iff.1 hexpand
      exact .pattern hread hdecode hsource hbefore hw hparse
    · cases h₃
  · intro h
    cases h with
    | read hread => exact ⟨w, run_bind_error (run_readText_error_iff.2 ⟨⟨_, hread, rfl⟩, rfl⟩) _⟩
    | manifest hread hdecode =>
      rw [run_bind_ok (run_readText_iff.2 ⟨hread, rfl⟩)]
      exact ⟨w, run_bind_error (run_ofExcept_error_iff.2 ⟨⟨_, hdecode, rfl⟩, rfl⟩) _⟩
    | pattern hread hdecode hsource hbefore hw hparse =>
      have hexpand := Sources.expand_eq_error_iff (t := w.files).2
        ⟨_, _, _, _, hsource, hbefore, hw, hparse, rfl⟩
      rw [run_bind_ok (run_readText_iff.2 ⟨hread, rfl⟩),
        run_bind_ok (run_ofExcept_iff.2 ⟨hdecode, rfl⟩), run_bind_ok (run_report _ _ _),
        run_bind_ok run_files]
      exact ⟨_, run_bind_error (run_ofExcept_error_iff.2 ⟨⟨_, hexpand, rfl⟩, rfl⟩) _⟩

theorem eq_error_iff_of_run_loadManifest {loaded : Except Error (List Path × Option Path)}
    (h : (loadManifest decode path).run w = (loaded, w')) :
    loaded = .error e ↔ ManifestFault decode path w.files e := by
  rw [← run_loadManifest_error_iff, h]
  constructor
  · rintro rfl
    exact ⟨w', rfl⟩
  · rintro ⟨w₁, h⟩
    exact congrArg Prod.fst h

/-- A load succeeds just when the manifest can be read and decoded, and its patterns can be read. -/
theorem run_loadManifest_iff {fields : List Path × Option Path} :
    (∃ w', (loadManifest decode path).run w = (.ok fields, w')) ↔
      ∃ text m sources, w.files.readText path = .ok text ∧ decode text = .ok m ∧
        Sources.expand w.files m.source = .ok sources ∧
        fields = (sources, if m.output = "" then none else some ⟨m.output⟩) := by
  unfold loadManifest
  constructor
  · rintro ⟨w', h⟩
    obtain ⟨text, w₁, hr, h₁⟩ := run_bind_eq_ok h
    obtain ⟨m, w₂, hd, h₂⟩ := run_bind_eq_ok h₁
    rw [run_bind_ok (run_report _ _ _), run_bind_ok run_files] at h₂
    obtain ⟨sources, w₃, he, h₃⟩ := run_bind_eq_ok h₂
    obtain ⟨hread, rfl⟩ := run_readText_iff.1 hr
    obtain ⟨hdecode, rfl⟩ := run_ofExcept_iff.1 hd
    obtain ⟨hexpand, -⟩ := run_ofExcept_iff.1 he
    cases h₃
    exact ⟨text, m, sources, hread, hdecode, hexpand, rfl⟩
  · rintro ⟨text, m, sources, hr, hd, he, rfl⟩
    rw [run_bind_ok (run_readText_iff.2 ⟨hr, rfl⟩), run_bind_ok (run_ofExcept_iff.2 ⟨hd, rfl⟩),
      run_bind_ok (run_report _ _ _), run_bind_ok run_files,
      run_bind_ok (run_ofExcept_iff.2 ⟨he, rfl⟩)]
    exact ⟨_, rfl⟩

end Action

theorem Config.applyPackage_eq (c : Config) (path : Path) : c.applyPackage path = do
    let (sources, output) ← Action.loadManifest Manifest.decode path
    return { c with sources, output } := by
  simp only [applyPackage, Action.loadManifest, bind_assoc, pure_bind]

/-- A manifest is taken just when it can be read and decoded, and its patterns can be read. -/
theorem Config.run_applyPackage_iff :
    (∃ w', (c.applyPackage path).run w = (.ok c', w')) ↔
      ∃ text m sources, w.files.readText path = .ok text ∧ Manifest.decode text = .ok m ∧
        Sources.expand w.files m.source = .ok sources ∧
        c' = { c with sources, output := if m.output = "" then none else some ⟨m.output⟩ } := by
  rw [applyPackage_eq]
  constructor
  · rintro ⟨w', h⟩
    obtain ⟨fields, w₁, hload, h⟩ := Action.run_bind_eq_ok h
    obtain ⟨text, m, sources, hr, hd, he, rfl⟩ := Action.run_loadManifest_iff.1 ⟨w₁, hload⟩
    cases h
    exact ⟨text, m, sources, hr, hd, he, rfl⟩
  · rintro ⟨text, m, sources, hr, hd, he, rfl⟩
    obtain ⟨w', hload⟩ := Action.run_loadManifest_iff.2 ⟨text, m, sources, hr, hd, he, rfl⟩
    exact ⟨w', Action.run_bind_ok hload _⟩

namespace Edit

variable {α β : Type} {d d' : Draft}

theorem run_perform {x : Action α} {result : Except Error α} (h : x.run d.workspace = (result, w)) :
    (perform x).run d = (result, { d with workspace := w }) := by
  change ((x.run d.workspace).1, { d with workspace := (x.run d.workspace).2 }) = _
  rw [h]

/-- Steps beside the configuration may be taken one by one or together. -/
theorem perform_bind (x : Action α) (f : α → Action β) :
    perform (x >>= f) = perform x >>= fun a => perform (f a) := by
  funext d
  change (perform (x >>= f)).run d = (perform x >>= fun a => perform (f a)).run d
  cases hr : x.run d.workspace with
  | mk result w =>
    cases result with
    | ok a =>
      rw [run_bind_of_ok (run_perform hr), run_perform (Action.run_bind_ok hr f)]
      rfl
    | error e => rw [run_bind_of_error (run_perform hr), run_perform (Action.run_bind_error hr f)]

theorem perform_pure (a : α) : perform (pure a) = pure a := rfl

theorem takeManifest_eq (decode : String → Except Manifest.Error WebModule) (path : Path) :
    takeManifest decode path = (do
      let (sources, output) ← perform (Action.loadManifest decode path)
      setSources sources
      setOutput output) := by
  simp only [takeManifest, Action.loadManifest, perform_bind, perform_pure, bind_assoc, pure_bind]

/-- What the load finds goes into whatever configuration there is, both fields or none. -/
theorem run_takeManifest_of_ok {sources : List Path} {output : Option Path}
    (h : (Action.loadManifest decode path).run w = (.ok (sources, output), w')) (c : Config) :
    (takeManifest decode path).run ⟨c, w⟩ = (.ok (), ⟨{ c with sources, output }, w'⟩) := by
  rw [takeManifest_eq, run_bind_of_ok (run_perform h)]
  rfl

theorem run_takeManifest_of_error (h : (Action.loadManifest decode path).run w = (.error e, w'))
    (c : Config) : (takeManifest decode path).run ⟨c, w⟩ = (.error e, ⟨c, w'⟩) := by
  rw [takeManifest_eq, run_bind_of_error (run_perform h)]

/-- Taking a manifest fails just with a fault of the manifest, and then the configuration is as it was.
If it succeeds, the sources and the output are those of the manifest, and all else is as it was. It ends
in the same way from any other configuration, and that then has the same sources and output. Making a
new configuration comes to the same. -/
theorem takeManifest_all_or_nothing (decode : String → Except Manifest.Error WebModule) (path : Path)
    (c c' : Config) (w w' : Workspace) (result : Except Error Unit)
    (hrun : (takeManifest decode path).run ⟨c, w⟩ = (result, ⟨c', w'⟩)) :
    (∀ e, result = .error e ↔ ManifestFault decode path w.files e) ∧
      (∀ e, result = .error e → c' = c) ∧
      (result = .ok () → ∃ text m sources, w.files.readText path = .ok text ∧ decode text = .ok m ∧
        Sources.expand w.files m.source = .ok sources ∧
        c' = { c with sources, output := if m.output = "" then none else some ⟨m.output⟩ }) ∧
      (∀ d, ∃ d', (takeManifest decode path).run ⟨d, w⟩ = (result, ⟨d', w'⟩) ∧
        (result = .ok () → d' = { d with sources := c'.sources, output := c'.output })) ∧
      w'.files = w.files ∧
      (decode = Manifest.decode →
        (c.applyPackage path).run w = (result.map fun _ => c', w')) := by
  have hfiles := Action.keepsFiles_loadManifest decode path w
  cases hload : (Action.loadManifest decode path).run w with
  | mk loaded w₁ =>
    rw [hload] at hfiles
    cases loaded with
    | error cause =>
      cases (run_takeManifest_of_error hload c).symm.trans hrun
      refine ⟨fun e => ?_, fun _ _ => rfl, nofun, fun d => ?_, hfiles, ?_⟩
      · rw [← Action.eq_error_iff_of_run_loadManifest hload, Except.error.injEq, Except.error.injEq]
      · exact ⟨d, run_takeManifest_of_error hload d, nofun⟩
      · rintro rfl
        rw [Config.applyPackage_eq, Action.run_bind_error hload]
        rfl
    | ok fields =>
      cases (run_takeManifest_of_ok hload c).symm.trans hrun
      refine ⟨fun e => ⟨nofun, fun h => ?_⟩, nofun, fun _ => ?_, fun d => ?_, hfiles, ?_⟩
      · cases (Action.eq_error_iff_of_run_loadManifest hload).2 h
      · obtain ⟨text, m, sources, hr, hd, he, rfl⟩ := Action.run_loadManifest_iff.1 ⟨_, hload⟩
        exact ⟨text, m, sources, hr, hd, he, rfl⟩
      · exact ⟨_, run_takeManifest_of_ok hload d, fun _ => rfl⟩
      · rintro rfl
        rw [Config.applyPackage_eq, Action.run_bind_ok hload]
        rfl

def manifestText (fields : String) : String := "\x7b\"webmodule\": \x7b" ++ fields ++ "\x7d\x7d"

/-- The last of the entries cannot be read, after two that can. -/
def brokenText : String :=
  manifestText "\"source\": [\"a.js\", \"*.js\", \"[\"], \"output\": \"new.min.js\""

def completeText : String := manifestText "\"source\": [\"a.js\", \"*.js\"]"

/-- Both manifests, and beside them the directory of the build. -/
def manifestTree : FileTree :=
  { start := ["work", "lib"]
    entries := [(["work"], .directory Mode.directory), (["work", "lib"], .directory Mode.directory),
      (["work", "lib", "b.js"], .file [] Mode.file),
      (["work", "broken.json"], .file (Utf8.encode brokenText.toList) Mode.file),
      (["work", "package.json"], .file (Utf8.encode completeText.toList) Mode.file)] }

def manifestSpace : Workspace := { files := manifestTree }

/-- A configuration with sources and an output. -/
def given : Config := { sources := [⟨"old.js"⟩], output := some ⟨"old.min.js"⟩, header := "// old" }

theorem takeManifest_all_or_nothing_broken :
    (∃ w', (takeManifest Manifest.decode ⟨"../broken.json"⟩).run ⟨given, manifestSpace⟩ =
        (.error (.pattern "[" ⟨0, .openClass⟩), ⟨given, w'⟩)) ∧
      ∃ w', (takeManifest Manifest.decode ⟨"../package.json"⟩).run ⟨given, manifestSpace⟩ =
          (.ok (), ⟨{ given with sources := [⟨"a.js"⟩, ⟨"b.js"⟩], output := none }, w'⟩) ∧
        (given.applyPackage ⟨"../package.json"⟩).run manifestSpace =
          (.ok { given with sources := [⟨"a.js"⟩, ⟨"b.js"⟩], output := none }, w') := by
  constructor
  · have hparse : ∀ entry ∈ ["a.js", "*.js"], (Pattern.parse entry.toList).toOption.isSome := by
      decide +kernel
    have hbefore : Sources.Readable ["a.js", "*.js"] := by
      intro entry hentry _
      obtain ⟨q, hq⟩ := Option.isSome_iff_exists.1 (hparse entry hentry)
      exact ⟨q, eq_ok_of_toOption hq⟩
    have hfault : ManifestFault Manifest.decode ⟨"../broken.json"⟩ manifestTree
        (.pattern "[" ⟨0, .openClass⟩) :=
      .pattern (eq_ok_of_toOption (a := brokenText) (by decide +kernel))
        (eq_ok_of_toOption (a := ⟨["a.js", "*.js"] ++ "[" :: [], "new.min.js"⟩) (by decide +kernel))
        rfl hbefore (by decide) (by cbv)
    cases hrun : (takeManifest Manifest.decode ⟨"../broken.json"⟩).run ⟨given, manifestSpace⟩ with
    | mk result d =>
      have hall := takeManifest_all_or_nothing _ _ _ _ _ _ _ hrun
      have herror := (hall.1 _).2 hfault
      refine ⟨d.workspace, ?_⟩
      rw [herror, ← hall.2.1 _ herror]
  · have hread : manifestTree.readText ⟨"../package.json"⟩ = .ok completeText :=
      eq_ok_of_toOption (by decide +kernel)
    have hdecode : Manifest.decode completeText = .ok ⟨["a.js", "*.js"], ""⟩ :=
      eq_ok_of_toOption (by decide +kernel)
    have hexpand : Sources.expand manifestTree ["a.js", "*.js"] = .ok [⟨"a.js"⟩, ⟨"b.js"⟩] :=
      eq_ok_of_toOption (by decide +kernel)
    obtain ⟨w', hload⟩ := (Action.run_loadManifest_iff (w := manifestSpace)).2
      ⟨completeText, _, _, hread, hdecode, hexpand, rfl⟩
    have hrun := run_takeManifest_of_ok hload given
    exact ⟨w', hrun, (takeManifest_all_or_nothing _ _ _ _ _ _ _ hrun).2.2.2.2.2 rfl⟩

end Edit
end ScriptBundle
