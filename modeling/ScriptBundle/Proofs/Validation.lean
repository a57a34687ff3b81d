import ScriptBundle.Bundle
import ScriptBundle.Proofs.Sources.Merge

/-!
# Checking a configuration

A check passes if there are sources, an output, and something at every source, and it names the first
source with nothing there. When the sources come from entries, a source is either a regular file that a
pattern finds, or spelled as the entry that stands for nothing else. The first kind is there, so what
a check names is an entry as it was written (`validate_expanded`).
-/

namespace ScriptBundle

theorem FileTree.has_of_isFile {t : FileTree} {p : Path} (h : t.isFile p = true) : t.has p = true := by
  unfold isFile at h
  unfold has
  cases hf : t.find p with
  | error cause =>
    rw [hf] at h
    cases h
  | ok node => rfl

namespace Config

variable {c : Config} {t : FileTree} {p : Path} {entries : List String}

theorem validate_eq_ok_iff {c : Config} {t : FileTree} : c.validate t = .ok () ↔
    c.sources ≠ [] ∧ (∃ output, c.output = some output ∧ output.spelling ≠ "") ∧
      ∀ p ∈ c.sources, t.has p = true := by
  unfold validate
  by_cases hs : c.sources = []
  · simp [hs]
  · rw [if_neg hs]
    cases ho : c.output with
    | none => simp
    | some output =>
      by_cases he : output.spelling = ""
      · simp [he]
      · cases hf : c.sources.find? (!t.has ·) with
        | none =>
          rw [List.find?_eq_none] at hf
          simpa [hs, he] using hf
        | some missing =>
          have hmem := List.mem_of_find?_eq_some hf
          have hno := List.find?_some hf
          refine ⟨by simp [he], fun h => ?_⟩
          rw [h.2.2 missing hmem] at hno
          cases hno

/-- A source is named as missing if it is not there and all before it are. -/
theorem exists_split_of_validate (h : c.validate t = .error (.sourceNotFound p)) :
    t.has p = false ∧ ∃ before after, c.sources = before ++ p :: after ∧
      ∀ q ∈ before, t.has q = true := by
  unfold validate at h
  split at h
  · cases h
  · split at h
    · cases h
    · split at h
      · next missing hfind =>
        cases h
        obtain ⟨hno, before, after, hsources, hbefore⟩ := List.find?_eq_some_iff_append.1 hfind
        exact ⟨by simpa using hno, before, after, hsources, by simpa using hbefore⟩
      · cases h

open Sources (expandWith filesOf)

variable {glob : String → Except Pattern.Error (List Path)}

/-- A source that is not there is spelled as an entry that finds no file. -/
theorem mem_of_standsFor {entry : String} (hentry : entry ∈ entries)
    (hp : Sources.StandsFor glob t.isFile entry p) (hno : t.has p = false) :
    p.spelling ∈ entries ∧ filesOf glob t.isFile p.spelling = [] := by
  rcases hp with hfile | ⟨hnone, rfl⟩
  · rw [FileTree.has_of_isFile (Sources.isFile_of_mem_filesOf hfile)] at hno
    cases hno
  · exact ⟨hentry, hnone⟩

/-- If the sources come from entries, the source that a check names as missing is spelled as one of them,
one that found no file, and nothing is there; all sources before it are there, and none is the same path.
If there are entries and an output, and every entry finds a file or is a path to something, the check
passes. -/
theorem validate_expanded (glob : String → Except Pattern.Error (List Path)) (t : FileTree)
    (entries : List String) (c : Config) (hexpand : expandWith glob t.isFile entries = .ok c.sources) :
    (∀ p, c.validate t = .error (.sourceNotFound p) →
      p.spelling ∈ entries ∧ filesOf glob t.isFile p.spelling = [] ∧ t.has p = false ∧
        ∃ before after, c.sources = before ++ p :: after ∧
          ∀ q ∈ before, t.has q = true ∧ q.same p = false) ∧
      (entries ≠ [] → (∃ output, c.output = some output ∧ output.spelling ≠ "") →
        (∀ entry ∈ entries, filesOf glob t.isFile entry ≠ [] ∨ t.has ⟨entry⟩ = true) →
        c.validate t = .ok ()) := by
  constructor
  · intro p hv
    obtain ⟨hno, before, after, hsources, hbefore⟩ := exists_split_of_validate hv
    have hmem : p ∈ c.sources := hsources ▸ List.mem_append_right before List.mem_cons_self
    obtain ⟨entry, hentry, hp⟩ := Sources.exists_standsFor_of_mem hexpand hmem
    obtain ⟨hspelled, hnone⟩ := mem_of_standsFor hentry hp hno
    have hdistinct := Sources.pairwise_expandWith hexpand
    rw [hsources, List.pairwise_append] at hdistinct
    refine ⟨hspelled, hnone, hno, before, after, hsources, fun q hq => ⟨hbefore q hq, ?_⟩⟩
    exact hdistinct.2.2 q hq p List.mem_cons_self
  · intro hne houtput hentries
    refine validate_eq_ok_iff.2 ⟨?_, houtput, fun p hp => ?_⟩
    · exact mt (Sources.eq_nil_iff_of_expandWith hexpand).1 hne
    · obtain ⟨entry, hentry, hstands⟩ := Sources.exists_standsFor_of_mem hexpand hp
      rcases hstands with hfile | ⟨hnone, rfl⟩
      · exact FileTree.has_of_isFile (Sources.isFile_of_mem_filesOf hfile)
      · exact (hentries entry hentry).resolve_left fun hfound => hfound hnone

/-- A directory with a script in it, and a script beside it. -/
def libraryTree : FileTree :=
  { start := ["work"]
    entries := [(["work"], .directory Mode.directory),
      (["work", "b.js"], .file [] Mode.file), (["work", "lib"], .directory Mode.directory),
      (["work", "lib", "a.js"], .file [] Mode.file)] }

/-- What a star finds there. -/
def besideLibrary (entry : String) : Except Pattern.Error (List Path) :=
  .ok (if entry = "*" then [⟨"lib"⟩, ⟨"b.js"⟩] else [])

def bundleOf (sources : List Path) : Config := { sources, output := some ⟨"out.js"⟩ }

/-- A directory is a source that is there. The pattern for styles finds nothing, and neither it nor a
second spelling of the first entry is before the star's script. -/
theorem validate_expanded_unmatched :
    expandWith besideLibrary libraryTree.isFile ["lib//a.js", "*", "lib/./a.js", "lib", "*.css"] =
        .ok [⟨"lib//a.js"⟩, ⟨"b.js"⟩, ⟨"lib"⟩, ⟨"*.css"⟩] ∧
      (bundleOf [⟨"lib//a.js"⟩, ⟨"b.js"⟩, ⟨"lib"⟩, ⟨"*.css"⟩]).validate libraryTree =
        .error (.sourceNotFound ⟨"*.css"⟩) ∧
      filesOf besideLibrary libraryTree.isFile "*.css" = [] ∧ libraryTree.has ⟨"*.css"⟩ = false ∧
      (bundleOf [⟨"b.js"⟩, ⟨"lib/a.js"⟩]).validate libraryTree = .ok () := by
  have hexpand : expandWith besideLibrary libraryTree.isFile
      ["lib//a.js", "*", "lib/./a.js", "lib", "*.css"] =
        .ok [⟨"lib//a.js"⟩, ⟨"b.js"⟩, ⟨"lib"⟩, ⟨"*.css"⟩] := eq_ok_of_toOption (by decide +kernel)
  have hfound : expandWith besideLibrary libraryTree.isFile ["*", "lib/a.js"] =
      .ok [⟨"b.js"⟩, ⟨"lib/a.js"⟩] := eq_ok_of_toOption (by decide +kernel)
  have hmissing : (bundleOf [⟨"lib//a.js"⟩, ⟨"b.js"⟩, ⟨"lib"⟩, ⟨"*.css"⟩]).validate libraryTree =
      .error (.sourceNotFound ⟨"*.css"⟩) := by rfl
  have hnamed := (validate_expanded _ _ _ (bundleOf _) hexpand).1 _ hmissing
  refine ⟨hexpand, hmissing, hnamed.2.1, hnamed.2.2.1, ?_⟩
  exact (validate_expanded _ _ _ (bundleOf _) hfound).2 (by decide) ⟨⟨"out.js"⟩, rfl, by decide⟩
    (by decide +kernel)

end Config
end ScriptBundle
