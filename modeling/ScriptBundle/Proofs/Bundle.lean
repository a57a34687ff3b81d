import ScriptBundle.Bundle
import ScriptBundle.Proofs.Block.Joined
import ScriptBundle.Proofs.Workspace

/-!
# Bundles of stripped texts

A bundle that is not compiled is its joined texts, stripped. If all texts but the last end their
last line and keep no opener through the passes, it is as well the stripped texts, joined
(`strip_join`). Both conditions are needed: a block may span two files, and a marker may end or
lose its word at the border.
-/

namespace ScriptBundle

namespace Bundle

/-- What a source adds to a bundle: nothing if it cannot be read. -/
def textOf (t : FileTree) (p : Path) : String :=
  match t.readText p with
  | .ok text => text
  | .error _ => ""

/-- The texts of a bundle in order: header, sources, footer. -/
def texts (t : FileTree) (c : Config) : List String :=
  c.header :: c.sources.map (textOf t) ++ [c.footer]

theorem run_sourceText (p : Path) (w : Workspace) :
    ∃ log, (sourceText p).run w = (.ok (textOf w.files p), { w with log }) := by
  unfold sourceText textOf
  rw [Action.run_bind_ok Action.run_files]
  cases w.files.readText p with
  | ok text => exact ⟨w.log, rfl⟩
  | error cause => exact ⟨_, rfl⟩

theorem run_mapM_sourceText (sources : List Path) (w : Workspace) :
    ∃ log, (sources.mapM sourceText).run w =
      (.ok (sources.map (textOf w.files)), { w with log }) := by
  induction sources generalizing w with
  | nil => exact ⟨w.log, rfl⟩
  | cons p sources ih =>
    obtain ⟨log, hp⟩ := run_sourceText p w
    obtain ⟨log', hs⟩ := ih { w with log }
    refine ⟨log', ?_⟩
    rw [List.mapM_cons, Action.run_bind_ok hp, Action.run_bind_ok hs]
    rfl

/-- A build strips the joined texts, changes no file on the way, and hands them on. -/
theorem run_build_eq (launch : Launcher) (c : Config) (w : Workspace) :
    ∃ log, (build launch c).run w =
      (if c.compile then
          Compiler.minify launch c (strip c.labels.toList (String.join (texts w.files c)))
        else pure (strip c.labels.toList (String.join (texts w.files c)))).run { w with log } := by
  obtain ⟨log, hs⟩ := run_mapM_sourceText c.sources w
  have hjoin : String.join (texts w.files c) =
      c.header ++ String.join (c.sources.map (textOf w.files)) ++ c.footer := by
    simp [texts, String.append_assoc]
  have hconcat : (concat c.sources c.header c.footer).run w =
      (.ok (String.join (texts w.files c)), { w with log }) := by
    rw [concat, Action.run_bind_ok hs, hjoin]
    rfl
  unfold build
  rw [Action.run_bind_ok hconcat, Action.run_bind_ok (Action.run_report _ _ _)]
  exact ⟨_, rfl⟩

/-- Without the compiler a build gives the joined texts, stripped, and changes no file. -/
theorem run_build (launch : Launcher) {c : Config} (hc : c.compile = false) (w : Workspace) :
    ∃ log, (build launch c).run w =
      (.ok (strip c.labels.toList (String.join (texts w.files c))), { w with log }) := by
  obtain ⟨log, hrun⟩ := run_build_eq launch c w
  rw [hc, if_neg Bool.false_ne_true] at hrun
  exact ⟨log, hrun⟩

end Bundle

variable {labels : List String}

theorem strip_empty (labels : List String) : strip labels "" = "" := by
  have h : ∀ labels, stripLabels labels [] = [] := by
    intro labels
    induction labels with
    | nil => rfl
    | cons label labels ih => simpa [stripLabel] using ih
  apply String.toList_injective
  rw [toList_strip]
  exact h _

theorem clearsOpeners_map {text : String}
    (hc : ∀ before label after, labels = before ++ label :: after →
      ∀ i, ¬Marker.At (opener label.toList) (strip (before ++ [label]) text).toList i) :
    ClearsOpeners (labels.map String.toList) (Lines.normalize text.toList) := by
  intro before label after he
  obtain ⟨before', rest, rfl, rfl, hr⟩ := List.map_eq_append_iff.1 he
  obtain ⟨label', after', rfl, rfl, -⟩ := List.map_eq_cons_iff.1 hr
  intro i ha
  refine hc before' label' after' rfl i ?_
  rw [toList_strip, List.map_append]
  exact ha

/-- Stripping goes over a text that ends its last line and keeps no opener as if it were alone. -/
theorem strip_append (hl : ∀ label ∈ labels, '\n' ∉ label.toList) {text : String}
    (he : Lines.Ended text.toList)
    (hc : ClearsOpeners (labels.map String.toList) (Lines.normalize text.toList)) (more : String) :
    strip labels (text ++ more) = strip labels text ++ strip labels more := by
  apply String.toList_injective
  rw [String.toList_append, toList_strip, toList_strip, toList_strip, String.toList_append,
    Lines.normalize_append he]
  exact stripLabels_append_text (List.forall_mem_map.2 hl) (Lines.ended_normalize he) hc _

/-- If every text but the last ends its last line and keeps, right after the pass of a label, no
opener of it, then stripping the joined texts is joining the stripped texts, and that is what a
build of these texts without the compiler gives. -/
theorem strip_join (labels : List String) (hl : ∀ label ∈ labels, '\n' ∉ label.toList)
    (texts : List String) (he : ∀ text ∈ texts.dropLast, Lines.Ended text.toList)
    (hc : ∀ text ∈ texts.dropLast, ∀ before label after, labels = before ++ label :: after →
      ∀ i, ¬Marker.At (opener label.toList) (strip (before ++ [label]) text).toList i) :
    strip labels (String.join texts) = String.join (texts.map (strip labels)) ∧
      ∀ (launch : Launcher) (c : Config) (w : Workspace), c.compile = false →
        c.labels.toList = labels → Bundle.texts w.files c = texts →
        ((Bundle.build launch c).run w).1 = .ok (String.join (texts.map (strip labels))) := by
  have hjoin : strip labels (String.join texts) = String.join (texts.map (strip labels)) := by
    induction texts with
    | nil => exact strip_empty labels
    | cons text texts ih =>
      cases texts with
      | nil => simp
      | cons next texts =>
        rw [List.dropLast_cons_cons, List.forall_mem_cons] at he hc
        have hfirst := strip_append hl he.1 (clearsOpeners_map hc.1) (String.join (next :: texts))
        rw [String.join_cons, hfirst, ih he.2 hc.2]
        exact String.join_cons.symm
  refine ⟨hjoin, ?_⟩
  intro launch c w hcompile hlabels htexts
  obtain ⟨log, hrun⟩ := Bundle.run_build launch hcompile w
  rw [hrun, hlabels, htexts, hjoin]

/-- A marker of the last text stands right behind a border, and an opener there has no closer. -/
theorem strip_join_borders :
    (∀ label ∈ ["d", "f"], '\n' ∉ label.toList) ∧
      (∀ text ∈ ["a \x7b@d é \x7d@d\r\x7b@f\r\n1\n\x7d@f\n", ""], Lines.Ended text.toList) ∧
      (∀ text ∈ ["a \x7b@d é \x7d@d\r\x7b@f\r\n1\n\x7d@f\n", ""],
        ∀ before label after, ["d", "f"] = before ++ label :: after →
          ∀ i, ¬Marker.At (opener label.toList) (strip (before ++ [label]) text).toList i) ∧
      strip ["d", "f"] (String.join
          ["a \x7b@d é \x7d@d\r\x7b@f\r\n1\n\x7d@f\n", "", "\x7d@d\n\x7b@d \x7b@f \x7d@f"]) =
        String.join ["a  \n \n", "", "\x7d@d\n\x7b@d  "] ∧
      ∀ launch : Launcher, ((Bundle.build launch
          { header := "a \x7b@d é \x7d@d\r\x7b@f\r\n1\n\x7d@f\n"
            sources := [⟨"empty.js"⟩]
            footer := "\x7d@d\n\x7b@d \x7b@f \x7d@f"
            labels := .ofList ["d", "f"]
            compile := false }).run ⟨⟨[], [(["empty.js"], .file [] Mode.fresh)]⟩, []⟩).1 =
        .ok (String.join ["a  \n \n", "", "\x7d@d\n\x7b@d  "]) := by
  have hl : ∀ label ∈ ["d", "f"], '\n' ∉ label.toList := by decide
  have he : ∀ text ∈ ["a \x7b@d é \x7d@d\r\x7b@f\r\n1\n\x7d@f\n", ""],
      Lines.Ended text.toList := by decide
  have hc : ∀ text ∈ ["a \x7b@d é \x7d@d\r\x7b@f\r\n1\n\x7d@f\n", ""],
      ∀ before label after, ["d", "f"] = before ++ label :: after →
        ∀ i, ¬Marker.At (opener label.toList) (strip (before ++ [label]) text).toList i := by
    have hpasses : ∀ text ∈ ["a \x7b@d é \x7d@d\r\x7b@f\r\n1\n\x7d@f\n", ""],
        ∀ p ∈ [([], "d"), (["d"], "f")],
          ∀ i < (strip (p.1 ++ [p.2]) text).toList.length,
            ¬Marker.At (opener p.2.toList) (strip (p.1 ++ [p.2]) text).toList i := by
      decide +kernel
    intro text ht before label after hs
    have hp : (before, label) ∈ [([], "d"), (["d"], "f")] := by
      rcases before with _ | ⟨b, _ | ⟨b', before⟩⟩ <;> simp_all
    have hlt := hpasses text ht (before, label) hp
    dsimp only at hlt
    exact Marker.not_at_of_forall_lt (opener_ne_nil label.toList) hlt
  have hv : ["a \x7b@d é \x7d@d\r\x7b@f\r\n1\n\x7d@f\n", "", "\x7d@d\n\x7b@d \x7b@f \x7d@f"].map
      (strip ["d", "f"]) = ["a  \n \n", "", "\x7d@d\n\x7b@d  "] := by decide +kernel
  have h := strip_join ["d", "f"] hl
    ["a \x7b@d é \x7d@d\r\x7b@f\r\n1\n\x7d@f\n", "", "\x7d@d\n\x7b@d \x7b@f \x7d@f"] he hc
  rw [hv] at h
  exact ⟨hl, he, hc, h.1, fun launch => h.2 launch _ _ rfl (by decide +kernel) (by decide +kernel)⟩

end ScriptBundle
