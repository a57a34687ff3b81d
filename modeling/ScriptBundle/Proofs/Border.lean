import ScriptBundle.Proofs.Block.Border
import ScriptBundle.Proofs.Bundle

/-!
# Borders between sources

Sources are joined as they are, with nothing in between, so a source may end inside a line. Two things
can then reach over a border: a word that goes on behind a closer takes the closer away, and an opener
may begin in one source and end in the next. Besides, a label's pass meets what the passes before it
left, so an opener that a later pass would have taken may still find a closer in another source. If
none of that is the case, then a bundle is its stripped sources, joined (`build_eq_join_strip`); and
it is not enough that no stripped source has a marker left (`build_ne_join_strip`).
-/

namespace ScriptBundle

namespace Bundle

theorem map_textOf {t : FileTree} {sources : List Path} {texts : List String}
    (h : sources.map t.readText = texts.map .ok) : sources.map (textOf t) = texts := by
  induction sources generalizing texts with
  | nil => exact (List.map_eq_nil_iff.1 h.symm).symm
  | cons p sources ih =>
    obtain ⟨text, texts', rfl, ht, hrest⟩ := List.map_eq_cons_iff.1 h.symm
    rw [List.map_cons, ih hrest.symm, textOf, ← ht]

/-- Sources that can all be read add their texts. -/
theorem texts_of_readable {t : FileTree} {c : Config} {texts : List String}
    (h : c.sources.map t.readText = texts.map .ok) :
    Bundle.texts t c = c.header :: texts ++ [c.footer] := by
  rw [Bundle.texts, map_textOf h]

end Bundle

variable {labels : List String} {text more : String}

/-- A border at which no opener begins in the text and ends behind it, and no closer is lost. -/
theorem cleanBorder_of_at
    (h : ∀ label ∈ labels,
      (∀ i < text.toList.length, Marker.At (opener label.toList) (text ++ more).toList i →
        Marker.At (opener label.toList) text.toList i) ∧
      ∀ i, Marker.At (closer label.toList) text.toList i →
        Marker.At (closer label.toList) (text ++ more).toList i) :
    ∀ label ∈ labels.map String.toList, CleanBorder label text.toList more.toList := by
  rw [List.forall_mem_map]
  intro label hm
  rw [String.toList_append] at h
  exact ⟨Marker.noneAcross_of_at (opener_ne_nil _) (h label hm).1,
    Marker.lasting_of_at (closer_ne_nil _) (h label hm).2⟩

theorem strip_append_of_cleanBorder (hl : ∀ label ∈ labels, IsName label.toList)
    (ht : '\r' ∉ text.toList) (hm : '\r' ∉ more.toList)
    (hc : ClearsOpeners (labels.map String.toList) text.toList)
    (h : ∀ label ∈ labels.map String.toList, CleanBorder label text.toList more.toList) :
    strip labels (text ++ more) = strip labels text ++ strip labels more := by
  have htm : '\r' ∉ text.toList ++ more.toList := by
    rw [List.mem_append]
    exact fun h => h.elim ht hm
  apply String.toList_injective
  rw [String.toList_append, toList_strip, toList_strip, toList_strip, String.toList_append,
    Lines.normalize_of_not_mem htm, Lines.normalize_of_not_mem ht, Lines.normalize_of_not_mem hm]
  exact stripLabels_append_of_cleanBorder (List.forall_mem_map.2 hl) hc h

/-- Stripping on both sides of a clean border makes no opener there. -/
theorem not_at_append_strip {label : String} (hl : ∀ label ∈ labels, IsName label.toList)
    (hlabel : label ∈ labels) (ht : '\r' ∉ text.toList) (hm : '\r' ∉ more.toList)
    (h : CleanBorder label.toList text.toList more.toList)
    (htext : ∀ i, ¬Marker.At (opener label.toList) (strip labels text).toList i)
    (hmore : ∀ i, ¬Marker.At (opener label.toList) (strip labels more).toList i) (i : Nat) :
    ¬Marker.At (opener label.toList) (strip labels text ++ strip labels more).toList i := by
  have hnames : ∀ label ∈ labels.map String.toList, IsName label := List.forall_mem_map.2 hl
  rw [String.toList_append]
  refine Marker.NoneAcross.not_at (opener_ne_nil _) ?_ htext hmore i
  rw [toList_strip, toList_strip, Lines.normalize_of_not_mem ht, Lines.normalize_of_not_mem hm]
  exact h.noneAcross.thinned (hl label hlabel).space_not_mem_opener
    (thinnedByBraced_stripLabels hnames _) (thinnedByBraced_stripLabels hnames _)

/-- Joining before stripping is joining after it, and no border makes an opener, if all borders are
clean and every text but the last keeps, right after the pass of a label, no opener of it. -/
theorem strip_join_of_cleanBorder (hl : ∀ label ∈ labels, IsName label.toList)
    (texts : List String) (hr : ∀ text ∈ texts, '\r' ∉ text.toList)
    (hc : ∀ text ∈ texts.dropLast, ClearsOpeners (labels.map String.toList) text.toList)
    (hb : ∀ before text after, texts = before ++ text :: after → ∀ label ∈ labels.map String.toList,
      CleanBorder label text.toList (String.join after).toList) :
    strip labels (String.join texts) = String.join (texts.map (strip labels)) ∧
      ∀ label ∈ labels,
        (∀ text ∈ texts, ∀ i, ¬Marker.At (opener label.toList) (strip labels text).toList i) →
        ∀ i, ¬Marker.At (opener label.toList) (strip labels (String.join texts)).toList i := by
  induction texts with
  | nil =>
    refine ⟨strip_empty labels, ?_⟩
    intro label _ _ i ha
    rw [String.join_nil, strip_empty] at ha
    exact absurd (ha.add_length_le (opener_ne_nil _)) (by simp)
  | cons text texts ih =>
    cases texts with
    | nil => simp
    | cons next texts =>
      rw [List.dropLast_cons_cons, List.forall_mem_cons] at hc
      rw [List.forall_mem_cons] at hr
      have hrest := ih hr.2 hc.2 fun before t after he =>
        hb (text :: before) t after (by rw [he, List.cons_append])
      have hmore : '\r' ∉ (String.join (next :: texts)).toList := by
        rw [String.toList_join, List.mem_flatMap]
        rintro ⟨t, ht, hm⟩
        exact hr.2 t ht hm
      have hborder := hb [] text (next :: texts) rfl
      have hstep := strip_append_of_cleanBorder hl hr.1 hmore hc.1 hborder
      rw [String.join_cons, hstep]
      constructor
      · rw [hrest.1]
        exact String.join_cons.symm
      · intro label hlabel hno
        rw [List.forall_mem_cons] at hno
        exact not_at_append_strip hl hlabel hr.1 hmore
          (hborder _ (List.mem_map_of_mem hlabel)) hno.1 (hrest.2 label hlabel hno.2)

/-- If all sources can be read, every source but the last keeps, right after the pass of a label, no
opener of it, and at every border no opener begins in one source and ends behind it and no closer is
lost, then a build without the compiler gives the stripped sources, joined. Whatever a source ends
with, it has no opener then that the source does not have when it is stripped alone. -/
theorem build_eq_join_strip (launch : Launcher) (c : Config) (w : Workspace) (texts : List String)
    (hcompile : c.compile = false) (hheader : c.header = "") (hfooter : c.footer = "")
    (hl : ∀ label ∈ c.labels.toList, IsName label.toList)
    (hread : c.sources.map w.files.readText = texts.map .ok)
    (hr : ∀ text ∈ texts, '\r' ∉ text.toList)
    (hc : ∀ text ∈ texts.dropLast, ∀ before label after, c.labels.toList = before ++ label :: after →
      ∀ i, ¬Marker.At (opener label.toList) (strip (before ++ [label]) text).toList i)
    (hb : ∀ before text after, texts = before ++ text :: after → ∀ label ∈ c.labels.toList,
      (∀ i < text.toList.length,
        Marker.At (opener label.toList) (text ++ String.join after).toList i →
          Marker.At (opener label.toList) text.toList i) ∧
      ∀ i, Marker.At (closer label.toList) text.toList i →
        Marker.At (closer label.toList) (text ++ String.join after).toList i) :
    ((Bundle.build launch c).run w).1 =
        .ok (String.join (texts.map (strip c.labels.toList))) ∧
      ∀ label ∈ c.labels.toList,
        (∀ text ∈ texts, ∀ i,
          ¬Marker.At (opener label.toList) (strip c.labels.toList text).toList i) →
        ∀ i, ¬Marker.At (opener label.toList)
          (String.join (texts.map (strip c.labels.toList))).toList i := by
  have hjoin := strip_join_of_cleanBorder hl texts hr ?_ ?_
  · obtain ⟨log, hrun⟩ := Bundle.run_build launch hcompile w
    have htexts : String.join (Bundle.texts w.files c) = String.join texts := by
      rw [Bundle.texts_of_readable hread, hheader, hfooter]
      simp
    rw [hrun, htexts, ← hjoin.1]
    exact ⟨rfl, hjoin.2⟩
  · intro text hm
    have hclears := clearsOpeners_map (hc text hm)
    rwa [Lines.normalize_of_not_mem (hr text (List.dropLast_subset texts hm))] at hclears
  · exact fun before text after he => cleanBorder_of_at (hb before text after he)

/-- A workspace with the named texts as files, and nothing else. -/
def Workspace.ofTexts (texts : List (String × String)) : Workspace :=
  { files :=
      { start := []
        entries := texts.map fun (name, text) =>
          ([name], .file (Utf8.encode text.toList) Mode.fresh) } }

theorem map_readText_of_toOption {t : FileTree} {sources : List Path} {texts : List String}
    (h : (sources.map fun p => (t.readText p).toOption) = texts.map some) :
    sources.map t.readText = texts.map .ok := by
  induction sources generalizing texts with
  | nil => rw [List.map_eq_nil_iff.1 h.symm]; rfl
  | cons p sources ih =>
    obtain ⟨text, texts', rfl, ht, hrest⟩ := List.map_eq_cons_iff.1 h.symm
    rw [List.map_cons, List.map_cons, eq_ok_of_toOption ht.symm, ih hrest.symm]

/-- Sources that end inside a line, right behind a closer and inside an expression. -/
theorem build_eq_join_strip_unended :
    ∃ (a b d : String) (c : Config) (w : Workspace),
      a = "a(); \x7b@dev é \x7d@dev" ∧
      b = "\x7b@debug\nx\n\x7d@debugger \x7d@debug b(" ∧
      d = "1); \x7b@assert 2 \x7d@assert" ∧
      c = { sources := [⟨"a.js"⟩, ⟨"b.js"⟩, ⟨"d.js"⟩], compile := false } ∧
      w = .ofTexts [("a.js", a), ("b.js", b), ("d.js", d)] ∧
      c.compile = false ∧ c.header = "" ∧ c.footer = "" ∧
      (∀ label ∈ c.labels.toList, IsName label.toList) ∧
      c.sources.map w.files.readText = [a, b, d].map .ok ∧
      (∀ text ∈ [a, b, d], '\r' ∉ text.toList) ∧
      (∀ text ∈ [a, b, d].dropLast, ∀ before label after,
        c.labels.toList = before ++ label :: after →
          ∀ i, ¬Marker.At (opener label.toList) (strip (before ++ [label]) text).toList i) ∧
      (∀ before text after, [a, b, d] = before ++ text :: after → ∀ label ∈ c.labels.toList,
        (∀ i < text.toList.length,
          Marker.At (opener label.toList) (text ++ String.join after).toList i →
            Marker.At (opener label.toList) text.toList i) ∧
        ∀ i, Marker.At (closer label.toList) text.toList i →
          Marker.At (closer label.toList) (text ++ String.join after).toList i) ∧
      ∀ launch : Launcher, ((Bundle.build launch c).run w).1 = .ok "a();    b(1);  " ∧
        ∀ label ∈ ["dev", "debug", "assert"],
          ∀ i, ¬Marker.At (opener label.toList) "a();    b(1);  ".toList i := by
  obtain ⟨a, ha⟩ : ∃ a, a = "a(); \x7b@dev é \x7d@dev" := ⟨_, rfl⟩
  obtain ⟨b, hb⟩ : ∃ b, b = "\x7b@debug\nx\n\x7d@debugger \x7d@debug b(" := ⟨_, rfl⟩
  obtain ⟨d, hd⟩ : ∃ d, d = "1); \x7b@assert 2 \x7d@assert" := ⟨_, rfl⟩
  obtain ⟨c, hc⟩ : ∃ c : Config,
    c = { sources := [⟨"a.js"⟩, ⟨"b.js"⟩, ⟨"d.js"⟩], compile := false } := ⟨_, rfl⟩
  obtain ⟨w, hw⟩ : ∃ w, w = Workspace.ofTexts [("a.js", a), ("b.js", b), ("d.js", d)] := ⟨_, rfl⟩
  have hlabels : c.labels.toList = ["dev", "debug", "assert"] := by
    rw [hc]
    decide +kernel
  have hl : ∀ label ∈ c.labels.toList, IsName label.toList := by
    rw [hlabels]
    decide +kernel
  have hread : c.sources.map w.files.readText = [a, b, d].map .ok := by
    refine map_readText_of_toOption ?_
    rw [hc, hw, ha, hb, hd]
    decide +kernel
  have hr : ∀ text ∈ [a, b, d], '\r' ∉ text.toList := by
    rw [ha, hb, hd]
    decide
  have hclears : ∀ text ∈ [a, b, d].dropLast, ∀ before label after,
      c.labels.toList = before ++ label :: after →
        ∀ i, ¬Marker.At (opener label.toList) (strip (before ++ [label]) text).toList i := by
    have hpasses : ∀ text ∈ [a, b],
        ∀ p ∈ [([], "dev"), (["dev"], "debug"), (["dev", "debug"], "assert")],
          ∀ i < (strip (p.1 ++ [p.2]) text).toList.length,
            ¬Marker.At (opener p.2.toList) (strip (p.1 ++ [p.2]) text).toList i := by
      rw [ha, hb]
      decide +kernel
    intro text ht before label after he
    rw [hlabels] at he
    have hp : (before, label) ∈ [([], "dev"), (["dev"], "debug"), (["dev", "debug"], "assert")] := by
      rcases before with _ | ⟨_, _ | ⟨_, _ | ⟨_, before⟩⟩⟩ <;> simp_all
    have hlt := hpasses text ht (before, label) hp
    dsimp only at hlt
    exact Marker.not_at_of_forall_lt (opener_ne_nil label.toList) hlt
  have hborders : ∀ before text after, [a, b, d] = before ++ text :: after →
      ∀ label ∈ c.labels.toList,
        (∀ i < text.toList.length,
          Marker.At (opener label.toList) (text ++ String.join after).toList i →
            Marker.At (opener label.toList) text.toList i) ∧
        ∀ i, Marker.At (closer label.toList) text.toList i →
          Marker.At (closer label.toList) (text ++ String.join after).toList i := by
    have hplaces : ∀ p ∈ [(a, [b, d]), (b, [d]), (d, [])], ∀ label ∈ ["dev", "debug", "assert"],
        ∀ i < p.1.toList.length,
          (Marker.At (opener label.toList) (p.1 ++ String.join p.2).toList i →
            Marker.At (opener label.toList) p.1.toList i) ∧
          (Marker.At (closer label.toList) p.1.toList i →
            Marker.At (closer label.toList) (p.1 ++ String.join p.2).toList i) := by
      rw [ha, hb, hd]
      decide +kernel
    intro before text after he label hm
    have hp : (text, after) ∈ [(a, [b, d]), (b, [d]), (d, [])] := by
      rcases before with _ | ⟨_, _ | ⟨_, _ | ⟨_, before⟩⟩⟩ <;> simp_all
    rw [hlabels] at hm
    have hat := hplaces (text, after) hp label hm
    dsimp only at hat
    refine ⟨fun i hi => (hat i hi).1, fun i hi => ?_⟩
    have hle := hi.add_length_le (closer_ne_nil _)
    exact (hat i (by rw [length_closer] at hle; omega)).2 hi
  have hv : [a, b, d].map (strip c.labels.toList) = ["a();  ", "  b(", "1);  "] := by
    rw [ha, hb, hd, hlabels]
    decide +kernel
  have hno : ∀ label ∈ c.labels.toList, ∀ text ∈ [a, b, d],
      ∀ i, ¬Marker.At (opener label.toList) (strip c.labels.toList text).toList i := by
    have hplaces : ∀ label ∈ ["dev", "debug", "assert"], ∀ text ∈ ["a();  ", "  b(", "1);  "],
        ∀ i < text.toList.length, ¬Marker.At (opener label.toList) text.toList i := by
      decide +kernel
    intro label hm text ht
    rw [hlabels] at hm
    exact Marker.not_at_of_forall_lt (opener_ne_nil _)
      (hplaces label hm _ (hv ▸ List.mem_map_of_mem ht))
  have hcompile : c.compile = false := by rw [hc]
  have hheader : c.header = "" := by rw [hc]
  have hfooter : c.footer = "" := by rw [hc]
  have hbuild := fun launch =>
    build_eq_join_strip launch c w [a, b, d] hcompile hheader hfooter hl hread hr hclears hborders
  refine ⟨a, b, d, c, w, ha, hb, hd, hc, hw, hcompile, hheader, hfooter, hl, hread, hr, hclears,
    hborders, fun launch => ?_⟩
  obtain ⟨hresult, hopeners⟩ := hbuild launch
  rw [hv] at hresult hopeners
  exact ⟨hresult, fun label hm => hopeners label (hlabels ▸ hm) (hno label (hlabels ▸ hm))⟩

/-- It is not enough that every stripped source is free of markers. In the first bundle the pass of
`dev` pairs an opener that stands in a block of `debug` with a closer of the next source, and takes
what is between them; in the second one the closer at the border loses its end to a word. -/
theorem build_ne_join_strip :
    ∃ bundles : List (List String × String),
      bundles = [
        (["\x7b@debug\n\x7b@dev\n\x7d@debug\nkeep();\n", "\x7b@debug \x7d@dev \x7d@debug\n"],
          " \n"),
        (["\x7b@dev x \x7d@dev", "foo();"], "\x7b@dev x \x7d@devfoo();")] ∧
      ∀ p ∈ bundles, ∃ (c : Config) (w : Workspace),
        c = { sources := [⟨"a.js"⟩, ⟨"b.js"⟩], compile := false } ∧
        w = .ofTexts (["a.js", "b.js"].zip p.1) ∧
        (∀ label ∈ c.labels.toList, IsName label.toList) ∧
        c.sources.map w.files.readText = p.1.map .ok ∧
        (∀ text ∈ p.1, '\r' ∉ text.toList) ∧
        (∀ text ∈ p.1, ∀ label ∈ c.labels.toList,
          ∀ marker ∈ [opener label.toList, closer label.toList],
            ∀ i, ¬Marker.At marker (strip c.labels.toList text).toList i) ∧
        (∀ launch : Launcher, ((Bundle.build launch c).run w).1 = .ok p.2) ∧
        p.2 ≠ String.join (p.1.map (strip c.labels.toList)) := by
  refine ⟨_, rfl, fun p hp => ?_⟩
  have hread : ([⟨"a.js"⟩, ⟨"b.js"⟩].map fun source =>
      ((Workspace.ofTexts (["a.js", "b.js"].zip p.1)).files.readText source).toOption) =
        p.1.map some := by
    revert p
    decide +kernel
  have hr : ∀ text ∈ p.1, '\r' ∉ text.toList := by
    revert p
    decide +kernel
  have hfree : ∀ text ∈ p.1.map (strip ["dev", "debug", "assert"]),
      ∀ label ∈ ["dev", "debug", "assert"], ∀ marker ∈ [opener label.toList, closer label.toList],
        marker ≠ [] ∧ ∀ i < text.toList.length, ¬Marker.At marker text.toList i := by
    revert p
    decide +kernel
  have hjoined : strip ["dev", "debug", "assert"] (String.join p.1) = p.2 := by
    revert p
    decide +kernel
  have hne : p.2 ≠ String.join (p.1.map (strip ["dev", "debug", "assert"])) := by
    revert p
    decide +kernel
  obtain ⟨c, hc⟩ : ∃ c : Config, c = { sources := [⟨"a.js"⟩, ⟨"b.js"⟩], compile := false } :=
    ⟨_, rfl⟩
  obtain ⟨w, hw⟩ : ∃ w, w = Workspace.ofTexts (["a.js", "b.js"].zip p.1) := ⟨_, rfl⟩
  have hlabels : c.labels.toList = ["dev", "debug", "assert"] := by
    rw [hc]
    decide +kernel
  have htexts : c.sources.map w.files.readText = p.1.map .ok := by
    rw [hc, hw]
    exact map_readText_of_toOption hread
  refine ⟨c, w, hc, hw, ?_, htexts, hr, ?_, fun launch => ?_, hlabels ▸ hne⟩
  · rw [hlabels]
    decide
  · intro text ht label hm marker hmarker
    rw [hlabels] at hm
    obtain ⟨hnil, hlt⟩ := hfree _ (List.mem_map_of_mem ht) label hm marker hmarker
    rw [hlabels]
    exact Marker.not_at_of_forall_lt hnil hlt
  · obtain ⟨log, hrun⟩ := Bundle.run_build launch (by rw [hc] : c.compile = false) w
    rw [hrun, Bundle.texts_of_readable htexts, hlabels, ← hjoined, hc]
    simp

end ScriptBundle
