/-!
# Markers

A label `L` has two markers, the opener `{@L` and the closer `}@L`. A marker counts only where it
ends on a word boundary, so the opener of `dev` is not found inside the opener of `devtools`.

`after?` looks for a marker at the start of a text and `cut` for the first one anywhere in it. Both
only split the text: `eq_append_of_after?` and `eq_append_of_cut`.
-/

namespace ScriptBundle

/-- The characters that words consist of: ASCII letters, digits and the underscore. -/
def isWord (c : Char) : Bool := c.isAlphanum || c == '_'

namespace Marker

/-- The class of the character at the end of `text`; no character is no word. -/
def endsInWord (text : List Char) : Bool := text.getLast?.any isWord

def startsInWord (text : List Char) : Bool := text.head?.any isWord

/-- Whether a word starts or ends between two adjacent texts. -/
def isBoundary (before after : List Char) : Bool := endsInWord before != startsInWord after

/-- What follows the marker, if the text starts with it and it ends on a word boundary there. -/
def after? (marker text : List Char) : Option (List Char) :=
  if marker.isPrefixOf text && isBoundary marker (text.drop marker.length) then
    some (text.drop marker.length)
  else none

/-- What precedes and what follows the first marker of the text. -/
def cut (marker : List Char) : List Char → Option (List Char × List Char)
  | [] => (after? marker []).map fun rest => ([], rest)
  | c :: text =>
    match after? marker (c :: text) with
    | some rest => some ([], rest)
    | none => (cut marker text).map fun (before, rest) => (c :: before, rest)

theorem eq_append_of_after? {marker text rest : List Char} (h : after? marker text = some rest) :
    text = marker ++ rest := by
  unfold after? at h
  split at h
  · next hp =>
    obtain ⟨tail, rfl⟩ := List.isPrefixOf_iff_prefix.1 (Bool.and_eq_true_iff.1 hp).1
    simp_all
  · simp at h

theorem eq_append_of_cut {marker text before rest : List Char}
    (h : cut marker text = some (before, rest)) : text = before ++ marker ++ rest := by
  induction text generalizing before rest with
  | nil =>
    obtain ⟨r, hr, he⟩ := Option.map_eq_some_iff.1 h
    simp only [Prod.mk.injEq] at he
    simpa [← he.1, ← he.2] using eq_append_of_after? hr
  | cons c text ih =>
    unfold cut at h
    split at h
    · next r hr =>
      simp only [Option.some.injEq, Prod.mk.injEq] at h
      simpa [← h.1, ← h.2] using eq_append_of_after? hr
    · obtain ⟨⟨b, r⟩, hr, he⟩ := Option.map_eq_some_iff.1 h
      simp only [Prod.mk.injEq] at he
      simp [← he.1, ← he.2, ih hr]

end Marker

/-- The marker that opens a block. The label is used as it is written, whatever it holds. -/
def opener (label : List Char) : List Char := '{' :: '@' :: label

/-- The marker that closes a block. -/
def closer (label : List Char) : List Char := '}' :: '@' :: label

@[simp] theorem length_opener (label : List Char) : (opener label).length = label.length + 2 := rfl

@[simp] theorem length_closer (label : List Char) : (closer label).length = label.length + 2 := rfl

end ScriptBundle
