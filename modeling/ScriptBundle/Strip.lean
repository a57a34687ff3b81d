import ScriptBundle.Block.Removal

/-!
# Stripping a text

Stripping normalizes the line endings and then removes, label after label, the single-line blocks
and after them the multi-line blocks. Each label's pass reads what the one before it left, so the order
of the labels is part of the input.
-/

namespace ScriptBundle

/-- One label's pass. Line endings are line feeds already. -/
def stripLabel (label text : List Char) : List Char :=
  Form.multiLine.remove label (Form.singleLine.remove label text)

/-- The passes of all labels, in order. -/
def stripLabels (labels : List (List Char)) (text : List Char) : List Char :=
  labels.foldl (fun text label => stripLabel label text) text

@[simp] theorem stripLabels_nil (text : List Char) : stripLabels [] text = text := rfl

@[simp] theorem stripLabels_cons (label : List Char) (labels : List (List Char))
    (text : List Char) :
    stripLabels (label :: labels) text = stripLabels labels (stripLabel label text) := rfl

theorem stripLabels_append (labels more : List (List Char)) (text : List Char) :
    stripLabels (labels ++ more) text = stripLabels more (stripLabels labels text) :=
  List.foldl_append

/-- Normalizes the line endings of the text and removes the blocks of all labels. -/
def strip (labels : List String) (text : String) : String :=
  String.ofList (stripLabels (labels.map String.toList) (Lines.normalize text.toList))

@[simp] theorem toList_strip (labels : List String) (text : String) :
    (strip labels text).toList =
      stripLabels (labels.map String.toList) (Lines.normalize text.toList) :=
  String.toList_ofList

end ScriptBundle
