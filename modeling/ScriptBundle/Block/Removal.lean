import ScriptBundle.Block.Marker
import ScriptBundle.Text.Lines

/-!
# Removing the blocks of one label

A block runs from an opener to the first closer that its form allows. On a single line the closer
stands on the opener's line; in the multi-line form it stands on a later one. The text is read from
left to right: where a block starts it is replaced by one space and reading goes on behind its
closer, and an opener without a closer is ordinary text.
-/

namespace ScriptBundle

inductive Form where
  /-- Opener and closer on one line. -/
  | singleLine
  /-- The opener's line, any number of lines, then the closer. -/
  | multiLine
  deriving DecidableEq, Repr

namespace Form

/-- What follows the closer that belongs to an opener with `body` behind it. -/
def afterCloser? (form : Form) (label body : List Char) : Option (List Char) :=
  match form with
  | .singleLine =>
    (Marker.cut (closer label) (Lines.takeLine body)).map fun (_, rest) =>
      rest ++ Lines.dropLine body
  | .multiLine =>
    match Lines.dropLine body with
    | [] => none
    | _ :: below => (Marker.cut (closer label) below).map fun (_, rest) => rest

/-- What follows the block that the text starts with. -/
def afterBlock? (form : Form) (label text : List Char) : Option (List Char) :=
  (Marker.after? (opener label) text).bind (form.afterCloser? label)

theorem exists_eq_append_of_afterCloser? {form : Form} {label body rest : List Char}
    (h : form.afterCloser? label body = some rest) :
    ∃ inside, body = inside ++ closer label ++ rest := by
  cases form with
  | singleLine =>
    obtain ⟨⟨before, tail⟩, hc, rfl⟩ := Option.map_eq_some_iff.1 h
    have hb := Lines.takeLine_append_dropLine body
    rw [Marker.eq_append_of_cut hc] at hb
    exact ⟨before, by simpa using hb.symm⟩
  | multiLine =>
    simp only [afterCloser?] at h
    split at h
    · simp at h
    · next c below hd =>
      obtain ⟨⟨before, tail⟩, hc, rfl⟩ := Option.map_eq_some_iff.1 h
      have hb := Lines.takeLine_append_dropLine body
      rw [hd, Marker.eq_append_of_cut hc] at hb
      exact ⟨Lines.takeLine body ++ c :: before, by simpa using hb.symm⟩

/-- A block is its opener, something inside, and its closer. -/
theorem exists_eq_append_of_afterBlock? {form : Form} {label text rest : List Char}
    (h : form.afterBlock? label text = some rest) :
    ∃ inside, text = opener label ++ inside ++ closer label ++ rest := by
  obtain ⟨body, ho, hc⟩ := Option.bind_eq_some_iff.1 h
  obtain ⟨inside, rfl⟩ := exists_eq_append_of_afterCloser? hc
  exact ⟨inside, by simp [Marker.eq_append_of_after? ho]⟩

theorem length_lt_of_afterBlock? {form : Form} {label text rest : List Char}
    (h : form.afterBlock? label text = some rest) : rest.length < text.length := by
  obtain ⟨inside, rfl⟩ := exists_eq_append_of_afterBlock? h
  simp
  omega

/-- Replaces every block of the form by a space, the leftmost first. -/
def remove (form : Form) (label : List Char) : List Char → List Char
  | [] => []
  | c :: text =>
    match _h : form.afterBlock? label (c :: text) with
    | some rest => ' ' :: remove form label rest
    | none => c :: remove form label text
termination_by text => text.length
decreasing_by
  · exact length_lt_of_afterBlock? ‹_›
  · exact Nat.lt_succ_self _

@[simp] theorem remove_nil (form : Form) (label : List Char) : form.remove label [] = [] := by
  simp [remove]

theorem remove_of_afterBlock? {form : Form} {label text rest : List Char}
    (h : form.afterBlock? label text = some rest) :
    form.remove label text = ' ' :: form.remove label rest := by
  cases text with
  | nil => exact absurd (length_lt_of_afterBlock? h) (by simp)
  | cons c text =>
    rw [remove]
    split <;> simp_all

theorem remove_cons {form : Form} {label text : List Char} {c : Char}
    (h : form.afterBlock? label (c :: text) = none) :
    form.remove label (c :: text) = c :: form.remove label text := by
  rw [remove]
  split <;> simp_all

end Form
end ScriptBundle
