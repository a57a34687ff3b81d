import ScriptBundle.Shell.Expansion

/-!
# Redirections

The targets of all redirections of a command are expanded first; then each one opens its target and
lets its descriptor stand for it, or says why it cannot. After the command the descriptors stand for
what they stood for before.
-/

namespace ScriptBundle.Shell.Machine

/-- The shell's words for a file that cannot be opened. -/
def openWords (creates : Bool) (e : FileError) : String :=
  match e with
  | .notFound | .notADirectory => if creates then "Directory nonexistent" else "No such file"
  | e => words e

/-- The text of the target of a redirection, or of its document. -/
def targetOf (sub : Substitute) (m : Machine) (r : Redirect) : List Char × Machine :=
  if r.kind = .document then Expand.document sub m ((m.documents.lookup r.document).getD [])
  else
    let (text, m) := Expand.text sub m r.target
    let isDescriptor := match text with
      | [c] => c.isDigit || c == '-'
      | _ => false
    if m.isRunning && r.kind = .copy && !isDescriptor then
      (text, { m with line := m.reached }.fail "Syntax error: Bad fd number")
    else (text, m)

def targetsOf (sub : Substitute) : Machine → List Redirect → List (Redirect × List Char) × Machine
  | m, [] => ([], m)
  | m, r :: rest =>
    let (text, m) := targetOf sub m r
    if m.isRunning then
      let (more, m) := targetsOf sub m rest
      ((r, text) :: more, m)
    else ([], m)

/-- How a kind of redirection opens a file. -/
def openingOf (m : Machine) (kind : RedirectKind) : Opening :=
  match kind with
  | .read => .reading
  | .append => .appending
  | .readWrite => { reads := true, writes := true, creates := true }
  | .write => { Opening.writing with mustBeNew := m.has 'C' }
  | _ => .writing

/-- Applies a redirection to an expanded target, or says why it cannot. -/
def redirect (m : Machine) (r : Redirect) (target : List Char) : Except String Machine :=
  match r.kind with
  | .document =>
    let (m, number) := m.addHandle (.buffer (Octet.toBytes target).toArray 0)
    .ok (m.point r.descriptor (some number))
  | .copy =>
    match target with
    | [c] =>
      if c = '-' then .ok (m.point r.descriptor none)
      else
        match m.handleOf? (c.toNat - '0'.toNat) with
        | some number => .ok (m.point r.descriptor (some number))
        | none => .error s!"{c}: Bad file descriptor"
    | _ => .ok m
  | kind =>
    let path := String.ofList target
    match m.openPath path (m.openingOf kind) with
    | .ok (number, m) => .ok (m.point r.descriptor (some number))
    | .error e =>
      let creates := kind != .read
      let verb := if creates then "create" else "open"
      .error s!"cannot {verb} {path}: {openWords creates e}"

/-- Applies expanded redirections up to the first that fails, and says whether all went well. -/
def redirectAll (m : Machine) : List (Redirect × List Char) → Machine × Bool
  | [] => (m, true)
  | (r, target) :: rest =>
    match m.redirect r target with
    | .ok m => redirectAll m rest
    | .error text => ((m.warn text).ends 2, false)

/-- Gives the descriptors of redirections back. -/
def restore (m : Machine) (before : Process) (rs : List Redirect) : Machine :=
  rs.foldl (fun m r => m.point r.descriptor (before.descriptors.lookup r.descriptor)) m

end ScriptBundle.Shell.Machine
