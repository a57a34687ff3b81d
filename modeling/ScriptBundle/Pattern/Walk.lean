import ScriptBundle.Files.Tree
import ScriptBundle.Pattern.Basic

/-!
# Walking a pattern through a file tree

The walk follows a pattern segment by segment. A segment without a wildcard is looked up, any other
is held against the names in the directory reached so far. Below the start the found paths carry no
leading dot; a dot or two dots further on stay in them, and repeated slashes collapse.

Paths are found in a fixed order: what a segment with a wildcard reaches by two dots, then by one dot,
then by names in order, and below any number of directories each directory before what is in it.
-/

namespace ScriptBundle.Pattern

/-- The path of a name in a directory. The start itself is left out. -/
def inside (dir : Path) (name : String) : Path :=
  if dir.parts = [.here] then ⟨name⟩ else dir.join name

def isDots (name : String) : Bool := name == "." || name == ".."

/-- The names in a directory that a path leads to, in order; none if it leads elsewhere. -/
def listing (t : FileTree) (dir : Path) : List String :=
  match t.isDirectory dir, t.locate dir with
  | true, .ok key => ((t.children key).map (·.1)).mergeSort
  | _, _ => []

/-- The names of everything below a directory that a path leads to, a directory before what is in
it. -/
def listingBelow (t : FileTree) (dir : Path) : List (List String) :=
  match t.isDirectory dir, t.locate dir with
  | true, .ok key => ((t.below key).map (·.1)).mergeSort fun a b => !b.lex a
  | _, _ => []

/-- What one segment reaches from a directory. A segment that begins with a dot and matches one or
two dots also reaches these. -/
def reach (t : FileTree) (tokens : List Token) (dir : Path) : List Path :=
  match literal? tokens with
  | some name =>
    let name := String.ofList name
    let next := inside dir name
    if isDots name then if t.isDirectory dir then [next] else []
    else if t.has next then [next] else []
  | none =>
    let found := (listing t dir).filter fun name => accepts tokens name.toList
    let dots :=
      if tokens.head? = some (.char '.') && t.isDirectory dir then
        ["..", "."].filter fun name => accepts tokens name.toList
      else []
    dots.map dir.join ++ found.map (inside dir)

/-- Everything that the steps reach from a directory. -/
def walk (t : FileTree) : List Step → Path → List Path
  | [], path => [path]
  | .name tokens :: rest, dir => (reach t tokens dir).flatMap (walk t rest)
  | [.depth], dir =>
    ((listingBelow t dir).map (·.foldl inside dir)).filter t.isDirectory
  | .depth :: .depth :: rest, dir => walk t (.depth :: rest) dir
  | .depth :: .name tokens :: rest, dir =>
    let found := (listingBelow t dir).filter fun names =>
      names.getLast?.any fun name => accepts tokens name.toList
    (found.map (·.foldl inside dir)).flatMap (walk t rest)

/-- Every path in the tree that the pattern stands for. -/
def paths (p : Pattern) (t : FileTree) : List Path :=
  let found := walk t p.steps (if p.absolute then ⟨"/"⟩ else ⟨"."⟩)
  if p.wantsDirectory then found.filter t.isDirectory else found

end ScriptBundle.Pattern
