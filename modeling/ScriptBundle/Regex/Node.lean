import ScriptBundle.Regex.Fault
import ScriptBundle.Regex.Ranges

/-!
# Written expressions

An expression as it is written, before its flags are applied. Every part that can still turn out to be
at fault keeps its extent.
-/

namespace ScriptBundle.Regex

inductive Flag where
  | anyCase
  | manyLines
  | dotAll
  | lazy
  /-- Characters beyond ASCII count as characters. -/
  | wide
  | carriageReturn
  /-- Blanks and comments in the expression mean nothing. -/
  | spaced
  deriving DecidableEq, Repr

/-- Flags to set and flags to clear. -/
structure FlagChange where
  set : List Flag := []
  clear : List Flag := []
  deriving DecidableEq, Repr

def FlagChange.value? (c : FlagChange) (f : Flag) : Option Bool :=
  if c.clear.contains f then some false
  else if c.set.contains f then some true
  else none

/-- A class with a short name. -/
inductive Shorthand where
  | digit
  | space
  | word
  deriving DecidableEq, Repr

inductive SetOp where
  | both
  | minus
  | either
  deriving DecidableEq, Repr

/-- What stands in brackets. -/
inductive Member where
  | empty (place : Extent)
  /-- A character, or a byte written by two hexadecimal digits. -/
  | char (place : Extent) (c : Char) (isByte : Bool)
  | range (lowAt highAt : Extent) (low high : Char) (lowByte highByte : Bool)
  | named (place : Extent) (set : Ranges) (negated : Bool)
  | shorthand (place : Extent) (kind : Shorthand) (negated : Bool)
  /-- A property of characters; `isValue` says whether its name can only be that of a value. -/
  | property (place : Extent) (isValue : Bool)
  | brackets (place : Extent) (negated : Bool) (inside : Member)
  | union (place : Extent) (items : List Member)
  | op (place : Extent) (kind : SetOp) (a b : Member)
  deriving Repr

def Member.place : Member → Extent
  | .empty place | .char place .. | .named place .. | .shorthand place .. | .property place _
  | .brackets place .. | .union place _ | .op place .. => place
  | .range lowAt highAt .. => ⟨lowAt.start, highAt.stop⟩

inductive Mark where
  | lineStart
  | lineEnd
  | textStart
  | textEnd
  | word (look : Look)
  deriving DecidableEq, Repr

inductive Node where
  | empty
  | char (place : Extent) (c : Char) (isByte : Bool)
  | dot (place : Extent)
  | mark (m : Mark)
  | shorthand (place : Extent) (kind : Shorthand) (negated : Bool)
  | property (place : Extent) (isValue : Bool)
  | brackets (place : Extent) (negated : Bool) (inside : Member)
  | repeated (place : Extent) (node : Node) (least : Nat) (most : Option Nat) (isLazy : Bool)
  /-- A group, with its number if it has one. -/
  | group (place : Extent) (number : Option Nat) (flags : FlagChange) (node : Node)
  | flags (change : FlagChange)
  | alt (place : Extent) (nodes : List Node)
  | seq (place : Extent) (nodes : List Node)
  deriving Repr

/-- How deep parts may lie within each other. -/
def depthLimit : Nat := 250

/-- A fault where a part would lie too deep. -/
def admitDepth (place : Extent) (depth : Nat) : Except Fault Unit :=
  if depth < depthLimit then .ok () else .error { place, cause := .nestedTooDeep depthLimit }

mutual

def Member.checkDepth (depth : Nat) : Member → Except Fault Unit
  | .brackets place _ inside => do
    admitDepth place depth
    inside.checkDepth (depth + 1)
  | .union place items => do
    admitDepth place depth
    Member.checkDepths (depth + 1) items
  | .op place _ a b => do
    admitDepth place depth
    a.checkDepth (depth + 1)
    b.checkDepth (depth + 1)
  | _ => .ok ()

def Member.checkDepths (depth : Nat) : List Member → Except Fault Unit
  | [] => .ok ()
  | m :: rest => do
    m.checkDepth depth
    Member.checkDepths depth rest

end

mutual

def Node.checkDepth (depth : Nat) : Node → Except Fault Unit
  | .brackets place _ inside => do
    admitDepth place depth
    inside.checkDepth (depth + 1)
  | .repeated place node .. => do
    admitDepth place depth
    node.checkDepth (depth + 1)
  | .group place _ _ node => do
    admitDepth place depth
    node.checkDepth (depth + 1)
  | .alt place nodes => do
    admitDepth place depth
    Node.checkDepths (depth + 1) nodes
  | .seq place nodes => do
    admitDepth place depth
    Node.checkDepths (depth + 1) nodes
  | _ => .ok ()

def Node.checkDepths (depth : Nat) : List Node → Except Fault Unit
  | [] => .ok ()
  | n :: rest => do
    n.checkDepth depth
    Node.checkDepths depth rest

end

end ScriptBundle.Regex
