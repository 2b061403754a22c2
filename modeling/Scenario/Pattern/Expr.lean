/-!
# Pattern expressions — what the text of a pattern says

The tree of a pattern before its flags are resolved: literals, classes,
assertions, repetitions, groups and alternatives, as they are written.
Names of character properties are still names here, and a flag group
changes the meaning of what follows it.

`Expr.depth` counts the levels at which expressions nest; patterns that
nest too deeply are refused.
-/

namespace Scenario
namespace Pattern

/-- A flag of a flag group. -/
inductive Flag where
  | insensitive
  | multiLine
  | dotAll
  | swapGreed
  | unicode
  | crlf
  | spaced
  deriving DecidableEq

/-- Flags switched on or off, in the order they are written. -/
abbrev FlagSetting := List (Flag × Bool)

/-- The classes with an escape of their own. -/
inductive NamedClass where
  | digit
  | space
  | word
  deriving DecidableEq

/-- The classes of ASCII characters written between colons. -/
inductive AsciiClass where
  | alnum
  | alpha
  | ascii
  | blank
  | cntrl
  | digit
  | graph
  | lower
  | print
  | punct
  | space
  | upper
  | word
  | xdigit
  deriving DecidableEq

/-- A character property, by its name alone or by a name and a value; the
value may be the one that the characters do not have. -/
inductive Property where
  | bare (name : List Char)
  | valued (name value : List Char) (equal : Bool)
  deriving DecidableEq

/-- The operations on bracketed classes. -/
inductive SetOp where
  | intersection
  | difference
  | symmetricDifference
  deriving DecidableEq

/-- A set of characters as a bracketed class describes it. -/
inductive SetExpr where
  /-- No item, where an operation lacks a side. -/
  | empty
  | char (c : Char)
  | range (low high : Char)
  | ascii (negated : Bool) (kind : AsciiClass)
  | named (negated : Bool) (kind : NamedClass)
  | property (negated : Bool) (which : Property)
  | union (items : List SetExpr)
  | bracket (negated : Bool) (body : SetExpr)
  | combine (op : SetOp) (left right : SetExpr)

/-- The tests of a position. -/
inductive Assertion where
  | lineStart
  | lineEnd
  | textStart
  | textEnd
  | wordBoundary
  | notWordBoundary
  | wordStart
  | wordEnd
  | wordStartHalf
  | wordEndHalf
  deriving DecidableEq

/-- A pattern as it is written. -/
inductive Expr where
  | empty
  | flags (setting : FlagSetting)
  /-- A literal character; `twoDigits` marks one written by a two-digit
  escape. -/
  | literal (c : Char) (twoDigits : Bool)
  | dot
  | assertion (kind : Assertion)
  | set (body : SetExpr)
  /-- A repetition; a greedy one prefers many turns to few. -/
  | repetition (greedy : Bool) (min : Nat) (max : Option Nat) (body : Expr)
  /-- A group; one that captures remembers what it reads. -/
  | group (captures : Bool) (setting : FlagSetting) (body : Expr)
  | alternation (branches : List Expr)
  | concat (items : List Expr)

namespace SetExpr

mutual

/-- The levels at which a set nests. -/
def depth : SetExpr → Nat
  | union items => 1 + deepest items
  | bracket _ body => 1 + body.depth
  | combine _ left right => 1 + max left.depth right.depth
  | _ => 0

/-- The largest depth of some sets. -/
def deepest : List SetExpr → Nat
  | [] => 0
  | e :: es => max e.depth (deepest es)

end

/-- The union of some sets; a single one is itself. -/
def ofItems : List SetExpr → SetExpr
  | [] => empty
  | [e] => e
  | es => union es

end SetExpr

namespace Expr

mutual

/-- The levels at which an expression nests. -/
def depth : Expr → Nat
  | set body => body.depth
  | repetition _ _ _ body => 1 + body.depth
  | group _ _ body => 1 + body.depth
  | alternation branches => 1 + deepest branches
  | concat items => 1 + deepest items
  | _ => 0

/-- The largest depth of some expressions. -/
def deepest : List Expr → Nat
  | [] => 0
  | e :: es => max e.depth (deepest es)

end

/-- Some expressions one after another; none are the empty expression and a
single one is itself. -/
def ofItems : List Expr → Expr
  | [] => empty
  | [e] => e
  | es => concat es

/-- Some alternatives; a single one is itself. -/
def ofBranches : List Expr → Expr
  | [e] => e
  | es => alternation es

end Expr

end Pattern
end Scenario
