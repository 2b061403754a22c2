import Scenario.Text.Search

/-!
# Path segments — one addressable step, and how it is written

A path expression such as `order.items[1].jsonPath($.sku)` is a list of
segments. A segment names a property, may carry an array index, or hands
the rest of the work to an embedded query language. `Segment.text` writes
a segment the way an expression does, with its index in plain decimal, and
`Segment.ofPiece` reads an ordinary segment from the text between two dots.
-/

namespace Scenario
namespace Path

/-- The query languages whose call text a path carries without looking
into it. -/
inductive Embedded where
  | jsonPath
  | xPath
  deriving DecidableEq

namespace Embedded

/-- The function name of the language in an expression. -/
def name : Embedded → String
  | jsonPath => "jsonPath"
  | xPath => "xpath"

/-- Both languages, in the order they are tried. -/
def all : List Embedded := [jsonPath, xPath]

/-- The call head at the very beginning of a text: the language, and what
follows the opening parenthesis. -/
def opening? (cs : List Char) : Option (Embedded × List Char) :=
  all.findSome? fun language =>
    (Text.after? (language.name.toList ++ ['(']) cs).map (language, ·)

/-- The language whose call a text begins with. -/
def recognize (s : String) : Option Embedded :=
  (opening? s.toList).map (·.1)

end Embedded

/-- The index of a segment that has none. -/
def noIndex : Int := -1

/-- The largest array index an expression can write. -/
def maxIndex : Nat := Nat.pow 2 63 - 1

/-- One step of a path: a property name with an optional array index, or,
when `escape` is set, the text of a call in an embedded language. -/
structure Segment where
  /-- The property, or the call text of an embedded language. -/
  name : String
  /-- The array index; a negative one means that there is none. -/
  index : Int
  /-- The language of an embedded call. -/
  escape : Option Embedded
  deriving DecidableEq

namespace Segment

/-- The segment for a property. -/
def plain (name : String) : Segment := ⟨name, noIndex, none⟩

/-- The segment for a call in an embedded language. -/
def escaped (content : String) (language : Embedded) : Segment := ⟨content, noIndex, some language⟩

/-- The segment with another index. -/
def withIndex (s : Segment) (index : Int) : Segment := { s with index }

/-- Whether the segment is a call in an embedded language. -/
def isEscaped (s : Segment) : Bool := s.escape.isSome

/-- The index as a position in an array. -/
def arrayIndex (s : Segment) : Option Nat :=
  if 0 ≤ s.index then some s.index.toNat else none

/-- The segment as an expression writes it. -/
def text (s : Segment) : String :=
  match s.escape with
  | some language => language.name ++ "(" ++ s.name ++ ")"
  | none =>
    match s.arrayIndex with
    | some i => s.name ++ "[" ++ Nat.repr i ++ "]"
    | none => s.name

/-- The name and index in a text that ends in a bracketed number: some
text before the last opening bracket, and between the brackets only ASCII
digits, at least one, of a number not above `maxIndex`. -/
def splitIndex? (piece : List Char) : Option (List Char × Nat) :=
  match Text.splitLast? ']' piece with
  | some (inner, []) =>
    match Text.splitLast? '[' inner with
    | some (name, digits) =>
      if name.isEmpty || digits.isEmpty || !digits.all Char.isDigit then none
      else
        let index := Nat.ofDigitChars 10 digits 0
        if index ≤ maxIndex then some (name, index) else none
    | none => none
  | _ => none

/-- The ordinary segment written between two dots. -/
def ofPiece (piece : List Char) : Segment :=
  match splitIndex? piece with
  | some (name, index) => (plain (.ofList name)).withIndex index
  | none => plain (.ofList piece)

end Segment

end Path
end Scenario
