import Scenario.Document
import Scenario.Path.Cursor

/-!
# Navigation — from a document to the value a path names

`navigate` resolves an expression against a document, one segment after
another. A segment without index descends to a property; one with an index
also picks an item of the array found there. An embedded call ends the walk:
the document reached so far and the call text go to an external engine,
whose answer is the result.

A failed step reports where it stood: the joined text of the segments
walked so far, or `$` at the root.

An engine is not bound to be a function of what it is given. `navigateM`
takes one with any effects, which are then those of the navigation;
`navigate` is the same with an engine that has none.
-/

namespace Scenario
namespace Path

/-- Why an expression names no value of a document. -/
inductive NavigationError where
  | emptyExpression
  | noSuchProperty (property path : String)
  | notAnArray (path : String)
  | indexOutOfBounds (index : Int) (path : String) (length : Nat)
  | noEngine (language : Embedded)
  | engineFailed (language : Embedded) (expression reason : String)
  deriving DecidableEq

namespace NavigationError

/-- The text shown for a failed navigation. -/
def message : NavigationError → String
  | emptyExpression => "Empty path expression"
  | noSuchProperty property path => s!"No property '{property}' at '{path}'"
  | notAnArray path => s!"Value at '{path}' is not an array"
  | indexOutOfBounds index path length =>
    s!"Index {index} out of bounds at '{path}' (length {length})"
  | noEngine language => s!"No evaluator configured for {language.name}() segments"
  | engineFailed language expression reason =>
    s!"{language.name}({expression}) failed: {reason}"

end NavigationError

/-- An external evaluator of embedded calls, with effects of its own: a
document or a reason why there is none. -/
abbrev Evaluator (m : Type → Type) := Embedded → String → Document → m (Except String Document)

/-- One without effects. -/
abbrev Engine := Embedded → String → Document → Except String Document

/-- The path reported for a property sought after `walked`. -/
def placeOf (walked : String) : String :=
  if walked.isEmpty then "$" else walked

/-- The path of a segment's text after what was walked before. -/
def extend (walked piece : String) : String :=
  if walked.isEmpty then piece else walked ++ "." ++ piece

/-- Descend one ordinary segment. -/
def step (value : Document) (s : Segment) (walked : String) : Except NavigationError Document :=
  match value.property? s.name with
  | none => .error (.noSuchProperty s.name (placeOf walked))
  | some property =>
    match s.arrayIndex with
    | none => .ok property
    | some i =>
      match property.items? with
      | none => .error (.notAnArray (extend walked s.name))
      | some items =>
        match items[i]? with
        | some item => .ok item
        | none => .error (.indexOutOfBounds s.index (extend walked s.name) items.length)

/-- Walk the segments from a value, with the text of those already walked. -/
def walkM {m : Type → Type} [Monad m] (evaluator : Option (Evaluator m)) :
    List Segment → Document → String → m (Except NavigationError Document)
  | [], value, _ => pure (.ok value)
  | s :: rest, value, walked =>
    match s.escape with
    | some language =>
      match evaluator with
      | none => pure (.error (.noEngine language))
      | some evaluate =>
        Except.mapError (.engineFailed language s.name) <$> evaluate language s.name value
    | none =>
      match step value s walked with
      | .error e => pure (.error e)
      | .ok next => walkM evaluator rest next (extend walked s.text)

/-- The value an expression names in a document, with the effects of the
evaluator that is asked for it. -/
def navigateM {m : Type → Type} [Monad m] (evaluator : Option (Evaluator m)) (root : Document)
    (expression : String) : m (Except NavigationError Document) :=
  match segments expression with
  | [] => pure (.error .emptyExpression)
  | ss => walkM evaluator ss root ""

/-- The value an expression names in a document. -/
def navigate (engine : Option Engine) (root : Document) (expression : String) :
    Except NavigationError Document :=
  Id.run (navigateM engine root expression)

end Path
end Scenario
