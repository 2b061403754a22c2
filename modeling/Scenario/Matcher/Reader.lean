import Scenario.Matcher.PatternLibrary
import Scenario.Matcher.Predicate
import Scenario.Text.Blank
import Scenario.Text.Offset
import Scenario.Text.Search

/-!
# Reading matcher expressions — from text to predicate

An expression is a call of a matcher, with blanks around it. Arguments of a
combinator are calls; arguments of a check are literals, quoted or bare. A
quoted literal must be followed by a comma or a closing parenthesis, or else
the whole argument counts as bare; a bare one runs to the first comma or
closing parenthesis outside its own parentheses, and may not begin like the
call of a matcher.

Readers work on the characters still unread. `Reading` keeps them also when
a reader fails, together with the place the error is reported at, so that a
`Parser` can go on where the last attempt stopped.
-/

namespace Scenario
namespace Matcher

/-! ## Errors -/

/-- The kinds of mistakes in a matcher expression. -/
inductive MistakeKind where
  | unbalancedParentheses
  | unterminatedQuote
  | nestedCallInLeaf
  | unknownMatcher
  | invalidArity
  | invalidPattern
  | unexpectedInput
  deriving DecidableEq

/-- What is wrong with a matcher expression. -/
inductive Mistake where
  | trailing (found : Char)
  | literalForCall
  | nameExpected (found : Char)
  | unknownMatcher (name : String)
  | openingExpected (name : String)
  | missingClosing
  | separatorExpected (found : Char)
  | nestedCall
  | unterminatedQuote
  | wrongArity (name : String) (arity : Arity) (count : Nat)
  | invalidPattern (pattern detail : String)
  deriving DecidableEq

namespace Mistake

/-- The kind of a mistake: a closing parenthesis too many counts as
unbalanced, any other trailing character as unexpected. -/
def kind : Mistake → MistakeKind
  | trailing found => if found = ')' then .unbalancedParentheses else .unexpectedInput
  | literalForCall | nameExpected _ | openingExpected _ | separatorExpected _ => .unexpectedInput
  | unknownMatcher _ => .unknownMatcher
  | missingClosing => .unbalancedParentheses
  | nestedCall => .nestedCallInLeaf
  | unterminatedQuote => .unterminatedQuote
  | wrongArity _ _ _ => .invalidArity
  | invalidPattern _ _ => .invalidPattern

/-- The mistake in words; what is wrong with a pattern is said in those of the
library. -/
def reason : Mistake → String
  | trailing found => s!"unexpected '{found}' after expression"
  | literalForCall => "expected a matcher call, found a literal"
  | nameExpected found => s!"expected matcher name, found '{found}'"
  | unknownMatcher name => s!"unknown matcher '{name}'"
  | openingExpected name => s!"expected '(' after '{name}'"
  | missingClosing => "missing ')' at end of expression"
  | separatorExpected found => s!"expected ',' or ')', found '{found}'"
  | nestedCall => "leaf matchers take literal arguments, not nested matchers"
  | unterminatedQuote => "unterminated quoted literal"
  | wrongArity name arity count => s!"{name}() takes {arity.text}, got {count}"
  | invalidPattern pattern detail => s!"invalid pattern '{pattern}': {detail}"

end Mistake

/-- A mistake and the byte offset it is reported at. -/
structure ParseError where
  /-- What is wrong. -/
  mistake : Mistake
  /-- The byte offset. -/
  position : Nat
  deriving DecidableEq

/-- The text shown for a mistake. -/
def ParseError.message (e : ParseError) : String :=
  s!"matcher parse error at position {e.position}: {e.mistake.reason}"

/-! ## Readings -/

/-- The outcome of a reader: a value and the unread characters, or a
mistake, the characters from the place it is reported at, and those left
unread. -/
inductive Reading (α : Type) where
  | done (value : α) (rest : List Char)
  | failed (mistake : Mistake) (place rest : List Char)

/-- Go on with the value and the unread characters of a successful reading.
-/
def Reading.andThen {α β : Type} (reading : Reading α) (next : α → List Char → Reading β) :
    Reading β :=
  match reading with
  | .done value rest => next value rest
  | .failed mistake place rest => .failed mistake place rest

open Text (skipBlank)

/-! ## Literals -/

/-- A character of matcher names. -/
def isNameChar (c : Char) : Bool := c.isAlphanum || c == '_'

/-- The text of a quoted literal, from after its opening quote, and what
follows the closing one. A backslash before a quote or a backslash stands
for that character, any other for itself. -/
def readQuoted : List Char → Option (List Char × List Char)
  | [] => none
  | '\'' :: cs => some ([], cs)
  | '\\' :: '\'' :: cs => (readQuoted cs).map fun r => ('\'' :: r.1, r.2)
  | '\\' :: '\\' :: cs => (readQuoted cs).map fun r => ('\\' :: r.1, r.2)
  | c :: cs => (readQuoted cs).map fun r => (c :: r.1, r.2)

/-- The text up to the first comma or closing parenthesis outside of
`depth` parentheses already open, and what follows. -/
def bareSpan : Nat → List Char → List Char × List Char
  | _, [] => ([], [])
  | depth, c :: cs =>
    if depth = 0 ∧ (c = ')' ∨ c = ',') then ([], c :: cs)
    else
      let inside := if c = '(' then depth + 1 else if c = ')' then depth - 1 else depth
      let (text, rest) := bareSpan inside cs
      (c :: text, rest)

/-- A text without the quotes around it, if there is one at each end. -/
def stripQuotes (text : List Char) : List Char :=
  match text with
  | '\'' :: more => if more.getLast? = some '\'' then more.dropLast else text
  | _ => text

/-- A bare literal: it ends at a comma or closing parenthesis, and loses
its blank ends and one pair of quotes around it. -/
def readBare (cs : List Char) : Reading String :=
  let (text, rest) := bareSpan 0 cs
  .done (.ofList (stripQuotes (Text.trimmed text))) rest

/-- Whether a text begins with the name of a matcher and an opening
parenthesis, blanks allowed between them. -/
def beginsCall (cs : List Char) : Bool :=
  isMatcherName (.ofList (cs.takeWhile isNameChar)) &&
  (skipBlank (cs.dropWhile isNameChar)).head? == some '('

/-- A literal argument, quoted or bare, with the blanks before it. -/
def readLiteral (text : List Char) : Reading String :=
  let cs := skipBlank text
  match cs with
  | '\'' :: inside =>
    match readQuoted inside with
    | none => .failed .unterminatedQuote cs []
    | some (value, rest) =>
      let after := skipBlank rest
      match after with
      | [] | ',' :: _ | ')' :: _ => .done (.ofList value) after
      | _ => readBare cs
  | _ => if beginsCall cs then .failed .nestedCall cs cs else readBare cs

/-! ## Lists and calls -/

/-- What separates an argument from the next: `true` if the list is closed.
-/
def readSeparator (text : List Char) : Reading Bool :=
  match skipBlank text with
  | ',' :: rest => .done false rest
  | ')' :: rest => .done true rest
  | [] => .failed .missingClosing [] []
  | c :: rest => .failed (.separatorExpected c) (c :: rest) (c :: rest)

/-- Literals up to the closing parenthesis. Each turn reads a character, so
fuel beyond the length of the text suffices. -/
def readLiterals : Nat → List Char → Reading (List String)
  | 0, cs => .failed .missingClosing cs cs
  | fuel + 1, cs =>
    (readLiteral cs).andThen fun value rest =>
    (readSeparator rest).andThen fun closed rest =>
    if closed then .done [value] rest
    else (readLiterals fuel rest).andThen fun values rest => .done (value :: values) rest

/-- The matcher called at the beginning of a text, up to the opening
parenthesis. -/
def readHead (cs : List Char) : Reading MatcherName :=
  let name := String.ofList (cs.takeWhile isNameChar)
  let rest := cs.dropWhile isNameChar
  if name.isEmpty then
    match rest with
    | [] | '\'' :: _ => .failed .literalForCall rest rest
    | c :: _ => .failed (.nameExpected c) rest rest
  else
    match MatcherName.ofName? name with
    | none => .failed (.unknownMatcher name) cs rest
    | some matcher =>
      match skipBlank rest with
      | '(' :: inside => .done matcher inside
      | other => .failed (.openingExpected name) other other

/-- Whether a text names variables, which are known only when it is used. -/
def namesVariables (pattern : String) : Bool :=
  Text.occursIn ['$', '{'] pattern.toList

variable [PatternLibrary]

/-- The first mistake in the arguments of a check: their number, then a
pattern that is none. Patterns that name variables are not looked into. -/
def argumentMistake? (kind : Check) (args : List String) : Option Mistake :=
  if !kind.arity.accepts args.length then some (.wrongArity kind.name kind.arity args.length)
  else
    match kind, args with
    | .matchesPattern, pattern :: _ =>
      if namesVariables pattern then none
      else
        match PatternLibrary.compileWhole pattern with
        | .ok _ => none
        | .error detail => some (.invalidPattern pattern detail)
    | _, _ => none

/-- The mistake in the number of parts of a combinator. -/
def partsMistake? (kind : Combinator) (parts : List Predicate) : Option Mistake :=
  if kind.arity.accepts parts.length then none
  else some (.wrongArity kind.name kind.arity parts.length)

/-- The items of a call, from after its opening parenthesis: none if it is
closed at once, otherwise what `read` reads. -/
def readItems {α : Type} (read : List Char → Reading (List α)) (text : List Char) :
    Reading (List α) :=
  match skipBlank text with
  | ')' :: rest => .done [] rest
  | cs => read cs

/-- A reading that fails at `place` if its value has a mistake. -/
def checked {α β : Type} (mistake? : α → Option Mistake) (place : List Char) (make : α → β)
    (value : α) (rest : List Char) : Reading β :=
  match mistake? value with
  | some mistake => .failed mistake place rest
  | none => .done (make value) rest

mutual

/-- A call. A nested call is shorter than the text it stands in, so fuel
beyond the length of the text suffices. -/
def readCall : Nat → List Char → Reading Predicate
  | 0, cs => .failed .missingClosing cs cs
  | fuel + 1, cs =>
    (readHead cs).andThen fun matcher inside =>
    match matcher with
    | .combinator kind =>
      (readItems (readCalls fuel) inside).andThen
        (checked (partsMistake? kind) cs (.combine kind))
    | .check kind =>
      (readItems (readLiterals (inside.length + 1)) inside).andThen
        (checked (argumentMistake? kind) cs (.check kind))

/-- Calls up to the closing parenthesis. -/
def readCalls : Nat → List Char → Reading (List Predicate)
  | 0, cs => .failed .missingClosing cs cs
  | fuel + 1, cs =>
    (readCall fuel (skipBlank cs)).andThen fun part rest =>
    (readSeparator rest).andThen fun closed rest =>
    if closed then .done [part] rest
    else (readCalls fuel rest).andThen fun parts rest => .done (part :: parts) rest

end

/-- A whole expression: a call with nothing but blanks around it. -/
def readExpression (text : List Char) : Reading Predicate :=
  (readCall (text.length + 1) (skipBlank text)).andThen fun predicate rest =>
  match skipBlank rest with
  | [] => .done predicate []
  | c :: more => .failed (.trailing c) (c :: more) (c :: more)

/-! ## Parsers -/

/-- A text and how much of it is still unread. -/
structure Parser where
  /-- The expression. -/
  source : List Char
  /-- The characters still unread. -/
  rest : List Char

namespace Parser

/-- The parser of an expression, nothing being read yet. -/
def start (expression : String) : Parser := ⟨expression.toList, expression.toList⟩

/-- The byte offset of an end of the source. -/
def offsetOf (p : Parser) (rest : List Char) : Nat :=
  Text.byteSize p.source - Text.byteSize rest

/-- Read an expression from the unread characters. -/
def next (p : Parser) : Except ParseError Predicate × Parser :=
  match readExpression p.rest with
  | .done predicate rest => (.ok predicate, { p with rest })
  | .failed mistake place rest => (.error ⟨mistake, p.offsetOf place⟩, { p with rest })

end Parser

/-- The predicate of an expression. -/
def parse (expression : String) : Except ParseError Predicate :=
  (Parser.start expression).next.1

/-- Outcomes of parsing can be compared. -/
instance : DecidableEq (Except ParseError Predicate)
  | .ok t, .ok u => decidable_of_iff (t = u) (by simp)
  | .error d, .error e => decidable_of_iff (d = e) (by simp)
  | .ok _, .error _ => .isFalse (by simp)
  | .error _, .ok _ => .isFalse (by simp)

end Matcher

/-- A matcher expression with the predicate it was read as. -/
structure Matcher where
  /-- The expression as it was written. -/
  source : String
  /-- Its predicate. -/
  root : Matcher.Predicate

/-- The matcher of an expression. -/
def Matcher.ofSource [PatternLibrary] (source : String) : Except Matcher.ParseError Matcher :=
  match Matcher.parse source with
  | .ok root => .ok ⟨source, root⟩
  | .error e => .error e

end Scenario
