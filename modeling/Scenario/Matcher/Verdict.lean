import Scenario.Matcher.Reader
import Scenario.Scope.Placeholder
import Scenario.Text.Binary64
import Scenario.Text.Lowercase

/-!
# Verdicts — evaluating a predicate against a value

The value is a text or null. `Predicate.holds` fills the variables of the
arguments in and decides: `Not` fails exactly if all its parts hold, `AnyOf`
asks for one and `AllOf` for all. Only the checks about null itself see
null; every other check reads it as the empty text.
-/

namespace Scenario
namespace Matcher

open Text

/-- Whether a text is empty but for blanks. -/
def isBlankText (cs : List Char) : Bool := (trimmed cs).isEmpty

/-- Whether a text is blank, or a pair of square brackets with nothing but
blanks inside. -/
def isEmptyValue (cs : List Char) : Bool :=
  let text := trimmed cs
  text.isEmpty ||
    match text with
    | '[' :: more => more.getLast? == some ']' && isBlankText more.dropLast
    | _ => false

/-- Equality in membership checks: the same text but for blank ends, or two
texts for the same number. -/
def sameValue (a b : List Char) : Bool :=
  let a := trimmed a
  let b := trimmed b
  a == b ||
    match Binary64.ofText? a, Binary64.ofText? b with
    | some x, some y => x.same y
    | _, _ => false

variable [PatternLibrary]

/-- Whether a text as a whole matches the pattern; a pattern that is none
matches nothing. -/
def matchesPattern (pattern : String) (actual : List Char) : Bool :=
  match PatternLibrary.compileWhole pattern with
  | .ok test => test actual
  | .error _ => false

/-- Whether a value passes a check with the given arguments, its variables
already filled in. -/
def Check.passes (kind : Check) (args : List String) (value : Option String) : Bool :=
  let actual := (value.getD "").toList
  let expected := (args.headD "").toList
  match kind with
  | equalTo => actual == expected
  | equalToIgnoringCase => lowercase actual == lowercase expected
  | equalToIgnoringWhiteSpace => collapsed actual == collapsed expected
  | containsString => occursIn expected actual
  | containsStringIgnoringCase => occursIn (lowercase expected) (lowercase actual)
  | startsWith => expected.isPrefixOf actual
  | startsWithIgnoringCase => (lowercase expected).isPrefixOf (lowercase actual)
  | endsWith => expected.isSuffixOf actual
  | endsWithIgnoringCase => (lowercase expected).isSuffixOf (lowercase actual)
  | matchesPattern => Matcher.matchesPattern (args.headD "") actual
  | isOneOf | isIn => args.any fun candidate => sameValue actual candidate.toList
  | nullValue => value.isNone
  | notNullValue => value.isSome
  | isEmptyString => actual.isEmpty
  | isEmptyOrNullString => value.elim true fun text => text.toList.isEmpty
  | blankString => isBlankText actual
  | blankOrNullString => value.elim true fun text => isBlankText text.toList
  | empty => isEmptyValue actual

namespace Predicate

mutual

/-- The verdict of a predicate on a value, in a scope. -/
def holds (scope : Scope) (value : Option String) : Predicate → Bool
  | check kind args => kind.passes (args.map scope.fill) value
  | combine .not parts => !allHold scope value parts
  | combine .anyOf parts => anyHolds scope value parts
  | combine .allOf parts => allHold scope value parts

/-- Whether all of some predicates hold. -/
def allHold (scope : Scope) (value : Option String) : List Predicate → Bool
  | [] => true
  | p :: ps => p.holds scope value && allHold scope value ps

/-- Whether one of some predicates holds. -/
def anyHolds (scope : Scope) (value : Option String) : List Predicate → Bool
  | [] => false
  | p :: ps => p.holds scope value || anyHolds scope value ps

end

end Predicate

end Matcher

/-- The verdict of a matcher on a value, in a scope. -/
def Matcher.accepts [PatternLibrary] (m : Matcher) (scope : Scope) (value : Option String) : Bool :=
  m.root.holds scope value

end Scenario
