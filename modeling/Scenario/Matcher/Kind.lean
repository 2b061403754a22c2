/-!
# Matcher kinds — the names an expression may call

A matcher is a check of one value against literal arguments, or a
combinator of other matchers. Each kind has one name, written exactly so in
expressions, and an arity, the numbers of arguments it takes.
`MatcherName.ofName?` recognizes a name, and it is the inverse of `name`
(`ofName?_name`).
-/

namespace Scenario
namespace Matcher

/-- The numbers of arguments a matcher takes. -/
inductive Arity where
  | exactly (n : Nat)
  | atLeast (n : Nat)
  deriving DecidableEq

namespace Arity

/-- Whether a number of arguments is taken. -/
def accepts : Arity → Nat → Bool
  | exactly n, count => count == n
  | atLeast n, count => n ≤ count

/-- The arity in words. Exactly none has a wording of its own, and a single
argument is written in the singular. -/
def text : Arity → String
  | exactly 0 => "no arguments"
  | exactly 1 => "exactly 1 argument"
  | exactly n => s!"exactly {n} arguments"
  | atLeast 1 => "at least 1 argument"
  | atLeast n => s!"at least {n} arguments"

end Arity

/-- The logical combinations of matchers. -/
inductive Combinator where
  | not
  | anyOf
  | allOf
  deriving DecidableEq

namespace Combinator

/-- The name in an expression. -/
def name : Combinator → String
  | not => "Not"
  | anyOf => "AnyOf"
  | allOf => "AllOf"

/-- How many matchers are combined. -/
def arity : Combinator → Arity
  | not => .exactly 1
  | anyOf | allOf => .atLeast 1

/-- Every combinator. -/
def all : List Combinator := [not, anyOf, allOf]

/-- The combinator of a name. -/
def ofName? (name : String) : Option Combinator :=
  all.find? fun kind => kind.name == name

end Combinator

/-- The checks of one value. -/
inductive Check where
  | equalTo
  | equalToIgnoringCase
  | equalToIgnoringWhiteSpace
  | containsString
  | containsStringIgnoringCase
  | startsWith
  | startsWithIgnoringCase
  | endsWith
  | endsWithIgnoringCase
  | matchesPattern
  | isOneOf
  | isIn
  | nullValue
  | notNullValue
  | isEmptyString
  | isEmptyOrNullString
  | blankString
  | blankOrNullString
  | empty
  deriving DecidableEq

namespace Check

/-- The name in an expression. -/
def name : Check → String
  | equalTo => "EqualTo"
  | equalToIgnoringCase => "EqualToIgnoringCase"
  | equalToIgnoringWhiteSpace => "EqualToIgnoringWhiteSpace"
  | containsString => "ContainsString"
  | containsStringIgnoringCase => "ContainsStringIgnoringCase"
  | startsWith => "StartsWith"
  | startsWithIgnoringCase => "StartsWithIgnoringCase"
  | endsWith => "EndsWith"
  | endsWithIgnoringCase => "EndsWithIgnoringCase"
  | matchesPattern => "MatchesPattern"
  | isOneOf => "IsOneOf"
  | isIn => "IsIn"
  | nullValue => "NullValue"
  | notNullValue => "NotNullValue"
  | isEmptyString => "IsEmptyString"
  | isEmptyOrNullString => "IsEmptyOrNullString"
  | blankString => "BlankString"
  | blankOrNullString => "BlankOrNullString"
  | empty => "Empty"

/-- How many literal arguments the check takes: the membership checks a
list of at least one, the checks for null, empty and blank values none, all
others one. -/
def arity : Check → Arity
  | isOneOf | isIn => .atLeast 1
  | nullValue | notNullValue | isEmptyString | isEmptyOrNullString | blankString
  | blankOrNullString | empty => .exactly 0
  | _ => .exactly 1

/-- Whether the check looks at the value before null is read as the empty
text. -/
def inspectsNull : Check → Bool
  | nullValue | notNullValue | isEmptyOrNullString | blankOrNullString => true
  | _ => false

/-- Every check. -/
def all : List Check :=
  [equalTo, equalToIgnoringCase, equalToIgnoringWhiteSpace, containsString,
    containsStringIgnoringCase, startsWith, startsWithIgnoringCase, endsWith,
    endsWithIgnoringCase, matchesPattern, isOneOf, isIn, nullValue, notNullValue, isEmptyString,
    isEmptyOrNullString, blankString, blankOrNullString, empty]

/-- The check of a name. -/
def ofName? (name : String) : Option Check :=
  all.find? fun kind => kind.name == name

end Check

/-- A recognized matcher name. -/
inductive MatcherName where
  | combinator (kind : Combinator)
  | check (kind : Check)
  deriving DecidableEq

namespace MatcherName

/-- The name in an expression. -/
def name : MatcherName → String
  | combinator kind => kind.name
  | check kind => kind.name

/-- The arity of the kind named. -/
def arity : MatcherName → Arity
  | combinator kind => kind.arity
  | check kind => kind.arity

/-- The kind of a name, if it is a matcher name at all. -/
def ofName? (name : String) : Option MatcherName :=
  match Combinator.ofName? name with
  | some kind => some (combinator kind)
  | none => (Check.ofName? name).map check

/-- Names are unambiguous: each kind is found under its own name. -/
theorem ofName?_name (m : MatcherName) : ofName? m.name = some m := by
  cases m with
  | combinator kind => cases kind <;> decide
  | check kind => cases kind <;> decide

/-- And what is found under a name has that name. -/
theorem name_of_ofName? {name : String} {m : MatcherName} (h : ofName? name = some m) :
    m.name = name := by
  unfold ofName? at h
  cases hc : Combinator.ofName? name with
  | some kind =>
    rw [hc] at h
    cases h
    have hname := List.find?_some hc
    exact eq_of_beq hname
  | none =>
    rw [hc] at h
    obtain ⟨kind, hk, rfl⟩ := Option.map_eq_some_iff.mp h
    have hname := List.find?_some hk
    exact eq_of_beq hname

end MatcherName

/-- Whether a text is the name of a matcher. -/
def isMatcherName (name : String) : Bool :=
  (MatcherName.ofName? name).isSome

theorem isMatcherName_eq_true_iff {name : String} :
    isMatcherName name = true ↔ ∃ m : MatcherName, m.name = name := by
  rw [isMatcherName, Option.isSome_iff_exists]
  constructor
  · rintro ⟨m, hm⟩
    exact ⟨m, MatcherName.name_of_ofName? hm⟩
  · rintro ⟨m, rfl⟩
    exact ⟨m, m.ofName?_name⟩

end Matcher
end Scenario
