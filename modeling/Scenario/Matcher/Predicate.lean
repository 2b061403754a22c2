import Scenario.Matcher.Kind

/-!
# Predicates — the tree behind a matcher expression

A predicate is a check with literal arguments or a combinator of
predicates. Nothing ties the number of arguments to the arity of the kind:
trees can also be built by hand, and they have a depth, a canonical text and
a verdict all the same.

The canonical text quotes every argument and escapes its quotes and
backslashes (`quoted`), with one space after each comma.
-/

namespace Scenario
namespace Matcher

/-- A tree of checks and combinators. -/
inductive Predicate where
  | check (kind : Check) (args : List String)
  | combine (kind : Combinator) (parts : List Predicate)

namespace Predicate

/-- The name called at the root. -/
def name : Predicate → String
  | check kind _ => kind.name
  | combine kind _ => kind.name

mutual

/-- The levels of the tree; a single check has one. -/
def depth : Predicate → Nat
  | check _ _ => 1
  | combine _ parts => 1 + deepest parts

/-- The largest depth in a list, zero for the empty one. -/
def deepest : List Predicate → Nat
  | [] => 0
  | p :: ps => max p.depth (deepest ps)

end

/-! ## Equality of trees is decidable -/

mutual

/-- Whether two trees are the same. -/
def same : Predicate → Predicate → Bool
  | check k as, check l bs => decide (k = l) && decide (as = bs)
  | combine k ps, combine l qs => decide (k = l) && sameAll ps qs
  | _, _ => false

/-- Whether two lists of trees are the same. -/
def sameAll : List Predicate → List Predicate → Bool
  | [], [] => true
  | p :: ps, q :: qs => p.same q && sameAll ps qs
  | _, _ => false

end

mutual

/-- The comparison of two trees decides equality. -/
theorem same_eq_true : ∀ p q : Predicate, p.same q = true ↔ p = q
  | check k as, check l bs => by simp [same]
  | combine k ps, combine l qs => by simp [same, sameAll_eq_true ps qs]
  | check _ _, combine _ _ => by simp [same]
  | combine _ _, check _ _ => by simp [same]

/-- The comparison of two lists of trees decides equality. -/
theorem sameAll_eq_true : ∀ ps qs : List Predicate, sameAll ps qs = true ↔ ps = qs
  | [], [] => by simp [sameAll]
  | p :: ps, q :: qs => by simp [sameAll, same_eq_true p q, sameAll_eq_true ps qs]
  | [], _ :: _ => by simp [sameAll]
  | _ :: _, [] => by simp [sameAll]

end

instance : DecidableEq Predicate := fun p q => decidable_of_iff _ (same_eq_true p q)

/-! ## The canonical text -/

/-- A character of a quoted argument: quotes and backslashes take a
backslash before them. -/
def escaped (c : Char) : List Char :=
  if c = '\'' ∨ c = '\\' then ['\\', c] else [c]

/-- An argument between quotes. -/
def quoted (arg : List Char) : List Char :=
  '\'' :: (arg.flatMap escaped ++ ['\''])

/-- A call of `name` with the given written items. -/
def call (name : String) (items : List (List Char)) : List Char :=
  name.toList ++ '(' :: ([',', ' '].intercalate items ++ [')'])

mutual

/-- The canonical text of a predicate. -/
def written : Predicate → List Char
  | check kind args => call kind.name (args.map fun arg => quoted arg.toList)
  | combine kind parts => call kind.name (writtenAll parts)

/-- The canonical texts of a list of predicates. -/
def writtenAll : List Predicate → List (List Char)
  | [] => []
  | p :: ps => p.written :: writtenAll ps

end

/-- The canonical text of a predicate. -/
def text (p : Predicate) : String := .ofList p.written

end Predicate

end Matcher
end Scenario
