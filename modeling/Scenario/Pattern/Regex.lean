import Scenario.Unicode.CharSet

/-!
# Regular expressions — the core that patterns come down to

A regular expression is built from characters of a set and tests of a
position by sequence, choice and counted repetition. What a group remembers,
whether a repetition is greedy and whether a class was written where only
ASCII is allowed say nothing about which texts match; they are kept because
the compact form of an expression depends on them.

`Matches text r i j` says that `r` can read the characters of `text` from
position `i` to position `j`; it is the meaning that the matcher computes.
-/

namespace Scenario
namespace Pattern

open Unicode (CharSet)

/-- The tests of a position between two characters. -/
inductive Look where
  | textStart
  | textEnd
  | lineStart
  | lineEnd
  | crlfLineStart
  | crlfLineEnd
  | boundary (word : CharSet)
  | notBoundary (word : CharSet)
  | wordStart (word : CharSet)
  | wordEnd (word : CharSet)
  | wordStartHalf (word : CharSet)
  | wordEndHalf (word : CharSet)
  deriving DecidableEq

namespace Look

/-- Whether an optional character is in a set. -/
def has (set : CharSet) : Option Char → Bool
  | some c => set.contains c
  | none => false

/-- Whether the test holds between the character before and the one after. -/
def holds (before after : Option Char) : Look → Bool
  | textStart => before.isNone
  | textEnd => after.isNone
  | lineStart => before.isNone || before == some '\n'
  | lineEnd => after.isNone || after == some '\n'
  | crlfLineStart =>
    before.isNone || before == some '\n' || (before == some '\r' && after != some '\n')
  | crlfLineEnd =>
    after.isNone || after == some '\r' || (after == some '\n' && before != some '\r')
  | boundary word => has word before != has word after
  | notBoundary word => has word before == has word after
  | wordStart word => !has word before && has word after
  | wordEnd word => has word before && !has word after
  | wordStartHalf word => !has word before
  | wordEndHalf word => !has word after

end Look

/-- A regular expression. -/
inductive Regex where
  | empty
  /-- A character of a set; `ascii` marks a set written where only ASCII is
  allowed. -/
  | chars (ascii : Bool) (set : CharSet)
  | look (test : Look)
  /-- What a group remembers. -/
  | capture (body : Regex)
  | seq (first second : Regex)
  | choice (branches : List Regex)
  | repetition (greedy : Bool) (min : Nat) (max : Option Nat) (body : Regex)

namespace Regex

/-- The character before a position of a text. -/
def before? (text : List Char) (i : Nat) : Option Char :=
  if i = 0 then none else text[i - 1]?

/-- The relation `Matches text r i j`: the expression reads `text` from
position `i` to position `j`. -/
inductive Matches (text : List Char) : Regex → Nat → Nat → Prop where
  | empty {i : Nat} : Matches text .empty i i
  | chars {ascii : Bool} {set : CharSet} {i : Nat} {c : Char} :
      text[i]? = some c → set.contains c = true → Matches text (.chars ascii set) i (i + 1)
  | look {test : Look} {i : Nat} :
      test.holds (before? text i) text[i]? = true → Matches text (.look test) i i
  | capture {r : Regex} {i j : Nat} : Matches text r i j → Matches text (.capture r) i j
  | seq {r s : Regex} {i j k : Nat} :
      Matches text r i j → Matches text s j k → Matches text (.seq r s) i k
  | choice {rs : List Regex} {r : Regex} {i j : Nat} :
      r ∈ rs → Matches text r i j → Matches text (.choice rs) i j
  | stop {greedy : Bool} {max : Option Nat} {r : Regex} {i : Nat} :
      Matches text (.repetition greedy 0 max r) i i
  | turn {greedy : Bool} {min : Nat} {max max' : Option Nat} {r : Regex} {i j k : Nat} :
      (max = none ∧ max' = none ∨ ∃ n, max = some (n + 1) ∧ max' = some n) →
      Matches text r i j → Matches text (.repetition greedy (min - 1) max' r) j k →
      Matches text (.repetition greedy min max r) i k

end Regex

end Pattern
end Scenario
