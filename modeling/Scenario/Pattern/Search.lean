import Scenario.Matcher.PatternLibrary
import Scenario.Pattern.Meaning
import Scenario.Pattern.Program
import Scenario.Pattern.Reader

/-!
# Searching — which texts a regular expression occurs in

A set of positions of a text is a natural number, position `i` being in it
when bit `i` is set. For one text an expression becomes a `Plan`, in which
classes and tests are already masks, and running a plan takes a set of
positions to the set of those its matches lead to. Repetition runs its body
until nothing new is reached.

`Regex.occursIn` asks whether a match from any position leads anywhere. With it
the patterns that can be compiled make a library for matchers.
-/

namespace Scenario
namespace Pattern

/-- An expression prepared for one text: positions a character may be read
from, and positions where a test holds, are masks. -/
inductive Plan where
  | stay
  | read (mask : Nat)
  | test (mask : Nat)
  | never
  | seq (first second : Plan)
  | alt (left right : Plan)
  | repetition (min : Nat) (max : Option Nat) (body : Plan)

namespace Plan

/-- The mask of the indexes at which a list holds `true`. -/
def maskOf : List Bool → Nat
  | [] => 0
  | b :: bs => (if b then 1 else 0) + 2 * maskOf bs

/-- The values of a test at every position of a text, the one at its end
included, after the given character. -/
def testAt (look : Look) : Option Char → List Char → List Bool
  | before, [] => [look.holds before none]
  | before, c :: cs => look.holds before (some c) :: testAt look (some c) cs

mutual

/-- The plan of an expression for a text. -/
def ofRegex (text : List Char) : Regex → Plan
  | .empty => stay
  | .chars _ set => read (maskOf (text.map set.contains))
  | .look l => test (maskOf (testAt l none text))
  | .capture r => ofRegex text r
  | .seq r s => seq (ofRegex text r) (ofRegex text s)
  | .choice rs => ofBranches text rs
  | .repetition _ min max r => repetition min max (ofRegex text r)

/-- The plan of a choice for a text. -/
def ofBranches (text : List Char) : List Regex → Plan
  | [] => never
  | r :: rs => alt (ofRegex text r) (ofBranches text rs)

end

/-- A step taken `n` times; a set the step does not change is returned at
once. -/
def iterate (step : Nat → Nat) : Nat → Nat → Nat
  | 0, s => s
  | n + 1, s =>
    let t := step s
    if t = s then s else iterate step n t

/-- Run a plan from a set of positions of a text with `length` characters.
-/
def run (length : Nat) : Plan → Nat → Nat
  | stay, s => s
  | read mask, s => (s &&& mask) <<< 1
  | test mask, s => s &&& mask
  | never, _ => 0
  | seq first second, s => second.run length (first.run length s)
  | alt left right, s => left.run length s ||| right.run length s
  | repetition min max body, s =>
    let reached := iterate (body.run length) min s
    let more :=
      match max with
      | some n => n - min
      | none => length + 1
    iterate (fun t => t ||| body.run length t) more reached

end Plan

/-- Whether some part of a text matches. -/
def Regex.occursIn (r : Regex) (text : List Char) : Bool :=
  let everywhere := 1 <<< (text.length + 1) - 1
  (Plan.ofRegex text r).run text.length everywhere != 0

/-- The regular expression of a text; or what keeps it from having one, which is
that it is no pattern, or that its programs are too large. -/
def compile (text : List Char) : Except String Regex :=
  match (read? text).bind fun e => e.resolve .initial with
  | none => .error "regex parse error"
  | some (r, _) =>
    if (Shape.ofRegex r).fits then .ok r
    else .error s!"Compiled regex exceeds size limit of {Layout.limit} bytes."

end Pattern

/-- **The library of the program.** -/
instance : PatternLibrary where
  compile pattern := (Pattern.compile pattern.toList).map Pattern.Regex.occursIn

end Scenario
