import Scenario.Pattern.Regex

/-!
# Shapes — regular expressions in compact form

Before an expression is laid out as a program it is made compact. Literals
that follow each other become one, sequences and choices inside others of
their kind are flattened, a choice between characters or classes becomes a
class, and what all branches of a choice begin with is written once. A
repetition of what reads nothing needs one turn only.

`Shape.ofRegex` builds the compact form from below, by `ofSet`, `joined`,
`choiceOf` and `repeated`, each of which makes compact parts into a compact
whole.
-/

namespace Scenario
namespace Pattern

open Unicode (CharSet)

/-- A regular expression in compact form. -/
inductive Shape where
  | empty
  | literal (text : List Char)
  | set (ascii : Bool) (cls : CharSet)
  | look (test : Look)
  | capture (body : Shape)
  | repetition (greedy : Bool) (min : Nat) (max : Option Nat) (body : Shape)
  | concat (items : List Shape)
  | choice (branches : List Shape)

namespace Shape

/-! ## What shapes read -/

mutual

/-- Whether a shape can read no character at all; an empty class, which reads
nothing because it never matches, is not meant. -/
def readsNothing : Shape → Bool
  | empty | look _ => true
  | literal _ | set _ _ => false
  | capture body => body.readsNothing
  | repetition _ _ max body => max.isSome && body.readsNothing
  | concat items => allReadNothing items
  | choice branches => allReadNothing branches

/-- Whether none of some shapes can read a character. -/
def allReadNothing : List Shape → Bool
  | [] => true
  | s :: ss => s.readsNothing && allReadNothing ss

end

mutual

/-- The least number of characters a shape reads; none where it holds an
empty class. -/
def shortest? : Shape → Option Nat
  | empty | look _ => some 0
  | literal text => some text.length
  | set _ cls => if cls.ranges.isEmpty then none else some 1
  | capture body => body.shortest?
  | repetition _ min _ body => body.shortest?.map (min * ·)
  | concat items => shortestOfAll? items
  | choice branches => shortestOfAny? branches

/-- The least number of characters some shapes read one after another. -/
def shortestOfAll? : List Shape → Option Nat
  | [] => some 0
  | s :: ss =>
    match s.shortest?, shortestOfAll? ss with
    | some m, some n => some (m + n)
    | _, _ => none

/-- The least number of characters one of some shapes reads. -/
def shortestOfAny? : List Shape → Option Nat
  | [] => none
  | [s] => s.shortest?
  | s :: ss =>
    match s.shortest?, shortestOfAny? ss with
    | some m, some n => some (Nat.min m n)
    | _, _ => none

end

/-- Whether a shape reads at least one character wherever it matches. -/
def readsSomething (s : Shape) : Bool := s.shortest?.any (0 < ·)

mutual

/-- Whether a test holds at the beginning of whatever a shape matches, as far
as its form shows. -/
def beginsWith (test : Look) : Shape → Bool
  | empty | literal _ | set _ _ => false
  | look l => l = test
  | capture body => body.beginsWith test
  | repetition _ min _ body => 0 < min && body.beginsWith test
  | concat items => someBeginsWith test items
  | choice branches => allBeginWith test branches

/-- Whether a test holds at the beginning of a sequence: one of its items
begins with it, and those before read nothing. -/
def someBeginsWith (test : Look) : List Shape → Bool
  | [] => false
  | s :: ss => s.beginsWith test || (s.readsNothing && someBeginsWith test ss)

/-- Whether a test holds at the beginning of every branch. -/
def allBeginWith (test : Look) : List Shape → Bool
  | [] => true
  | s :: ss => s.beginsWith test && allBeginWith test ss

end

mutual

/-- Whether a test holds at the end of whatever a shape matches, as far as
its form shows. -/
def endsWith (test : Look) : Shape → Bool
  | empty | literal _ | set _ _ => false
  | look l => l = test
  | capture body => body.endsWith test
  | repetition _ min _ body => 0 < min && body.endsWith test
  | concat items => someEndsWith test items
  | choice branches => allEndWith test branches

/-- Whether a test holds at the end of a sequence: one of its items ends with
it, and those after read nothing. -/
def someEndsWith (test : Look) : List Shape → Bool
  | [] => false
  | s :: ss => someEndsWith test ss || (allReadNothing ss && s.endsWith test)

/-- Whether a test holds at the end of every branch. -/
def allEndWith (test : Look) : List Shape → Bool
  | [] => true
  | s :: ss => s.endsWith test && allEndWith test ss

end

/-! ## Comparing shapes -/

mutual

/-- Whether two shapes are the same. Captures never are, since each
remembers for itself, and a class written where only ASCII is allowed is not
the same as one written elsewhere. -/
def same : Shape → Shape → Bool
  | empty, empty => true
  | literal t, literal u => t = u
  | set a c, set b d => a = b && c = d
  | look l, look m => l = m
  | repetition g min max s, repetition h min' max' t =>
    g = h && min = min' && max = max' && s.same t
  | concat ss, concat ts => allSame ss ts
  | choice ss, choice ts => allSame ss ts
  | _, _ => false

/-- Whether two lists hold the same shapes. -/
def allSame : List Shape → List Shape → Bool
  | [], [] => true
  | s :: ss, t :: ts => s.same t && allSame ss ts
  | _, _ => false

end

/-- The number of leading items that two sequences share. -/
def sharedLength : List Shape → List Shape → Nat
  | s :: ss, t :: ts => if s.same t then sharedLength ss ts + 1 else 0
  | _, _ => 0

/-! ## Building shapes -/

/-- The shape of a class: one character is a literal, and an empty class is
the same wherever it is written. -/
def ofSet (ascii : Bool) (s : CharSet) : Shape :=
  match s.single? with
  | some c => literal [c]
  | none => set (ascii || s.ranges.isEmpty) s

/-- The items of a shape in a sequence. -/
def items : Shape → List Shape
  | empty => []
  | concat ss => ss
  | s => [s]

/-- An item before others; a literal before a literal becomes one with it. -/
def before : Shape → List Shape → List Shape
  | literal t, literal u :: rest => literal (t ++ u) :: rest
  | s, rest => s :: rest

/-- A sequence of items; a single one is itself. -/
def ofItems : List Shape → Shape
  | [] => empty
  | [s] => s
  | ss => concat ss

/-- A shape followed by another. -/
def joined (s t : Shape) : Shape := ofItems (s.items.foldr before t.items)

/-- A repetition, with no more turns than make a difference. -/
def repeated (greedy : Bool) (min : Nat) (max : Option Nat) (body : Shape) : Shape :=
  let low := if body.readsNothing then Nat.min min 1 else min
  let high := if body.readsNothing then some (Nat.min (max.getD 1) 1) else max
  match low, high with
  | 0, some 0 => empty
  | 1, some 1 => body
  | _, _ => repetition greedy low high body

/-- The branches of a shape in a choice. -/
def branches : Shape → List Shape
  | choice ss => ss
  | s => [s]

/-- The character a shape is. -/
def character? : Shape → Option Char
  | literal [c] => some c
  | _ => none

/-- The class a shape is. -/
def class? : Shape → Option CharSet
  | set _ c => some c
  | _ => none

/-- The items of a shape that is a sequence. -/
def sequence? : Shape → Option (List Shape)
  | concat ss => some ss
  | _ => none

/-- The class of some branches, if each of them is a character or each is a
class. -/
def classOf? (ss : List Shape) : Option CharSet :=
  match ss.mapM character?, ss.mapM class? with
  | some cs, _ => some (.ofRanges (cs.map fun c => (c.toNat, c.toNat)))
  | none, some classes => some (classes.foldl (· ∪ ·) .empty)
  | none, none => none

/-- The number of leading items that some sequences share. -/
def sharedByAll : List (List Shape) → Nat
  | [] => 0
  | s :: ss => ss.foldl (fun n t => Nat.min n (sharedLength s t)) s.length

mutual

/-- The number of nodes of a shape. -/
def weight : Shape → Nat
  | capture body => body.weight + 1
  | repetition _ _ _ body => body.weight + 1
  | concat ss => weightOfAll ss + 1
  | choice ss => weightOfAll ss + 1
  | _ => 1

/-- The number of nodes of some shapes. -/
def weightOfAll : List Shape → Nat
  | [] => 0
  | s :: ss => s.weight + weightOfAll ss

end

/-- A choice between some branches. The first argument bounds how often a
shared beginning is split off; each time makes the branches lighter. -/
def choiceWithin : Nat → List Shape → Shape
  | fuel, ss =>
    match ss.flatMap branches with
    | [s] => s
    | flat =>
      match classOf? flat with
      | some cls => ofSet false cls
      | none =>
        match fuel, flat.mapM sequence? with
        | fuel + 1, some (first :: others) =>
          let shared := sharedByAll (first :: others)
          if shared = 0 then choice flat
          else
            let rests := (first :: others).map fun items => ofItems (items.drop shared)
            joined (ofItems (first.take shared)) (choiceWithin fuel rests)
        | _, _ => choice flat

/-- A choice between some branches. -/
def choiceOf (ss : List Shape) : Shape := choiceWithin (weightOfAll ss) ss

mutual

/-- The compact form of a regular expression. -/
def ofRegex : Regex → Shape
  | .empty => empty
  | .chars ascii cls => ofSet ascii cls
  | .look test => look test
  | .capture body => capture (ofRegex body)
  | .seq first second => joined (ofRegex first) (ofRegex second)
  | .choice branches => choiceOf (ofBranches branches)
  | .repetition greedy min max body => repeated greedy min max (ofRegex body)

/-- The compact forms of some branches. -/
def ofBranches : List Regex → List Shape
  | [] => []
  | r :: rs => ofRegex r :: ofBranches rs

end

end Shape

end Pattern
end Scenario
