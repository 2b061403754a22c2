import Scenario.Unicode.CaseMap

/-!
# Sets of characters — the algebra of ranges

A `CharSet` is a list of closed intervals of code points in rising order.
Union, intersection, difference and complement work on the intervals, and
so does the closure under case. Which intervals a set is made of matters
beyond membership: the space a compiled class takes is counted interval by
interval. Neighbouring intervals are joined wherever a set is put together
from parts, except across the surrogates, which are no characters.
-/

namespace Scenario
namespace Unicode

/-- A set of characters as closed intervals of code points in rising
order. -/
structure CharSet where
  /-- The intervals. -/
  ranges : Ranges
  deriving DecidableEq

namespace CharSet

/-- Whether a character is in the set. -/
def contains (s : CharSet) (c : Char) : Bool := within s.ranges c

/-- The set without characters. -/
def empty : CharSet := ⟨[]⟩

/-- The set of all characters. -/
def all : CharSet := ⟨[(0, 0x10FFFF)]⟩

/-- The characters from one to another. -/
def range (low high : Char) : CharSet := ⟨[(low.toNat, high.toNat)]⟩

/-- The set of one character. -/
def single (c : Char) : CharSet := range c c

/-- The only character of a set, if it is given as one. -/
def single? (s : CharSet) : Option Char :=
  match s.ranges with
  | [(low, high)] => if low = high then some (Char.ofNat low) else none
  | _ => none

/-- Whether all intervals end within ASCII. -/
def isAscii (s : CharSet) : Bool := s.ranges.all fun r => r.2 < 0x80

/-! ## Putting intervals together -/

/-- An interval and those after it, joined where they touch or overlap. -/
def joinFrom : Nat × Nat → Ranges → Ranges
  | r, [] => [r]
  | r, s :: rest =>
    if s.1 ≤ r.2 + 1 then joinFrom (r.1, Nat.max r.2 s.2) rest else r :: joinFrom s rest

/-- The intervals of a list in rising order, joined where they touch or
overlap. -/
def join : Ranges → Ranges
  | [] => []
  | r :: rest => joinFrom r rest

/-- Whether an interval begins no later than another, or ends no later where
both begin together. -/
def startsBefore (r s : Nat × Nat) : Bool := r.1 < s.1 || (r.1 == s.1 && r.2 ≤ s.2)

/-- The set made of some intervals in any order. -/
def ofRanges (ranges : Ranges) : CharSet := ⟨join (ranges.mergeSort startsBefore)⟩

/-- The set made of the intervals of some tables. -/
def ofTables (tables : List Ranges) : CharSet := ofRanges tables.flatten

/-! ## Set operations -/

/-- The code point of the next character. -/
def next (n : Nat) : Nat := if n = 0xD7FF then 0xE000 else n + 1

/-- The code point of the character before. -/
def previous (n : Nat) : Nat := if n = 0xE000 then 0xD7FF else n - 1

/-- The union of two sets. -/
def union (s t : CharSet) : CharSet :=
  if t.ranges.isEmpty || s = t then s else ofRanges (s.ranges ++ t.ranges)

/-- What two lists of intervals have in common. -/
def interRanges : Ranges → Ranges → Ranges
  | [], _ => []
  | _, [] => []
  | r :: rs, s :: ss =>
    let low := Nat.max r.1 s.1
    let high := Nat.min r.2 s.2
    let rest := if r.2 < s.2 then interRanges rs (s :: ss) else interRanges (r :: rs) ss
    if low ≤ high then (low, high) :: rest else rest
  termination_by rs ss => rs.length + ss.length

/-- The intersection of two sets. -/
def inter (s t : CharSet) : CharSet := ⟨interRanges s.ranges t.ranges⟩

/-- What is left of some intervals without others. -/
def diffRanges : Ranges → Ranges → Ranges
  | [], _ => []
  | rs, [] => rs
  | r :: rs, s :: ss =>
    if s.2 < r.1 then diffRanges (r :: rs) ss
    else if r.2 < s.1 then r :: diffRanges rs (s :: ss)
    else
      let rest :=
        if s.2 < r.2 then diffRanges ((next s.2, r.2) :: rs) ss else diffRanges rs (s :: ss)
      if r.1 < s.1 then (r.1, previous s.1) :: rest else rest
  termination_by rs ss => rs.length + ss.length

/-- The difference of two sets. -/
def diff (s t : CharSet) : CharSet := ⟨diffRanges s.ranges t.ranges⟩

/-- The characters in exactly one of two sets. -/
def symmDiff (s t : CharSet) : CharSet := (s.union t).diff (s.inter t)

/-- The gaps after an interval that ends at a code point, up to the last
character. Where one interval ends just below the surrogates and the next
begins just above them there is no character in the gap; its two ends trade
places, so that it holds both neighbours. -/
def gapsAfter : Nat → Ranges → Ranges
  | n, [] => if n < 0x10FFFF then [(next n, 0x10FFFF)] else []
  | n, r :: rest =>
    (Nat.min (next n) (previous r.1), Nat.max (next n) (previous r.1)) :: gapsAfter r.2 rest

/-- The complement of a set: the gaps between its intervals. -/
def compl (s : CharSet) : CharSet :=
  match s.ranges with
  | [] => all
  | r :: rest => ⟨(if 0 < r.1 then [(0, previous r.1)] else []) ++ gapsAfter r.2 rest⟩

instance : Union CharSet := ⟨union⟩
instance : Inter CharSet := ⟨inter⟩
instance : SDiff CharSet := ⟨diff⟩

/-! ## Case -/

/-- The characters that are folded, each with the one it is folded to. -/
def foldingPairs : List (Nat × Nat) := folding.flatMap fun run =>
  (List.range ((run.last - run.first) / run.stride + 1)).map fun k =>
    let n := run.first + k * run.stride
    (n, run.image n)

/-- A set together with all the characters that differ from one of it in
case only. -/
def closeCase (s : CharSet) : CharSet :=
  let bases := ofRanges (foldingPairs.filterMap fun pair =>
    if inRanges s.ranges pair.1 || inRanges s.ranges pair.2 then some (pair.2, pair.2) else none)
  let added := foldingPairs.filter fun pair => inRanges bases.ranges pair.2
  ofRanges (s.ranges ++ bases.ranges ++ added.map fun pair => (pair.1, pair.1))

/-- The letters of ASCII in the other case for those in a set, `low` being
the first of the alphabet in one case and `other` in the other. -/
def otherCase (s : CharSet) (low other : Nat) : Ranges :=
  (interRanges s.ranges [(low, low + 25)]).map fun r => (r.1 - low + other, r.2 - low + other)

/-- A set together with the letters of ASCII that differ from one of it in
case only. -/
def closeAsciiCase (s : CharSet) : CharSet :=
  ofRanges (s.ranges ++ s.otherCase 0x61 0x41 ++ s.otherCase 0x41 0x61)

end CharSet

end Unicode
end Scenario
