import Scenario.Unicode.CharSet

/-!
# Encoded intervals — characters as sequences of bytes

Programs read bytes, so an interval of characters is read as alternatives of
byte sequences, each a byte out of an interval at every place. An interval is
cut where the number of bytes changes, at the surrogates, and so that within
each part the bytes at one place do not depend on those at another.
-/

namespace Scenario
namespace Pattern

open Unicode (CharSet)

/-- An interval of bytes. -/
abbrev ByteRange := UInt8 × UInt8

namespace ByteRange

/-- The end of the first part and the beginning of the second where an
interval crosses the border of a block of code points and does not fill its
blocks. -/
def blockCut? (low high block : Nat) : Option (Nat × Nat) :=
  if low / block = high / block then none
  else if low % block ≠ 0 then some (low / block * block + block - 1, low / block * block + block)
  else if high % block ≠ block - 1 then some (high / block * block - 1, high / block * block)
  else none

/-- The end of the first part and the beginning of the second where an
interval goes past the code points up to a border. -/
def borderCut? (low high border : Nat) : Option (Nat × Nat) :=
  if low ≤ border ∧ border < high then some (border, border + 1) else none

/-- Where an interval of code points is cut, if it is. -/
def cut? (low high : Nat) : Option (Nat × Nat) :=
  if low < 0xE000 ∧ 0xD7FF < high then some (0xD7FF, 0xE000)
  else
    match (borderCut? low high 0x7F <|> borderCut? low high 0x7FF) <|>
        borderCut? low high 0xFFFF with
    | some cut => some cut
    | none =>
      if high ≤ 0x7F then none
      else
        (blockCut? low high 0x40 <|> blockCut? low high 0x1000) <|> blockCut? low high 0x40000

/-- The byte sequences of an interval of code points, in rising order. -/
def sequences (low high : Nat) : List (List ByteRange) :=
  if high < low then []
  else
    match cut? low high with
    | some (a, b) =>
      if a < high ∧ low < b then sequences low a ++ sequences b high else []
    | none =>
      [(String.utf8EncodeChar (Char.ofNat low)).zip (String.utf8EncodeChar (Char.ofNat high))]
  termination_by high + 1 - low

/-- The byte sequences of a class. -/
def ofSet (s : CharSet) : List (List ByteRange) :=
  s.ranges.flatMap fun r => sequences r.1 r.2

end ByteRange

end Pattern
end Scenario
