/-!
# Numbers in a text — decimals read to the nearest binary64

Membership checks compare two texts as numbers when both are numbers. A
number is an optional sign followed by decimal digits with an optional
point, at least one digit in all, and an optional exponent, or one of the
words `inf`, `infinity` and `nan` in any case. Its value is the nearest
number of the format binary64, an exact tie going to the even mantissa:
53 bits of mantissa, and a power of two no lower than `minExponent`.

All arithmetic is exact, on natural numbers; `roundQuotient` does the only
rounding.
-/

namespace Scenario
namespace Text

/-- A value of the format binary64. The finite ones are
`mantissa * 2 ^ exponent`, with the exponent as low as the format allows. -/
inductive Binary64 where
  | nan
  | infinite (negative : Bool)
  | finite (negative : Bool) (mantissa : Nat) (exponent : Int)
  deriving DecidableEq

namespace Binary64

/-- The number of bits of a mantissa. -/
def mantissaBits : Nat := 53

/-- The exponent of the smallest positive value. -/
def minExponent : Int := -1074

/-- The largest exponent of a finite value. -/
def maxExponent : Int := 971

/-- Numerical equality: not a number equals nothing, and both zeros are one
number. -/
def same : Binary64 → Binary64 → Bool
  | infinite s, infinite t => s == t
  | finite s m e, finite t n f => (m == 0 && n == 0) || (s == t && m == n && e == f)
  | _, _ => false

/-- The natural number nearest to `num / den`, a tie going to the even one. -/
def roundQuotient (num den : Nat) : Nat :=
  let q := num / den
  let r := num % den
  if 2 * r < den then q
  else if den < 2 * r then q + 1
  else if q % 2 = 0 then q else q + 1

/-- The integer part of the binary logarithm of `num / den`. -/
def logQuotient (num den : Nat) : Int :=
  let guess : Int := (Nat.log2 num : Int) - (Nat.log2 den : Int)
  let fits :=
    if 0 ≤ guess then den * Nat.pow 2 guess.toNat ≤ num else den ≤ num * Nat.pow 2 (-guess).toNat
  if fits then guess else guess - 1

/-- The value nearest to the positive fraction `num / den`. -/
def ofQuotient (negative : Bool) (num den : Nat) : Binary64 :=
  let exponent := max (logQuotient num den - (mantissaBits - 1 : Nat)) minExponent
  let mantissa :=
    if 0 ≤ exponent then roundQuotient num (den * Nat.pow 2 exponent.toNat)
    else roundQuotient (num * Nat.pow 2 (-exponent).toNat) den
  let (mantissa, exponent) :=
    if mantissa = Nat.pow 2 mantissaBits then (Nat.pow 2 (mantissaBits - 1), exponent + 1)
    else (mantissa, exponent)
  if maxExponent < exponent then infinite negative else finite negative mantissa exponent

/-- The value nearest to `digits * 10 ^ scale`. Magnitudes of which the
decimal order alone decides the answer are settled by it. -/
def ofDecimal (negative : Bool) (digits : Nat) (scale : Int) : Binary64 :=
  if digits = 0 then finite negative 0 minExponent
  else
    let order := scale + (Nat.toDigits 10 digits).length
    if 310 < order then infinite negative
    else if order < -330 then finite negative 0 minExponent
    else if 0 ≤ scale then ofQuotient negative (digits * Nat.pow 10 scale.toNat) 1
    else ofQuotient negative digits (Nat.pow 10 (-scale).toNat)

/-! ## The grammar of numbers -/

/-- A sign, if there is one, and the text after it. -/
def readSign : List Char → Bool × List Char
  | '-' :: cs => (true, cs)
  | '+' :: cs => (false, cs)
  | cs => (false, cs)

/-- An exponent that takes up the whole text; the empty text is none. -/
def readExponent : List Char → Option Int
  | [] => some 0
  | c :: cs =>
    if c = 'e' ∨ c = 'E' then
      let (negative, digits) := readSign cs
      if digits.isEmpty || !digits.all Char.isDigit then none
      else
        let n : Int := Nat.ofDigitChars 10 digits 0
        some (if negative then -n else n)
    else none

/-- The digits and the scale of an unsigned decimal that takes up the whole
text. -/
def readDecimal (cs : List Char) : Option (Nat × Int) :=
  let whole := cs.takeWhile Char.isDigit
  let rest := cs.dropWhile Char.isDigit
  let (places, rest) :=
    match rest with
    | '.' :: more => (more.takeWhile Char.isDigit, more.dropWhile Char.isDigit)
    | _ => ([], rest)
  if whole.isEmpty && places.isEmpty then none
  else (readExponent rest).map fun e =>
    (Nat.ofDigitChars 10 (whole ++ places) 0, e - places.length)

/-- The number a text spells, if it spells one. -/
def ofText? (cs : List Char) : Option Binary64 :=
  let (negative, unsigned) := readSign cs
  let word := unsigned.map Char.toLower
  if word = "inf".toList ∨ word = "infinity".toList then some (infinite negative)
  else if word = "nan".toList then some nan
  else (readDecimal unsigned).map fun (digits, scale) => ofDecimal negative digits scale

end Binary64
end Text
end Scenario
