import Scenario.Unicode.Property

/-!
# Lower case — the full mapping of a text

Comparisons that ignore case compare lower-case texts. A character goes to
its lower-case counterpart, with two exceptions: the dotted capital I keeps
its dot as a combining mark, and a capital sigma at the end of a word
becomes a final sigma. The end of a word is where a cased character comes
before, none comes after, and characters that case rules pass over do not
count.
-/

namespace Scenario
namespace Text

/-- Whether the first character that case rules do not pass over has a
case. -/
def casedNext (cs : List Char) : Bool :=
  match cs.dropWhile Unicode.isCaseIgnorable with
  | c :: _ => Unicode.isCased c
  | [] => false

/-- A character in lower case, between the characters before it, the
nearest first, and those after it. -/
def lowerChar (before : List Char) (c : Char) (after : List Char) : List Char :=
  if c = 'Σ' then
    if casedNext before && !casedNext after then ['ς'] else ['σ']
  else if c = 'İ' then ['i', '\u0307']
  else [Char.ofNat (Unicode.mapped Unicode.lowerCase c.toNat)]

/-- The rest of a text in lower case, given what stands before it, the
nearest character first. -/
def lowerFrom : List Char → List Char → List Char
  | _, [] => []
  | before, c :: after => lowerChar before c after ++ lowerFrom (c :: before) after

/-- A text in lower case. -/
def lowercase (cs : List Char) : List Char := lowerFrom [] cs

end Text
end Scenario
