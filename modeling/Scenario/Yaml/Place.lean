import Scenario.Text.Offset

/-!
# Places in a YAML text — unread characters with line and column

Structure in YAML depends on columns, so the characters still unread are
kept together with the place they begin at: columns count characters, and
the distance from the beginning of the text counts bytes. Line ends are the carriage
return, the line feed and both as one, the next-line character, and the line
and paragraph separators; only the last two are kept as they are when a
line end becomes part of a scalar.
-/

namespace Scenario
namespace Yaml

/-- The unread characters and where they begin. -/
structure Place where
  /-- The unread characters. -/
  rest : List Char
  /-- The number of bytes before them in UTF-8. -/
  offset : Nat
  /-- The number of lines before this one. -/
  line : Nat
  /-- The number of characters before them in this line. -/
  column : Nat

/-- A reader of part of a text; it has no result where the text breaks a
rule. -/
abbrev Scanner := StateT Place Option

/-- A space or a tab. -/
def isBlank (c : Char) : Bool := c == ' ' || c == '\t'

/-- A character that ends a line. -/
def isBreak (c : Char) : Bool :=
  c == '\r' || c == '\n' || c == '\x85' || c == '\u2028' || c == '\u2029'

/-- A letter or digit of ASCII, a hyphen or an underscore. -/
def isWordChar (c : Char) : Bool := c.isAlphanum || c == '-' || c == '_'

/-- A character that a text may hold at all. -/
def isAllowed (c : Char) : Bool :=
  let n := c.toNat
  n == 0x09 || n == 0x0A || n == 0x0D || (0x20 ≤ n && n ≤ 0x7E) || n == 0x85 ||
  (0xA0 ≤ n && n ≤ 0xD7FF) || (0xE000 ≤ n && n ≤ 0xFFFD) || 0x10000 ≤ n

namespace Place

/-- The place before the first character. -/
def start (text : List Char) : Place := ⟨text, 0, 0, 0⟩

/-- The next character, if there is one. -/
def head? (p : Place) : Option Char := p.rest.head?

/-- The character some characters further on, if there is one. -/
def at? (p : Place) (n : Nat) : Option Char := p.rest[n]?

/-- Whether the character some characters further on is a blank, a line end
or missing. -/
def blankAt (p : Place) (n : Nat) : Bool :=
  match p.at? n with
  | some c => isBlank c || isBreak c
  | none => true

/-- The place after the next characters, none of them a line end. -/
def skip (p : Place) (n : Nat) : Place :=
  { p with
    rest := p.rest.drop n
    offset := p.offset + Text.byteSize (p.rest.take n)
    column := p.column + n }

/-- The line end at a place, as it counts in a scalar, and the place after
it. -/
def takeBreak (p : Place) : Option (Char × Place) :=
  match p.rest with
  | '\r' :: '\n' :: rest => some ('\n', ⟨rest, p.offset + 2, p.line + 1, 0⟩)
  | c :: rest =>
    if isBreak c then
      some (if c == '\u2028' || c == '\u2029' then c else '\n',
        ⟨rest, p.offset + c.utf8Size, p.line + 1, 0⟩)
    else none
  | [] => none

/-- Whether a marker of a document boundary stands here: three hyphens or
three dots at the beginning of a line. -/
def atBoundary (p : Place) : Bool :=
  p.column == 0 && p.blankAt 3 &&
  (['-', '-', '-'].isPrefixOf p.rest || ['.', '.', '.'].isPrefixOf p.rest)

end Place

namespace Scanner

/-- The next character, if there is one. -/
def head? : Scanner (Option Char) := return (← get).head?

/-- Pass over some characters of a line. -/
def skip (n : Nat) : Scanner Unit := modify (·.skip n)

/-- Succeed only if the condition holds. -/
def require (condition : Bool) : Scanner Unit := if condition then return () else failure

/-- Read the characters of a class in a line. -/
def takeWhile (p : Char → Bool) : Scanner (List Char) := do
  let run := (← get).rest.takeWhile p
  skip run.length
  return run

/-- Read blanks. -/
def skipBlanks : Scanner Unit := discard (takeWhile isBlank)

/-- Read a line end, if there is one. -/
def skipBreak : Scanner Unit := modify fun p =>
  match p.takeBreak with
  | some (_, after) => after
  | none => p

/-- Read a comment up to the end of its line, if there is one. -/
def skipComment : Scanner Unit := do
  if (← head?) == some '#' then discard (takeWhile fun c => !isBreak c)

/-- Read blanks and a comment; nothing else may be left in the line. -/
def finishLine : Scanner Unit := do
  skipBlanks
  skipComment
  match ← head? with
  | some c => require (isBreak c)
  | none => return ()
  skipBreak

end Scanner

end Yaml
end Scenario
