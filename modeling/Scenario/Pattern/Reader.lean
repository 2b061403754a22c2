import Scenario.Pattern.Expr
import Scenario.Unicode.Property

/-!
# Reading patterns

The grammar of patterns, read into `Expr`. A reader takes an `Input`, the
characters still unread with what the text before them has settled: whether
blanks and comments between items are skipped, and which group names are
taken. It fails on a text that is no pattern; no reason is given, because
only the verdict matters to those who ask.

Loops that are not bounded by their input's structure take fuel, one unit
for each character and one more, and every turn reads at least one
character. Classes take twice as much, since a nested one is met in one turn
and entered in another.
-/

namespace Scenario
namespace Pattern

/-- What is still to be read. -/
structure Input where
  /-- The characters still unread. -/
  rest : List Char
  /-- Whether blanks and comments between items are skipped. -/
  spaced : Bool
  /-- The names of the groups opened so far. -/
  names : List (List Char)

/-- A reader of part of a pattern. -/
abbrev Reader := StateT Input Option

namespace Reader

/-- The next character; fails at the end. -/
def peek : Reader Char := fun i =>
  match i.rest with
  | [] => none
  | c :: _ => some (c, i)

/-- Whether everything is read. -/
def atEnd : Reader Bool := fun i => some (i.rest.isEmpty, i)

/-- Pass over one character. -/
def bump : Reader Unit := fun i => some ((), { i with rest := i.rest.drop 1 })

/-- A text without the blanks and comments at its beginning; a comment runs
from a number sign to the end of the line. -/
def skipLayout : Bool → List Char → List Char
  | _, [] => []
  | true, c :: cs => skipLayout (c != '\n') cs
  | false, c :: cs =>
    if Text.isBlank c then skipLayout false cs
    else if c = '#' then skipLayout true cs
    else c :: cs

/-- Pass over blanks and comments where they are skipped. -/
def bumpSpace : Reader Unit := fun i =>
  some ((), if i.spaced then { i with rest := skipLayout false i.rest } else i)

/-- Pass over one character and the layout after it; fails if that was the
last. -/
def next : Reader Unit := do
  bump
  bumpSpace
  discard peek

/-- Pass over a given text if it comes next. -/
def accept (text : String) : Reader Bool := fun i =>
  let lead := text.toList
  if lead.isPrefixOf i.rest then some (true, { i with rest := i.rest.drop lead.length })
  else some (false, i)

/-- Whether a given text comes next. -/
def sees (text : String) : Reader Bool := fun i =>
  some (text.toList.isPrefixOf i.rest, i)

/-- Succeed only if the condition holds. -/
def require (condition : Bool) : Reader Unit := fun i =>
  if condition then some ((), i) else none

/-! ## Numbers -/

/-- Read the characters of a class, with the layout after each. -/
def takeRun (p : Char → Bool) : Nat → Reader (List Char)
  | 0 => failure
  | fuel + 1 => fun i =>
    match i.rest with
    | [] => some ([], i)
    | c :: _ =>
      if p c then
        (do bump; bumpSpace; let more ← takeRun p fuel; return c :: more : Reader (List Char)) i
      else some ([], i)

/-- Fuel for a loop that reads a character in each turn. -/
def fuelHere : Reader Nat := fun i => some (i.rest.length + 1, i)

/-- A decimal number below `2 ^ 32`, with blanks around it. -/
def decimal : Reader Nat := do
  discard (takeRun Text.isBlank (← fuelHere))
  let digits ← takeRun Char.isDigit (← fuelHere)
  discard (takeRun Text.isBlank (← fuelHere))
  require !digits.isEmpty
  let n := Nat.ofDigitChars 10 digits 0
  require (n < Nat.pow 2 32)
  return n

/-- The value of a hexadecimal digit. -/
def hexDigit? (c : Char) : Option Nat :=
  if c.isDigit then some (c.toNat - '0'.toNat)
  else if 'a' ≤ c ∧ c ≤ 'f' then some (c.toNat - 'a'.toNat + 10)
  else if 'A' ≤ c ∧ c ≤ 'F' then some (c.toNat - 'A'.toNat + 10)
  else none

/-- The character with a given code point. -/
def charOfCode (n : Nat) : Reader Char :=
  if n.isValidChar then return Char.ofNat n else failure

/-- Exactly `n` hexadecimal digits; layout may stand between them. -/
def hexDigits : Nat → Nat → Reader Nat
  | 0, value => return value
  | n + 1, value => do
    match hexDigit? (← peek) with
    | some d =>
      if n = 0 then bump; bumpSpace; return value * 16 + d
      next
      hexDigits n (value * 16 + d)
    | none => failure

/-! ## Escapes -/

/-- What a single item of a pattern is, inside a class or outside. -/
inductive Primitive where
  | literal (c : Char) (twoDigits : Bool)
  | assertion (kind : Assertion)
  | named (negated : Bool) (kind : NamedClass)
  | property (negated : Bool) (which : Property)
  | dot

/-- The text up to the closing brace, from the opening one. -/
def upToBrace : Nat → Reader (List Char)
  | 0 => failure
  | fuel + 1 => do
    next
    let c ← peek
    if c = '}' then return []
    return c :: (← upToBrace fuel)

/-- A character given by its code, from the letter that says how many digits
it takes; any number of them may stand between braces. -/
def hexEscape (digits : Nat) : Reader Primitive := do
  next
  if (← peek) = '{' then
    let text ← upToBrace (← fuelHere)
    bump
    bumpSpace
    match text.mapM hexDigit? with
    | none | some [] => failure
    | some ds => return .literal (← charOfCode (ds.foldl (fun n d => 16 * n + d) 0)) false
  else
    let value ← hexDigits digits 0
    return .literal (← charOfCode value) (digits == 2)

/-- The parts of a text around the first occurrence of a separator. -/
def cutAt? (separator : List Char) : List Char → Option (List Char × List Char)
  | [] => none
  | c :: cs =>
    if separator.isPrefixOf (c :: cs) then some ([], (c :: cs).drop separator.length)
    else (cutAt? separator cs).map fun cut => (c :: cut.1, cut.2)

/-- The property a braced text names. -/
def propertyOf (text : List Char) : Property :=
  match cutAt? ['!', '='] text with
  | some (name, value) => .valued name value false
  | none =>
    match cutAt? [':'] text <|> cutAt? ['='] text with
    | some (name, value) => .valued name value true
    | none => .bare text

/-- A class given by a character property, after its letter. -/
def propertyEscape (negated : Bool) : Reader Primitive := do
  next
  let c ← peek
  if c = '{' then
    let text ← upToBrace (← fuelHere)
    bump
    return .property negated (propertyOf text)
  else
    require (c != '\\')
    bump
    bumpSpace
    return .property negated (.bare [c])

/-- The characters with a meaning of their own in patterns. -/
def isMeta (c : Char) : Bool :=
  "\\.+*?()|[]\x7b\x7d^$#&-~".toList.contains c

/-- The punctuation and control characters of ASCII that may follow a
backslash for themselves. -/
def isPlainEscape (c : Char) : Bool :=
  isMeta c || (c.toNat < 128 && !c.isAlphanum && c != '<' && c != '>')

/-- A kind of word boundary named in braces, after `\b`; a brace that does
not begin such a name is left for a repetition. -/
def boundaryName : Reader Assertion := do
  if !(← sees "\x7b") then return .wordBoundary
  let before ← get
  next
  let isNameChar := fun (c : Char) => c.isAlpha || c == '-'
  if !isNameChar (← peek) then
    set before
    return .wordBoundary
  let name ← takeRun isNameChar (← fuelHere)
  require (← accept "\x7d")
  match String.ofList name with
  | "start" => return .wordStart
  | "end" => return .wordEnd
  | "start-half" => return .wordStartHalf
  | "end-half" => return .wordEndHalf
  | _ => failure

/-- An escape, from its backslash. -/
def escape : Reader Primitive := do
  bump
  let c ← peek
  match c with
  | 'x' => hexEscape 2
  | 'u' => hexEscape 4
  | 'U' => hexEscape 8
  | 'p' => propertyEscape false
  | 'P' => propertyEscape true
  | 'd' => bump; return .named false .digit
  | 's' => bump; return .named false .space
  | 'w' => bump; return .named false .word
  | 'D' => bump; return .named true .digit
  | 'S' => bump; return .named true .space
  | 'W' => bump; return .named true .word
  | _ =>
    bump
    if isPlainEscape c then return .literal c false
    match c with
    | 'a' => return .literal '\x07' false
    | 'f' => return .literal '\x0c' false
    | 't' => return .literal '\t' false
    | 'n' => return .literal '\n' false
    | 'r' => return .literal '\r' false
    | 'v' => return .literal '\x0b' false
    | 'A' => return .assertion .textStart
    | 'z' => return .assertion .textEnd
    | 'b' => return .assertion (← boundaryName)
    | 'B' => return .assertion .notWordBoundary
    | '<' => return .assertion .wordStart
    | '>' => return .assertion .wordEnd
    | _ => failure

/-! ## Bracketed classes -/

/-- The class a name between colons stands for. -/
def asciiClass? (name : String) : Option AsciiClass :=
  match name with
  | "alnum" => some .alnum
  | "alpha" => some .alpha
  | "ascii" => some .ascii
  | "blank" => some .blank
  | "cntrl" => some .cntrl
  | "digit" => some .digit
  | "graph" => some .graph
  | "lower" => some .lower
  | "print" => some .print
  | "punct" => some .punct
  | "space" => some .space
  | "upper" => some .upper
  | "word" => some .word
  | "xdigit" => some .xdigit
  | _ => none

/-- Whether a caret comes first, and the text after it. -/
def afterCaret : List Char → Bool × List Char
  | '^' :: rest => (true, rest)
  | cs => (false, cs)

/-- A class between colons, if one comes next. -/
def asciiClass : Reader (Option SetExpr) := fun i =>
  match i.rest with
  | '[' :: ':' :: more =>
    let (negated, named) := afterCaret more
    let name := named.takeWhile (· != ':')
    match named.drop name.length with
    | ':' :: ']' :: rest =>
      match asciiClass? (.ofList name) with
      | some kind => some (some (.ascii negated kind), { i with rest })
      | none => some (none, i)
    | _ => some (none, i)
  | _ => some (none, i)

/-- One item of a class. -/
def setItem : Reader Primitive := do
  let c ← peek
  if c = '\\' then escape
  else
    bump
    return .literal c false

/-- An item as a member of a class; assertions are none. -/
def memberOf : Primitive → Reader SetExpr
  | .literal c _ => return .char c
  | .named negated kind => return .named negated kind
  | .property negated which => return .property negated which
  | _ => failure

/-- The character after the next one, layout and the sign of a comment
skipped. -/
def peekPast : Reader (Option Char) := fun i =>
  let rest := i.rest.drop 1
  if i.spaced then
    let rest := Text.skipBlank rest
    let rest :=
      match rest with
      | '#' :: more => Text.skipBlank more
      | _ => rest
    some (rest.head?, i)
  else some (rest.head?, i)

/-- A character of a class or a range of them. A hyphen before the closing
bracket or before another hyphen makes no range. -/
def setRange : Reader SetExpr := do
  let first ← setItem
  bumpSpace
  let c ← peek
  let past ← peekPast
  if c != '-' || past == some ']' || past == some '-' then memberOf first
  else
    next
    let second ← setItem
    match first, second with
    | .literal low _, .literal high _ =>
      require (low ≤ high)
      return .range low high
    | _, _ => failure

/-- The hyphens at the beginning of a class. -/
def leadingHyphens : Nat → Reader (List SetExpr)
  | 0 => failure
  | fuel + 1 => do
    if (← peek) = '-' then
      next
      return .char '-' :: (← leadingHyphens fuel)
    else return []

/-- The operation that comes next in a class. -/
def setOp : Reader (Option SetOp) := do
  if ← accept "&&" then return some .intersection
  if ← accept "--" then return some .difference
  if ← accept "~~" then return some .symmetricDifference
  return none

/-- A set after the operation that waits for it. -/
def applyPending (pending : Option (SetOp × SetExpr)) (right : SetExpr) : SetExpr :=
  match pending with
  | some (op, left) => .combine op left right
  | none => right

mutual

/-- A bracketed class, from its bracket. -/
def setClass : Nat → Reader SetExpr
  | 0 => failure
  | fuel + 1 => do
    next
    let negated := (← peek) == '^'
    if negated then next
    let hyphens ← leadingHyphens (← fuelHere)
    let first ←
      if hyphens.isEmpty && (← peek) == ']' then
        next
        pure [SetExpr.char ']']
      else pure hyphens
    return .bracket negated (← setBody fuel none first)

/-- The rest of a class: the items read so far, and the operation that
waits for them. Operations have one rank and take their left side first. -/
def setBody : Nat → Option (SetOp × SetExpr) → List SetExpr → Reader SetExpr
  | 0, _, _ => failure
  | fuel + 1, pending, items => do
    bumpSpace
    let c ← peek
    if c = '[' then
      match ← asciiClass with
      | some item => setBody fuel pending (items ++ [item])
      | none =>
        let nested ← setClass fuel
        setBody fuel pending (items ++ [nested])
    else if c = ']' then
      bump
      return applyPending pending (.ofItems items)
    else
      match ← setOp with
      | some op => setBody fuel (some (op, applyPending pending (.ofItems items))) []
      | none =>
        let item ← setRange
        setBody fuel pending (items ++ [item])

end

/-! ## Groups and repetitions -/

/-- The flag of a letter. -/
def flag? (c : Char) : Option Flag :=
  match c with
  | 'i' => some .insensitive
  | 'm' => some .multiLine
  | 's' => some .dotAll
  | 'U' => some .swapGreed
  | 'u' => some .unicode
  | 'R' => some .crlf
  | 'x' => some .spaced
  | _ => none

/-- The flags of a group, up to the colon or parenthesis after them. No flag
may come twice; a hyphen switches those after it off and needs one. -/
def flagSetting : Nat → Bool → Bool → FlagSetting → Reader FlagSetting
  | 0, _, _, _ => failure
  | fuel + 1, value, dangling, setting => do
    let c ← peek
    if c = ':' ∨ c = ')' then
      require !dangling
      return setting
    bump
    if c = '-' then
      require value
      flagSetting fuel false true setting
    else
      match flag? c with
      | some flag =>
        require !(setting.any fun s => s.1 == flag)
        flagSetting fuel value false (setting ++ [(flag, value)])
      | none => failure

/-- Whether a character may stand in the name of a group. -/
def isNameChar (first : Bool) (c : Char) : Bool :=
  if first then c == '_' || Unicode.isAlphabetic c
  else c == '_' || c == '.' || c == '[' || c == ']' || Unicode.isAlphanumeric c

/-- The name of a group up to its closing angle; no name is taken twice. -/
def groupName : Reader Unit := fun i =>
  let name := i.rest.takeWhile (· != '>')
  match name, i.rest.drop name.length with
  | c :: cs, '>' :: rest =>
    if isNameChar true c && cs.all (isNameChar false) && !i.names.contains name then
      some ((), { i with rest, names := name :: i.names })
    else none
  | _, _ => none

/-- What an opening parenthesis begins. -/
inductive Opening where
  /-- Flags for the rest of the enclosing group. -/
  | flags (setting : FlagSetting)
  /-- A group, which captures or has flags of its own. -/
  | group (captures : Bool) (setting : FlagSetting)

/-- The beginning of a group, from its parenthesis. -/
def groupOpening : Reader Opening := do
  bump
  bumpSpace
  for look in ["?=", "?!", "?<=", "?<!"] do
    require !(← sees look)
  if (← accept "?P<") || (← accept "?<") then
    groupName
    return .group true []
  else if ← accept "?" then
    let setting ← flagSetting (← fuelHere) true false []
    let c ← peek
    bump
    if c = ')' then
      require !setting.isEmpty
      return .flags setting
    else return .group false setting
  else return .group true []

/-- The setting of layout skipping after some flags. -/
def spacedAfter (setting : FlagSetting) (spaced : Bool) : Bool :=
  match setting.lookup .spaced with
  | some value => value
  | none => spaced

/-- Set whether layout is skipped. -/
def setSpaced (spaced : Bool) : Reader Unit := modify fun i => { i with spaced }

/-- The expression a repetition applies to: the last one, unless it is empty
or a setting of flags; with those before it. -/
def repeated (items : List Expr) : Reader (List Expr × Expr) :=
  match items.getLast? with
  | none | some .empty | some (.flags _) => failure
  | some e => return (items.dropLast, e)

/-- The counts of a repetition in braces. -/
def counts : Reader (Nat × Option Nat) := do
  next
  let low ← decimal
  if (← peek) = ',' then
    next
    if (← peek) = '}' then return (low, none)
    let high ← decimal
    require (low ≤ high)
    return (low, some high)
  else return (low, some low)

/-- An expression for a single item. -/
def Primitive.expr : Primitive → Expr
  | .literal c twoDigits => .literal c twoDigits
  | .assertion kind => .assertion kind
  | .named negated kind => .set (.named negated kind)
  | .property negated which => .set (.property negated which)
  | .dot => .dot

/-- A single item outside classes. -/
def primitive : Reader Primitive := do
  let c ← peek
  match c with
  | '\\' => escape
  | '.' => bump; return .dot
  | '^' => bump; return .assertion .lineStart
  | '$' => bump; return .assertion .lineEnd
  | _ => bump; return .literal c false

/-- The alternatives of a group, up to its closing parenthesis or the end:
the branches already closed and the items of the open one. -/
def body : Nat → List Expr → List Expr → Reader Expr
  | 0, _, _ => failure
  | fuel + 1, branches, items => do
    bumpSpace
    if ← atEnd then return .ofBranches (branches ++ [.ofItems items])
    let c ← peek
    match c with
    | ')' => return .ofBranches (branches ++ [.ofItems items])
    | '(' =>
      let spaced := (← get).spaced
      match ← groupOpening with
      | .flags setting =>
        setSpaced (spacedAfter setting spaced)
        body fuel branches (items ++ [.flags setting])
      | .group captures setting =>
        setSpaced (spacedAfter setting spaced)
        let inner ← body fuel [] []
        require (← accept ")")
        setSpaced spaced
        body fuel branches (items ++ [.group captures setting inner])
    | '|' =>
      bump
      body fuel (branches ++ [.ofItems items]) []
    | '[' =>
      let set ← setClass (2 * (← fuelHere))
      body fuel branches (items ++ [.set set])
    | '?' =>
      let (before, e) ← repeated items
      bump
      let lazy ← accept "?"
      body fuel branches (before ++ [.repetition (!lazy) 0 (some 1) e])
    | '*' =>
      let (before, e) ← repeated items
      bump
      let lazy ← accept "?"
      body fuel branches (before ++ [.repetition (!lazy) 0 none e])
    | '+' =>
      let (before, e) ← repeated items
      bump
      let lazy ← accept "?"
      body fuel branches (before ++ [.repetition (!lazy) 1 none e])
    | '{' =>
      let (before, e) ← repeated items
      let (low, high) ← counts
      require ((← peek) == '}')
      bump
      bumpSpace
      let lazy ← accept "?"
      body fuel branches (before ++ [.repetition (!lazy) low high e])
    | _ =>
      let item ← primitive
      body fuel branches (items ++ [item.expr])

end Reader

/-- The number of levels at which an expression may nest. -/
def nestLimit : Nat := 250

/-- The expression of a pattern, if the text is one. -/
def read? (text : List Char) : Option Expr :=
  match Reader.body (text.length + 1) [] [] ⟨text, false, []⟩ with
  | some (e, ⟨[], _, _⟩) => if e.depth ≤ nestLimit then some e else none
  | _ => none

end Pattern
end Scenario
