import Scenario.Yaml.Scalar

/-!
# Tokens — the structure of a YAML text made explicit

The text becomes a list of tokens in which indentation is expressed by the
beginnings and ends of block collections. A key of a mapping is known as one
only at the colon after it, so `Scan` remembers, for every level of flow
collections, where the last possible key began; the colon then puts the
tokens for it in at that place. Such a key must be in one line and take at
most 1024 bytes up to the colon, and where a line can only hold a key it has to be
one.
-/

namespace Scenario
namespace Yaml

/-- A token. -/
inductive Token where
  | version (major minor : Nat)
  | tagDirective (handle lead : List Char)
  | documentStart
  | documentEnd
  | blockSequenceStart
  | blockMappingStart
  | blockEnd
  | flowSequenceStart
  | flowSequenceEnd
  | flowMappingStart
  | flowMappingEnd
  | blockEntry
  | flowEntry
  | key
  | value
  | reference (name : List Char)
  | anchor (name : List Char)
  | tag (handle suffix : List Char)
  | scalar (style : Style) (text : List Char)
  deriving DecidableEq

namespace Scanner

/-! ## Directives, anchors and tags -/

/-- A character of a tag; a few more are allowed in tags between angles and
in directives. -/
def isTagChar (verbatim : Bool) (c : Char) : Bool :=
  isWordChar c || ";/?:@&=+$.%!~*'()".toList.contains c || (verbatim && ",[]".toList.contains c)

/-- The byte of an escape at the beginning of a text. -/
def escapedByte? : List Char → Option Nat
  | '%' :: a :: b :: _ =>
    match hexDigit? a, hexDigit? b with
    | some x, some y => some (16 * x + y)
    | _, _ => none
  | _ => none

/-- The number of bytes of a character that starts with the given one. -/
def byteCount? (n : Nat) : Option Nat :=
  if n < 0x80 then some 1
  else if 0xC0 ≤ n ∧ n < 0xE0 then some 2
  else if 0xE0 ≤ n ∧ n < 0xF0 then some 3
  else if 0xF0 ≤ n ∧ n < 0xF8 then some 4
  else none

/-- The rest of an escaped character: so many more bytes. -/
def escapedTail : Nat → Nat → Scanner Nat
  | 0, value => return value
  | n + 1, value => do
    match escapedByte? (← get).rest with
    | some b =>
      require (0x80 ≤ b && b < 0xC0)
      skip 3
      escapedTail n (64 * value + b % 64)
    | none => failure

/-- A character written as escaped bytes. Bytes that spell no character in
their number stand for the replacement character, so that no name can be
spelled in two ways. -/
def escapedTagChar : Scanner Char := do
  match escapedByte? (← get).rest with
  | none => failure
  | some b =>
    match byteCount? b with
    | none => failure
    | some count =>
      skip 3
      let low := if count = 1 then b else b % Nat.pow 2 (7 - count)
      let value ← escapedTail (count - 1) low
      let c := Char.ofNat value
      return if value.isValidChar && c.utf8Size == count then c else '\ufffd'

/-- The characters of a tag. -/
def tagChars (verbatim : Bool) : Nat → Scanner (List Char)
  | 0 => failure
  | fuel + 1 => do
    match ← head? with
    | some c =>
      if !isTagChar verbatim c then return []
      let d ←
        if c == '%' then escapedTagChar
        else
          skip 1
          pure c
      return d :: (← tagChars verbatim fuel)
    | none => return []

/-- What counts of the text of a tag: an escaped NUL character ends it. -/
def beforeNul (text : List Char) : List Char := text.takeWhile (· != '\x00')

/-- A handle of tags, from its exclamation mark: word characters and
perhaps another mark. In a directive only the single mark may do without
the second. -/
def tagHandle (directive : Bool) : Scanner (List Char) := do
  require ((← head?) == some '!')
  skip 1
  let name ← takeWhile isWordChar
  if (← head?) == some '!' then
    skip 1
    return '!' :: (name ++ ['!'])
  require (!directive || name.isEmpty)
  return '!' :: name

/-- Whether the next character is a blank, a line end or missing. -/
def atBlank : Scanner Bool := return (← get).blankAt 0

/-- A tag. -/
def tag (inFlow : Bool) : Scanner Token := do
  let result ←
    if (← get).at? 1 == some '<' then
      skip 2
      let suffix ← tagChars true (← fuelHere)
      require !suffix.isEmpty
      require ((← head?) == some '>')
      skip 1
      pure (Token.tag [] (beforeNul suffix))
    else
      let handle ← tagHandle false
      if 1 < handle.length && handle.getLast? == some '!' then
        let suffix ← tagChars false (← fuelHere)
        require !suffix.isEmpty
        pure (Token.tag handle (beforeNul suffix))
      else
        let suffix := beforeNul (handle.drop 1 ++ (← tagChars false (← fuelHere)))
        pure (if suffix.isEmpty then .tag [] ['!'] else .tag ['!'] suffix)
  require ((← atBlank) || (inFlow && (← head?) == some ','))
  return result

/-- The name of an anchor or an alias, after its sign. -/
def anchorName : Scanner (List Char) := do
  skip 1
  let name ← takeWhile isWordChar
  require !name.isEmpty
  let p ← get
  require (p.blankAt 0 || p.head?.any fun c => "?:,]\x7d%@`".toList.contains c)
  return name

/-- A number of a version. -/
def versionNumber : Scanner Nat := do
  let digits ← takeWhile Char.isDigit
  require (0 < digits.length && digits.length ≤ 9)
  return Nat.ofDigitChars 10 digits 0

/-- A directive, from its percent sign to the end of its line. -/
def directive : Scanner Token := do
  skip 1
  let name ← takeWhile isWordChar
  require !name.isEmpty
  require (← atBlank)
  let token ←
    match String.ofList name with
    | "YAML" =>
      skipBlanks
      let major ← versionNumber
      require ((← head?) == some '.')
      skip 1
      pure (Token.version major (← versionNumber))
    | "TAG" =>
      skipBlanks
      let handle ← tagHandle true
      require ((← head?).any isBlank)
      skipBlanks
      let lead ← tagChars true (← fuelHere)
      require !lead.isEmpty
      require (← atBlank)
      pure (Token.tagDirective handle (beforeNul lead))
    | _ => failure
  finishLine
  return token

end Scanner

/-! ## Collecting tokens -/

/-- A possible key: where it begins, and the number of tokens before it. -/
structure KeyCandidate where
  /-- Whether the line can only hold a key. -/
  required : Bool
  /-- The number of tokens before it. -/
  number : Nat
  /-- The number of bytes before it. -/
  offset : Nat
  /-- Its line. -/
  line : Nat
  /-- Its column. -/
  column : Nat

/-- What is known while tokens are collected. -/
structure Scan where
  /-- The unread text. -/
  place : Place
  /-- The tokens so far. -/
  tokens : List Token
  /-- The possible key of each open flow collection, the innermost first,
  and of the block collections around them. -/
  candidates : List (Option KeyCandidate)
  /-- The column of the innermost block collection, -1 outside of all. -/
  indent : Int
  /-- The columns of those around it. -/
  outer : List Int
  /-- Whether a key may begin here. -/
  keyAllowed : Bool

/-- A step in collecting tokens. -/
abbrev Collector := StateT Scan Option

namespace Collector

/-- Succeed only if the condition holds. -/
def require (condition : Bool) : Collector Unit := if condition then return () else failure

/-- Read part of the text. -/
def scan {α : Type} (read : Scanner α) : Collector α := fun s =>
  (read s.place).map fun (a, place) => (a, { s with place })

/-- Add a token at the end. -/
def emit (token : Token) : Collector Unit :=
  modify fun s => { s with tokens := s.tokens ++ [token] }

/-- Put a token in before the one of a given number. -/
def insertAt (number : Nat) (token : Token) : Collector Unit :=
  modify fun s => { s with tokens := s.tokens.take number ++ token :: s.tokens.drop number }

/-- Whether a flow collection is open. -/
def inFlow : Collector Bool := return 1 < (← get).candidates.length

/-- Set whether a key may begin here. -/
def allowKey (keyAllowed : Bool) : Collector Unit := modify fun s => { s with keyAllowed }

/-- Give the possible keys up that are in an earlier line or too long; a
required one is missed. -/
def dropStale : Collector Unit := do
  let s ← get
  let stale (k : KeyCandidate) := k.line < s.place.line || k.offset + 1024 < s.place.offset
  require !(s.candidates.any fun candidate => candidate.any fun k => stale k && k.required)
  set { s with candidates := s.candidates.map (Option.filter fun k => !stale k) }

/-- Replace the innermost possible key; a required one is missed. -/
def setCandidate (candidate : Option KeyCandidate) : Collector Unit := do
  let s ← get
  match s.candidates with
  | old :: rest =>
    require !(old.any (·.required))
    set { s with candidates := candidate :: rest }
  | [] => failure

/-- Give the innermost possible key up. -/
def dropCandidate : Collector Unit := setCandidate none

/-- Remember that a key may begin here. It is required at the column of the
innermost block collection. -/
def saveCandidate : Collector Unit := do
  let s ← get
  if s.keyAllowed then
    let required := !(← inFlow) && s.indent == (s.place.column : Int)
    setCandidate (some
      ⟨required, s.tokens.length, s.place.offset, s.place.line, s.place.column⟩)

/-- Open a block collection at a column, unless one is open there; its token
goes to the given place, or to the end. -/
def openBlock (column : Nat) (number : Option Nat) (token : Token) : Collector Unit := do
  let s ← get
  if !(← inFlow) && s.indent < (column : Int) then
    set { s with indent := (column : Int), outer := s.indent :: s.outer }
    match number with
    | some n => insertAt n token
    | none => emit token

/-- The number of enclosing columns to close down to a column, and the
columns that stay. -/
def closing (column : Int) : Int → List Int → Nat × Int × List Int
  | indent, [] => (0, indent, [])
  | indent, parent :: outer =>
    if column < indent then
      let (n, rest) := closing column parent outer
      (n + 1, rest)
    else (0, indent, parent :: outer)

/-- Close the block collections that are indented deeper than a column. -/
def closeBlocks (column : Int) : Collector Unit := do
  if !(← inFlow) then
    modify fun s =>
      let (n, indent, outer) := closing column s.indent s.outer
      { s with indent, outer, tokens := s.tokens ++ List.replicate n .blockEnd }

/-- Read blanks, comments and line ends up to the next token. Tabs count as
blanks only where no key may begin, and a byte order mark may stand at the
beginning of a line; it takes up a column there. -/
def skipToToken : Nat → Collector Unit
  | 0 => failure
  | fuel + 1 => do
    let s ← get
    if s.place.column == 0 && s.place.head? == some '\ufeff' then scan (Scanner.skip 1)
    let tabs := (← inFlow) || !s.keyAllowed
    discard (scan (Scanner.takeWhile fun c => c == ' ' || (tabs && c == '\t')))
    scan Scanner.skipComment
    let s ← get
    match s.place.takeBreak with
    | some (_, place) =>
      let flow ← inFlow
      set { s with place, keyAllowed := if flow then s.keyAllowed else true }
      skipToToken fuel
    | none => return ()

/-- A marker of a document boundary or a directive: all blocks end. -/
def boundary : Collector Unit := do
  closeBlocks (-1)
  dropCandidate
  allowKey false

/-- The start of a flow collection. -/
def openFlow (token : Token) : Collector Unit := do
  saveCandidate
  modify fun s => { s with candidates := none :: s.candidates, keyAllowed := true }
  scan (Scanner.skip 1)
  emit token

/-- The end of a flow collection. -/
def closeFlow (token : Token) : Collector Unit := do
  dropCandidate
  modify fun s =>
    match s.candidates with
    | _ :: outer :: rest => { s with candidates := outer :: rest, keyAllowed := false }
    | _ => { s with keyAllowed := false }
  scan (Scanner.skip 1)
  emit token

/-- An entry of a block sequence. -/
def blockEntry : Collector Unit := do
  let s ← get
  if !(← inFlow) then
    require s.keyAllowed
    openBlock s.place.column none .blockSequenceStart
  dropCandidate
  allowKey true
  scan (Scanner.skip 1)
  emit .blockEntry

/-- A key marked by a question mark. -/
def explicitKey : Collector Unit := do
  let s ← get
  let flow ← inFlow
  if !flow then
    require s.keyAllowed
    openBlock s.place.column none .blockMappingStart
  dropCandidate
  allowKey !flow
  scan (Scanner.skip 1)
  emit .key

/-- The colon of a value: what came before it was a key, if it could be
one. -/
def value : Collector Unit := do
  let s ← get
  match s.candidates with
  | some k :: rest =>
    set { s with candidates := none :: rest, keyAllowed := false }
    insertAt k.number .key
    openBlock k.column (some k.number) .blockMappingStart
  | _ =>
    let flow ← inFlow
    if !flow then
      require s.keyAllowed
      openBlock s.place.column none .blockMappingStart
    allowKey !flow
  scan (Scanner.skip 1)
  emit .value

/-- An anchor, alias, tag or quoted scalar: it may begin a key, and no key
may begin right after it. -/
def nodePart (read : Scanner Token) : Collector Unit := do
  saveCandidate
  allowKey false
  emit (← scan read)

/-- A plain scalar: like the others, but after a line end a key may begin
again. -/
def plainScalar : Collector Unit := do
  saveCandidate
  allowKey false
  let s ← get
  let (text, broken) ← scan (Scanner.plain (← inFlow) (s.indent + 1).toNat)
  emit (.scalar .plain text)
  if broken then allowKey true

/-- A block scalar. -/
def blockScalar (style : Style) : Collector Unit := do
  dropCandidate
  allowKey true
  let s ← get
  let text ← scan (Scanner.block (style == .folded) s.indent)
  emit (.scalar style text)

/-- Whether a plain scalar may begin here. -/
def plainBegins (flow : Bool) (p : Place) : Bool :=
  match p.head? with
  | none => false
  | some c =>
    !(isBlank c || isBreak c || "-?:,[]\x7b\x7d#&*!|>'\"%@`".toList.contains c) ||
    (c == '-' && !(p.at? 1).any isBlank) ||
    (!flow && (c == '?' || c == ':') && !p.blankAt 1)

/-- The next token; `true` at the end of the text. -/
def next : Collector Bool := do
  skipToToken ((← get).place.rest.length + 1)
  dropStale
  closeBlocks ((← get).place.column : Int)
  let p := (← get).place
  let flow ← inFlow
  match p.head? with
  | none =>
    closeBlocks (-1)
    dropCandidate
    return true
  | some c =>
    if c == '%' && p.column == 0 then
      boundary
      emit (← scan Scanner.directive)
    else if p.atBoundary then
      boundary
      scan (Scanner.skip 3)
      emit (if c == '-' then .documentStart else .documentEnd)
    else if c == '[' then openFlow .flowSequenceStart
    else if c == '\x7b' then openFlow .flowMappingStart
    else if c == ']' then closeFlow .flowSequenceEnd
    else if c == '\x7d' then closeFlow .flowMappingEnd
    else if c == ',' then
      dropCandidate
      allowKey true
      scan (Scanner.skip 1)
      emit .flowEntry
    else if c == '-' && p.blankAt 1 then blockEntry
    else if c == '?' && (flow || p.blankAt 1) then explicitKey
    else if c == ':' && (flow || p.blankAt 1) then value
    else if c == '*' then nodePart (.reference <$> Scanner.anchorName)
    else if c == '&' then nodePart (.anchor <$> Scanner.anchorName)
    else if c == '!' then nodePart (Scanner.tag flow)
    else if c == '|' && !flow then blockScalar .literal
    else if c == '>' && !flow then blockScalar .folded
    else if c == '\'' then nodePart (.scalar .singleQuoted <$> Scanner.quoted '\'')
    else if c == '"' then nodePart (.scalar .doubleQuoted <$> Scanner.quoted '"')
    else if plainBegins flow p then plainScalar
    else failure
    return false

/-- All tokens up to the end of the text. -/
def all : Nat → Collector Unit
  | 0 => failure
  | fuel + 1 => do
    if ← next then return ()
    all fuel

end Collector

/-- The tokens of a text, if it has any structure at all. -/
def Token.ofText? (text : List Char) : Option (List Token) :=
  if text.all isAllowed then
    (Collector.all (text.length + 1) ⟨.start text, [], [none], -1, [], true⟩).map fun (_, s) =>
      s.tokens
  else none

end Yaml
end Scenario
