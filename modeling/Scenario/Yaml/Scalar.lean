import Scenario.Yaml.Place

/-!
# Scalars — plain, quoted and block texts

A scalar of the first two kinds may go over several lines; the blanks and
line ends between its parts are a `Gap`, which counts as a space if it is a
single line end, as the line ends after the first if there are more, and
as it stands if it has none. Block scalars keep their lines (literal) or
join them in the same way (folded), and are cut to an indentation.
-/

namespace Scenario
namespace Yaml

/-- How a scalar is written. -/
inductive Style where
  | plain
  | singleQuoted
  | doubleQuoted
  | literal
  | folded
  deriving DecidableEq

/-- The blanks and line ends between two parts of a scalar. -/
structure Gap where
  /-- The blanks before the first line end. -/
  blanks : List Char
  /-- Whether there is a line end, or one that is escaped. -/
  broken : Bool
  /-- The first line end, unless it is escaped. -/
  first : Option Char
  /-- The line ends after it. -/
  others : List Char

namespace Gap

/-- The gap of nothing. -/
def none : Gap := ⟨[], false, .none, []⟩

/-- The gap of an escaped line end. -/
def escapedBreak : Gap := ⟨[], true, .none, []⟩

/-- The text a gap stands for. -/
def text (g : Gap) : List Char :=
  if g.broken then
    match g.first with
    | some '\n' => if g.others.isEmpty then [' '] else g.others
    | some c => c :: g.others
    | .none => g.others
  else g.blanks

end Gap

namespace Scanner

/-- Read blanks and line ends. With a tab below the given column after a
line end, the gap is refused. -/
def gap (tabLimit : Nat) : Nat → Gap → Scanner Gap
  | 0, _ => failure
  | fuel + 1, g => do
    let p ← get
    match p.head? with
    | none => return g
    | some c =>
      if isBlank c then
        require !(g.broken && c == '\t' && p.column < tabLimit)
        skip 1
        gap tabLimit fuel (if g.broken then g else { g with blanks := g.blanks ++ [c] })
      else
        match p.takeBreak with
        | none => return g
        | some (b, after) =>
          set after
          gap tabLimit fuel
            (if g.broken then { g with others := g.others ++ [b] }
              else ⟨[], true, some b, []⟩)

/-- Fuel for a loop that reads a character in each turn. -/
def fuelHere : Scanner Nat := return (← get).rest.length + 1

/-! ## Plain scalars -/

/-- The indicators of flow collections. -/
def isFlowIndicator (c : Char) : Bool :=
  c == ',' || c == '[' || c == ']' || c == '\x7b' || c == '\x7d'

/-- The length of the run of a plain scalar at the beginning of a text: up
to a blank, a line end, a colon before one of these, and in flow collections
an indicator. There a colon before an indicator is refused. -/
def plainRun (inFlow : Bool) : List Char → Option Nat
  | [] => some 0
  | c :: cs =>
    if isBlank c || isBreak c then some 0
    else
      let next := cs.head?
      if inFlow && c == ':' && next.any (fun d => isFlowIndicator d || d == '?') then none
      else if c == ':' && next.all (fun d => isBlank d || isBreak d) then some 0
      else if inFlow && isFlowIndicator c then some 0
      else (plainRun inFlow cs).map (· + 1)

/-- The parts of a plain scalar: the text so far, and the gap after it. In
block collections it ends at a line that is not indented to the given
column. The answer says whether it ends after a line end. -/
def plainParts (inFlow : Bool) (indent : Nat) : Nat → List Char → Gap → Scanner (List Char × Bool)
  | 0, _, _ => failure
  | fuel + 1, text, g => do
    let p ← get
    if p.atBoundary || p.head? == some '#' then return (text, g.broken)
    match plainRun inFlow p.rest with
    | none => failure
    | some 0 => return (text, g.broken)
    | some n =>
      let run := p.rest.take n
      skip n
      let text := text ++ g.text ++ run
      match ← head? with
      | none => return (text, false)
      | some c =>
        if !(isBlank c || isBreak c) then return (text, false)
        let g ← gap indent (← fuelHere) Gap.none
        if !inFlow && (← get).column < indent then return (text, g.broken)
        plainParts inFlow indent fuel text g

/-- A plain scalar, and whether it ends after a line end. -/
def plain (inFlow : Bool) (indent : Nat) : Scanner (List Char × Bool) := do
  plainParts inFlow indent (← fuelHere) [] Gap.none

/-! ## Quoted scalars -/

/-- The value of a hexadecimal digit. -/
def hexDigit? (c : Char) : Option Nat :=
  if c.isDigit then some (c.toNat - '0'.toNat)
  else if 'a' ≤ c ∧ c ≤ 'f' then some (c.toNat - 'a'.toNat + 10)
  else if 'A' ≤ c ∧ c ≤ 'F' then some (c.toNat - 'A'.toNat + 10)
  else none

/-- A character given by so many hexadecimal digits. -/
def codedChar (digits : Nat) : Scanner Char := do
  let p ← get
  let run := p.rest.take digits
  require (run.length == digits)
  match run.mapM hexDigit? with
  | none => failure
  | some ds =>
    let n := ds.foldl (fun n d => 16 * n + d) 0
    require (decide n.isValidChar)
    skip digits
    return Char.ofNat n

/-- The character of an escape, from its backslash. -/
def escapedChar : Scanner Char := do
  let c := (← get).at? 1
  skip 2
  match c with
  | some '0' => return '\x00'
  | some 'a' => return '\x07'
  | some 'b' => return '\x08'
  | some 't' | some '\t' => return '\t'
  | some 'n' => return '\n'
  | some 'v' => return '\x0b'
  | some 'f' => return '\x0c'
  | some 'r' => return '\r'
  | some 'e' => return '\x1b'
  | some ' ' => return ' '
  | some '"' => return '"'
  | some '/' => return '/'
  | some '\\' => return '\\'
  | some 'N' => return '\x85'
  | some '_' => return '\xa0'
  | some 'L' => return '\u2028'
  | some 'P' => return '\u2029'
  | some 'x' => codedChar 2
  | some 'u' => codedChar 4
  | some 'U' => codedChar 8
  | _ => failure

/-- The characters of a quoted scalar up to a blank, a line end or its
closing quote, and the gap that an escaped line end begins. -/
def quotedRun (quote : Char) : Nat → List Char → Scanner (List Char × Gap)
  | 0, _ => failure
  | fuel + 1, text => do
    let p ← get
    match p.head? with
    | none => return (text, Gap.none)
    | some c =>
      if isBlank c || isBreak c then return (text, Gap.none)
      else if c == quote then
        if quote == '\'' && p.at? 1 == some '\'' then
          skip 2
          quotedRun quote fuel (text ++ ['\''])
        else return (text, Gap.none)
      else if quote == '"' && c == '\\' then
        if (p.at? 1).any isBreak then
          skip 1
          skipBreak
          return (text, Gap.escapedBreak)
        else
          let d ← escapedChar
          quotedRun quote fuel (text ++ [d])
      else
        skip 1
        quotedRun quote fuel (text ++ [c])

/-- The parts of a quoted scalar up to its closing quote. -/
def quotedParts (quote : Char) : Nat → List Char → Scanner (List Char)
  | 0, _ => failure
  | fuel + 1, text => do
    require !(← get).atBoundary
    require (← head?).isSome
    let (text, g) ← quotedRun quote (← fuelHere) text
    if (← head?) == some quote then
      skip 1
      return text
    let g ← gap 0 (← fuelHere) g
    quotedParts quote fuel (text ++ g.text)

/-- A quoted scalar, from its opening quote. -/
def quoted (quote : Char) : Scanner (List Char) := do
  skip 1
  quotedParts quote (← fuelHere) []

/-! ## Block scalars -/

/-- What is kept of the line ends at the end of a block scalar. -/
inductive Chomping where
  | strip
  | clip
  | keep
  deriving DecidableEq

/-- The sign for keeping or dropping line ends, if there is one. -/
def chomping? : Scanner (Option Chomping) := do
  match ← head? with
  | some '+' => skip 1; return some .keep
  | some '-' => skip 1; return some .strip
  | _ => return none

/-- The digit of an indentation, if there is one; it is not zero. -/
def indentation? : Scanner (Option Nat) := do
  match ← head? with
  | some c =>
    if c.isDigit then
      require (c != '0')
      skip 1
      return some (c.toNat - '0'.toNat)
    else return none
  | none => return none

/-- Read indentation and empty lines: the line ends, and the largest column
reached. An indentation of zero is one not yet known. -/
def blockBreaks (indent : Nat) : Nat → Nat → List Char → Scanner (Nat × List Char)
  | 0, _, _ => failure
  | fuel + 1, deepest, breaks => do
    let p ← get
    let spaces := (p.rest.takeWhile (· == ' ')).length
    skip (if indent == 0 then spaces else min spaces (indent - p.column))
    let p ← get
    let deepest := max deepest p.column
    require !((indent == 0 || p.column < indent) && p.head? == some '\t')
    match p.takeBreak with
    | none => return (deepest, breaks)
    | some (b, after) =>
      set after
      blockBreaks indent fuel deepest (breaks ++ [b])

/-- The lines of a block scalar: the text so far, the line end before the
next line, the line ends after that, and whether the last line began with a
blank. -/
def blockLines (folds : Bool) (indent : Nat) :
    Nat → List Char → Option Char → List Char → Bool → Scanner (List Char × Option Char × List Char)
  | 0, _, _, _, _ => failure
  | fuel + 1, text, lead, breaks, blankBefore => do
    let p ← get
    match p.head? with
    | none => return (text, lead, breaks)
    | some c =>
      if p.column != indent then return (text, lead, breaks)
      let blankHere := isBlank c
      let joint :=
        if folds && lead == some '\n' && !blankBefore && !blankHere then
          if breaks.isEmpty then [' '] else []
        else lead.toList
      let line ← takeWhile fun c => !isBreak c
      let text := text ++ joint ++ breaks ++ line
      let lead ←
        match (← get).takeBreak with
        | some (b, after) => set after; pure (some b)
        | none => pure none
      let (_, breaks) ← blockBreaks indent (← fuelHere) 0 []
      blockLines folds indent fuel text lead breaks blankHere

/-- A block scalar, from its indicator, below a collection with the given
indentation. -/
def block (folds : Bool) (parent : Int) : Scanner (List Char) := do
  skip 1
  let (chomping, increment) ← do
    match ← chomping? with
    | some c => pure (c, ← indentation?)
    | none =>
      let i ← indentation?
      pure ((← if i.isSome then chomping? else pure none).getD .clip, i)
  finishLine
  let given :=
    match increment with
    | some n => (max parent 0).toNat + n
    | none => 0
  let (deepest, breaks) ← blockBreaks given (← fuelHere) 0 []
  let indent := if given == 0 then max (max deepest (parent + 1).toNat) 1 else given
  let (text, lead, breaks) ← blockLines folds indent (← fuelHere) [] none breaks false
  return text ++ (if chomping == .strip then [] else lead.toList) ++
    (if chomping == .keep then breaks else [])

end Scanner

end Yaml
end Scenario
