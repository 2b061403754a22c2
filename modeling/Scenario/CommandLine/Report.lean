import Scenario.Path.Segment
import Scenario.Text.Offset

/-!
# Reports — the lines a command writes

Results go to standard output without colour, everything else to standard
error with it. Columns are measured in characters: actions are set to the
right of a column, and so are the numbers of segments, while the names of
indexed segments are set to the left of one.
-/

namespace Scenario
namespace CommandLine
namespace Report

/-! ## Colours and columns -/

/-- A text in a colour, given by the code of its control sequence. -/
def painted (colour text : String) : String := s!"\x1b[{colour}m{text}\x1b[0m"

/-- Bold cyan. -/
def boldCyan : String := "1;36"

/-- Bold green. -/
def boldGreen : String := "1;32"

/-- Bold red. -/
def boldRed : String := "1;31"

/-- Cyan. -/
def cyan : String := "36"

/-- So many blanks. -/
def blanks (count : Nat) : String := .ofList (List.replicate count ' ')

/-- A text set to the right of a column. -/
def toRight (width : Nat) (text : String) : String := blanks (width - text.length) ++ text

/-- A text set to the left of a column. -/
def toLeft (width : Nat) (text : String) : String := text ++ blanks (width - text.length)

/-! ## Lines -/

/-- What is being done. -/
def status (action message : String) : String :=
  painted boldCyan (toRight 12 action) ++ s!" {message}\n"

/-- The outcome of a check, with a tick or a cross. -/
def verdict (passed : Bool) (message : String) : String :=
  (if passed then painted boldGreen "  ✓" else painted boldRed "  ✗") ++ s!" {message}\n"

/-- An error. -/
def error (message : String) : String :=
  painted boldRed "error:" ++ s!" {message}\n"

/-- A remark. -/
def info (message : String) : String :=
  painted cyan "  i" ++ s!" {message}\n"

/-- The margin of quoted sources. -/
def margin : String := blanks 4

/-- The number of characters before a byte offset; the offset itself where
it falls inside a character. -/
def column (source : String) (offset : Nat) : Nat :=
  let cs := source.toList
  match Text.dropBytes (min offset (Text.byteSize cs)) cs with
  | some rest => cs.length - rest.length
  | none => offset

/-- A source, and under it a mark at a byte offset. -/
def caret (source : String) (offset : Nat) : String :=
  s!"{margin}{source}\n" ++ margin ++ blanks (column source offset) ++ painted boldRed "^" ++ "\n"

/-- A segment with its number. -/
def segmentRow (number : Nat) (s : Path.Segment) : String :=
  let body :=
    match s.escape with
    | some language => s!"{language.name}({s.name})"
    | none =>
      match s.arrayIndex with
      | some index => s!"{toLeft 24 s.name} [{index}]"
      | none => s.name
  toRight 3 (Nat.repr number) ++ s!"  {body}\n"

/-- A value as verdicts show it. -/
def shown : Option String → String
  | some text => s!"'{text}'"
  | none => "null"

end Report
end CommandLine
end Scenario
