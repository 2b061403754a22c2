import Scenario.Config.Settings
import Scenario.Text.Blank
import Scenario.Yaml.Node

/-!
# Loading — settings from the text of a configuration

A configuration is a YAML document with a mapping under `correlation`. Keys
are compared by their text, unknown ones are passed over, and a known one
may come only once. Numbers are plain scalars, in decimal without leading
zeros or in hexadecimal, octal or binary; where there is nothing at all in
place of a mapping, the defaults hold. The capacity may also be null.

A text that is blank altogether is the empty configuration.
-/

namespace Scenario
namespace Config

open Yaml (Node Style Tree Stream)

/-! ## Scalars -/

/-- The number written with some digits in a base, if it has 64 bits. -/
def digits? (base : Nat) (text : List Char) : Option Nat :=
  let value? (c : Char) : Option Nat := (Yaml.Scanner.hexDigit? c).filter (· < base)
  match text.mapM value? with
  | none | some [] => none
  | some ds =>
    let n := ds.foldl (fun n d => base * n + d) 0
    if n < Nat.pow 2 64 then some n else none

/-- Whether a text is a zero followed by more digits. -/
def hasLeadingZero (text : List Char) : Bool :=
  match text with
  | '0' :: c :: cs => (c :: cs).all Char.isDigit
  | _ => false

/-- The number a scalar spells: perhaps a plus sign, and digits, in decimal
or after the sign of another base. -/
def number? (text : List Char) : Option Nat :=
  let unsigned :=
    match text with
    | '+' :: more => more
    | _ => text
  let prefixed :=
    match unsigned with
    | '0' :: 'x' :: more => digits? 16 more
    | '0' :: 'o' :: more => digits? 8 more
    | '0' :: 'b' :: more => digits? 2 more
    | _ => none
  match prefixed with
  | some n => some n
  | none => if hasLeadingZero unsigned then none else digits? 10 unsigned

/-- Whether a plain scalar spells null. -/
def isNull (text : List Char) : Bool :=
  ["null".toList, "Null".toList, "NULL".toList, "~".toList].contains text

/-- The tag of null. -/
def nullTag : List Char := "tag:yaml.org,2002:null".toList

/-- The tag of integers. -/
def intTag : List Char := "tag:yaml.org,2002:int".toList

/-! ## Nodes -/

/-- The node an alias stands for; any other node stands for itself. -/
def target? (tree : Tree) : Node → Option Node
  | .reference n => tree.anchored.lookup n
  | node => some node

/-- The number a node spells: a plain scalar, or a literal one marked as an
integer. -/
def numberOf? (tree : Tree) (node : Node) : Option Nat :=
  match target? tree node with
  | some (.scalar tag style text) =>
    if style = .plain ∨ (style = .literal ∧ tag = some intTag) then number? text else none
  | _ => none

/-- The number a node spells, or none at all where it spells null. -/
def optionalOf? (tree : Tree) (node : Node) : Option (Option Nat) :=
  match target? tree node with
  | some (.scalar tag .plain text) =>
    match tag with
    | some t =>
      if t = nullTag then if isNull text then some none else none
      else (number? text).map some
    | none => if text.isEmpty || isNull text then some none else (number? text).map some
  | _ => (numberOf? tree node).map some

/-- The entries of a node that stands for a mapping; an empty plain scalar
stands for the empty one. -/
def entriesOf? (tree : Tree) (node : Node) : Option (List (Node × Node)) :=
  match target? tree node with
  | some (.mapping entries) => some entries
  | some (.scalar _ .plain []) => some []
  | _ => none

/-- The text of a key, which must be a scalar. -/
def keyOf? (tree : Tree) (node : Node) : Option String :=
  match target? tree node with
  | some (.scalar _ _ text) => some (.ofList text)
  | _ => none

/-- The entries of a mapping by the text of their keys. -/
def keyed? (tree : Tree) (entries : List (Node × Node)) : Option (List (String × Node)) :=
  entries.mapM fun (key, value) => (keyOf? tree key).map (·, value)

/-- The value under a known key, read by `read`, and the default if the key
is missing; it may not come twice. -/
def field? {α : Type} (entries : List (String × Node)) (key : String) (read : Node → Option α)
    (missing : α) : Option α :=
  match entries.filter fun entry => entry.1 == key with
  | [] => some missing
  | [(_, value)] => read value
  | _ => none

/-! ## Settings -/

/-- The correlation settings a node describes. -/
def settingsOf? (tree : Tree) (node : Node) : Option Settings := do
  let entries ← keyed? tree (← entriesOf? tree node)
  let defaults := Settings.default
  let poll ← field? entries "pollIntervalMs" (numberOf? tree) defaults.pollIntervalMs
  let timeout ← field? entries "defaultTimeoutMs" (numberOf? tree) defaults.defaultTimeoutMs
  let capacity ← field? entries "capacity" (optionalOf? tree) defaults.capacity
  return ⟨poll, timeout, capacity⟩

/-- The settings a document describes. -/
def settingsOfTree? (tree : Tree) : Option Settings := do
  let entries ← keyed? tree (← entriesOf? tree tree.root)
  field? entries "correlation" (settingsOf? tree) Settings.default

/-- The settings a text describes, valid or not. -/
def settingsOfText? (text : List Char) : Option Settings :=
  if (Text.trimmed text).isEmpty then some Settings.default
  else
    match Stream.ofText? text with
    | some .empty => some Settings.default
    | some (.single tree) => settingsOfTree? tree
    | some .several | none => none

/-- The settings of a configuration text. -/
def load (text : String) : Except ConfigError Settings :=
  match settingsOfText? text.toList with
  | none => .error .malformed
  | some settings =>
    match settings.validate with
    | .ok () => .ok settings
    | .error e => .error e

/-- The settings of a configuration file, given by its bytes; nothing
stands for a file that cannot be read. -/
def loadFile (bytes : Option ByteArray) : Except ConfigError Settings :=
  match bytes.bind String.fromUTF8? with
  | some text => load text
  | none => .error .unreadable

end Config
end Scenario
