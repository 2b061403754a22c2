import Scenario.Text.Blank

/-!
# Arguments — what a command line asks for

A command line names one of three commands with its own arguments, and
options that hold for all of them. `Invocation.ofArguments?` reads the
arguments from left to right. One that begins with a hyphen is an option,
unless it is a single hyphen or comes after `--`; all others are operands.
An option with a value takes it from after an equals sign, or from the next
argument, which may not look like an option. Options that take no value can
be written in one cluster of short names.

The options before the name of the command and those after it are two
levels. Within a level only the repeatable option may be given twice; of a
common option given at both levels, the second counts. Asking for help or
for the version settles the matter at once.
-/

namespace Scenario
namespace CommandLine

/-! ## Options and commands by name -/

/-- The options there are. -/
inductive OptionName where
  | config
  | verbose
  | help
  | version
  | null
  | binding
  | key
  | payload
  | delay
  | timeout
  deriving DecidableEq

namespace OptionName

/-- The long name, written after two hyphens. -/
def long : OptionName → String
  | config => "config"
  | verbose => "verbose"
  | help => "help"
  | version => "version"
  | null => "null"
  | binding => "var"
  | key => "key"
  | payload => "payload"
  | delay => "delay-ms"
  | timeout => "timeout-ms"

/-- The short name, if there is one. -/
def short? : OptionName → Option Char
  | verbose => some 'v'
  | help => some 'h'
  | version => some 'V'
  | _ => none

/-- Whether the option takes a value. -/
def takesValue : OptionName → Bool
  | config | binding | key | payload | delay | timeout => true
  | verbose | help | version | null => false

/-- Whether the option may be given more than once at a level. -/
def repeatable (name : OptionName) : Bool := name == binding

end OptionName

/-- The commands there are. -/
inductive CommandName where
  | segments
  | evaluate
  | correlate
  deriving DecidableEq

namespace CommandName

/-- The name on the command line. -/
def text : CommandName → String
  | segments => "segments"
  | evaluate => "match"
  | correlate => "correlate"

/-- The command of a name. -/
def ofText? (name : String) : Option CommandName :=
  [segments, evaluate, correlate].find? fun command => command.text == name

end CommandName

/-- What is understood at a level: its options, and the number of operands
it takes at most. -/
structure Level where
  /-- The options. -/
  options : List OptionName
  /-- The greatest number of operands. -/
  operands : Nat

/-- The level before the name of the command, which is no operand of it. -/
def Level.outer : Level := ⟨[.config, .verbose, .help, .version], 0⟩

/-- The level of a command. -/
def Level.ofCommand : CommandName → Level
  | .segments => ⟨[.config, .verbose, .help], 1⟩
  | .evaluate => ⟨[.config, .verbose, .help, .null, .binding], 2⟩
  | .correlate => ⟨[.config, .verbose, .help, .key, .payload, .delay, .timeout], 0⟩

/-- The option of a long name. -/
def Level.long? (level : Level) (name : List Char) : Option OptionName :=
  level.options.find? fun option => option.long.toList == name

/-- The option of a short name. -/
def Level.short? (level : Level) (letter : Char) : Option OptionName :=
  level.options.find? fun option => option.short? == some letter

/-! ## Values -/

/-- A number of milliseconds: decimal digits of a 64-bit number, a plus
sign before them allowed. -/
def milliseconds? (text : String) : Option Nat :=
  let digits :=
    match text.toList with
    | '+' :: more => more
    | cs => cs
  if digits.isEmpty || !digits.all Char.isDigit then none
  else
    let n := Nat.ofDigitChars 10 digits 0
    if n < Nat.pow 2 64 then some n else none

/-- A variable written as `NAME=VALUE`: the name ends at the first equals
sign, loses its blank ends, and may not be empty. -/
def binding? (text : String) : Option (String × String) :=
  let cs := text.toList
  match cs.dropWhile (· ≠ '=') with
  | [] => none
  | _ :: value =>
    let name := Text.trimmed (cs.takeWhile (· ≠ '='))
    if name.isEmpty then none else some (.ofList name, .ofList value)

/-- Whether an option can have a value: a file needs a name, and numbers
and variables are written in their own way. -/
def OptionName.admits (name : OptionName) (value : String) : Bool :=
  match name with
  | config => !value.isEmpty
  | binding => (binding? value).isSome
  | delay | timeout => (milliseconds? value).isSome
  | _ => true

/-! ## One level -/

/-- What was given at a level. -/
structure Given where
  /-- The options with their values, in order; empty where none is taken. -/
  options : List (OptionName × String)
  /-- The operands, in order. -/
  operands : List String

namespace Given

/-- Nothing given yet. -/
def nothing : Given := ⟨[], []⟩

/-- Whether an option was given. -/
def has (g : Given) (name : OptionName) : Bool := (g.options.lookup name).isSome

/-- The value of an option. -/
def value? (g : Given) (name : OptionName) : Option String := g.options.lookup name

/-- The values of an option, in order. -/
def values (g : Given) (name : OptionName) : List String :=
  (g.options.filter fun o => o.1 == name).map (·.2)

/-- One more option, unless its value is wrong or it was given before. -/
def addOption (g : Given) (name : OptionName) (value : String) : Option Given :=
  if name.admits value && (name.repeatable || !g.has name) then
    some { g with options := g.options ++ [(name, value)] }
  else none

/-- One more operand. -/
def addOperand (g : Given) (operand : String) : Given :=
  { g with operands := g.operands ++ [operand] }

end Given

/-- What reading a level comes to. -/
inductive Outcome where
  /-- The arguments are wrong. -/
  | refused
  /-- Help is asked for. -/
  | help
  /-- The version is asked for. -/
  | version
  /-- All arguments are read. -/
  | finished (given : Given)
  /-- There is an operand more than the level takes, and arguments after
  it. -/
  | stopped (given : Given) (operand : String) (rest : List String)

/-- Go on after one more option, if it can be given. -/
def Outcome.afterOption (g : Given) (name : OptionName) (value : String)
    (next : Given → Outcome) : Outcome :=
  match name with
  | .help => .help
  | .version => .version
  | _ =>
    match g.addOption name value with
    | some more => next more
    | none => .refused

/-- Whether an argument looks like an option, or is the mark after which
there are no options. -/
def looksLikeOption (argument : String) : Bool :=
  match argument.toList with
  | '-' :: _ :: _ => true
  | _ => false

/-- A long option without its hyphens: the name, and the value after an
equals sign. -/
def splitLong (text : List Char) : List Char × Option String :=
  match text.dropWhile (· ≠ '=') with
  | [] => (text, none)
  | _ :: value => (text.takeWhile (· ≠ '='), some (.ofList value))

/-- Options written in a cluster of short names; none of them takes a
value. -/
def readCluster (level : Level) (next : Given → Outcome) : List Char → Given → Outcome
  | [], g => next g
  | letter :: letters, g =>
    match level.short? letter with
    | none => .refused
    | some option => Outcome.afterOption g option "" (readCluster level next letters)

/-- Arguments after the mark `--`: operands, and not too many of them. -/
def readOperands (level : Level) (g : Given) (arguments : List String) : Outcome :=
  let all := arguments.foldl Given.addOperand g
  if all.operands.length ≤ level.operands then .finished all else .refused

/-- Read the arguments of a level. -/
def readLevel (level : Level) : List String → Given → Outcome
  | [], g => .finished g
  | argument :: rest, g =>
    match argument.toList with
    | ['-', '-'] => readOperands level g rest
    | '-' :: '-' :: text =>
      let (name, attached) := splitLong text
      match level.long? name with
      | none => .refused
      | some option =>
        match option.takesValue, attached with
        | false, none => Outcome.afterOption g option "" (readLevel level rest)
        | false, some _ => .refused
        | true, some value => Outcome.afterOption g option value (readLevel level rest)
        | true, none =>
          match rest with
          | [] => .refused
          | value :: more =>
            if looksLikeOption value then .refused
            else Outcome.afterOption g option value (readLevel level more)
    | '-' :: letter :: letters => readCluster level (readLevel level rest) (letter :: letters) g
    | _ =>
      if g.operands.length < level.operands then readLevel level rest (g.addOperand argument)
      else .stopped g argument rest

/-! ## Commands -/

/-- A command with its arguments. -/
inductive Command where
  /-- List the segments of a path expression. -/
  | segments (expression : String)
  /-- Evaluate a matcher expression on a value, or on null where that is asked for,
  with variables. -/
  | evaluate (expression : String) (value : Option String) (null : Bool)
      (bindings : List (String × String))
  /-- Hand a value over from a sender to a receiver. -/
  | correlate (key payload : String) (delayMs : Nat) (timeoutMs : Option Nat)
  deriving DecidableEq

/-- The delay of a handover if nothing else is said, in milliseconds. -/
def defaultDelayMs : Nat := 100

/-- The command made of what was given at its level. -/
def Command.ofGiven? (name : CommandName) (g : Given) : Option Command :=
  match name, g.operands with
  | .segments, [expression] => some (.segments expression)
  | .evaluate, [expression] =>
    some (.evaluate expression none (g.has .null) ((g.values .binding).filterMap binding?))
  | .evaluate, [expression, value] =>
    if g.has .null then none
    else some (.evaluate expression (some value) false ((g.values .binding).filterMap binding?))
  | .correlate, [] =>
    match g.value? .key, g.value? .payload with
    | some key, some payload =>
      let delay := ((g.value? .delay).bind milliseconds?).getD defaultDelayMs
      some (.correlate key payload delay ((g.value? .timeout).bind milliseconds?))
    | _, _ => none
  | _, _ => none

/-- A command and the configuration file it is to use. -/
structure Request where
  /-- The name of the configuration file. -/
  config : Option String
  /-- Whether details of the work are asked for. -/
  verbose : Bool
  /-- The command. -/
  command : Command
  deriving DecidableEq

/-- The request of a command, given the options before its name and the
arguments after it. -/
def Request.ofGiven? (outer : Given) (name : CommandName) (inner : Given) : Option Request :=
  (Command.ofGiven? name inner).map fun command =>
    { config := (inner.value? .config).or (outer.value? .config)
      verbose := outer.has .verbose || inner.has .verbose
      command }

/-- What a command line asks for. -/
inductive Invocation where
  | help
  | version
  | request (r : Request)
  deriving DecidableEq

namespace Invocation

/-- The word that asks for help in place of a command. -/
def helpWord : String := "help"

/-- What asks for help by the word for it: it may be followed by the name
it is wanted on. -/
def ofHelpTopics? : List String → Option Invocation
  | [] => some help
  | [topic] => if topic == helpWord || (CommandName.ofText? topic).isSome then some help else none
  | _ => none

/-- What the arguments after the name of a command ask for. -/
def ofCommandArguments? (outer : Given) (name : CommandName) (arguments : List String) :
    Option Invocation :=
  match readLevel (.ofCommand name) arguments .nothing with
  | .finished inner => (Request.ofGiven? outer name inner).map request
  | .help => some help
  | .version => some version
  | .refused | .stopped _ _ _ => none

/-- What the arguments of the program ask for; nothing if they are wrong.
-/
def ofArguments? (arguments : List String) : Option Invocation :=
  match readLevel .outer arguments .nothing with
  | .stopped outer operand rest =>
    if operand == helpWord then ofHelpTopics? rest
    else (CommandName.ofText? operand).bind fun name => ofCommandArguments? outer name rest
  | .help => some help
  | .version => some version
  | .refused | .finished _ => none

end Invocation

end CommandLine
end Scenario
