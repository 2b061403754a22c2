import Scenario.CommandLine.Arguments
import Scenario.CommandLine.Report
import Scenario.Config.Load
import Scenario.Correlation.Timeline
import Scenario.Correlation.World
import Scenario.Matcher.Verdict
import Scenario.Path.Cursor

/-!
# Runs — what a command line comes to

A run reads the arguments, then the configuration if one is named, and then
carries out the command: wrong arguments are found before a wrong
configuration, and both before any work. `perform` is the work itself, as
texts for the two outputs and an exit code. Files are a look-up by name, so
that a run is a function of what is in them.
-/

namespace Scenario
namespace CommandLine

open Config (ConfigError Settings)

/-- What a command writes, and the code it ends with. -/
structure Output where
  /-- The exit code. -/
  exit : Nat
  /-- The text on standard output. -/
  out : String
  /-- The text on standard error. -/
  err : String
  deriving DecidableEq

/-- The version of the program. -/
def versionText : String := "stepcheck 0.3.0\n"

/-- A summary of how the program is used. -/
def helpText : String :=
  "Usage: stepcheck [--config FILE] [-v | --verbose] COMMAND\n" ++
  "\n" ++
  "Commands:\n" ++
  "  segments EXPRESSION\n" ++
  "  match EXPRESSION [VALUE | --null] [--var NAME=VALUE]...\n" ++
  "  correlate --key KEY --payload PAYLOAD [--delay-ms MS] [--timeout-ms MS]\n"

/-! ## Commands -/

/-- List the segments of an expression, numbered from one. -/
def performSegments (expression : String) : Output :=
  let segments := Path.segments expression
  let rows := segments.mapIdx fun i s => Report.segmentRow (i + 1) s
  let remark := if segments.isEmpty then Report.info "expression has no segments" else ""
  ⟨0, String.join rows, Report.status "Resolving" expression ++ remark⟩

/-- Evaluate a matcher expression, on null where that is asked for, and on the empty
text if no value is given. The exit code is zero if it holds, one if it does not, and
two if it cannot be read. -/
def performEvaluate [PatternLibrary] (expression : String) (value : Option String) (null : Bool)
    (bindings : List (String × String)) : Output :=
  match Matcher.ofSource expression with
  | .error e => ⟨2, "", Report.error e.message ++ Report.caret expression e.position⟩
  | .ok matcher =>
    let actual := if null then none else some (value.getD "")
    let passed := matcher.accepts (Scope.ofList bindings) actual
    let verb := if passed then "matches" else "does not match"
    let message := s!"{Report.shown actual} {verb} {matcher.source}"
    ⟨if passed then 0 else 1, "",
      Report.status "Parsed" matcher.root.text ++ Report.verdict passed message⟩

/-- What a receiver gets that looks a key up at once while a sender stores a
value under it after a delay. -/
def handover (settings : Settings) (key payload : String) (delayMs timeoutMs : Nat) :
    Except Correlation.LookupError String :=
  let receiver : Correlation.Task String := ⟨0, .find key (.upTo timeoutMs)⟩
  let sender : Correlation.Task String := ⟨delayMs, .store key payload⟩
  let line := Correlation.Timeline.run settings (.empty settings.capacity) [receiver, sender]
  match line.tasks with
  | .finished _ (.found value) :: _ => .ok value
  | .finished _ (.failed e) :: _ => .error e
  | _ => .error (.timeout key timeoutMs)

/-- Hand a value over; the receiver waits as long as configured if nothing
else is said. -/
def performCorrelate (settings : Settings) (key payload : String) (delayMs : Nat)
    (timeoutMs : Option Nat) : Output :=
  let timeout := timeoutMs.getD settings.defaultTimeout
  let waiting := Report.status "Waiting" s!"for '{key}' (timeout {timeout}ms)"
  match handover settings key payload delayMs timeout with
  | .ok value => ⟨0, "", waiting ++ Report.verdict true s!"received '{value}'"⟩
  | .error e => ⟨1, "", waiting ++ Report.verdict false e.message⟩

/-- Carry out a command. -/
def perform [PatternLibrary] (settings : Settings) : Command → Output
  | .segments expression => performSegments expression
  | .evaluate expression value null bindings => performEvaluate expression value null bindings
  | .correlate key payload delayMs timeoutMs =>
    performCorrelate settings key payload delayMs timeoutMs

/-! ## Runs -/

/-- The settings of a request: those of its file, or else the defaults. -/
def settingsOf (files : String → Option ByteArray) (r : Request) : Except ConfigError Settings :=
  match r.config with
  | some name => Config.loadFile (files name)
  | none => .ok Settings.default

/-- How a run ends. -/
inductive Ending where
  /-- The arguments are wrong. -/
  | wrongUsage
  /-- The configuration cannot be used. -/
  | wrongConfig (error : ConfigError)
  /-- The program has done what it was asked for. -/
  | finished (output : Output)

/-- Run the program on its arguments and the files there are. -/
def run [PatternLibrary] (files : String → Option ByteArray) (arguments : List String) : Ending :=
  match Invocation.ofArguments? arguments with
  | none => .wrongUsage
  | some .help => .finished ⟨0, helpText, ""⟩
  | some .version => .finished ⟨0, versionText, ""⟩
  | some (.request r) =>
    match settingsOf files r with
    | .error e => .wrongConfig e
    | .ok settings => .finished (perform settings r.command)

/-- The exit code of a run with wrong arguments. -/
def usageExit : Nat := 2

/-- The exit code of a run with a wrong configuration. -/
def configExit : Nat := 1

end CommandLine
end Scenario
