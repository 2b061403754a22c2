/-!
# Settings — the configured values and what they amount to

The correlation settings are three numbers: how often a waiting look-up
checks again, how long it waits by default, and how many values are kept.
They are taken as they are written, except that the time between checks is
held between one and a hundred milliseconds, so that waiting neither spins
nor oversleeps. Only a capacity of zero is invalid.
-/

namespace Scenario
namespace Config

/-- The correlation settings, as configured. -/
structure Settings where
  /-- The time between checks, in milliseconds. -/
  pollIntervalMs : Nat
  /-- How long to wait if nothing else is said, in milliseconds. -/
  defaultTimeoutMs : Nat
  /-- The largest number of stored values; none means no limit. -/
  capacity : Option Nat
  deriving DecidableEq

namespace Settings

/-- The settings of an empty configuration. -/
def default : Settings := ⟨50, 5000, none⟩

/-- The least time between checks, in milliseconds. -/
def minPollMs : Nat := 1

/-- The greatest time between checks, in milliseconds. -/
def maxPollMs : Nat := 100

/-- The time between checks that is kept to. -/
def pollInterval (s : Settings) : Nat := max minPollMs (min s.pollIntervalMs maxPollMs)

/-- The time waited if nothing else is said. -/
def defaultTimeout (s : Settings) : Nat := s.defaultTimeoutMs

/-- Some time passes between two checks. -/
theorem pollInterval_pos (s : Settings) : 0 < s.pollInterval := by
  unfold pollInterval minPollMs; omega

/-- No more than the greatest time passes between two checks. -/
theorem pollInterval_le (s : Settings) : s.pollInterval ≤ maxPollMs := by
  unfold pollInterval minPollMs maxPollMs; omega

end Settings

/-- Why a configuration cannot be used. -/
inductive ConfigError where
  /-- The file cannot be read as text. -/
  | unreadable
  /-- The text is not what a configuration looks like. -/
  | malformed
  /-- A value is out of its range. -/
  | invalid (reason : String)
  deriving DecidableEq

/-- The text shown for an invalid value. -/
def ConfigError.message? : ConfigError → Option String
  | .invalid reason => some s!"Invalid config value: {reason}"
  | .unreadable | .malformed => none

/-- Accept settings in which at least one value can be stored. -/
def Settings.validate (s : Settings) : Except ConfigError Unit :=
  if s.capacity = some 0 then .error (.invalid "correlation.capacity must be at least 1")
  else .ok ()

end Config
end Scenario
