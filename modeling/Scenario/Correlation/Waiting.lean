import Scenario.Correlation.Store
import Scenario.Scope.Variables

/-!
# Waiting — looking a value up until it comes or time is over

A look-up checks the store at once. As long as the value is not there, it
sleeps and checks again, after the poll interval or at its deadline,
whichever comes first, and at the deadline it gives up. A look-up without a
deadline never does.

`Waiter.attempt` is one check: it takes the value, gives up, or says when
to check next, which is always later (`lt_of_attempt_sleep`).
-/

namespace Scenario
namespace Correlation

/-- How long a look-up may take. -/
inductive Patience where
  /-- So many milliseconds. -/
  | upTo (ms : Nat)
  /-- Any time. -/
  | endless
  deriving DecidableEq

/-- Why there is no value. -/
inductive LookupError where
  | unknownAlias (cause : UnknownVariable)
  | timeout (key : String) (ms : Nat)
  deriving DecidableEq

/-- The text shown for a failed look-up. -/
def LookupError.message : LookupError → String
  | .unknownAlias cause =>
    s!"Correlation key alias was never saved in this scope: {cause.message}"
  | .timeout key ms => s!"No value for correlation key '{key}' within {ms}ms"

/-- A look-up under way. -/
structure Waiter where
  /-- The key looked up. -/
  key : String
  /-- How long the look-up may take in all. -/
  patience : Patience
  /-- When it gives up; none means never. -/
  deadline : Option Nat
  deriving DecidableEq

/-- The look-up that starts at a given time. -/
def Waiter.start (now : Nat) (key : String) (patience : Patience) : Waiter :=
  match patience with
  | .upTo ms => ⟨key, patience, some (now + ms)⟩
  | .endless => ⟨key, patience, none⟩

/-- The outcome of one check. -/
inductive Attempt (α : Type) where
  | found (value : α)
  | expired (error : LookupError)
  | sleep (wake : Nat)
  deriving DecidableEq

namespace Waiter

/-- The error of a look-up that gave up. -/
def error (w : Waiter) : LookupError :=
  match w.patience with
  | .upTo ms => .timeout w.key ms
  | .endless => .timeout w.key 0

/-- One check of the store. -/
def attempt {α : Type} (poll now : Nat) (w : Waiter) (s : Store α) : Attempt α × Store α :=
  match s.remove w.key with
  | (some value, after) => (.found value, after)
  | (none, after) =>
    match w.deadline with
    | none => (.sleep (now + poll), after)
    | some deadline =>
      if deadline ≤ now then (.expired w.error, after)
      else (.sleep (now + min poll (deadline - now)), after)

/-- A look-up never spins: the next check is later than this one. -/
theorem lt_of_attempt_sleep {α : Type} {poll now wake : Nat} {w : Waiter} {s after : Store α}
    (hp : 0 < poll) (h : w.attempt poll now s = (.sleep wake, after)) : now < wake := by
  unfold attempt at h
  split at h
  · simp at h
  · split at h
    · simp only [Prod.mk.injEq, Attempt.sleep.injEq] at h
      omega
    · split at h
      · simp at h
      · simp only [Prod.mk.injEq, Attempt.sleep.injEq] at h
        omega

end Waiter

end Correlation
end Scenario
