import Scenario.Config.Settings
import Scenario.Correlation.Waiting

/-!
# Timelines — concurrent tasks on one store and a virtual clock

Tasks start at given times and share a store. Time moves only when every
task waits: the next access is always the earliest one that any unfinished
task has planned, of two at the same time the one of the task listed first.
A run ends when all tasks are finished, or when only look-ups without a
deadline are left that nothing can satisfy any more (`horizon`).
-/

namespace Scenario
namespace Correlation

open Config (Settings)

/-- What a task does. -/
inductive Action (α : Type) where
  | store (key : String) (value : α)
  | find (key : String) (patience : Patience)
  | findDefault (key : String)
  | tryFind (key : String)
  | contains (key : String)
  deriving DecidableEq

namespace Action

/-- The key the action is about. -/
def key {α : Type} : Action α → String
  | store key _ | find key _ | findDefault key | tryFind key | contains key => key

end Action

/-- A task: an action and the time it starts. -/
structure Task (α : Type) where
  /-- When it starts, in milliseconds. -/
  start : Nat
  /-- What it does. -/
  action : Action α
  deriving DecidableEq

/-- What came of a finished task. -/
inductive Outcome (α : Type) where
  | stored
  | found (value : α)
  | failed (error : LookupError)
  | tried (value : Option α)
  | contained (value : Bool)
  deriving DecidableEq

/-- What a task has come to. -/
inductive Progress (α : Type) where
  /-- Its next access to the store is planned for a time. -/
  | planned (time : Nat) (action : Action α)
  /-- It looks a value up and checks next at a time. -/
  | waiting (time : Nat) (waiter : Waiter)
  /-- It has finished. -/
  | finished (time : Nat) (outcome : Outcome α)

namespace Progress

variable {α : Type}

/-- When the next access is planned. -/
def next? : Progress α → Option Nat
  | planned time _ | waiting time _ => some time
  | finished _ _ => none

/-- The progress of a task that has not started. -/
def ofTask (task : Task α) : Progress α := planned task.start task.action

/-- One check of a look-up. -/
def check (poll now : Nat) (w : Waiter) (s : Store α) : Progress α × Store α :=
  match w.attempt poll now s with
  | (.found value, after) => (finished now (.found value), after)
  | (.expired error, after) => (finished now (.failed error), after)
  | (.sleep wake, after) => (waiting wake w, after)

/-- The planned access, at its time. -/
def step (settings : Settings) (s : Store α) : Progress α → Progress α × Store α
  | planned now (.store key value) => (finished now .stored, s.add now key value)
  | planned now (.find key patience) =>
    check settings.pollInterval now (.start now key patience) s
  | planned now (.findDefault key) =>
    check settings.pollInterval now (.start now key (.upTo settings.defaultTimeout)) s
  | planned now (.tryFind key) =>
    let (value, after) := s.remove key
    (finished now (.tried value), after)
  | planned now (.contains key) => (finished now (.contained (s.contains key)), s)
  | waiting now w => check settings.pollInterval now w s
  | finished now outcome => (finished now outcome, s)

end Progress

namespace Task

/-- A time at which a task is over for sure, unless it looks a value up
without a deadline: then the time it starts. -/
def bound {α : Type} (settings : Settings) (task : Task α) : Nat :=
  match task.action with
  | .find _ (.upTo ms) => task.start + ms
  | .findDefault _ => task.start + settings.defaultTimeout
  | _ => task.start

end Task

/-- The tasks of a run, their progress, and the store they share. -/
structure Timeline (α : Type) where
  /-- The progress of each task. -/
  tasks : List (Progress α)
  /-- The store. -/
  store : Store α

namespace Timeline

variable {α : Type}

/-- The place and time of the earliest planned access, the first of several
at one time; places are counted from the given one. -/
def earliest? : Nat → List (Progress α) → Option (Nat × Nat)
  | _, [] => none
  | i, p :: ps =>
    match p.next?, earliest? (i + 1) ps with
    | none, later => later
    | some t, none => some (i, t)
    | some t, some (j, u) => if u < t then some (j, u) else some (i, t)

/-- Run the earliest accesses up to a time, at most so many. -/
def advance (settings : Settings) (limit : Nat) : Nat → Timeline α → Timeline α
  | 0, line => line
  | fuel + 1, line =>
    match earliest? 0 line.tasks with
    | none => line
    | some (i, time) =>
      if limit < time then line
      else
        match line.tasks[i]? with
        | none => line
        | some p =>
          let (q, after) := p.step settings line.store
          advance settings limit fuel ⟨line.tasks.set i q, after⟩

/-- The time after which nothing changes any more: all tasks but the
look-ups without a deadline are over one poll interval earlier, and those
have checked once more. -/
def horizon (settings : Settings) (tasks : List (Task α)) : Nat :=
  (tasks.map (Task.bound settings)).foldl max 0 + settings.pollInterval

/-- Run some tasks on a store. No task has more accesses up to the horizon
than there are milliseconds until then, and one. -/
def run (settings : Settings) (store : Store α) (tasks : List (Task α)) : Timeline α :=
  let limit := horizon settings tasks
  advance settings limit (tasks.length * (limit + 1)) ⟨tasks.map Progress.ofTask, store⟩

end Timeline

end Correlation
end Scenario
