import Scenario.Correlation.Timeline
import Scenario.Proofs.Correlation.Entries

/-!
# Interleavings — accesses to one store in any order

Tasks and the holders of handles take turns on a store, one access at a
time. A `Move` is one such turn; which move comes next, and what the clock
shows then, is left open, so the runs of `Timeline.after` are the
interleavings of the accesses in every order. The runs of `advance`, which
keeps to the times the tasks plan, are among them (`exists_moves_advance`).

Of a move its caller sees an `Event`. What the move does to the store is the
same for all moves with the event (`effect_move`), so a `History` keeps the
events and the stores between them and forgets the tasks.
-/

namespace Scenario
namespace Correlation

open Config (Settings)

variable {α : Type}

/-! ## Events -/

/-- What an access amounts to, as its caller sees it. -/
inductive Event (α : Type) where
  /-- A value is stored. -/
  | added (key : String) (value : α)
  /-- A consumer asks for the value under a key, and is given it or none. -/
  | asked (key : String) (answer : Option α)
  /-- All values are thrown away. -/
  | cleared
  /-- Nothing changes. -/
  | looked

/-- **What each event does to a store.** A consumer is given what it takes
out. -/
inductive Effect : Store α → Event α → Store α → Prop
  /-- A value is added, at some time. -/
  | added (s : Store α) (now : Nat) (key : String) (value : α) :
      Effect s (.added key value) (s.add now key value)
  /-- The value under a key is taken out. -/
  | asked (s : Store α) (key : String) : Effect s (.asked key (s.remove key).1) (s.remove key).2
  /-- The store is cleared. -/
  | cleared (s : Store α) : Effect s .cleared s.clear
  /-- The store stays as it is. -/
  | looked (s : Store α) : Effect s .looked s

/-- The value a task has been given. -/
def Progress.received : Progress α → Option α
  | .finished _ (.found value) => some value
  | .finished _ (.tried value) => value
  | _ => none

/-- What an access of a task amounts to: what the task was to do, and what
it has been given. -/
def Event.ofTask : Progress α → Progress α → Event α
  | .planned _ (.store key value), _ => .added key value
  | .planned _ (.find key _), after | .planned _ (.findDefault key), after
  | .planned _ (.tryFind key), after => .asked key after.received
  | .planned _ (.contains _), _ => .looked
  | .waiting _ w, after => .asked w.key after.received
  | .finished _ _, _ => .looked

/-- What an access through a handle amounts to, with its answer. -/
def Event.ofAnswer : Access α → Answer α → Event α
  | .add key value, _ => .added key value
  | .remove key, .taken value => .asked key value
  | .clear, _ => .cleared
  | _, _ => .looked

/-- A check of a look-up takes the value under its key out of the store, and
has received it. -/
theorem Progress.check_eq (poll now : Nat) (w : Waiter) (s : Store α) :
    (check poll now w s).1.received = (s.remove w.key).1 ∧
      (check poll now w s).2 = (s.remove w.key).2 := by
  unfold check Waiter.attempt
  cases hr : s.remove w.key with
  | mk answer after =>
    cases answer with
    | some value => exact ⟨rfl, rfl⟩
    | none =>
      cases w.deadline with
      | none => exact ⟨rfl, rfl⟩
      | some deadline =>
        by_cases hd : deadline ≤ now
        · simp only [if_pos hd, received, and_self]
        · simp only [if_neg hd, received, and_self]

theorem effect_check (poll now : Nat) (w : Waiter) (s : Store α) :
    Effect s (.asked w.key (Progress.check poll now w s).1.received)
      (Progress.check poll now w s).2 := by
  obtain ⟨hanswer, hstore⟩ := Progress.check_eq poll now w s
  rw [hanswer, hstore]
  exact .asked s w.key

theorem Waiter.key_start (now : Nat) (key : String) (patience : Patience) :
    (Waiter.start now key patience).key = key := by
  cases patience <;> rfl

/-- **An access of a task has the effect of its event.** -/
theorem effect_step (settings : Settings) (s : Store α) (p : Progress α) :
    Effect s (Event.ofTask p (p.step settings s).1) (p.step settings s).2 := by
  cases p with
  | planned now action =>
    cases action with
    | store key value => exact .added s now key value
    | find key patience =>
      have h := effect_check settings.pollInterval now (.start now key patience) s
      rwa [Waiter.key_start] at h
    | findDefault key =>
      exact effect_check settings.pollInterval now
        (.start now key (.upTo settings.defaultTimeout)) s
    | tryFind key => exact .asked s key
    | contains key => exact .looked s
  | waiting now w => exact effect_check settings.pollInterval now w s
  | finished now outcome => exact .looked s

/-- And so has an access through a handle. -/
theorem effect_access (s : Store α) (now : Nat) (a : Access α) :
    Effect s (Event.ofAnswer a (s.access now a).1) (s.access now a).2 := by
  cases a with
  | add key value => exact .added s now key value
  | remove key => exact .asked s key
  | clear => exact .cleared s
  | contains key => exact .looked s
  | size => exact .looked s
  | isEmpty => exact .looked s

/-! ## Moves -/

/-- One turn: of nobody, of the task at a place, or of the holder of a
handle. -/
inductive Move (α : Type) where
  | idle
  | proceed (place now : Nat)
  | direct (now : Nat) (access : Access α)

/-- The same progress with its next access at another time. -/
def Progress.retimed (now : Nat) : Progress α → Progress α
  | planned _ action => planned now action
  | waiting _ w => waiting now w
  | finished time outcome => finished time outcome

theorem Progress.retimed_of_next? {p : Progress α} {now : Nat} (h : p.next? = some now) :
    p.retimed now = p := by
  cases p with
  | planned time action => cases h; rfl
  | waiting time w => cases h; rfl
  | finished time outcome => cases h

namespace Timeline

/-- A move: its event, and the timeline after it. The task at a place acts
on the settings of its own manager. -/
def move (settings : Nat → Settings) (line : Timeline α) : Move α → Event α × Timeline α
  | .idle => (.looked, line)
  | .proceed i now =>
    match line.tasks[i]? with
    | none => (.looked, line)
    | some p =>
      let (q, after) := (p.retimed now).step (settings i) line.store
      (.ofTask p q, ⟨line.tasks.set i q, after⟩)
  | .direct now a =>
    let (answer, after) := line.store.access now a
    (.ofAnswer a answer, { line with store := after })

/-- The timeline after some moves. -/
def after (settings : Nat → Settings) (line : Timeline α) (moves : Nat → Move α) :
    Nat → Timeline α
  | 0 => line
  | n + 1 => ((line.after settings moves n).move settings (moves n)).2

end Timeline

theorem Timeline.move_proceed (settings : Nat → Settings) {line : Timeline α} {i : Nat}
    {p : Progress α} (h : line.tasks[i]? = some p) (now : Nat) :
    line.move settings (.proceed i now) =
      (.ofTask p ((p.retimed now).step (settings i) line.store).1,
        ⟨line.tasks.set i ((p.retimed now).step (settings i) line.store).1,
          ((p.retimed now).step (settings i) line.store).2⟩) := by
  simp only [move, h]

theorem Timeline.move_proceed_none (settings : Nat → Settings) {line : Timeline α} {i : Nat}
    (h : line.tasks[i]? = none) (now : Nat) :
    line.move settings (.proceed i now) = (.looked, line) := by
  simp only [move, h]

/-- Moves neither add tasks nor drop any. -/
theorem Timeline.length_move (settings : Nat → Settings) (line : Timeline α) (m : Move α) :
    (line.move settings m).2.tasks.length = line.tasks.length := by
  cases m with
  | idle => rfl
  | direct now a => rfl
  | proceed i now =>
    cases hp : line.tasks[i]? with
    | none => rw [move_proceed_none settings hp]
    | some p =>
      rw [move_proceed settings hp]
      exact List.length_set

theorem Event.ofTask_retimed (now : Nat) (p q : Progress α) :
    ofTask (p.retimed now) q = ofTask p q := by
  cases p with
  | planned time action => cases action <;> rfl
  | waiting time w => rfl
  | finished time outcome => rfl

/-- **Every move has the effect of its event.** -/
theorem effect_move (settings : Nat → Settings) (line : Timeline α) (m : Move α) :
    Effect line.store (line.move settings m).1 (line.move settings m).2.store := by
  cases m with
  | idle => exact .looked _
  | proceed i now =>
    cases hp : line.tasks[i]? with
    | none =>
      rw [Timeline.move_proceed_none settings hp]
      exact .looked _
    | some p =>
      have h := effect_step (settings i) line.store (p.retimed now)
      rw [Event.ofTask_retimed] at h
      rw [Timeline.move_proceed settings hp]
      exact h
  | direct now a => exact effect_access line.store now a

/-! ## Histories -/

/-- **What happened to a store**: its events, one after the other, and the
store before each of them. -/
structure History (α : Type) where
  /-- The limit the store was made with. -/
  limit : Option Nat
  /-- The store before an event. -/
  store : Nat → Store α
  /-- The events. -/
  event : Nat → Event α
  /-- In the beginning there is nothing in the store. -/
  starts : store 0 = Store.empty limit
  /-- Each event has its effect. -/
  effect : ∀ n, Effect (store n) (event n) (store (n + 1))

/-- The history of a store that some tasks and the holders of its handles
share, in the order of their moves. -/
def History.ofMoves (settings : Nat → Settings) (limit : Option Nat) (tasks : List (Task α))
    (moves : Nat → Move α) : History α where
  limit := limit
  store n := (Timeline.after settings ⟨tasks.map .ofTask, .empty limit⟩ moves n).store
  event n :=
    ((Timeline.after settings ⟨tasks.map .ofTask, .empty limit⟩ moves n).move settings (moves n)).1
  starts := rfl
  effect _ := effect_move settings _ _

/-! ## The scheduler's order is one of them -/

namespace Timeline

theorem after_succ (settings : Nat → Settings) (line : Timeline α) (moves : Nat → Move α)
    (n : Nat) : line.after settings moves (n + 1) =
      (line.move settings (moves 0)).2.after settings (fun k => moves (k + 1)) n := by
  induction n with
  | zero => rfl
  | succ n ih => rw [after, ih]; rfl

theorem after_idle (settings : Nat → Settings) (line : Timeline α) (n : Nat) :
    line.after settings (fun _ => .idle) n = line := by
  induction n with
  | zero => rfl
  | succ n ih => rw [after, ih]; rfl

/-- The earliest access is one that the task at the place plans. -/
theorem next?_of_earliest? {ps : List (Progress α)} {first i time : Nat}
    (h : earliest? first ps = some (i, time)) :
    ∃ k p, i = first + k ∧ ps[k]? = some p ∧ p.next? = some time := by
  induction ps generalizing first with
  | nil => cases h
  | cons p ps ih =>
    -- either the head is the earliest, or what is found in the rest
    have hcases : (i = first ∧ p.next? = some time) ∨
        earliest? (first + 1) ps = some (i, time) := by
      rw [earliest?] at h
      split at h
      · exact .inr h
      · next hnext _ => cases h; exact .inl ⟨rfl, hnext⟩
      · next hnext hrest =>
        split at h
        · cases h; exact .inr hrest
        · cases h; exact .inl ⟨rfl, hnext⟩
    rcases hcases with ⟨rfl, hnext⟩ | hrest
    · exact ⟨0, p, rfl, rfl, hnext⟩
    · obtain ⟨k, q, rfl, hq, hnext⟩ := ih hrest
      exact ⟨k + 1, q, by omega, by simpa using hq, hnext⟩

/-- **The scheduler's run is an interleaving**, in which every task has the
same settings. -/
theorem exists_moves_advance (settings : Settings) (limit fuel : Nat) (line : Timeline α) :
    ∃ moves, advance settings limit fuel line = line.after (fun _ => settings) moves fuel := by
  induction fuel generalizing line with
  | zero => exact ⟨fun _ => .idle, rfl⟩
  | succ fuel ih =>
    rw [advance]
    cases he : earliest? 0 line.tasks with
    | none => exact ⟨fun _ => .idle, (after_idle _ _ _).symm⟩
    | some found =>
      obtain ⟨i, time⟩ := found
      obtain ⟨k, p, hk, hp, hnext⟩ := next?_of_earliest? he
      rw [Nat.zero_add] at hk
      subst hk
      by_cases hlimit : limit < time
      · exact ⟨fun _ => .idle, by simp only [hlimit, if_true, after_idle]⟩
      · obtain ⟨moves, hmoves⟩ := ih ⟨line.tasks.set i (p.step settings line.store).1,
          (p.step settings line.store).2⟩
        refine ⟨fun | 0 => .proceed i time | n + 1 => moves n, ?_⟩
        rw [after_succ, move_proceed _ hp, Progress.retimed_of_next? hnext]
        simp only [hlimit, if_false, hp]
        exact hmoves

end Timeline

end Correlation
end Scenario
