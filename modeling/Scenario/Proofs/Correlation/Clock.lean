import Scenario.Proofs.Correlation.Interleaving

/-!
# Runs on the virtual clock

On the virtual clock a task accesses the store exactly when it has planned
to. An `Execution` lays such a run out by the millisecond, with one access
in each or none: two tasks never plan the same one, and handles are used
only in between. What is done through handles, and when, is left open.

For one task the run is a sequence of steps: it stays as it is until the
time of its next access (`tasks_of_ne`), and then makes it (`tasks_of_eq`).
Where no handles are used, this is the run the scheduler makes
(`run_eq_line`).
-/

namespace Scenario
namespace Correlation

open Config (Settings)

/-- **A run on the virtual clock**, with at most one access in a
millisecond. -/
structure Execution (settings : Nat → Settings) (α : Type) where
  /-- The timeline at the beginning of a millisecond. -/
  line : Nat → Timeline α
  /-- The move in a millisecond. -/
  access : Nat → Move α
  /-- The move leads to the next millisecond. -/
  step : ∀ t, line (t + 1) = ((line t).move settings (access t)).2
  /-- What a task has planned for a millisecond is the move in it. -/
  planned : ∀ {t i p}, (line t).tasks[i]? = some p → p.next? = some t → access t = .proceed i t
  /-- No task moves that has not planned to. -/
  punctual : ∀ {t i now}, access t = .proceed i now →
    ∃ p, (line t).tasks[i]? = some p ∧ p.next? = some t
  /-- The holders of handles see the same clock. -/
  timely : ∀ {t now a}, access t = .direct now a → now = t

namespace Execution

variable {settings : Nat → Settings} {α : Type} (run : Execution settings α)

/-- The store at the beginning of a millisecond. -/
def store (t : Nat) : Store α := (run.line t).store

/-- In a millisecond the task at a place accesses the store. -/
def Accesses (i t : Nat) : Prop := ∃ now, run.access t = .proceed i now

/-- In a millisecond the task at a place finishes. -/
def Ends (i t : Nat) (outcome : Outcome α) : Prop :=
  (run.line (t + 1)).tasks[i]? = some (.finished t outcome)

variable {run} {i t : Nat} {p : Progress α}

/-- A task accesses the store when it has planned to. -/
theorem accesses_iff (hp : (run.line t).tasks[i]? = some p) :
    run.Accesses i t ↔ p.next? = some t := by
  constructor
  · rintro ⟨now, hmove⟩
    obtain ⟨q, hq, hnext⟩ := run.punctual hmove
    rw [hp] at hq
    cases hq
    exact hnext
  · exact fun hnext => ⟨t, run.planned hp hnext⟩

/-- **Then it makes its step.** -/
theorem tasks_of_eq (hp : (run.line t).tasks[i]? = some p) (hnext : p.next? = some t) :
    (run.line (t + 1)).tasks[i]? = some (p.step (settings i) (run.store t)).1 := by
  have hi : i < (run.line t).tasks.length := (List.getElem?_eq_some_iff.mp hp).1
  rw [run.step, run.planned hp hnext, Timeline.move_proceed settings hp,
    Progress.retimed_of_next? hnext]
  exact List.getElem?_set_self hi

/-- **At any other time it stays as it is**, whatever the others do. -/
theorem tasks_of_ne (hp : (run.line t).tasks[i]? = some p) (hnext : p.next? ≠ some t) :
    (run.line (t + 1)).tasks[i]? = some p := by
  rw [run.step]
  cases hmove : run.access t with
  | idle => exact hp
  | direct now a => exact hp
  | proceed j now =>
    obtain ⟨q, hq, -⟩ := run.punctual hmove
    have hne : j ≠ i := by
      rintro rfl
      exact hnext ((accesses_iff hp).mp ⟨now, hmove⟩)
    rw [Timeline.move_proceed settings hq]
    exact (List.getElem?_set_ne hne).trans hp

end Execution

/-! ## The scheduler keeps to the clock

Without handles, the scheduler arrives where the run on the clock does: it
goes from access to access, and nothing happens in the milliseconds it
leaves out. -/

namespace Timeline

variable {α : Type}

/-- Without an earliest access none is planned. -/
theorem next?_of_earliest?_eq_none {ps : List (Progress α)} {first : Nat}
    (h : earliest? first ps = none) : ∀ p ∈ ps, p.next? = none := by
  induction ps generalizing first with
  | nil => exact fun _ hp => nomatch hp
  | cons p ps ih =>
    rw [earliest?] at h
    intro q hq
    split at h
    · next hnext =>
      rcases List.mem_cons.mp hq with rfl | hq
      · exact hnext
      · exact ih h q hq
    · cases h
    · split at h <;> cases h

/-- And before the earliest one none is. -/
theorem le_of_earliest? {ps : List (Progress α)} {first i time : Nat}
    (h : earliest? first ps = some (i, time)) :
    ∀ p ∈ ps, ∀ u, p.next? = some u → time ≤ u := by
  induction ps generalizing first i time with
  | nil => cases h
  | cons p ps ih =>
    rw [earliest?] at h
    intro q hq u hu
    rcases List.mem_cons.mp hq with rfl | hq
    · -- the first task itself
      rw [hu] at h
      split at h
      · next hnone => cases hnone
      · next hsome _ => cases hsome; cases h; exact Nat.le_refl _
      · next hsome _ =>
        cases hsome
        split at h <;> cases h <;> omega
    · split at h
      · exact ih h q hq u hu
      · next hrest =>
        rw [next?_of_earliest?_eq_none hrest q hq] at hu
        cases hu
      · next hrest =>
        have hle := ih hrest q hq u hu
        split at h <;> cases h <;> omega

end Timeline

/-- A step plans the next access for later. -/
theorem Progress.lt_of_next?_step {α : Type} {settings : Settings} {p : Progress α} {s : Store α}
    {t u : Nat} (hp : p.next? = some t) (hu : (p.step settings s).1.next? = some u) : t < u := by
  have hcheck : ∀ w : Waiter, (Progress.check settings.pollInterval t w s).1.next? = some u →
      t < u := by
    intro w hw
    unfold Progress.check at hw
    cases ha : w.attempt settings.pollInterval t s with
    | mk attempt after =>
      rw [ha] at hw
      cases attempt with
      | found value => cases hw
      | expired error => cases hw
      | sleep wake =>
        cases hw
        exact Waiter.lt_of_attempt_sleep settings.pollInterval_pos ha
  cases p with
  | planned time action =>
    cases hp
    cases action with
    | store key value => cases hu
    | find key patience => exact hcheck _ hu
    | findDefault key => exact hcheck _ hu
    | tryFind key => cases hu
    | contains key => cases hu
  | waiting time w => cases hp; exact hcheck w hu
  | finished time outcome => cases hp

namespace Execution

variable {α : Type} {settings : Settings} (run : Execution (fun _ => settings) α)

/-- **No access is overdue.** -/
theorem le_of_next? {t i u : Nat} {p : Progress α} (hp : (run.line t).tasks[i]? = some p)
    (hnext : p.next? = some u) : t ≤ u := by
  induction t generalizing p u with
  | zero => exact Nat.zero_le u
  | succ t ih =>
    -- the task was there a millisecond ago, and its access was not overdue then
    have hlen : (run.line (t + 1)).tasks.length = (run.line t).tasks.length := by
      rw [run.step, Timeline.length_move]
    have hi : i < (run.line t).tasks.length := by
      rw [← hlen]
      exact (List.getElem?_eq_some_iff.mp hp).1
    have hq := List.getElem?_eq_getElem hi
    by_cases hdue : (run.line t).tasks[i].next? = some t
    · rw [tasks_of_eq hq hdue] at hp
      cases hp
      exact Progress.lt_of_next?_step hdue hnext
    · rw [tasks_of_ne hq hdue] at hp
      cases hp
      have hle := ih hq hnext
      have hne : t ≠ u := fun heq => hdue (heq ▸ hnext)
      omega

/-- **The scheduler arrives where the clock does.** -/
theorem advance_eq_line (hdirect : ∀ t now a, run.access t ≠ .direct now a) {limit fuel t : Nat}
    (ht : t ≤ limit + 1) (hfuel : limit + 1 - t ≤ fuel) :
    (run.line t).advance settings limit fuel = run.line (limit + 1) := by
  obtain ⟨d, hd⟩ := Nat.exists_eq_add_of_le ht
  induction d generalizing t fuel with
  | zero =>
    obtain rfl : limit + 1 = t := hd
    cases fuel with
    | zero => rfl
    | succ fuel =>
      rw [Timeline.advance]
      cases he : Timeline.earliest? 0 (run.line (limit + 1)).tasks with
      | none => rfl
      | some found =>
        -- what is still planned is not overdue, so it is beyond the limit
        obtain ⟨i, u⟩ := found
        obtain ⟨k, p, -, hp, hnext⟩ := Timeline.next?_of_earliest? he
        have hlate : limit < u := le_of_next? run hp hnext
        simp only [if_pos hlate]
  | succ d ih =>
    obtain ⟨fuel, rfl⟩ := Nat.exists_eq_add_one_of_ne_zero (n := fuel) (by omega)
    cases hmove : run.access t with
    | direct now a => exact absurd hmove (hdirect t now a)
    | idle =>
      -- the scheduler passes over the millisecond
      have hline : run.line (t + 1) = run.line t := by rw [run.step, hmove]; rfl
      rw [← hline]
      exact ih (by omega) (by omega) (by omega)
    | proceed i now =>
      obtain ⟨p, hp, hnext⟩ := run.punctual hmove
      -- no other task plans this millisecond, and none an earlier one
      have hearliest : Timeline.earliest? 0 (run.line t).tasks = some (i, t) := by
        cases he : Timeline.earliest? 0 (run.line t).tasks with
        | none =>
          have := Timeline.next?_of_earliest?_eq_none he p (List.mem_of_getElem? hp)
          rw [hnext] at this
          cases this
        | some found =>
          obtain ⟨j, u⟩ := found
          obtain ⟨k, q, hk, hq, hqnext⟩ := Timeline.next?_of_earliest? he
          have hle := Timeline.le_of_earliest? he p (List.mem_of_getElem? hp) t hnext
          obtain rfl := Nat.le_antisymm (le_of_next? run hq hqnext) hle
          have hsame := (run.planned hq hqnext).symm.trans (run.planned hp hnext)
          cases hsame
          rw [hk, Nat.zero_add]
      have hline : run.line (t + 1) = ⟨(run.line t).tasks.set i (p.step settings (run.store t)).1,
          (p.step settings (run.store t)).2⟩ := by
        rw [run.step, run.planned hp hnext, Timeline.move_proceed _ hp,
          Progress.retimed_of_next? hnext]
        rfl
      have hlate : ¬ limit < t := by omega
      rw [Timeline.advance, hearliest]
      simp only [if_neg hlate, hp]
      have hrest : (run.line (t + 1)).advance settings limit fuel = run.line (limit + 1) :=
        ih (by omega) (by omega) (by omega)
      rw [hline] at hrest
      exact hrest

/-- **So what is run is what happens on the clock** up to the horizon. -/
theorem run_eq_line (hdirect : ∀ t now a, run.access t ≠ .direct now a) {store : Store α}
    {tasks : List (Task α)} (hstart : run.line 0 = ⟨tasks.map .ofTask, store⟩) :
    Timeline.run settings store tasks = run.line (Timeline.horizon settings tasks + 1) := by
  rw [Timeline.run, ← hstart]
  cases tasks with
  | nil =>
    -- without tasks there is no fuel, but nothing to do either
    have hrest : (run.line 0).advance settings (Timeline.horizon settings ([] : List (Task α)))
        (Timeline.horizon settings ([] : List (Task α)) + 1) =
          run.line (Timeline.horizon settings ([] : List (Task α)) + 1) :=
      run.advance_eq_line hdirect (Nat.zero_le _) (Nat.le_refl _)
    rw [← hrest, hstart, List.length_nil, Nat.zero_mul]
    rfl
  | cons task tasks =>
    refine run.advance_eq_line hdirect (Nat.zero_le _) ?_
    rw [List.length_cons, Nat.succ_mul]
    omega

end Execution

end Correlation
end Scenario
