import Mathlib.Algebra.Order.BigOperators.Group.List
import Mathlib.Algebra.Order.Group.Nat
import Mathlib.Algebra.Order.Ring.Nat
import Scenario.Proofs.Correlation.Clock

/-!
# Scheduling — a run as a sequence of turns

`advance` makes the earliest planned access again and again, as long as it is
not later than a limit and fuel is left. A `Turn` is one such access, and
`Arrives` is the whole run without fuel: turns until no access up to the limit
is left (`Quiet`). Every turn uses up some of the time that its task has left
(`work_lt_of_turn`), so the fuel of a run suffices (`arrives_run`), and it
arrives in one place only (`Arrives.unique`).

The horizon is where a run may stop. What has a deadline is over by then, and
a look-up without one has checked in vain since the last value was stored
(`Idle`), so from there on a run changes neither the store nor the outcome of
any task, however far it is carried (`run_of_horizon_le`).
-/

namespace Scenario
namespace Correlation

open Config (Settings)

variable {α : Type} {settings : Settings}

/-! ## One check of a look-up -/

/-- **What a check comes to**: the value under the key, the end of the
look-up, or another check. -/
inductive Progress.Checked (poll now : Nat) (w : Waiter) (s : Store α) :
    Progress α × Store α → Prop
  /-- The value is there, and taken. -/
  | found {value : α} : s.value? w.key = some value →
      Checked poll now w s (.finished now (.found value), s.erase w.key)
  /-- The deadline has come. -/
  | expired {deadline : Nat} : s.value? w.key = none → w.deadline = some deadline →
      deadline ≤ now → Checked poll now w s (.finished now (.failed w.error), s)
  /-- The deadline is still to come. -/
  | again {deadline : Nat} : s.value? w.key = none → w.deadline = some deadline →
      now < deadline → Checked poll now w s (.waiting (now + min poll (deadline - now)) w, s)
  /-- There is no deadline. -/
  | onward : s.value? w.key = none → w.deadline = none →
      Checked poll now w s (.waiting (now + poll) w, s)

theorem Progress.checked_check (poll now : Nat) (w : Waiter) (s : Store α) :
    Checked poll now w s (check poll now w s) := by
  unfold check Waiter.attempt
  rw [Store.remove_eq]
  cases hvalue : s.value? w.key with
  | some value => exact .found hvalue
  | none =>
    rw [Store.erase_eq_self hvalue]
    cases hdeadline : w.deadline with
    | none => exact .onward hvalue hdeadline
    | some deadline =>
      by_cases hle : deadline ≤ now
      · simp only [if_pos hle]
        exact .expired hvalue hdeadline hle
      · simp only [if_neg hle]
        exact .again hvalue hdeadline (Nat.lt_of_not_le hle)

namespace Timeline

/-! ## Turns -/

/-- **One turn of the scheduler**: of the accesses planned up to the limit
the earliest is made, of several at one time that of the first task. -/
inductive Turn (settings : Settings) (limit : Nat) : Timeline α → Timeline α → Prop
  | access {before after : List (Progress α)} {p : Progress α} {time : Nat} {s : Store α} :
      p.next? = some time → time ≤ limit →
      (∀ q ∈ before, ∀ u, q.next? = some u → time < u) →
      (∀ q ∈ after, ∀ u, q.next? = some u → time ≤ u) →
      Turn settings limit ⟨before ++ p :: after, s⟩
        ⟨before ++ (p.step settings s).1 :: after, (p.step settings s).2⟩

/-- No access up to the limit is left. -/
def Quiet (limit : Nat) (line : Timeline α) : Prop :=
  ∀ p ∈ line.tasks, ∀ u, p.next? = some u → limit < u

/-- **A run up to a limit**: turns until it is quiet. -/
inductive Arrives (settings : Settings) (limit : Nat) : Timeline α → Timeline α → Prop
  /-- Nothing is left to do. -/
  | quiet {line : Timeline α} : line.Quiet limit → Arrives settings limit line line
  /-- One turn, and a run after it. -/
  | turn {line next last : Timeline α} :
      Turn settings limit line next → Arrives settings limit next last →
      Arrives settings limit line last

variable {limit : Nat} {line next last : Timeline α}

/-- Where an access stands that is earlier than all before it, and no later
than any after it. -/
theorem earliest?_append {before after : List (Progress α)} {p : Progress α} {time : Nat}
    (hp : p.next? = some time) (hbefore : ∀ q ∈ before, ∀ u, q.next? = some u → time < u)
    (hafter : ∀ q ∈ after, ∀ u, q.next? = some u → time ≤ u) (first : Nat) :
    earliest? first (before ++ p :: after) = some (first + before.length, time) := by
  induction before generalizing first with
  | nil =>
    rw [List.nil_append, earliest?, hp]
    cases he : earliest? (first + 1) after with
    | none => rfl
    | some found =>
      obtain ⟨j, u⟩ := found
      obtain ⟨k, q, -, hq, hu⟩ := next?_of_earliest? he
      have hle : ¬ u < time := Nat.not_lt.mpr (hafter q (List.mem_of_getElem? hq) u hu)
      simp only [hle, if_false]
      rfl
  | cons q before ih =>
    have hrest := ih (fun r hr => hbefore r (List.mem_cons_of_mem _ hr)) (first + 1)
    have hlen : first + 1 + before.length = first + (before.length + 1) := by omega
    rw [List.cons_append, earliest?, hrest, List.length_cons, hlen]
    cases hq : q.next? with
    | none => rfl
    | some u => simp only [hbefore q List.mem_cons_self u hq, if_true]

/-- And the earliest access stands there. -/
theorem exists_of_earliest? {ps : List (Progress α)} {first i time : Nat}
    (h : earliest? first ps = some (i, time)) :
    ∃ before p after, ps = before ++ p :: after ∧ p.next? = some time ∧
      (∀ q ∈ before, ∀ u, q.next? = some u → time < u) ∧
      ∀ q ∈ after, ∀ u, q.next? = some u → time ≤ u := by
  induction ps generalizing first with
  | nil => cases h
  | cons p ps ih =>
    have hall := le_of_earliest? h
    -- either the head is the earliest, or a later one in the rest
    have hcases : p.next? = some time ∨ (∀ u, p.next? = some u → time < u) ∧
        earliest? (first + 1) ps = some (i, time) := by
      rw [earliest?] at h
      split at h
      · next hnone =>
        refine .inr ⟨fun u hu => ?_, h⟩
        rw [hnone] at hu
        cases hu
      · next hsome _ => cases h; exact .inl hsome
      · next t _ u hsome hrest =>
        split at h
        · next hlt =>
          cases h
          refine .inr ⟨fun v hv => ?_, hrest⟩
          obtain rfl : t = v := Option.some.inj (hsome.symm.trans hv)
          exact hlt
        · cases h; exact .inl hsome
    rcases hcases with hp | ⟨hlater, hrest⟩
    · exact ⟨[], p, ps, rfl, hp, fun _ hq => absurd hq List.not_mem_nil,
        fun q hq => hall q (List.mem_cons_of_mem _ hq)⟩
    · obtain ⟨before, q, after, rfl, hq, hbefore, hafter⟩ := ih hrest
      exact ⟨p :: before, q, after, rfl, hq, List.forall_mem_cons.mpr ⟨hlater, hbefore⟩, hafter⟩

/-- **There is a turn unless all is quiet.** -/
theorem quiet_or_turn (settings : Settings) (limit : Nat) (line : Timeline α) :
    line.Quiet limit ∨ ∃ next, Turn settings limit line next := by
  obtain ⟨tasks, store⟩ := line
  cases he : earliest? 0 tasks with
  | none =>
    refine .inl fun p hp u hu => ?_
    rw [next?_of_earliest?_eq_none he p hp] at hu
    cases hu
  | some found =>
    obtain ⟨i, time⟩ := found
    by_cases hlimit : limit < time
    · exact .inl fun p hp u hu => Nat.lt_of_lt_of_le hlimit (le_of_earliest? he p hp u hu)
    · obtain ⟨before, p, after, rfl, hp, hbefore, hafter⟩ := exists_of_earliest? he
      exact .inr ⟨_, .access hp (Nat.le_of_not_lt hlimit) hbefore hafter⟩

theorem advance_of_quiet (h : line.Quiet limit) (fuel : Nat) :
    advance settings limit fuel line = line := by
  cases fuel with
  | zero => rfl
  | succ fuel =>
    rw [advance]
    cases he : earliest? 0 line.tasks with
    | none => rfl
    | some found =>
      obtain ⟨i, time⟩ := found
      obtain ⟨k, p, -, hp, hnext⟩ := next?_of_earliest? he
      simp only [h p (List.mem_of_getElem? hp) time hnext, if_true]

theorem advance_of_turn (h : Turn settings limit line next) (fuel : Nat) :
    advance settings limit (fuel + 1) line = advance settings limit fuel next := by
  obtain ⟨hp, hle, hbefore, hafter⟩ := h
  rw [advance, earliest?_append hp hbefore hafter, Nat.zero_add]
  simp only [Nat.not_lt.mpr hle, if_false, List.getElem?_append_right (Nat.le_refl _), Nat.sub_self,
    List.getElem?_cons_zero, List.set_append_right _ _ (Nat.le_refl _), List.set_cons_zero]

end Timeline

/-! ## Fuel -/

/-- The milliseconds that a task has left for its accesses up to a limit. -/
def Progress.left (limit : Nat) (p : Progress α) : Nat :=
  match p.next? with
  | some time => limit + 1 - time
  | none => 0

theorem Progress.left_le (limit : Nat) (p : Progress α) : p.left limit ≤ limit + 1 := by
  unfold left
  split
  · exact Nat.sub_le _ _
  · exact Nat.zero_le _

/-- An access uses some of them up. -/
theorem Progress.left_step_lt {p : Progress α} {limit time : Nat} (hp : p.next? = some time)
    (hle : time ≤ limit) (settings : Settings) (s : Store α) :
    (p.step settings s).1.left limit < p.left limit := by
  have hleft : p.left limit = limit + 1 - time := by rw [left, hp]
  rw [hleft, left]
  cases hu : (p.step settings s).1.next? with
  | none =>
    dsimp only
    omega
  | some u =>
    have hlt := lt_of_next?_step hp hu
    dsimp only
    omega

namespace Timeline

variable {limit : Nat} {line next last : Timeline α}

/-- The milliseconds that all tasks have left. -/
def work (limit : Nat) (line : Timeline α) : Nat := (line.tasks.map (Progress.left limit)).sum

/-- **Every turn leaves less to do.** -/
theorem work_lt_of_turn (h : Turn settings limit line next) : next.work limit < line.work limit := by
  obtain ⟨hp, hle, -, -⟩ := h
  have hlt := Progress.left_step_lt hp hle settings
  simp only [work, List.map_append, List.map_cons, List.sum_append, List.sum_cons]
  exact Nat.add_lt_add_left (Nat.add_lt_add_right (hlt _) _) _

/-- With enough fuel, advancing is running. -/
theorem arrives_advance {fuel : Nat} (h : line.work limit ≤ fuel) :
    Arrives settings limit line (advance settings limit fuel line) := by
  induction fuel generalizing line with
  | zero =>
    rcases quiet_or_turn settings limit line with hquiet | ⟨next, hturn⟩
    · exact .quiet hquiet
    · have := work_lt_of_turn hturn
      omega
  | succ fuel ih =>
    rcases quiet_or_turn settings limit line with hquiet | ⟨next, hturn⟩
    · rw [advance_of_quiet hquiet]
      exact .quiet hquiet
    · have := work_lt_of_turn hturn
      rw [advance_of_turn hturn]
      exact .turn hturn (ih (by omega))

/-- And every run is advancing. -/
theorem Arrives.advance_eq (h : Arrives settings limit line last) {fuel : Nat}
    (hfuel : line.work limit ≤ fuel) : advance settings limit fuel line = last := by
  induction h generalizing fuel with
  | quiet hquiet => exact advance_of_quiet hquiet fuel
  | turn hturn _ ih =>
    have := work_lt_of_turn hturn
    obtain ⟨fuel, rfl⟩ := Nat.exists_eq_add_one_of_ne_zero (n := fuel) (by omega)
    rw [advance_of_turn hturn]
    exact ih (by omega)

/-- **There is one place to arrive in.** -/
theorem Arrives.unique {other : Timeline α} (h : Arrives settings limit line last)
    (h' : Arrives settings limit line other) : last = other :=
  (h.advance_eq (Nat.le_refl _)).symm.trans (h'.advance_eq (Nat.le_refl _))

theorem exists_arrives (settings : Settings) (limit : Nat) (line : Timeline α) :
    ∃ last, Arrives settings limit line last :=
  ⟨_, arrives_advance (Nat.le_refl _)⟩

/-- There it is quiet. -/
theorem Arrives.quiet_last (h : Arrives settings limit line last) : last.Quiet limit := by
  induction h with
  | quiet hquiet => exact hquiet
  | turn _ _ ih => exact ih

/-- **A run may stop on its way** and be carried on to a later limit. -/
theorem Arrives.trans {mid : Timeline α} {limit' : Nat} (h : Arrives settings limit line mid)
    (hle : limit ≤ limit') (h' : Arrives settings limit' mid last) :
    Arrives settings limit' line last := by
  induction h with
  | quiet _ => exact h'
  | turn hturn _ ih =>
    obtain ⟨hp, htime, hbefore, hafter⟩ := hturn
    exact .turn (.access hp (Nat.le_trans htime hle) hbefore hafter) (ih h')

/-- **The fuel of a run suffices.** -/
theorem arrives_run (settings : Settings) (store : Store α) (tasks : List (Task α)) :
    Arrives settings (horizon settings tasks) ⟨tasks.map .ofTask, store⟩
      (run settings store tasks) := by
  refine arrives_advance ?_
  have hle : ∀ n ∈ (tasks.map Progress.ofTask).map (Progress.left (horizon settings tasks)),
      n ≤ horizon settings tasks + 1 := by
    intro n hn
    obtain ⟨p, -, rfl⟩ := List.mem_map.mp hn
    exact p.left_le _
  have hsum := List.sum_le_card_nsmul _ _ hle
  simpa [work] using hsum

end Timeline

/-! ## The horizon -/

/-- When a task finished, and what came of it. -/
def Progress.result? : Progress α → Option (Nat × Outcome α)
  | finished time outcome => some (time, outcome)
  | _ => none

/-- **A task that has at most an interval to go from a time on**, unless
nothing under its key is stored any more: what has a deadline is over by that
time. -/
inductive Progress.DueBy (settings : Settings) (bound : Nat) : Progress α → Prop
  /-- It has not started. -/
  | planned {start : Nat} {action : Action α} : Task.bound settings ⟨start, action⟩ ≤ bound →
      DueBy settings bound (.planned start action)
  /-- It waits, and has a deadline. -/
  | timed {time deadline : Nat} {w : Waiter} : w.deadline = some deadline → time ≤ deadline →
      deadline ≤ bound → DueBy settings bound (.waiting time w)
  /-- It waits without a deadline. -/
  | endless {time : Nat} {w : Waiter} : w.deadline = none →
      time ≤ bound + settings.pollInterval → DueBy settings bound (.waiting time w)
  /-- It has finished. -/
  | finished {time : Nat} {outcome : Outcome α} : DueBy settings bound (.finished time outcome)

theorem Task.start_le_bound (settings : Settings) (task : Task α) :
    task.start ≤ task.bound settings := by
  unfold bound
  split <;> omega

theorem Progress.dueBy_check {bound now : Nat} {w : Waiter}
    (hdeadline : ∀ d, w.deadline = some d → d ≤ bound) (hnow : now ≤ bound) (s : Store α) :
    (check settings.pollInterval now w s).1.DueBy settings bound := by
  have hchecked := checked_check settings.pollInterval now w s
  generalize check settings.pollInterval now w s = out at hchecked ⊢
  cases hchecked with
  | found _ => exact .finished
  | expired _ _ _ => exact .finished
  | again _ hd hlt => exact .timed hd (by omega) (hdeadline _ hd)
  | onward _ hd => exact .endless hd (by omega)

/-- An access by the time leaves it so. -/
theorem Progress.DueBy.step {bound time : Nat} {p : Progress α} (h : p.DueBy settings bound)
    (hp : p.next? = some time) (hle : time ≤ bound) (s : Store α) :
    (p.step settings s).1.DueBy settings bound := by
  cases h with
  | @planned start action hbound =>
    cases hp
    cases action with
    | store key value => exact .finished
    | tryFind key => exact .finished
    | contains key => exact .finished
    | findDefault key =>
      refine dueBy_check (fun d hd => ?_) hle s
      cases hd
      exact hbound
    | find key patience =>
      refine dueBy_check (fun d hd => ?_) hle s
      cases patience with
      | upTo ms =>
        cases hd
        exact hbound
      | endless => cases hd
  | timed hd _ hbound =>
    cases hp
    refine dueBy_check (fun d hd' => ?_) hle s
    rw [hd] at hd'
    cases hd'
    exact hbound
  | endless hd _ =>
    cases hp
    refine dueBy_check (fun d hd' => ?_) hle s
    rw [hd] at hd'
    cases hd'
  | finished => cases hp

/-- Without a deadline a check finds the value, or leaves all as it is. -/
theorem Progress.step_endless (settings : Settings) {w : Waiter} (hd : w.deadline = none)
    (now : Nat) (s : Store α) :
    (∃ value, s.value? w.key = some value ∧
        (waiting now w).step settings s = (finished now (.found value), s.erase w.key)) ∨
      s.value? w.key = none ∧
        (waiting now w).step settings s = (waiting (now + settings.pollInterval) w, s) := by
  have hchecked := checked_check settings.pollInterval now w s
  rw [step]
  generalize check settings.pollInterval now w s = out at hchecked ⊢
  cases hchecked with
  | found hvalue => exact .inl ⟨_, hvalue, rfl⟩
  | expired _ hd' _ => rw [hd] at hd'; cases hd'
  | again _ hd' _ => rw [hd] at hd'; cases hd'
  | onward hnone _ => exact .inr ⟨hnone, rfl⟩

/-- **A task is over, or looks a value up without a deadline**; and if it
checks next after a time, there is none. -/
def Progress.Idle (time : Nat) (s : Store α) (p : Progress α) : Prop :=
  ∀ t, p.next? = some t → ∃ w, p = .waiting t w ∧ w.deadline = none ∧
    (time < t → s.value? w.key = none)

theorem Progress.Idle.erase {time : Nat} {s : Store α} {p : Progress α} (h : p.Idle time s)
    (key : String) : p.Idle time (s.erase key) := by
  intro t ht
  obtain ⟨w, hp, hd, hnone⟩ := h t ht
  exact ⟨w, hp, hd, fun hlt => Store.value?_erase_eq_none (hnone hlt) key⟩

namespace Timeline

variable {bound limit time : Nat} {line next last : Timeline α}

/-- All tasks are idle. -/
def Idle (time : Nat) (line : Timeline α) : Prop := ∀ p ∈ line.tasks, p.Idle time line.store

/-- **By the time everything with an end is over**, and what is left checks
once more within a poll interval. -/
theorem idle_of_arrives (hdue : ∀ p ∈ line.tasks, p.DueBy settings bound)
    (h : Arrives settings bound line last) : last.Idle (bound + settings.pollInterval) := by
  induction h with
  | quiet hquiet =>
    intro p hp t ht
    have hlate := hquiet p hp t ht
    have hpdue := hdue p hp
    cases hpdue with
    | @planned start action hbound =>
      cases ht
      exact absurd (Nat.le_trans (Task.start_le_bound settings _) hbound) (Nat.not_le_of_lt hlate)
    | timed _ _ _ => cases ht; omega
    | endless hd hle => cases ht; exact ⟨_, rfl, hd, fun hlt => absurd hle (Nat.not_le_of_lt hlt)⟩
    | finished => cases ht
  | turn hturn _ ih =>
    refine ih ?_
    obtain ⟨hp, hle, -, -⟩ := hturn
    simp only [List.forall_mem_append, List.forall_mem_cons] at hdue ⊢
    obtain ⟨hbefore, hpdue, hafter⟩ := hdue
    exact ⟨hbefore, hpdue.step hp hle _, hafter⟩

/-- **It stays so**: a turn takes at most what a look-up has waited for. -/
theorem Idle.turn (h : line.Idle time) (hturn : Turn settings limit line next) :
    next.Idle time := by
  obtain @⟨before, after, p, now, s, hp, -, -, -⟩ := hturn
  simp only [Idle, List.forall_mem_append, List.forall_mem_cons] at h ⊢
  obtain ⟨hbefore, hpidle, hafter⟩ := h
  obtain ⟨w, rfl, hd, -⟩ := hpidle now hp
  rcases Progress.step_endless settings hd now s with
    ⟨value, -, hstep⟩ | ⟨hnone, hstep⟩
  · rw [hstep]
    exact ⟨fun q hq => (hbefore q hq).erase w.key, fun _ ht => (nomatch ht),
      fun q hq => (hafter q hq).erase w.key⟩
  · rw [hstep]
    refine ⟨hbefore, fun t ht => ?_, hafter⟩
    cases ht
    exact ⟨w, rfl, hd, fun _ => hnone⟩

theorem Idle.arrives (h : line.Idle time) (harrives : Arrives settings limit line last) :
    last.Idle time := by
  induction harrives with
  | quiet _ => exact h
  | turn hturn _ ih => exact ih (h.turn hturn)

/-- **And once all that is left has checked, nothing changes any more.** -/
theorem Idle.turn_of_quiet (h : line.Idle time) (hquiet : line.Quiet time)
    (hturn : Turn settings limit line next) :
    next.Quiet time ∧ next.store = line.store ∧
      next.tasks.map Progress.result? = line.tasks.map Progress.result? := by
  obtain @⟨before, after, p, now, s, hp, -, -, -⟩ := hturn
  obtain ⟨w, rfl, hd, hnone⟩ := h p (by simp) now hp
  have hlate : time < now := hquiet _ (by simp) now hp
  rcases Progress.step_endless settings hd now s with
    ⟨value, hvalue, -⟩ | ⟨-, hstep⟩
  · rw [hnone hlate] at hvalue
    cases hvalue
  · rw [hstep]
    refine ⟨?_, rfl, by simp [Progress.result?]⟩
    simp only [Quiet, List.forall_mem_append, List.forall_mem_cons] at hquiet ⊢
    refine ⟨hquiet.1, fun u hu => ?_, hquiet.2.2⟩
    cases hu
    omega

theorem Idle.arrives_of_quiet (h : line.Idle time) (hquiet : line.Quiet time)
    (harrives : Arrives settings limit line last) :
    last.store = line.store ∧
      last.tasks.map Progress.result? = line.tasks.map Progress.result? := by
  induction harrives with
  | quiet _ => exact ⟨rfl, rfl⟩
  | turn hturn _ ih =>
    obtain ⟨hnext, hstore, hresults⟩ := h.turn_of_quiet hquiet hturn
    obtain ⟨hstore', hresults'⟩ := ih (h.turn hturn) hnext
    exact ⟨hstore'.trans hstore, hresults'.trans hresults⟩

/-! ### The bound of some tasks -/

/-- The time by which all tasks with an end are over. -/
def boundOf (settings : Settings) (tasks : List (Task α)) : Nat :=
  (tasks.map (Task.bound settings)).foldl max 0

theorem boundOf_spec (settings : Settings) (tasks : List (Task α)) :
    boundOf settings tasks ∈ 0 :: tasks.map (Task.bound settings) ∧
      ∀ time ∈ 0 :: tasks.map (Task.bound settings), time ≤ boundOf settings tasks :=
  List.max?_eq_some_iff.mp List.max?_cons'

theorem le_boundOf {task : Task α} {tasks : List (Task α)} (h : task ∈ tasks) :
    task.bound settings ≤ boundOf settings tasks := by
  exact (boundOf_spec settings tasks).2 _ (List.mem_cons_of_mem _ (List.mem_map_of_mem h))

/-- Fewer tasks have no later horizon. -/
theorem horizon_mono {tasks others : List (Task α)} (h : others ⊆ tasks) :
    horizon settings others ≤ horizon settings tasks := by
  have hle : boundOf settings others ≤ boundOf settings tasks := by
    rcases List.mem_cons.mp (boundOf_spec settings others).1 with hzero | hmem
    · rw [hzero]
      exact Nat.zero_le _
    · obtain ⟨task, htask, heq⟩ := List.mem_map.mp hmem
      rw [← heq]
      exact le_boundOf (h htask)
  exact Nat.add_le_add_right hle _

/-- **A run carried on beyond its horizon changes nothing more**: neither the
store, nor what came of any task, nor when. -/
theorem run_of_horizon_le {store : Store α} {tasks : List (Task α)}
    (hlimit : horizon settings tasks ≤ limit)
    (h : Arrives settings limit ⟨tasks.map .ofTask, store⟩ last) :
    last.store = (run settings store tasks).store ∧
      last.tasks.map Progress.result? = (run settings store tasks).tasks.map Progress.result? := by
  have hdue : ∀ p ∈ tasks.map Progress.ofTask, p.DueBy settings (boundOf settings tasks) := by
    intro p hp
    obtain ⟨task, htask, rfl⟩ := List.mem_map.mp hp
    exact .planned (le_boundOf htask)
  -- first until everything with an end is over, then one poll interval, then the rest
  obtain ⟨mid, hmid⟩ := exists_arrives settings (boundOf settings tasks)
    ⟨tasks.map .ofTask, store⟩
  obtain ⟨still, hstill⟩ := exists_arrives settings (horizon settings tasks) mid
  obtain ⟨far, hfar⟩ := exists_arrives settings limit still
  have hidle : still.Idle (horizon settings tasks) := (idle_of_arrives hdue hmid).arrives hstill
  have hhorizon := hmid.trans (Nat.le_add_right _ _) hstill
  obtain rfl : run settings store tasks = still := (arrives_run settings store tasks).unique hhorizon
  obtain rfl : last = far := h.unique (hhorizon.trans hlimit hfar)
  exact hidle.arrives_of_quiet hstill.quiet_last hfar

end Timeline

end Correlation
end Scenario
