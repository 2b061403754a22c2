import Scenario.Proofs.Correlation.Scheduling

/-!
# Isolation — tasks on different keys do not disturb each other

Of a store without a limit a task sees the value under its own key only
(`Progress.step_congr`), and it changes no other (`Progress.value?_step_of_ne`).
So the run of some tasks can be set beside the run of those on one key: a turn
of a task on the key is made in both, any other turn in the first one only
(`Alike.turn`). The runs end at different horizons, but nothing happens
between them (`Timeline.run_of_horizon_le`).
-/

namespace Scenario
namespace Correlation

open Config (Settings)

variable {α : Type} (settings : Settings)

/-! ## What a step sees and changes -/

namespace Progress

/-- The key of a task that is not over. -/
def key? : Progress α → Option String
  | planned _ action => some action.key
  | waiting _ w => some w.key
  | finished _ _ => none

/-- A check depends on the value under the key it looks up. -/
theorem check_fst_congr {w : Waiter} {s t : Store α} (h : s.value? w.key = t.value? w.key)
    (poll now : Nat) : (check poll now w s).1 = (check poll now w t).1 := by
  unfold check Waiter.attempt
  rw [Store.remove_eq, Store.remove_eq, h]
  cases t.value? w.key with
  | some value => rfl
  | none =>
    cases w.deadline with
    | none => rfl
    | some deadline =>
      by_cases hle : deadline ≤ now
      · simp only [if_pos hle]
      · simp only [if_neg hle]

theorem check_snd (poll now : Nat) (w : Waiter) (s : Store α) :
    (check poll now w s).2 = s.erase w.key :=
  (check_eq poll now w s).2

/-- A check keeps looking the same key up. -/
theorem key?_check {poll now : Nat} {w : Waiter} {s : Store α} {key : String}
    (h : (check poll now w s).1.key? = some key) : key = w.key := by
  have hchecked := checked_check poll now w s
  generalize check poll now w s = out at hchecked h
  cases hchecked with
  | found _ => cases h
  | expired _ _ _ => cases h
  | again _ _ _ => cases h; rfl
  | onward _ _ => cases h; rfl

/-- **A step keeps to the key of its task.** -/
theorem key?_step {settings : Settings} {p : Progress α} {s : Store α} {key : String}
    (h : (p.step settings s).1.key? = some key) : p.key? = some key := by
  cases p with
  | planned now action =>
    cases action with
    | store _ _ => cases h
    | find other patience => rw [key?_check h, Waiter.key_start]; rfl
    | findDefault other => rw [key?_check h, Waiter.key_start]; rfl
    | tryFind _ => cases h
    | contains _ => cases h
  | waiting now w => rw [key?_check h]; rfl
  | finished now outcome => cases h

/-- **What a step does to the store**: nothing, or it stores a value, or it
takes the one under the key of its task out. -/
theorem store_step (p : Progress α) (s : Store α) :
    (p.step settings s).2 = s ∨ ∃ key, p.key? = some key ∧
      ((∃ now value, (p.step settings s).2 = s.add now key value) ∨
        (p.step settings s).2 = s.erase key) := by
  cases p with
  | planned now action =>
    cases action with
    | store key value => exact .inr ⟨key, rfl, .inl ⟨now, value, rfl⟩⟩
    | find key patience =>
      refine .inr ⟨key, rfl, .inr ?_⟩
      rw [step, check_snd, Waiter.key_start]
    | findDefault key =>
      refine .inr ⟨key, rfl, .inr ?_⟩
      rw [step, check_snd, Waiter.key_start]
    | tryFind key => exact .inr ⟨key, rfl, .inr rfl⟩
    | contains key => exact .inl rfl
  | waiting now w => exact .inr ⟨w.key, rfl, .inr (check_snd _ _ _ _)⟩
  | finished now outcome => exact .inl rfl

/-- A step sets no limit. -/
theorem capacity_step {s : Store α} (h : s.capacity = none) (p : Progress α) :
    (p.step settings s).2.capacity = none := by
  rcases store_step settings p s with hs | ⟨key, -, ⟨now, value, hs⟩ | hs⟩
  · rw [hs, h]
  · rw [hs, Store.add, Store.makeRoom_of_unlimited h]
    exact h
  · rw [hs]
    exact h

/-- **A step leaves the values under other keys**, if the store has no
limit. -/
theorem value?_step_of_ne {s : Store α} (h : s.capacity = none) {p : Progress α} {key : String}
    (hp : p.key? ≠ some key) : (p.step settings s).2.value? key = s.value? key := by
  rcases store_step settings p s with hs | ⟨other, hother, ⟨now, value, hs⟩ | hs⟩
  · rw [hs]
  · have hne : other ≠ key := by rintro rfl; exact hp hother
    rw [hs, Store.value?_add_of_ne h hne]
  · have hne : other ≠ key := by rintro rfl; exact hp hother
    rw [hs, Store.value?_erase_of_ne hne]

/-- **Two stores with the same value under a key are the same to a task on
it.** -/
theorem step_congr {s t : Store α} {key : String} (h : s.value? key = t.value? key)
    {p : Progress α} (hp : ∀ k, p.key? = some k → k = key) :
    (p.step settings s).1 = (p.step settings t).1 ∧
      (p.step settings s).2.value? key = (p.step settings t).2.value? key := by
  have hcheck : ∀ (now : Nat) (w : Waiter), w.key = key →
      (check settings.pollInterval now w s).1 = (check settings.pollInterval now w t).1 ∧
        (check settings.pollInterval now w s).2.value? key =
          (check settings.pollInterval now w t).2.value? key := by
    rintro now w rfl
    refine ⟨check_fst_congr h _ _, ?_⟩
    rw [check_snd, check_snd, Store.value?_erase_self, Store.value?_erase_self]
  cases p with
  | planned now action =>
    obtain rfl : action.key = key := hp _ rfl
    cases action with
    | store key value =>
      refine ⟨rfl, ?_⟩
      rw [step, step, Action.key, Store.value?_add_self, Store.value?_add_self]
    | find key patience => exact hcheck now _ (Waiter.key_start _ _ _)
    | findDefault key => exact hcheck now _ (Waiter.key_start _ _ _)
    | tryFind key =>
      refine ⟨congrArg (fun value => finished now (.tried value)) h, ?_⟩
      exact (Store.value?_erase_self s key).trans (Store.value?_erase_self t key).symm
    | contains key =>
      rw [Action.key] at h
      refine ⟨?_, h⟩
      rw [step, step, Store.contains_eq_isSome, Store.contains_eq_isSome, h]
  | waiting now w => exact hcheck now w (hp _ rfl)
  | finished now outcome => exact ⟨rfl, h⟩

end Progress

/-! ## Two runs side by side -/

namespace Timeline

/-- **A run of some tasks beside a run of those on one key.** The rows are
the tasks of the first, each with its key. -/
structure Alike (key : String) (rows : List (String × Progress α)) (whole alone : Timeline α) :
    Prop where
  /-- The rows are all tasks. -/
  tasks : whole.tasks = rows.map Prod.snd
  /-- And those with the key are the tasks on it. -/
  onKey : alone.tasks = (rows.filter fun row => row.1 == key).map Prod.snd
  /-- Each task keeps to its key. -/
  keeps : ∀ row ∈ rows, ∀ k, row.2.key? = some k → k = row.1
  /-- The stores have no limit. -/
  unlimited : whole.store.capacity = none ∧ alone.store.capacity = none
  /-- They have the same value under the key. -/
  value : whole.store.value? key = alone.store.value? key

variable {key : String} {rows : List (String × Progress α)} {whole alone next last : Timeline α}
variable {settings : Settings} {limit : Nat}

theorem Alike.quiet (h : Alike key rows whole alone) (hquiet : whole.Quiet limit) :
    alone.Quiet limit := by
  intro p hp
  rw [h.onKey] at hp
  obtain ⟨row, hrow, rfl⟩ := List.mem_map.mp hp
  refine hquiet _ ?_
  rw [h.tasks]
  exact List.mem_map_of_mem (List.mem_filter.mp hrow).1

/-- **A turn of the one run is a turn of the other, or leaves it alone.** -/
theorem Alike.turn (h : Alike key rows whole alone) (hturn : Turn settings limit whole next) :
    ∃ rows', rows'.map Prod.fst = rows.map Prod.fst ∧
      (Alike key rows' next alone ∨
        ∃ next', Turn settings limit alone next' ∧ Alike key rows' next next') := by
  obtain @⟨before, after, p, time, s, hp, hle, hbefore, hafter⟩ := hturn
  obtain ⟨htasks, honKey, hkeeps, ⟨hs, halone⟩, hvalue⟩ := h
  dsimp only at htasks hs hvalue
  obtain ⟨front, tail, rfl, rfl, htail⟩ := List.map_eq_append_iff.mp htasks.symm
  obtain ⟨⟨k, p⟩, back, rfl, rfl, rfl⟩ := List.map_eq_cons_iff.mp htail
  simp only [List.forall_mem_append, List.forall_mem_cons] at hkeeps
  obtain ⟨hfront, hk, hback⟩ := hkeeps
  refine ⟨front ++ (k, (p.step settings s).1) :: back, by simp, ?_⟩
  have hkeeps' : ∀ row ∈ front ++ (k, (p.step settings s).1) :: back, ∀ k,
      row.2.key? = some k → k = row.1 := by
    simp only [List.forall_mem_append, List.forall_mem_cons]
    exact ⟨hfront, fun _ hkey => hk _ (Progress.key?_step hkey), hback⟩
  have hs' : (p.step settings s).2.capacity = none := Progress.capacity_step settings hs p
  by_cases hkey : k = key
  · -- the task is on the key: it makes the same step in the other run
    subst hkey
    obtain ⟨tasks, t⟩ := alone
    dsimp only at honKey halone hvalue
    obtain ⟨hstep, hvalue'⟩ := Progress.step_congr settings hvalue hk
    obtain rfl : tasks = (front.filter fun row => row.1 == k).map Prod.snd ++
        p :: (back.filter fun row => row.1 == k).map Prod.snd := by
      rw [honKey, List.filter_append, List.filter_cons_of_pos (by simp), List.map_append,
        List.map_cons]
    refine .inr ⟨_, .access hp hle (fun q hq => ?_) (fun q hq => ?_), ?_⟩
    · exact hbefore q (List.map_subset _ List.filter_sublist.subset hq)
    · exact hafter q (List.map_subset _ List.filter_sublist.subset hq)
    · refine ⟨by simp, ?_, hkeeps', ⟨hs', Progress.capacity_step settings halone p⟩, hvalue'⟩
      simp [List.filter_append, hstep]
  · -- the task is on another key: the other run waits
    have hne : p.key? ≠ some key := fun hpkey => hkey (hk _ hpkey).symm
    refine .inl ⟨by simp, ?_, hkeeps', ⟨hs', halone⟩, ?_⟩
    · rw [honKey]
      simp [List.filter_append, hkey]
    · rw [Progress.value?_step_of_ne settings hs hne]
      exact hvalue

/-- **So the runs arrive side by side.** -/
theorem Alike.arrives (h : Alike key rows whole alone)
    (harrives : Arrives settings limit whole last) :
    ∃ rows' last', rows'.map Prod.fst = rows.map Prod.fst ∧
      Arrives settings limit alone last' ∧ Alike key rows' last last' := by
  induction harrives generalizing rows alone with
  | quiet hquiet => exact ⟨rows, alone, rfl, .quiet (h.quiet hquiet), h⟩
  | turn hturn _ ih =>
    obtain ⟨rows', hrows, halike | ⟨next', hturn', halike⟩⟩ := h.turn hturn
    · obtain ⟨rows'', last', hrows', harrives, hlast⟩ := ih halike
      exact ⟨rows'', last', hrows'.trans hrows, harrives, hlast⟩
    · obtain ⟨rows'', last', hrows', harrives, hlast⟩ := ih halike
      exact ⟨rows'', last', hrows'.trans hrows, .turn hturn' harrives, hlast⟩

theorem alike_start (key : String) (tasks : List (Task α)) :
    Alike key (tasks.map fun task => (task.action.key, .ofTask task))
      ⟨tasks.map .ofTask, .empty none⟩
      ⟨(tasks.filter fun task => task.action.key == key).map .ofTask, .empty none⟩ where
  tasks := by simp
  onKey := by simp [List.filter_map, Function.comp_def]
  keeps := by
    intro row hrow k hk
    obtain ⟨task, -, rfl⟩ := List.mem_map.mp hrow
    exact (Option.some.inj hk).symm
  unlimited := ⟨rfl, rfl⟩
  value := rfl

end Timeline

/-- **Keys do not interfere in a store without a limit.** Some tasks run on
such a store, and so do those of them alone that are on one key. Then every
task on the key finishes at the same time in both runs and comes to the same
result, or finishes in neither, and in the end the key is still stored in
both or in neither. -/
theorem run_isolates_keys (settings : Settings) (tasks : List (Task α)) (key : String) :
    let whole := Timeline.run settings (.empty none) tasks
    let alone := Timeline.run settings (.empty none)
      (tasks.filter fun task => task.action.key == key)
    whole.tasks.length = tasks.length ∧
      (((tasks.zip whole.tasks).filter fun row => row.1.action.key == key).map fun row =>
        row.2.result?) = alone.tasks.map Progress.result? ∧
      whole.store.contains key = alone.store.contains key := by
  intro whole alone
  have hrun : Timeline.Arrives settings (Timeline.horizon settings tasks)
      ⟨tasks.map .ofTask, .empty none⟩ whole := Timeline.arrives_run ..
  obtain ⟨rows, last, hkeys, harrives, halike⟩ := (Timeline.alike_start key tasks).arrives hrun
  -- the second run ends before the horizon of the first, but nothing happens in between
  obtain ⟨hstore, hresults⟩ := Timeline.run_of_horizon_le
    (Timeline.horizon_mono List.filter_sublist.subset) harrives
  have hrows : (tasks.map fun task => task.action.key).zip whole.tasks = rows := by
    have hfst : (tasks.map fun task => task.action.key) = rows.map Prod.fst := by
      rw [hkeys, List.map_map]
      rfl
    rw [hfst, halike.tasks]
    exact (List.zip_of_prod rfl rfl).symm
  refine ⟨?_, ?_, ?_⟩
  · have hlen := congrArg List.length hkeys
    rw [halike.tasks]
    simpa using hlen
  · rw [← hresults, halike.onKey, ← hrows, List.zip_map_left, List.filter_map]
    simp [Function.comp_def]
  · rw [Store.contains_eq_isSome, Store.contains_eq_isSome, halike.value, hstore]

end Correlation
end Scenario
