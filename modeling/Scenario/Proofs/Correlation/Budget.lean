import Mathlib.Algebra.Order.Floor.Div
import Mathlib.Data.Nat.Count
import Mathlib.Data.Set.Card
import Scenario.Proofs.Correlation.Scheduling

/-!
# Budgets — what a look-up in vain costs

A look-up that finds nothing does not count its checks; what brings it to its end
is the time left, and each sleep takes some of that away. `Progress.awaited` says
where it stands after so many checks: it has slept as many poll intervals, or is
at its deadline. One more check leads to the next such place (`step_awaited`),
whatever else there is in the store.

In a run the moves of other tasks and of the holders of handles stand between
its checks in any order. So where it stands depends on the number of its own
moves only (`LookedUpInVain.stands`), and after one check more than the poll
intervals that its time takes it has none left to plan. `find_budget` counts its
checks and sleeps over the whole run. There is such a run for all settings and
times (`lookedUpInVain_aloneMoves`).
-/

namespace Scenario
namespace Correlation

open Config (Settings)

variable {α : Type} {settings : Settings} {start ms : Nat} {key : String} {n : Nat}

/-- Under an absent key there is no value. -/
theorem Store.value?_of_absent {s : Store α} (h : s.contains key = false) :
    s.value? key = none := by
  rw [contains_eq_isSome] at h
  exact Option.not_isSome_iff_eq_none.mp (Bool.eq_false_iff.mp h)

/-! ## After so many checks -/

namespace Progress

/-- **Where a look-up in vain stands after so many checks**: it waits for as many
poll intervals after its start, or for its deadline if that is before, or it has
given up. -/
def awaited (poll start ms : Nat) (key : String) : Nat → Progress α
  | 0 => planned start (.find key (.upTo ms))
  | n + 1 =>
    if ms ≤ poll * n then finished (start + ms) (.failed (.timeout key ms))
    else waiting (start + min (poll * (n + 1)) ms) (.start start key (.upTo ms))

/-- It plans a check after `n` of them exactly if they have not used up its poll
intervals. -/
theorem next?_awaited {poll : Nat} (hpoll : 0 < poll) :
    (awaited poll start ms key n : Progress α).next? =
      if n ≤ ms ⌈/⌉ poll then some (start + min (poll * n) ms) else none := by
  cases n with
  | zero => simp [awaited, next?]
  | succ n =>
    have hmore : n + 1 ≤ ms ⌈/⌉ poll ↔ ¬ ms ≤ poll * n := by
      rw [← ceilDiv_le_iff_le_mul hpoll]
      omega
    rw [awaited]
    by_cases hle : ms ≤ poll * n
    · rw [if_pos hle, if_neg (fun h => hmore.mp h hle)]
      rfl
    · rw [if_neg hle, if_pos (hmore.mpr hle)]
      rfl

theorem next?_awaited_of_le {poll : Nat} (hpoll : 0 < poll) (hle : n ≤ ms ⌈/⌉ poll)
    (start : Nat) (key : String) :
    (awaited poll start ms key n : Progress α).next? = some (start + min (poll * n) ms) := by
  rw [next?_awaited hpoll, if_pos hle]

/-- A check of the look-up at a time that is not past its deadline: it gives up
there, or sleeps. -/
theorem check_absent {s : Store α} (habsent : s.contains key = false)
    (poll start ms passed : Nat) :
    (check poll (start + passed) (.start start key (.upTo ms)) s).1 =
      if ms ≤ passed then finished (start + passed) (.failed (.timeout key ms))
      else waiting (start + (passed + min poll (ms - passed))) (.start start key (.upTo ms)) := by
  have hnone := Store.value?_of_absent habsent
  have hchecked := checked_check poll (start + passed) (.start start key (.upTo ms)) s
  generalize check poll (start + passed) (.start start key (.upTo ms)) s = out at hchecked ⊢
  cases hchecked with
  | found hvalue => rw [Waiter.key_start, hnone] at hvalue; cases hvalue
  | expired _ hdeadline hle =>
    cases hdeadline
    have hpassed : ms ≤ passed := by omega
    rw [if_pos hpassed]
    rfl
  | again _ hdeadline hlt =>
    cases hdeadline
    have hpassed : ¬ ms ≤ passed := by omega
    have hwake : start + passed + min poll (start + ms - (start + passed)) =
        start + (passed + min poll (ms - passed)) := by omega
    rw [if_neg hpassed, hwake]
  | onward _ hdeadline => cases hdeadline

/-- **One check in vain leads to the next place.** -/
theorem step_awaited {s : Store α} (habsent : s.contains key = false) (n : Nat) :
    ((awaited settings.pollInterval start ms key n).step settings s).1 =
      awaited settings.pollInterval start ms key (n + 1) := by
  have hpoll := settings.pollInterval_pos
  cases n with
  | zero =>
    have hcheck := check_absent habsent settings.pollInterval start ms 0
    rw [awaited, awaited, step]
    rw [Nat.add_zero] at hcheck
    rw [hcheck]
    by_cases hle : ms ≤ 0
    · simp [Nat.le_zero.mp hle]
    · simp [hle]
  | succ n =>
    rw [awaited, awaited]
    have hmul : settings.pollInterval * (n + 1) =
        settings.pollInterval * n + settings.pollInterval := Nat.mul_succ _ n
    by_cases hbefore : ms ≤ settings.pollInterval * n
    · -- it has given up before
      have hle : ms ≤ settings.pollInterval * (n + 1) := by omega
      rw [if_pos hbefore, if_pos hle, step]
    · rw [if_neg hbefore, step, check_absent habsent]
      by_cases hle : ms ≤ settings.pollInterval * (n + 1)
      · have hmin : min (settings.pollInterval * (n + 1)) ms = ms := Nat.min_eq_right hle
        rw [hmin, if_pos hle, if_pos (Nat.le_refl ms)]
      · have hmin : min (settings.pollInterval * (n + 1)) ms = settings.pollInterval * (n + 1) :=
          Nat.min_eq_left (by omega)
        have hnext : settings.pollInterval * (n + 1) +
            min settings.pollInterval (ms - settings.pollInterval * (n + 1)) =
              min (settings.pollInterval * (n + 1 + 1)) ms := by
          rw [Nat.mul_succ settings.pollInterval (n + 1)]
          omega
        rw [hmin, if_neg hle, if_neg hle, hnext]

/-- It leaves the store as it is. -/
theorem store_step_awaited {s : Store α} (habsent : s.contains key = false) (poll n : Nat) :
    ((awaited poll start ms key n).step settings s).2 = s := by
  have hcheck : ∀ now,
      (check settings.pollInterval now (.start start key (.upTo ms)) s).2 = s := by
    intro now
    rw [(check_eq _ _ _ _).2, Waiter.key_start]
    exact Store.erase_eq_self (Store.value?_of_absent habsent)
  cases n with
  | zero => exact hcheck start
  | succ n =>
    rw [awaited]
    split
    · rfl
    · exact hcheck _

end Progress

/-! ## In a run -/

/-- If nothing is counted any more, what was counted is all there is. -/
theorem encard_eq_count {P : Nat → Prop} [DecidablePred P] {last : Nat}
    (h : ∀ m, last ≤ m → ¬ P m) : {m | P m}.encard = Nat.count P last := by
  have hset : {m | P m} = ((Finset.range last).filter P : Finset Nat) := by
    ext m
    rw [Finset.coe_filter, Set.mem_ofPred_eq, Set.mem_ofPred_eq, Finset.mem_range]
    exact ⟨fun hm => ⟨Nat.lt_of_not_le fun hle => h m hle hm, hm⟩, And.right⟩
  rw [hset, Set.encard_coe_eq_coe_finsetCard, Nat.count_eq_card_filter_range]

variable {settings : Nat → Settings} {line : Timeline α} {moves : Nat → Move α} {i : Nat}

/-- The task at a place makes its access with a move. -/
def Move.IsOf (i : Nat) (m : Move α) : Prop := ∃ now, m = .proceed i now

instance : DecidablePred (Move.IsOf (α := α) i)
  | .idle => isFalse nofun
  | .direct _ _ => isFalse nofun
  | .proceed j now => decidable_of_iff (j = i) (by simp [Move.IsOf])

/-- The number of accesses that the task at a place makes with the first moves. -/
def accessCount (moves : Nat → Move α) (i n : Nat) : Nat :=
  Nat.count (fun m => (moves m).IsOf i) n

theorem accessCount_of_isOf (hm : (moves n).IsOf i) :
    accessCount moves i (n + 1) = accessCount moves i n + 1 := by
  rw [accessCount, Nat.count_succ, if_pos hm, accessCount]

theorem accessCount_of_not_isOf (hm : ¬ (moves n).IsOf i) :
    accessCount moves i (n + 1) = accessCount moves i n := by
  rw [accessCount, Nat.count_succ, if_neg hm, Nat.add_zero, accessCount]

/-- **The task at a place is served in a run**: it moves when it has planned to,
and as long as it plans to move it gets its turn. -/
structure Served (settings : Nat → Settings) (line : Timeline α) (moves : Nat → Move α)
    (i : Nat) : Prop where
  /-- No move of the task comes at another time than it has planned. -/
  punctual : ∀ n now, moves n = .proceed i now →
    ∃ p, (line.after settings moves n).tasks[i]? = some p ∧ p.next? = some now
  /-- What the task has planned is not put off for ever. -/
  turns : ∀ n p t, (line.after settings moves n).tasks[i]? = some p → p.next? = some t →
    ∃ m ≥ n, (moves m).IsOf i

/-- **With a move the task goes to sleep**, from a time to another. -/
def Sleeps (settings : Nat → Settings) (line : Timeline α) (moves : Nat → Move α) (i n : Nat)
    (now wake : Nat) : Prop :=
  moves n = .proceed i now ∧
    ∃ w, (line.after settings moves (n + 1)).tasks[i]? = some (.waiting wake w)

/-- A move of another task, or through a handle, leaves the task as it is. -/
theorem Timeline.getElem?_move_of_not_isOf (settings : Nat → Settings) (line : Timeline α)
    {m : Move α} (hm : ¬ m.IsOf i) : (line.move settings m).2.tasks[i]? = line.tasks[i]? := by
  cases m with
  | idle => rfl
  | direct now a => rfl
  | proceed j now =>
    have hne : j ≠ i := fun heq => hm ⟨now, heq ▸ rfl⟩
    cases hp : line.tasks[j]? with
    | none => rw [move_proceed_none settings hp]
    | some p =>
      rw [move_proceed settings hp]
      exact List.getElem?_set_ne hne

/-- And its own move is its step, at the time that it has planned. -/
theorem Served.step (h : Served settings line moves i) {p : Progress α} (hm : (moves n).IsOf i)
    (hp : (line.after settings moves n).tasks[i]? = some p) :
    (line.after settings moves (n + 1)).tasks[i]? =
      some (p.step (settings i) (line.after settings moves n).store).1 := by
  obtain ⟨now, hmove⟩ := hm
  obtain ⟨q, hq, hnext⟩ := h.punctual n now hmove
  rw [hp] at hq
  cases hq
  have hi := (List.getElem?_eq_some_iff.mp hp).1
  rw [Timeline.after, hmove, Timeline.move_proceed settings hp, Progress.retimed_of_next? hnext]
  exact List.getElem?_set_self hi

/-- **A look-up in vain**: the run serves it, and the key is absent whenever it
checks. -/
structure LookedUpInVain (settings : Nat → Settings) (line : Timeline α) (moves : Nat → Move α)
    (i start ms : Nat) (key : String) : Prop extends Served settings line moves i where
  /-- The look-up is planned from the beginning. -/
  planned : line.tasks[i]? = some (.planned start (.find key (.upTo ms)))
  /-- No check finds the key. -/
  absent : ∀ n, (moves n).IsOf i → (line.after settings moves n).store.contains key = false

namespace LookedUpInVain

/-- **It stands where the number of its checks leads**, whoever moves in between. -/
theorem stands (h : LookedUpInVain settings line moves i start ms key) (n : Nat) :
    (line.after settings moves n).tasks[i]? =
      some (.awaited (settings i).pollInterval start ms key (accessCount moves i n)) := by
  induction n with
  | zero => exact h.planned
  | succ n ih =>
    by_cases hm : (moves n).IsOf i
    · rw [h.step hm ih, Progress.step_awaited (h.absent n hm), accessCount_of_isOf hm]
    · rw [accessCount_of_not_isOf hm, ← ih, Timeline.after]
      exact Timeline.getElem?_move_of_not_isOf settings _ hm

/-- When it checks it has intervals left, and it has slept them through so far. -/
theorem time_of_check (h : LookedUpInVain settings line moves i start ms key) {now : Nat}
    (hmove : moves n = .proceed i now) :
    accessCount moves i n ≤ ms ⌈/⌉ (settings i).pollInterval ∧
      now = start + min ((settings i).pollInterval * accessCount moves i n) ms := by
  obtain ⟨p, hp, hnext⟩ := h.punctual n now hmove
  rw [h.stands n] at hp
  cases hp
  rw [Progress.next?_awaited (settings i).pollInterval_pos] at hnext
  split at hnext
  · next hle => exact ⟨hle, (Option.some.inj hnext).symm⟩
  · cases hnext

/-- **It never makes more checks** than one more than there are intervals. -/
theorem accessCount_le (h : LookedUpInVain settings line moves i start ms key) (n : Nat) :
    accessCount moves i n ≤ ms ⌈/⌉ (settings i).pollInterval + 1 := by
  induction n with
  | zero => exact Nat.zero_le _
  | succ n ih =>
    by_cases hm : (moves n).IsOf i
    · obtain ⟨now, hmove⟩ := hm
      have hle := (h.time_of_check hmove).1
      rw [accessCount_of_isOf ⟨now, hmove⟩]
      omega
    · rwa [accessCount_of_not_isOf hm]

/-- **And it comes to as many.** -/
theorem exists_le_accessCount (h : LookedUpInVain settings line moves i start ms key) {checks : Nat}
    (hle : checks ≤ ms ⌈/⌉ (settings i).pollInterval + 1) :
    ∃ n, checks ≤ accessCount moves i n := by
  induction checks with
  | zero => exact ⟨0, Nat.zero_le _⟩
  | succ checks ih =>
    obtain ⟨n, hn⟩ := ih (by omega)
    rcases Nat.lt_or_eq_of_le hn with hlt | heq
    · exact ⟨n, hlt⟩
    · -- it has one more check to make, and gets its turn
      have hmore : accessCount moves i n ≤ ms ⌈/⌉ (settings i).pollInterval := by omega
      have hpoll := (settings i).pollInterval_pos
      have hnext := Progress.next?_awaited_of_le (α := α) hpoll hmore start key
      obtain ⟨m, hm, hturn⟩ := h.turns n _ _ (h.stands n) hnext
      have hmono : accessCount moves i n ≤ accessCount moves i m := Nat.count_monotone _ hm
      exact ⟨m + 1, by rw [accessCount_of_isOf hturn]; omega⟩

/-- **From some move on it has made them all.** -/
theorem exists_accessCount_eq (h : LookedUpInVain settings line moves i start ms key) :
    ∃ last, ∀ n, last ≤ n →
      accessCount moves i n = ms ⌈/⌉ (settings i).pollInterval + 1 ∧ ¬ (moves n).IsOf i := by
  obtain ⟨last, hlast⟩ := h.exists_le_accessCount (Nat.le_refl _)
  refine ⟨last, fun n hn => ?_⟩
  have hmono : accessCount moves i last ≤ accessCount moves i n := Nat.count_monotone _ hn
  have hall : accessCount moves i n = ms ⌈/⌉ (settings i).pollInterval + 1 :=
    Nat.le_antisymm (h.accessCount_le n) (Nat.le_trans hlast hmono)
  refine ⟨hall, fun hm => ?_⟩
  have hmore := h.accessCount_le (n + 1)
  rw [accessCount_of_isOf hm] at hmore
  omega

/-- It goes to sleep with every check but the last, until the end of the interval
or to the deadline. -/
theorem sleeps_iff (h : LookedUpInVain settings line moves i start ms key) {now wake : Nat} :
    Sleeps settings line moves i n now wake ↔
      moves n = .proceed i now ∧ accessCount moves i n < ms ⌈/⌉ (settings i).pollInterval ∧
        wake = start + min ((settings i).pollInterval * (accessCount moves i n + 1)) ms := by
  have hpoll := (settings i).pollInterval_pos
  refine and_congr_right fun hmove => ?_
  rw [h.stands, accessCount_of_isOf ⟨now, hmove⟩, Progress.awaited, ← not_le,
    ceilDiv_le_iff_le_mul hpoll]
  by_cases hle : ms ≤ (settings i).pollInterval * accessCount moves i n
  · simp [hle]
  · simp [hle, eq_comm]

end LookedUpInVain

/-- The checks that are not the last, counted. -/
theorem count_before (bound n : Nat) :
    Nat.count (fun m => (moves m).IsOf i ∧ accessCount moves i m < bound) n =
      min (accessCount moves i n) bound := by
  induction n with
  | zero => rfl
  | succ n ih =>
    rw [Nat.count_succ, ih]
    by_cases hm : (moves n).IsOf i
    · rw [accessCount_of_isOf hm]
      by_cases hlt : accessCount moves i n < bound
      · rw [if_pos ⟨hm, hlt⟩]
        omega
      · rw [if_neg fun hboth => hlt hboth.2]
        omega
    · rw [accessCount_of_not_isOf hm, if_neg fun hboth => hm hboth.1, Nat.add_zero]

/-- **A look-up in vain ends, and does not spin.** For every configured poll
interval and every time that it may take, it checks once more than there are poll
intervals in that time, rounded up, and sleeps between the checks. It goes to
sleep only before its deadline, for a poll interval or for what is left, so at
least one millisecond and at most a hundred. After that it has given up at its
deadline, with its key and all of its time. -/
theorem find_budget (h : LookedUpInVain settings line moves i start ms key) :
    {n | (moves n).IsOf i}.encard = (ms ⌈/⌉ (settings i).pollInterval + 1 : Nat) ∧
    {n | ∃ now wake, Sleeps settings line moves i n now wake}.encard =
      (ms ⌈/⌉ (settings i).pollInterval : Nat) ∧
    (∀ n now wake, Sleeps settings line moves i n now wake → now < start + ms ∧
      wake = now + min (settings i).pollInterval (start + ms - now) ∧
        now + 1 ≤ wake ∧ wake ≤ now + 100) ∧
    ∃ last, ∀ n, last ≤ n → (line.after settings moves n).tasks[i]? =
      some (.finished (start + ms) (.failed (.timeout key ms))) := by
  have hpoll := (settings i).pollInterval_pos
  obtain ⟨last, hlast⟩ := h.exists_accessCount_eq
  have hall := (hlast last (Nat.le_refl _)).1
  refine ⟨?checks, ?sleeps, fun n now wake hsleeps => ?durations, last, fun n hn => ?ending⟩
  case checks =>
    rw [encard_eq_count fun n hn => (hlast n hn).2, ← accessCount, hall]
  case sleeps =>
    have hset : {n | ∃ now wake, Sleeps settings line moves i n now wake} =
        {n | (moves n).IsOf i ∧ accessCount moves i n < ms ⌈/⌉ (settings i).pollInterval} := by
      ext n
      simp only [Set.mem_ofPred_eq, h.sleeps_iff, Move.IsOf]
      constructor
      · rintro ⟨now, wake, hmove, hlt, -⟩
        exact ⟨⟨now, hmove⟩, hlt⟩
      · rintro ⟨⟨now, hmove⟩, hlt⟩
        exact ⟨now, _, hmove, hlt, rfl⟩
    rw [hset, encard_eq_count fun n hn hboth => (hlast n hn).2 hboth.1, count_before, hall]
    congr 1
    omega
  case durations =>
    obtain ⟨hmove, hlt, hwake⟩ := h.sleeps_iff.mp hsleeps
    have hnow := (h.time_of_check hmove).2
    rw [← not_le, ceilDiv_le_iff_le_mul hpoll] at hlt
    have hmax := (settings i).pollInterval_le
    rw [Settings.maxPollMs] at hmax
    rw [Nat.mul_succ] at hwake
    omega
  case ending =>
    have hle : ms ≤ (settings i).pollInterval * (ms ⌈/⌉ (settings i).pollInterval) :=
      (ceilDiv_le_iff_le_mul hpoll).mp (Nat.le_refl _)
    rw [h.stands, (hlast n hn).1, Progress.awaited, if_pos hle]

/-! ## Runs in which nothing comes -/

/-- The moves of a look-up that is alone: a check for each poll interval, and one
more. -/
def aloneMoves (poll start ms n : Nat) : Move α :=
  if n ≤ ms ⌈/⌉ poll then .proceed 0 (start + min (poll * n) ms) else .idle

theorem after_aloneMoves {settings : Settings} {store : Store α} (start ms : Nat)
    (habsent : store.contains key = false) (n : Nat) :
    Timeline.after (fun _ => settings) ⟨[.planned start (.find key (.upTo ms))], store⟩
        (aloneMoves settings.pollInterval start ms) n =
      ⟨[.awaited settings.pollInterval start ms key (min n (ms ⌈/⌉ settings.pollInterval + 1))],
        store⟩ := by
  induction n with
  | zero => rfl
  | succ n ih =>
    rw [Timeline.after, ih, aloneMoves]
    by_cases hle : n ≤ ms ⌈/⌉ settings.pollInterval
    · have hmin : min n (ms ⌈/⌉ settings.pollInterval + 1) = n := by omega
      have hmin' : min (n + 1) (ms ⌈/⌉ settings.pollInterval + 1) = n + 1 := by omega
      have hnext := Progress.next?_awaited_of_le (α := α) settings.pollInterval_pos hle start key
      rw [if_pos hle, hmin, hmin', Timeline.move_proceed _ rfl, Progress.retimed_of_next? hnext,
        Progress.step_awaited habsent, Progress.store_step_awaited habsent]
      rfl
    · have hmin : min n (ms ⌈/⌉ settings.pollInterval + 1) =
          min (n + 1) (ms ⌈/⌉ settings.pollInterval + 1) := by omega
      rw [if_neg hle, hmin]
      rfl

/-- **Every look-up for an absent key can be in vain**, whatever the settings, the
time it may take and the rest of the store. -/
theorem lookedUpInVain_aloneMoves (settings : Settings) {store : Store α} (start ms : Nat)
    (habsent : store.contains key = false) :
    LookedUpInVain (fun _ => settings) ⟨[.planned start (.find key (.upTo ms))], store⟩
      (aloneMoves settings.pollInterval start ms) 0 start ms key where
  punctual n now hmove := by
    rw [aloneMoves] at hmove
    split at hmove
    · next hle =>
      cases hmove
      have hmin : min n (ms ⌈/⌉ settings.pollInterval + 1) = n := by omega
      refine ⟨_, by rw [after_aloneMoves start ms habsent, hmin]; rfl, ?_⟩
      exact Progress.next?_awaited_of_le settings.pollInterval_pos hle start key
    · cases hmove
  turns n p t hp hnext := by
    -- with something planned, it has not made all its checks
    rw [after_aloneMoves start ms habsent] at hp
    cases hp
    rw [Progress.next?_awaited settings.pollInterval_pos] at hnext
    obtain ⟨hle, -⟩ := Option.ite_none_right_eq_some.mp hnext
    have hle' : n ≤ ms ⌈/⌉ settings.pollInterval := by omega
    exact ⟨n, Nat.le_refl n, _, if_pos hle'⟩
  planned := rfl
  absent n _ := by rw [after_aloneMoves start ms habsent]; exact habsent

/-- One task looks a key up for three milliseconds, another stores a value under
another key in the meantime. -/
def vainTasks : List (Task Nat) :=
  [⟨0, .find "order" (.upTo 3)⟩, ⟨2, .store "invoice" 7⟩]

/-- The second check comes at the time of the store, and after it. -/
def vainMoves : Nat → Move Nat
  | 0 => .proceed 0 0
  | 1 => .proceed 1 2
  | 2 => .proceed 0 2
  | 3 => .proceed 0 3
  | _ + 4 => .idle

/-- The timelines between the moves, with a poll interval of two milliseconds. -/
def vainLine : Nat → Timeline Nat :=
  Timeline.after (fun _ => ⟨2, 5000, none⟩) ⟨vainTasks.map .ofTask, .empty none⟩ vainMoves

theorem vain_lookUp : ∀ n, (vainLine n).tasks[0]? = match n with
    | 0 => some (.planned 0 (.find "order" (.upTo 3)))
    | 1 | 2 => some (.waiting 2 ⟨"order", .upTo 3, some 3⟩)
    | 3 => some (.waiting 3 ⟨"order", .upTo 3, some 3⟩)
    | _ + 4 => some (.finished 3 (.failed (.timeout "order" 3)))
  | 0 | 1 | 2 | 3 | 4 => rfl
  | n + 5 => vain_lookUp (n + 4)

theorem lookedUpInVain_vainMoves : LookedUpInVain (fun _ => ⟨2, 5000, none⟩)
    ⟨vainTasks.map .ofTask, .empty none⟩ vainMoves 0 0 3 "order" where
  punctual n now hmove := by
    match n with
    | 0 | 2 | 3 => cases hmove; exact ⟨_, rfl, rfl⟩
    | 1 | n + 4 => cases hmove
  turns n p t hp hnext := by
    have hlookUp := vain_lookUp n
    rw [vainLine, hp] at hlookUp
    match n with
    | 0 => exact ⟨0, by decide, 0, rfl⟩
    | 1 | 2 => exact ⟨2, by decide, 2, rfl⟩
    | 3 => exact ⟨3, by decide, 3, rfl⟩
    | n + 4 => cases hlookUp; cases hnext
  planned := rfl
  absent n hmove := by
    match n with
    | 0 | 2 | 3 => rfl
    | 1 | n + 4 => obtain ⟨now, hmove⟩ := hmove; cases hmove

/-- Two milliseconds and one make two sleeps, and three checks. -/
theorem find_budget_vainMoves :
    LookedUpInVain (fun _ => ⟨2, 5000, none⟩) ⟨vainTasks.map .ofTask, .empty none⟩ vainMoves
        0 0 3 "order" ∧
      {n | (vainMoves n).IsOf 0}.encard = 3 ∧
      {n | ∃ now wake, Sleeps (fun _ => ⟨2, 5000, none⟩) ⟨vainTasks.map .ofTask, .empty none⟩
        vainMoves 0 n now wake}.encard = 2 ∧
      ∃ last, ∀ n, last ≤ n →
        (vainLine n).tasks[0]? = some (.finished 3 (.failed (.timeout "order" 3))) := by
  obtain ⟨hchecks, hsleeps, -, hending⟩ := find_budget lookedUpInVain_vainMoves
  exact ⟨lookedUpInVain_vainMoves, hchecks, hsleeps, hending⟩

end Correlation
end Scenario
