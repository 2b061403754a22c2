import Mathlib.Data.Nat.Find
import Scenario.Proofs.Correlation.Clock

/-!
# Polling — when a waiting look-up checks, and what comes of it

A look-up checks at its start, then every poll interval as long as that is
before its deadline, and at the deadline (`LookUp.Instant`). The loop does
not know these instants: from each check it only reckons how long to sleep.
So the invariant says where the loop stands at a moment in terms of them
(`LookUp.Stage`), and the step is that the sleep leads to the next instant
and past none (`LookUp.instant_next`).

What the other tasks and the holders of handles do appears only through the
store at each moment. `find_timing` reads the answers off the invariant:
which instants are checked, what is found and when, and that the look-up
gives up at its deadline exactly if it found nothing at any instant.
-/

namespace Scenario
namespace Correlation

open Config (Settings)

/-! ## The instants of a look-up -/

/-- A look-up with a poll interval. -/
structure LookUp where
  /-- When it starts. -/
  start : Nat
  /-- The poll interval. -/
  poll : Nat
  /-- The key looked up. -/
  key : String
  /-- How long it may take. -/
  patience : Patience

namespace LookUp

variable (c : LookUp)

/-- **The instants at which a look-up checks**, as long as it finds nothing:
every poll interval before the deadline, and at the deadline. -/
def Instant (t : Nat) : Prop :=
  match c.patience with
  | .upTo ms => (∃ n, t = c.start + n * c.poll ∧ t < c.start + ms) ∨ t = c.start + ms
  | .endless => ∃ n, t = c.start + n * c.poll

/-- The deadline has come. -/
def Over (t : Nat) : Prop := ∃ ms, c.patience = .upTo ms ∧ c.start + ms ≤ t

/-- When the loop checks again after a check that found nothing. -/
def next (t : Nat) : Nat :=
  match c.patience with
  | .upTo ms => t + min c.poll (c.start + ms - t)
  | .endless => t + c.poll

variable {c} {t : Nat}

theorem instant_start : c.Instant c.start := by
  unfold Instant
  cases c.patience with
  | upTo ms =>
    rcases Nat.eq_zero_or_pos ms with rfl | hms
    · exact .inr rfl
    · exact .inl ⟨0, by omega, by omega⟩
  | endless => exact ⟨0, by omega⟩

theorem Instant.start_le (h : c.Instant t) : c.start ≤ t := by
  unfold Instant at h
  split at h
  · rcases h with ⟨n, rfl, -⟩ | rfl <;> exact Nat.le_add_right _ _
  · obtain ⟨n, rfl⟩ := h
    exact Nat.le_add_right _ _

theorem Instant.le_deadline {ms : Nat} (h : c.Instant t) (hms : c.patience = .upTo ms) :
    t ≤ c.start + ms := by
  rw [Instant, hms] at h
  rcases h with ⟨n, -, hlt⟩ | rfl
  · exact Nat.le_of_lt hlt
  · exact Nat.le_refl _

/-- Two multiples of the interval are the same or an interval apart. -/
theorem add_poll_le {m n poll : Nat} (h : n * poll < m * poll) : n * poll + poll ≤ m * poll := by
  have hnm : n + 1 ≤ m := Nat.lt_of_mul_lt_mul_right h
  have := Nat.mul_le_mul_right poll hnm
  rwa [Nat.succ_mul] at this

/-- **The sleep leads to the next instant**, and past none. -/
theorem instant_next (hpoll : 0 < c.poll) (h : c.Instant t) (hover : ¬ c.Over t) :
    t < c.next t ∧ c.Instant (c.next t) ∧ ∀ u, t < u → u < c.next t → ¬ c.Instant u := by
  unfold Over at hover
  unfold Instant at h ⊢
  unfold next
  cases hpat : c.patience with
  | upTo ms =>
    simp only [hpat] at h ⊢
    have hlt : t < c.start + ms := Nat.lt_of_not_le fun hle => hover ⟨ms, hpat, hle⟩
    obtain ⟨n, hn, -⟩ : ∃ n, t = c.start + n * c.poll ∧ t < c.start + ms :=
      h.resolve_right (Nat.ne_of_lt hlt)
    refine ⟨by omega, ?_, fun u htu hu => ?_⟩
    · -- the next multiple, or the deadline if that comes first
      rcases Nat.lt_or_ge c.poll (c.start + ms - t) with hbefore | hafter
      · exact .inl ⟨n + 1, by rw [Nat.succ_mul]; omega, by omega⟩
      · exact .inr (by omega)
    · rintro (⟨m, hm, -⟩ | hm)
      · have := @add_poll_le m n c.poll (by omega)
        omega
      · omega
  | endless =>
    simp only [hpat] at h ⊢
    obtain ⟨n, hn⟩ := h
    refine ⟨by omega, ⟨n + 1, by rw [Nat.succ_mul]; omega⟩, fun u htu hu => ?_⟩
    rintro ⟨m, hm⟩
    have := @add_poll_le m n c.poll (by omega)
    omega

/-- **From every moment on until the deadline there is an instant within a
poll interval.** -/
theorem exists_instant {ms : Nat} (hpoll : 0 < c.poll) (hms : c.patience = .upTo ms)
    (hstart : c.start ≤ t) (hend : t ≤ c.start + ms) :
    ∃ u, t ≤ u ∧ u ≤ min (t + c.poll) (c.start + ms) ∧ c.Instant u := by
  have hfloor := Nat.div_mul_le_self (t - c.start + (c.poll - 1)) c.poll
  have hceil := Nat.lt_div_mul_add (a := t - c.start + (c.poll - 1)) hpoll
  generalize (t - c.start + (c.poll - 1)) / c.poll = n at hfloor hceil
  simp only [Instant, hms]
  -- the first multiple of the interval from there on, or the deadline before it
  rcases Nat.lt_or_ge (c.start + n * c.poll) (c.start + ms) with hlt | hge
  · exact ⟨c.start + n * c.poll, by omega, by omega, .inl ⟨n, rfl, hlt⟩⟩
  · exact ⟨c.start + ms, hend, by omega, .inr rfl⟩

/-! ## Where the loop stands -/

variable {α : Type} (c) (world : Nat → Store α)

/-- **A look-up gets to an instant** if the key is absent at all before. The
world is the store at each moment. -/
def Reaches (t : Nat) : Prop :=
  c.Instant t ∧ ∀ u < t, c.Instant u → (world u).contains c.key = false

/-- **What a look-up has come to before a moment**: it has not started, it
waits for the next instant, it found a value at an instant, or it gave up. -/
inductive Stage (t : Nat) : Progress α → Prop
  /-- It has not started. -/
  | planned : t ≤ c.start → Stage t (.planned c.start (.find c.key c.patience))
  /-- It waits for the next instant. -/
  | waiting {u : Nat} : t ≤ u → c.Reaches world u → (∀ x, t ≤ x → x < u → ¬ c.Instant x) →
      Stage t (.waiting u (.start c.start c.key c.patience))
  /-- It found the value that was present at the first such instant. -/
  | found {u : Nat} {value : α} : u < t → c.Reaches world u →
      ((world u).remove c.key).1 = some value → Stage t (.finished u (.found value))
  /-- It gave up at the deadline, the key being absent at all instants. -/
  | expired {ms : Nat} : c.patience = .upTo ms → c.start + ms < t →
      (∀ u, c.Instant u → (world u).contains c.key = false) →
      Stage t (.finished (c.start + ms) (.failed (.timeout c.key ms)))

variable {c world}

theorem Reaches.start : c.Reaches world c.start :=
  ⟨instant_start, fun _ hu hinstant => absurd hinstant.start_le (Nat.not_le_of_lt hu)⟩

/-- Only one instant can be the first at which the key is present. -/
theorem Reaches.unique {u : Nat} (ht : c.Reaches world t) (hu : c.Reaches world u)
    (hpt : (world t).contains c.key = true) (hpu : (world u).contains c.key = true) : t = u := by
  rcases Nat.lt_trichotomy t u with hlt | rfl | hlt
  · rw [hu.2 t hlt ht.1] at hpt; cases hpt
  · rfl
  · rw [ht.2 u hlt hu.1] at hpu; cases hpu

/-- **One check, at an instant the look-up gets to**: it is over with the
value present, over with the deadline, or on to the next instant. -/
theorem Reaches.check (hpoll : 0 < c.poll) (h : c.Reaches world t) :
    c.Stage world (t + 1)
      (Progress.check c.poll t (.start c.start c.key c.patience) (world t)).1 := by
  have hkey := Waiter.key_start c.start c.key c.patience
  unfold Progress.check Waiter.attempt
  rw [hkey]
  -- found, or absent and then over or on to the next instant
  cases hr : (world t).remove c.key with
  | mk answer after =>
    cases answer with
    | some value => exact .found (Nat.lt_succ_self t) h (by rw [hr])
    | none =>
      have habsent : (world t).contains c.key = false := by
        rw [← Store.remove_eq_none_iff, hr]
      have hsleep : ¬ c.Over t → c.Stage world (t + 1)
          (.waiting (c.next t) (.start c.start c.key c.patience)) := by
        intro hover
        obtain ⟨hlt, hinstant, hnone⟩ := instant_next hpoll h.1 hover
        refine .waiting hlt ⟨hinstant, fun u hu hiu => ?_⟩ fun x hx hxu => hnone x hx hxu
        rcases Nat.lt_trichotomy u t with hut | rfl | htu
        · exact h.2 u hut hiu
        · exact habsent
        · exact absurd hiu (hnone u htu hu)
      cases hpat : c.patience with
      | endless =>
        simpa [Waiter.start, next, hpat] using hsleep fun ⟨_, hms, _⟩ => by
          rw [hpat] at hms; cases hms
      | upTo ms =>
        by_cases hle : c.start + ms ≤ t
        · obtain rfl := Nat.le_antisymm (h.1.le_deadline hpat) hle
          have hexpired : c.Stage world (c.start + ms + 1)
              (.finished (c.start + ms) (.failed (.timeout c.key ms))) := by
            refine .expired hpat (Nat.lt_succ_self _) fun u hu => ?_
            rcases Nat.lt_or_eq_of_le (hu.le_deadline hpat) with hlt | rfl
            · exact h.2 u hlt hu
            · exact habsent
          simpa [Waiter.start, Waiter.error] using hexpired
        · have hover : ¬ c.Over t := by
            rintro ⟨ms', hms', hle'⟩
            rw [hpat] at hms'
            cases hms'
            exact hle hle'
          simpa [Waiter.start, next, hpat, hle] using hsleep hover

/-- If the key is present at some instant, there is a first one. -/
theorem exists_reaches (ht : c.Instant t) (hp : (world t).contains c.key = true) :
    ∃ u ≤ t, c.Reaches world u ∧ (world u).contains c.key = true := by
  classical
  have hex : ∃ u, c.Instant u ∧ (world u).contains c.key = true := ⟨t, ht, hp⟩
  obtain ⟨hinstant, hpresent⟩ := Nat.find_spec hex
  refine ⟨Nat.find hex, Nat.find_min' hex ⟨ht, hp⟩, ⟨hinstant, fun u hu hiu => ?_⟩, hpresent⟩
  exact Bool.eq_false_iff.mpr fun hpu => Nat.find_min hex hu ⟨hiu, hpu⟩

end LookUp

/-! ## The look-up in a run -/

namespace Execution

variable {α : Type} {settings : Nat → Settings} {run : Execution settings α} {i t : Nat}
variable {c : LookUp}

/-- A task of the run is a look-up that has not started. -/
structure Plans (run : Execution settings α) (i : Nat) (c : LookUp) : Prop where
  /-- It is planned from the beginning. -/
  planned : (run.line 0).tasks[i]? = some (.planned c.start (.find c.key c.patience))
  /-- It polls as often as its manager is set to. -/
  poll : c.poll = (settings i).pollInterval

/-- **At every moment of a run the look-up is at one of its stages.** -/
theorem Plans.stage (h : run.Plans i c) (t : Nat) :
    ∃ p, (run.line t).tasks[i]? = some p ∧ c.Stage run.store t p := by
  have hpoll : 0 < c.poll := by
    rw [h.poll]
    exact (settings i).pollInterval_pos
  induction t with
  | zero => exact ⟨_, h.planned, .planned (Nat.zero_le _)⟩
  | succ t ih =>
    obtain ⟨p, hp, hstage⟩ := ih
    cases hstage with
    | planned hle =>
      -- the first check is at the start
      by_cases ht : c.start = t
      · subst ht
        refine ⟨_, tasks_of_eq hp rfl, ?_⟩
        rw [Progress.step, ← h.poll]
        exact LookUp.Reaches.start.check hpoll
      · exact ⟨_, tasks_of_ne hp fun heq => ht (Option.some.inj heq), .planned (by omega)⟩
    | @waiting u hle hreaches hnone =>
      by_cases ht : u = t
      · subst ht
        refine ⟨_, tasks_of_eq hp rfl, ?_⟩
        rw [Progress.step, ← h.poll]
        exact hreaches.check hpoll
      · exact ⟨_, tasks_of_ne hp fun heq => ht (Option.some.inj heq),
          .waiting (by omega) hreaches fun x hx => hnone x (by omega)⟩
    | found hlt hreaches hvalue =>
      exact ⟨_, tasks_of_ne hp (fun heq => nomatch heq),
        .found (Nat.lt_succ_of_lt hlt) hreaches hvalue⟩
    | expired hms hlt habsent =>
      exact ⟨_, tasks_of_ne hp (fun heq => nomatch heq),
        .expired hms (Nat.lt_succ_of_lt hlt) habsent⟩

/-- **It checks at the instants it gets to, and at no other time.** -/
theorem Plans.accesses_iff (h : run.Plans i c) :
    run.Accesses i t ↔ c.Reaches run.store t := by
  obtain ⟨p, hp, hstage⟩ := h.stage t
  rw [Execution.accesses_iff hp]
  cases hstage with
  | planned hle =>
    constructor
    · intro heq
      cases heq
      exact .start
    · intro hreaches
      exact congrArg some (Nat.le_antisymm hreaches.1.start_le hle)
  | @waiting u hle hreaches hnone =>
    constructor
    · intro heq
      cases heq
      exact hreaches
    · intro ht
      refine congrArg some (Nat.le_antisymm (Nat.le_of_not_lt fun hlt => ?_) hle)
      exact hnone t (Nat.le_refl t) hlt ht.1
  | found hlt hreaches hvalue =>
    refine iff_of_false (fun heq => nomatch heq) fun ht => ?_
    have habsent := ht.2 _ hlt hreaches.1
    rw [Store.contains_of_remove hvalue] at habsent
    cases habsent
  | expired hms hlt habsent =>
    refine iff_of_false (fun heq => nomatch heq) fun ht => ?_
    exact absurd (ht.1.le_deadline hms) (Nat.not_le_of_lt hlt)

/-- **It finds the value at the first instant at which the key is present.**
-/
theorem Plans.ends_found_iff (h : run.Plans i c) {value : α} :
    run.Ends i t (.found value) ↔
      c.Reaches run.store t ∧ ((run.store t).remove c.key).1 = some value := by
  obtain ⟨p, hp, hstage⟩ := h.stage (t + 1)
  unfold Ends
  rw [hp, Option.some.injEq]
  constructor
  · rintro rfl
    cases hstage with
    | found _ hreaches hvalue => exact ⟨hreaches, hvalue⟩
  · rintro ⟨ht, hvalue⟩
    have hpresent := Store.contains_of_remove hvalue
    cases hstage with
    | planned hle => exact absurd ht.1.start_le (by omega)
    | waiting hle hreaches _ =>
      -- it would have passed over the instant with the key absent
      have := hreaches.2 t (by omega) ht.1
      rw [hpresent] at this
      cases this
    | found _ hu hvalue' =>
      obtain rfl := ht.unique hu hpresent (Store.contains_of_remove hvalue')
      rw [hvalue] at hvalue'
      cases hvalue'
      rfl
    | expired _ _ habsent =>
      have := habsent t ht.1
      rw [hpresent] at this
      cases this

/-- **It gives up exactly if the key was absent at all instants, and then at
its deadline.** -/
theorem Plans.ends_failed_iff (h : run.Plans i c) {e : LookupError} :
    run.Ends i t (.failed e) ↔ ∃ ms, c.patience = .upTo ms ∧ t = c.start + ms ∧
      e = .timeout c.key ms ∧ ∀ u, c.Instant u → (run.store u).contains c.key = false := by
  obtain ⟨p, hp, hstage⟩ := h.stage (t + 1)
  unfold Ends
  rw [hp, Option.some.injEq]
  constructor
  · rintro rfl
    cases hstage with
    | expired hms _ habsent => exact ⟨_, hms, rfl, rfl, habsent⟩
  · rintro ⟨ms, hms, rfl, rfl, habsent⟩
    cases hstage with
    | planned hle => omega
    | waiting hle hreaches _ => exact absurd (hreaches.1.le_deadline hms) (by omega)
    | found _ hreaches hvalue =>
      have := habsent _ hreaches.1
      rw [Store.contains_of_remove hvalue] at this
      cases this
    | expired hms' _ _ =>
      rw [hms] at hms'
      cases hms'
      rfl

/-- With the key present at an instant, the look-up finds a value by then. -/
theorem Plans.exists_found (h : run.Plans i c) (ht : c.Instant t)
    (hp : (run.store t).contains c.key = true) :
    ∃ u ≤ t, ∃ value, run.Ends i u (.found value) := by
  obtain ⟨u, hu, hreaches, hpresent⟩ := LookUp.exists_reaches ht hp
  cases hr : ((run.store u).remove c.key).1 with
  | none =>
    rw [Store.remove_eq_none_iff.mp hr] at hpresent
    cases hpresent
  | some value => exact ⟨u, hu, value, h.ends_found_iff.mpr ⟨hreaches, hr⟩⟩

/-- **A look-up with a deadline comes to an end.** -/
theorem Plans.ends (h : run.Plans i c) {ms : Nat} (hms : c.patience = .upTo ms) :
    (∃ t ≤ c.start + ms, ∃ value, run.Ends i t (.found value)) ∨
      run.Ends i (c.start + ms) (.failed (.timeout c.key ms)) := by
  by_cases hex : ∃ t, c.Instant t ∧ (run.store t).contains c.key = true
  · obtain ⟨t, ht, hp⟩ := hex
    obtain ⟨u, hu, hfound⟩ := h.exists_found ht hp
    exact .inl ⟨u, Nat.le_trans hu (ht.le_deadline hms), hfound⟩
  · refine .inr (h.ends_failed_iff.mpr ⟨ms, hms, rfl, rfl, fun u hu => ?_⟩)
    exact Bool.eq_false_iff.mpr fun hp => hex ⟨u, hu, hp⟩

/-- **What stays is found within a poll interval**: here the key is present
whenever the look-up checks from some moment on. -/
theorem Plans.found_within (h : run.Plans i c) {ms : Nat} (hms : c.patience = .upTo ms)
    {s : Nat} (hs : c.start ≤ s) (hs' : s ≤ c.start + ms)
    (hstays : ∀ t, s ≤ t → run.Accesses i t → (run.store t).contains c.key = true) :
    ∃ t ≤ min (s + c.poll) (c.start + ms), ∃ value, run.Ends i t (.found value) := by
  have hpoll : 0 < c.poll := by
    rw [h.poll]
    exact (settings i).pollInterval_pos
  obtain ⟨u, hsu, hu, hinstant⟩ := LookUp.exists_instant hpoll hms hs hs'
  by_cases hex : ∃ x ≤ u, c.Instant x ∧ (run.store x).contains c.key = true
  · obtain ⟨x, hx, hix, hp⟩ := hex
    obtain ⟨t, ht, hfound⟩ := h.exists_found hix hp
    exact ⟨t, Nat.le_trans ht (Nat.le_trans hx hu), hfound⟩
  · -- the look-up gets to the instant, and finds the key there after all
    have hreaches : c.Reaches run.store u := by
      refine ⟨hinstant, fun x hx hix => Bool.eq_false_iff.mpr fun hp => ?_⟩
      exact hex ⟨x, Nat.le_of_lt hx, hix, hp⟩
    have hp := hstays u hsu (h.accesses_iff.mpr hreaches)
    exact absurd ⟨u, Nat.le_refl u, hinstant, hp⟩ hex

end Execution

/-- **The timing of a look-up**, in every run on the virtual clock.

It accesses the store exactly at its instants, up to the first at which the
key is present. There it finds the value; it gives up exactly if the key is
absent at all of them, which takes a deadline, and then at the deadline.
With a deadline it comes to one of the two ends. And if from some moment on
the key is present whenever the look-up checks, it succeeds within a poll
interval from that moment and no later than at the deadline. -/
theorem find_timing {α : Type} (settings : Nat → Settings) (run : Execution settings α)
    (i start : Nat) (key : String) (patience : Patience)
    (hplanned : (run.line 0).tasks[i]? = some (.planned start (.find key patience))) :
    let c : LookUp := ⟨start, (settings i).pollInterval, key, patience⟩
    let Absent (t : Nat) : Prop := (run.store t).contains key = false
    (∀ t, run.Accesses i t ↔ c.Instant t ∧ ∀ u < t, c.Instant u → Absent u) ∧
    (∀ t value, run.Ends i t (.found value) ↔
      (c.Instant t ∧ ∀ u < t, c.Instant u → Absent u) ∧
        ∃ e, Store.entry? (run.store t) key = some e ∧ e.value = value) ∧
    (∀ t e, run.Ends i t (.failed e) ↔ ∃ ms, patience = .upTo ms ∧ t = start + ms ∧
      e = .timeout key ms ∧ ∀ u, c.Instant u → Absent u) ∧
    (∀ ms, patience = .upTo ms →
      (∃ t ≤ start + ms, ∃ value, run.Ends i t (.found value)) ∨
        run.Ends i (start + ms) (.failed (.timeout key ms))) ∧
    (∀ ms s, patience = .upTo ms → start ≤ s → s ≤ start + ms →
      (∀ t, s ≤ t → run.Accesses i t → ¬ Absent t) →
      ∃ t ≤ min (s + c.poll) (start + ms), ∃ value, run.Ends i t (.found value)) := by
  intro c Absent
  have h : run.Plans i c := ⟨hplanned, rfl⟩
  refine ⟨fun t => h.accesses_iff, fun t value => ?_, fun t e => h.ends_failed_iff,
    fun ms hms => h.ends hms, fun ms s hms hs hs' hstays => ?_⟩
  · exact h.ends_found_iff.trans (and_congr_right fun _ => Option.map_eq_some_iff)
  · exact h.found_within hms hs hs' fun t hst ht => Bool.not_eq_false _ |>.mp (hstays t hst ht)

/-! ## A run in which a value is handed over -/

/-- One task looks a key up from the beginning, and a millisecond later
another stores a value under it. -/
def handOverTasks : List (Task Nat) :=
  [⟨0, .find "order" (.upTo 9)⟩, ⟨1, .store "order" 7⟩]

/-- The look-up checks before and after. -/
def handOverMoves : Nat → Move Nat
  | 0 => .proceed 0 0
  | 1 => .proceed 1 1
  | 2 => .proceed 0 2
  | _ + 3 => .idle

/-- The timelines between the moves. -/
def handOverLine : Nat → Timeline Nat :=
  Timeline.after (fun _ => ⟨2, 5000, none⟩) ⟨handOverTasks.map .ofTask, .empty none⟩ handOverMoves

theorem handOver_tasks : ∀ t, (handOverLine t).tasks = match t with
    | 0 => [.planned 0 (.find "order" (.upTo 9)), .planned 1 (.store "order" 7)]
    | 1 => [.waiting 2 ⟨"order", .upTo 9, some 9⟩, .planned 1 (.store "order" 7)]
    | 2 => [.waiting 2 ⟨"order", .upTo 9, some 9⟩, .finished 1 .stored]
    | _ + 3 => [.finished 2 (.found 7), .finished 1 .stored]
  | 0 => rfl
  | 1 => rfl
  | 2 => rfl
  | 3 => rfl
  | t + 4 => handOver_tasks (t + 3)

theorem getElem?_pair {α : Type} {a b p : α} {i : Nat} :
    [a, b][i]? = some p ↔ i = 0 ∧ p = a ∨ i = 1 ∧ p = b := by
  match i with
  | 0 => simp [eq_comm]
  | 1 => simp [eq_comm]
  | i + 2 => simp

/-- The two tasks on the clock, polling every two milliseconds. -/
def handOver : Execution (fun _ => ⟨2, 5000, none⟩) Nat where
  line := handOverLine
  access := handOverMoves
  step _ := rfl
  planned {t i p} hp hnext := by
    rw [handOver_tasks] at hp
    match t with
    | 0 | 1 | 2 | t + 3 =>
      rcases getElem?_pair.mp hp with ⟨rfl, rfl⟩ | ⟨rfl, rfl⟩ <;> cases hnext <;> rfl
  punctual {t i now} hmove := by
    match t with
    | 0 | 1 | 2 => cases hmove; exact ⟨_, rfl, rfl⟩
    | t + 3 => cases hmove
  timely {t now a} hmove := by
    match t with
    | 0 | 1 | 2 | t + 3 => cases hmove

/-- What is stored between two checks is found by the second. -/
theorem find_timing_handOver :
    (handOver.line 0).tasks[0]? = some (.planned 0 (.find "order" (.upTo 9))) ∧
      handOver.Ends 0 2 (.found 7) := by
  have hplanned : (handOver.line 0).tasks[0]? = some (.planned 0 (.find "order" (.upTo 9))) := rfl
  obtain ⟨-, hfound, -⟩ := find_timing _ handOver 0 0 "order" (.upTo 9) hplanned
  refine ⟨hplanned, (hfound 2 7).mpr ⟨⟨.inl ⟨1, by decide, by decide⟩, ?_⟩, _, rfl, rfl⟩⟩
  intro u hu _
  match u with
  | 0 | 1 => rfl

end Correlation
end Scenario
