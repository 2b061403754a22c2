import Mathlib.Data.List.TakeWhile
import Scenario.Correlation.World

/-!
# Passage — what time brings to the stores

While time passes in a world, each store takes in the deliveries to it that
come due, at their times and in their order (`World.receive`), and nothing
else changes; a look-up that waits changes its own store as well. Both are
`World.Passes`, which puts together piece by piece (`Passes.trans`): making
the deliveries due until a later moment is one (`World.advanceTo_passes`), and
a look-up is made of checks and of such pieces (`World.await_passes`).
-/

namespace Scenario
namespace Correlation
namespace World

variable {w w' w'' : World} {made more : List Delivery} {aim : Option Nat} {time : Nat}
variable {d : Delivery}

/-- What becomes of the store at a place when deliveries are made: it takes
in those to it, each at its time. -/
def receive (p : Nat) (ds : List Delivery) (s : Store String) : Store String :=
  ds.foldl (fun s d => if d.store = p then s.add d.due d.key d.value else s) s

theorem receive_append (p : Nat) (ds ds' : List Delivery) (s : Store String) :
    receive p (ds ++ ds') s = receive p ds' (receive p ds s) := List.foldl_append

/-- The store at a place after the one at some place is changed. -/
theorem getElem?_updateStore (w : World) (place : Nat) (change : Store String → Store String)
    (p : Nat) : (w.updateStore place change).stores[p]? =
      (w.stores[p]?).map fun s => if place = p then change s else s :=
  List.getElem?_modify change place w.stores p

/-! ## Time that passes -/

/-- The deliveries still to be made are in order, and none is overdue. -/
structure Punctual (w : World) : Prop where
  /-- The earlier ones come first. -/
  sorted : w.pending.Pairwise fun d e => d.due ≤ e.due
  /-- None is overdue. -/
  future : ∀ d ∈ w.pending, w.now ≤ d.due

/-! ### Sending deliveries -/

theorem mem_schedule {e : Delivery} {ds : List Delivery} :
    e ∈ schedule d ds ↔ e = d ∨ e ∈ ds := by
  induction ds with
  | nil => exact List.mem_cons
  | cons f ds ih =>
    rw [schedule]
    split
    · rw [List.mem_cons, ih, List.mem_cons, or_left_comm]
    · exact List.mem_cons

theorem mem_foldr_schedule {ds ds' : List Delivery} :
    d ∈ ds.foldr schedule ds' ↔ d ∈ ds ∨ d ∈ ds' := by
  induction ds with
  | nil => simp
  | cons e ds ih => rw [List.foldr_cons, mem_schedule, ih, List.mem_cons, or_assoc]

/-- A delivery is inserted where it belongs. -/
theorem pairwise_schedule {ds : List Delivery} (hds : ds.Pairwise fun d e => d.due ≤ e.due) :
    (schedule d ds).Pairwise fun d e => d.due ≤ e.due := by
  induction ds with
  | nil => exact List.pairwise_singleton _ _
  | cons e ds ih =>
    obtain ⟨hfirst, hrest⟩ := List.pairwise_cons.mp hds
    rw [schedule]
    split
    · next hle =>
      refine List.pairwise_cons.mpr ⟨fun f hf => ?_, ih hrest⟩
      rcases mem_schedule.mp hf with rfl | hf
      · exact hle
      · exact hfirst f hf
    · next hlt =>
      refine List.pairwise_cons.mpr ⟨fun f hf => ?_, hds⟩
      rcases List.mem_cons.mp hf with rfl | hf
      · omega
      · have := hfirst f hf
        omega

/-- **What is sent for now or later leaves the others in order.** -/
theorem Punctual.of_schedule (hw : w.Punctual) {ds : List Delivery} (hds : ∀ d ∈ ds, w.now ≤ d.due)
    (hnow : w'.now = w.now) (hpending : w'.pending = ds.foldr schedule w.pending) :
    w'.Punctual where
  sorted := by
    rw [hpending]
    clear hpending hds
    induction ds with
    | nil => exact hw.sorted
    | cons d ds ih => exact pairwise_schedule ih
  future d hd := by
    rw [hpending] at hd
    rw [hnow]
    exact (mem_foldr_schedule.mp hd).elim (hds d) (hw.future d)

/-! ### Letting time pass -/

/-- **Time passes**: some deliveries are made, and nothing else is done, save
to the store at one place. -/
structure Passes (aim : Option Nat) (w : World) (made : List Delivery) (w' : World) : Prop where
  /-- Time does not go back. -/
  time : w.now ≤ w'.now
  /-- The first deliveries are made, and the others remain. -/
  pending : w.pending = made ++ w'.pending
  /-- Those that are made have come due. -/
  past : ∀ d ∈ made, d.due ≤ w'.now
  /-- Those that remain have not, if there was any time for it. -/
  future : w.now < w'.now → ∀ d ∈ w'.pending, w'.now < d.due
  /-- Managers stay as they are. -/
  managers : w'.managers = w.managers
  /-- And handles. -/
  handles : w'.handles = w.handles
  /-- There are as many stores as before. -/
  count : w'.stores.length = w.stores.length
  /-- Each takes in the deliveries to it. -/
  stores : ∀ p, aim ≠ some p → w'.stores[p]? = (w.stores[p]?).map (receive p made)

theorem Passes.refl (aim : Option Nat) (w : World) : Passes aim w [] w where
  time := Nat.le_refl _
  pending := rfl
  past _ hd := nomatch hd
  future h := absurd h (Nat.lt_irrefl _)
  managers := rfl
  handles := rfl
  count := rfl
  stores p _ := by
    cases w.stores[p]? <;> rfl

/-- The store aimed at may change in any way. -/
theorem passes_updateStore (w : World) (place : Nat) (change : Store String → Store String) :
    Passes (some place) w [] (w.updateStore place change) where
  time := Nat.le_refl _
  pending := rfl
  past _ hd := nomatch hd
  future h := absurd h (Nat.lt_irrefl _)
  managers := rfl
  handles := rfl
  count := List.length_modify ..
  stores p hp := by
    have hne : place ≠ p := fun heq => hp (congrArg some heq)
    simp only [getElem?_updateStore, if_neg hne]
    cases w.stores[p]? <;> rfl

theorem Passes.trans (h : Passes aim w made w') (h' : Passes aim w' more w'') :
    Passes aim w (made ++ more) w'' where
  time := Nat.le_trans h.time h'.time
  pending := by rw [h.pending, h'.pending, List.append_assoc]
  past d hd := by
    rcases List.mem_append.mp hd with hd | hd
    · exact Nat.le_trans (h.past d hd) h'.time
    · exact h'.past d hd
  future hlt d hd := by
    rcases Nat.lt_or_eq_of_le h'.time with hlt' | heq
    · exact h'.future hlt' d hd
    · have hmem : d ∈ w'.pending := by
        rw [h'.pending]
        exact List.mem_append_right _ hd
      have := h.future (by omega) d hmem
      omega
  managers := h'.managers.trans h.managers
  handles := h'.handles.trans h.handles
  count := h'.count.trans h.count
  stores p hp := by
    rw [h'.stores p hp, h.stores p hp, Option.map_map]
    congr 1
    funext s
    exact (receive_append p made more s).symm

/-- With no store aimed at, all of them take in their deliveries. -/
theorem Passes.aimed (h : Passes none w made w') (aim : Option Nat) : Passes aim w made w' :=
  { h with stores := fun p _ => h.stores p (fun heq => nomatch heq) }

theorem Passes.punctual (h : Passes aim w made w') (hw : w.Punctual) : w'.Punctual where
  sorted := by
    have := hw.sorted
    rw [h.pending] at this
    exact (List.pairwise_append.mp this).2.1
  future d hd := by
    rcases Nat.lt_or_eq_of_le h.time with hlt | heq
    · exact Nat.le_of_lt (h.future hlt d hd)
    · have := hw.future d (by rw [h.pending]; exact List.mem_append_right _ hd)
      omega

/-! ### Making deliveries -/

/-- Making deliveries leaves all but time and the stores. -/
theorem deliver_rest (ds : List Delivery) (w : World) :
    (deliver ds w).managers = w.managers ∧ (deliver ds w).handles = w.handles ∧
      (deliver ds w).pending = w.pending ∧ (deliver ds w).stores.length = w.stores.length := by
  induction ds generalizing w with
  | nil => exact ⟨rfl, rfl, rfl, rfl⟩
  | cons d ds ih =>
    obtain ⟨hmanagers, hhandles, hpending, hcount⟩ :=
      ih ({ w with now := max w.now d.due }.addTo d.store d.key d.value)
    exact ⟨hmanagers, hhandles, hpending, hcount.trans (List.length_modify ..)⟩

/-- It takes no longer than until the last of them. -/
theorem now_deliver_le {ds : List Delivery} (hw : w.now ≤ time) (hds : ∀ d ∈ ds, d.due ≤ time) :
    (deliver ds w).now ≤ time := by
  induction ds generalizing w with
  | nil => exact hw
  | cons d ds ih =>
    obtain ⟨hd, hrest⟩ := List.forall_mem_cons.mp hds
    exact ih (Nat.max_le.mpr ⟨hw, hd⟩) hrest

/-- **Each store takes in the deliveries to it**, if they are in order. -/
theorem stores_deliver (w : World) {ds : List Delivery} (hds : ds.Pairwise fun d e => d.due ≤ e.due)
    (hw : ∀ d ∈ ds, w.now ≤ d.due) (p : Nat) :
    (deliver ds w).stores[p]? = (w.stores[p]?).map (receive p ds) := by
  induction ds generalizing w with
  | nil => exact ((Passes.refl none w).stores p (fun heq => nomatch heq))
  | cons d ds ih =>
    obtain ⟨hfirst, hrest⟩ := List.pairwise_cons.mp hds
    have hnow : max w.now d.due = d.due := Nat.max_eq_right (hw d List.mem_cons_self)
    rw [deliver, hnow, ih _ hrest hfirst, addTo, getElem?_updateStore, Option.map_map]
    rfl

/-- What is due by some time has come due then. -/
theorem due_of_mem_takeWhile {ds : List Delivery} {d : Delivery}
    (hd : d ∈ ds.takeWhile fun d => d.due ≤ time) : d.due ≤ time := by
  have hdue := List.mem_takeWhile_imp hd
  exact of_decide_eq_true hdue

/-- And the others have not, if the deliveries are in order. -/
theorem lt_due_of_mem_dropWhile {ds : List Delivery} (hds : ds.Pairwise fun d e => d.due ≤ e.due)
    {d : Delivery} (hd : d ∈ ds.dropWhile fun d => d.due ≤ time) : time < d.due := by
  induction ds with
  | nil => cases hd
  | cons e es ih =>
    obtain ⟨hfirst, hrest⟩ := List.pairwise_cons.mp hds
    rw [List.dropWhile_cons] at hd
    split at hd
    · exact ih hrest hd
    · next he =>
      rw [decide_eq_true_iff] at he
      rcases List.mem_cons.mp hd with rfl | hd
      · omega
      · have := hfirst d hd
        omega

/-- **Time passes until a later moment.** -/
theorem advanceTo_passes (hw : w.Punctual) (htime : w.now ≤ time) :
    Passes none w (w.pending.takeWhile fun d => d.due ≤ time) (w.advanceTo time) := by
  have hnow : (w.advanceTo time).now = time :=
    Nat.max_eq_right (now_deliver_le htime fun d hd => due_of_mem_takeWhile hd)
  obtain ⟨hmanagers, hhandles, hpending, hcount⟩ := deliver_rest
    (w.pending.takeWhile fun d => d.due ≤ time)
    { w with pending := w.pending.dropWhile fun d => d.due ≤ time }
  constructor
  case time => exact hnow.symm ▸ htime
  case pending => rw [advanceTo, hpending, List.takeWhile_append_dropWhile]
  case past => exact fun d hd => hnow.symm ▸ due_of_mem_takeWhile hd
  case future =>
    intro _ d hd
    rw [advanceTo, hpending] at hd
    exact hnow.symm ▸ lt_due_of_mem_dropWhile hw.sorted hd
  case managers => exact hmanagers
  case handles => exact hhandles
  case count => exact hcount
  case stores =>
    intro p _
    exact stores_deliver { w with pending := w.pending.dropWhile fun d => d.due ≤ time }
      (hw.sorted.sublist (List.takeWhile_sublist _))
      (fun d hd => hw.future d (List.takeWhile_subset _ hd)) p

/-- **And while a look-up waits**, which aims at its store. -/
theorem await_passes {poll : Nat} (hpoll : 0 < poll) (hw : w.Punctual) (place : Nat)
    (waiter : Waiter) (fuel : Nat) :
    ∃ made, Passes (some place) w made (await poll place waiter fuel w).2 := by
  induction fuel generalizing w with
  | zero => exact ⟨[], .refl _ w⟩
  | succ fuel ih =>
    rw [await]
    split
    · exact ⟨[], .refl _ w⟩
    · next s _ =>
      split
      · exact ⟨[], passes_updateStore w place _⟩
      · exact ⟨[], passes_updateStore w place _⟩
      · next wake after hattempt =>
        have hchecked := passes_updateStore w place fun _ => after
        have hlt : w.now < wake := Waiter.lt_of_attempt_sleep hpoll hattempt
        have hslept := advanceTo_passes (hchecked.punctual hw) (Nat.le_of_lt hlt)
        obtain ⟨made, hrest⟩ := ih (hslept.punctual (hchecked.punctual hw))
        exact ⟨_, (hchecked.trans (hslept.aimed _)).trans hrest⟩

end World
end Correlation
end Scenario
