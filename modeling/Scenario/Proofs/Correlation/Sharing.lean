import Mathlib.Data.List.Induction
import Scenario.Proofs.Correlation.Entries
import Scenario.Proofs.Correlation.Passage

/-!
# Sharing — which store a step changes

Managers, their copies and handles point to stores, any number of them to the
same one, and a delivery under way points to the store that its manager
pointed to when it was sent. A step aims at the store that its manager or
handle points to at that moment (`World.target?`), may point one manager to
another store (`World.repointed?`), and may add to the world (`World.adds`).

`World.Frame` says that it does nothing else but let time pass, and
`World.step_frame` that this is so of every step. From step to step, what is
to be delivered was sent before (`World.invariant_after`).
`World.steps_keep_apart` puts the two together.
-/

namespace Scenario
namespace Correlation

open Config (Settings)

namespace World

variable {w w' : World} {made : List Delivery} {s : Step} {d : Delivery} {place : Nat}

/-- The world after several steps. -/
def after (w : World) (steps : List Step) : World := steps.foldl (fun w s => (w.step s).2) w

theorem after_snoc (w : World) (steps : List Step) (s : Step) :
    w.after (steps ++ [s]) = ((w.after steps).step s).2 := List.foldl_append

/-- The place of the store that a step aims at. -/
def target? (w : World) : Step → Option Nat
  | .store i _ _ | .find i _ _ | .findDefault i _ | .tryFind i _ => (w.managers[i]?).map (·.store)
  | .add h _ _ | .remove h _ | .clear h => w.handles[h]?
  | _ => none

/-- The store that a step points a manager to. -/
def repointed? (w : World) (manager : Nat) : Step → Option Nat
  | .setStore i h => if i = manager then w.handles[h]? else none
  | _ => none

/-- What a step adds to the world. -/
structure Additions where
  /-- New stores. -/
  stores : List (Store String) := []
  /-- New managers. -/
  managers : List Manager := []
  /-- New handles. -/
  handles : List Nat := []
  /-- Deliveries that are sent. -/
  pending : List Delivery := []

/-- A copy of a manager points to the store of the manager, or to the one it
is given; a new handle to the store of the manager, or to the new store; and a
delivery to the store of its manager. -/
def adds (w : World) : Step → Additions
  | .later i key value afterMs =>
    { pending := ((w.managers[i]?).map fun m => ⟨w.now + afterMs, m.store, key, value⟩).toList }
  | .clone i => { managers := (w.managers[i]?).toList }
  | .withStore i h =>
    { managers := ((w.managers[i]?).bind fun m =>
        (w.handles[h]?).map fun place => { m with store := place }).toList }
  | .objectStore i => { handles := ((w.managers[i]?).map (·.store)).toList }
  | .newStore capacity => { stores := [Store.empty capacity], handles := [w.stores.length] }
  | _ => {}

/-! ## What a step leaves as it is -/

/-- **A step and what it does**, with the deliveries made meanwhile. -/
structure Frame (w : World) (s : Step) (made : List Delivery) (w' : World) : Prop where
  /-- Time does not go back. -/
  time : w.now ≤ w'.now
  /-- What was to be delivered has been made, or remains beside what the step
  sends; it remains only until it comes due. -/
  pending : ∃ left, w.pending = made ++ left ∧
    w'.pending = (w.adds s).pending.foldr schedule left ∧
    (w.now < w'.now → ∀ d ∈ left, w'.now < d.due)
  /-- What is made has come due meanwhile. -/
  past : ∀ d ∈ made, w.now ≤ d.due ∧ d.due ≤ w'.now
  /-- Each store that the step does not aim at takes in the deliveries to it,
  and nothing else. -/
  stores : ∃ old, w'.stores = old ++ (w.adds s).stores ∧ old.length = w.stores.length ∧
    ∀ p, w.target? s ≠ some p → old[p]? = (w.stores[p]?).map (receive p made)
  /-- Each manager keeps its settings, and its store if the step does not point
  it to another one. -/
  managers : ∃ old : List Manager, w'.managers = old ++ (w.adds s).managers ∧
    ∀ j, old[j]? = (w.managers[j]?).map fun m : Manager =>
      { m with store := (w.repointed? j s).getD m.store }
  /-- Handles point where they did. -/
  handles : w'.handles = w.handles ++ (w.adds s).handles
  /-- Deliveries are in order still. -/
  punctual : w'.Punctual

/-- A step that points no manager elsewhere leaves the managers. -/
theorem managers_same (hpoint : ∀ j m, w.managers[j]? = some m → w.repointed? j s = none) (j : Nat) :
    w.managers[j]? = (w.managers[j]?).map fun m : Manager =>
      { m with store := (w.repointed? j s).getD m.store } := by
  cases hj : w.managers[j]? with
  | none => rfl
  | some m => rw [Option.map_some, hpoint j m hj]; rfl

/-- A step that adds nothing and points no manager elsewhere does what it is
said to do if it lets time pass. -/
theorem Passes.frame (h : Passes (w.target? s) w made w') (hw : w.Punctual) (hadds : w.adds s = {})
    (hpoint : ∀ j m, w.managers[j]? = some m → w.repointed? j s = none) : Frame w s made w' where
  time := h.time
  pending := ⟨w'.pending, h.pending, by rw [hadds]; rfl, h.future⟩
  past d hd := by
    refine ⟨hw.future d ?_, h.past d hd⟩
    rw [h.pending]
    exact List.mem_append_left _ hd
  stores := ⟨w'.stores, by rw [hadds, List.append_nil], h.count, h.stores⟩
  managers := ⟨w.managers, by rw [hadds, List.append_nil, h.managers], managers_same hpoint⟩
  handles := by rw [hadds, List.append_nil, h.handles]
  punctual := h.punctual hw

/-- What is sent is sent by a manager, to its store, for now or later. -/
theorem sent_of_mem_adds (h : d ∈ (w.adds s).pending) :
    ∃ i key value afterMs m, s = .later i key value afterMs ∧ w.managers[i]? = some m ∧
      d = ⟨w.now + afterMs, m.store, key, value⟩ := by
  cases s with
  | later i key value afterMs =>
    obtain ⟨m, hm, rfl⟩ := Option.map_eq_some_iff.mp (Option.mem_toList.mp h)
    exact ⟨i, key, value, afterMs, m, rfl, hm, rfl⟩
  | _ => cases h

/-- And so does a step in no time that adds what it is said to add, and points
to the stores it is said to point to. -/
theorem frame_of_adds (hw : w.Punctual) (old : List Manager)
    (hw' : w' = { w with
      stores := w.stores ++ (w.adds s).stores
      managers := old ++ (w.adds s).managers
      handles := w.handles ++ (w.adds s).handles
      pending := (w.adds s).pending.foldr schedule w.pending })
    (hold : ∀ j, old[j]? = (w.managers[j]?).map fun m : Manager =>
      { m with store := (w.repointed? j s).getD m.store }) : Frame w s [] w' := by
  subst hw'
  exact {
    time := Nat.le_refl _
    pending := ⟨w.pending, rfl, rfl, fun h => absurd h (Nat.lt_irrefl _)⟩
    past := fun _ hd => nomatch hd
    stores := ⟨w.stores, rfl, rfl, (Passes.refl _ w).stores⟩
    managers := ⟨old, rfl, hold⟩
    handles := rfl
    punctual := by
      refine hw.of_schedule (fun d hd => ?_) rfl rfl
      obtain ⟨_, _, _, afterMs, m, -, -, rfl⟩ := sent_of_mem_adds hd
      exact Nat.le_add_right _ _ }

/-- The steps that add nothing, and point no manager elsewhere. -/
def Plain : Step → Prop
  | .later .. | .clone .. | .objectStore .. | .newStore .. | .setStore .. | .withStore .. => False
  | _ => True

theorem Plain.adds_eq (hs : Plain s) (w : World) : w.adds s = {} := by
  cases s <;> first | rfl | cases hs

theorem Plain.repointed?_eq (hs : Plain s) (w : World) (j : Nat) : w.repointed? j s = none := by
  cases s <;> first | rfl | cases hs

/-- Scopes are apart from stores. -/
theorem passes_setScope (aim : Option Nat) (w : World) (name : String) (scope : Scope) :
    Passes aim w [] (w.setScope name scope) := { Passes.refl aim w with }

/-- Such a step lets time pass, and aims at one store at most. -/
theorem step_passes (hw : w.Punctual) (hs : Plain s) :
    ∃ made, Passes (w.target? s) w made (w.step s).2 := by
  cases s with
  | store i _ _ | tryFind i _ =>
    rw [step, target?]
    cases w.managers[i]? with
    | none => exact ⟨[], .refl _ w⟩
    | some m => exact ⟨[], passes_updateStore ..⟩
  | find i _ _ | findDefault i _ =>
    rw [step, target?]
    cases w.managers[i]? with
    | none => exact ⟨[], .refl _ w⟩
    | some m => exact await_passes m.settings.pollInterval_pos hw m.store _ _
  | wait ms => exact ⟨_, advanceTo_passes hw (Nat.le_add_right w.now ms)⟩
  | add h _ _ | remove h _ | clear h =>
    rw [step, target?]
    cases w.handles[h]? with
    | none => exact ⟨[], .refl _ w⟩
    | some place => exact ⟨[], passes_updateStore ..⟩
  | contains h _ | isEmpty h =>
    rw [step]
    cases (w.handles[h]?).bind (w.stores[·]?) with
    | none => exact ⟨[], .refl _ w⟩
    | some _ => exact ⟨[], .refl _ w⟩
  | settings i =>
    rw [step]
    cases w.managers[i]? with
    | none => exact ⟨[], .refl _ w⟩
    | some _ => exact ⟨[], .refl _ w⟩
  | saveKey i _ _ _ =>
    rw [step]
    cases w.managers[i]? with
    | none => exact ⟨[], .refl _ w⟩
    | some _ => exact ⟨[], passes_setScope ..⟩
  | getKey i label name =>
    simp only [step]
    split
    · split <;> exact ⟨[], .refl _ w⟩
    · exact ⟨[], .refl _ w⟩
  | later | clone | objectStore | newStore | setStore | withStore => cases hs

/-- **What a step does.** -/
theorem step_frame (hw : w.Punctual) (s : Step) : ∃ made, Frame w s made (w.step s).2 := by
  have hplain : Plain s → ∃ made, Frame w s made (w.step s).2 := by
    intro hs
    obtain ⟨made, h⟩ := step_passes hw hs
    exact ⟨made, h.frame hw (hs.adds_eq w) fun j _ _ => hs.repointed?_eq w j⟩
  cases s with
  | later i _ _ _ | clone i | objectStore i =>
    refine ⟨[], frame_of_adds hw w.managers ?_ (managers_same fun _ _ _ => rfl)⟩
    rw [step, adds]
    cases w.managers[i]? with
    | none => simp
    | some m => simp [addManager]
  | newStore capacity =>
    refine ⟨[], frame_of_adds hw w.managers ?_ (managers_same fun _ _ _ => rfl)⟩
    simp [step, adds]
  | withStore i h =>
    refine ⟨[], frame_of_adds hw w.managers ?_ (managers_same fun _ _ _ => rfl)⟩
    rw [step, adds]
    cases w.managers[i]? with
    | none => simp
    | some m =>
      cases w.handles[h]? with
      | none => simp
      | some place => simp [addManager]
  | setStore i h =>
    simp only [step]
    split
    · next m place hm hplace =>
      refine ⟨[], frame_of_adds hw (w.managers.modify i fun m => { m with store := place }) ?_ ?_⟩
      · simp [adds, repoint]
      · intro j
        rw [List.getElem?_modify, repointed?, hplace]
        congr 1
        funext m
        split <;> rfl
    · next hnone =>
      refine ⟨[], frame_of_adds hw w.managers (by simp [adds]) (managers_same fun j m hj => ?_)⟩
      -- one of the two is not there
      rw [repointed?]
      split
      · next hij =>
        subst hij
        cases hplace : w.handles[h]? with
        | none => rfl
        | some place => exact absurd hplace (hnone m place hj)
      · rfl
  | _ => exact hplain trivial

/-! ## Runs -/

/-- A delivery was sent in the course of some steps: by a manager, to the
store that it pointed to at that moment. -/
def SentBy (w : World) (steps : List Step) (d : Delivery) : Prop :=
  ∃ before i key value afterMs rest m, steps = before ++ .later i key value afterMs :: rest ∧
    (w.after before).managers[i]? = some m ∧
    d = ⟨(w.after before).now + afterMs, m.store, key, value⟩

variable {steps : List Step}

theorem SentBy.snoc (h : w.SentBy steps d) (s : Step) : w.SentBy (steps ++ [s]) d := by
  obtain ⟨before, i, key, value, afterMs, rest, m, rfl, hm, hd⟩ := h
  exact ⟨before, i, key, value, afterMs, rest ++ [s], m, by simp, hm, hd⟩

/-- Managers and handles point to stores that are there. -/
structure Placed (w : World) : Prop where
  /-- Managers do. -/
  managers : ∀ m ∈ w.managers, m.store < w.stores.length
  /-- And handles. -/
  handles : ∀ place ∈ w.handles, place < w.stores.length

theorem Placed.manager_lt (hw : w.Placed) {i : Nat} {m : Manager} (hm : w.managers[i]? = some m) :
    m.store < w.stores.length := hw.managers m (List.mem_of_getElem? hm)

theorem Placed.handle_lt (hw : w.Placed) {h : Nat} (hh : w.handles[h]? = some place) :
    place < w.stores.length := hw.handles place (List.mem_of_getElem? hh)

theorem placed_start (settings : Settings) : (start settings).Placed where
  managers m hm := by
    rw [List.mem_singleton.mp hm]
    exact Nat.zero_lt_one
  handles _ hplace := nomatch hplace

/-- New managers point to stores that are there. -/
theorem Placed.adds_managers (hw : w.Placed) {m : Manager} (hm : m ∈ (w.adds s).managers) :
    m.store < w.stores.length := by
  cases s with
  | clone i => exact hw.manager_lt (Option.mem_toList.mp hm)
  | withStore i h =>
    obtain ⟨m, -, hm⟩ := Option.bind_eq_some_iff.mp (Option.mem_toList.mp hm)
    obtain ⟨place, hplace, rfl⟩ := Option.map_eq_some_iff.mp hm
    exact hw.handle_lt hplace
  | _ => cases hm

/-- New handles point to one of them, or to the new one. -/
theorem Placed.adds_handles (hw : w.Placed) (hplace : place ∈ (w.adds s).handles) :
    place < w.stores.length + (w.adds s).stores.length := by
  cases s with
  | objectStore i =>
    obtain ⟨m, hm, rfl⟩ := Option.map_eq_some_iff.mp (Option.mem_toList.mp hplace)
    exact hw.manager_lt hm
  | newStore capacity =>
    rw [List.mem_singleton.mp hplace]
    exact Nat.lt_succ_self _
  | _ => cases hplace

theorem Placed.repointed (hw : w.Placed) {j : Nat} (hplace : w.repointed? j s = some place) :
    place < w.stores.length := by
  cases s with
  | setStore i h =>
    rw [repointed?] at hplace
    split at hplace
    · exact hw.handle_lt hplace
    · cases hplace
  | _ => cases hplace

/-- **A step points nothing to a store that is not there.** -/
theorem Frame.placed (h : Frame w s made w') (hw : w.Placed) : w'.Placed := by
  obtain ⟨oldStores, hstores, hcount, -⟩ := h.stores
  obtain ⟨oldManagers, hmanagers, hold⟩ := h.managers
  have hlength : w'.stores.length = w.stores.length + (w.adds s).stores.length := by
    rw [hstores, List.length_append, hcount]
  constructor
  case managers =>
    intro m hm
    have hlt : m.store < w.stores.length := by
      rw [hmanagers] at hm
      rcases List.mem_append.mp hm with hm | hm
      · obtain ⟨j, hj⟩ := List.mem_iff_getElem?.mp hm
        rw [hold j] at hj
        obtain ⟨m₀, hm₀, rfl⟩ := Option.map_eq_some_iff.mp hj
        cases hplace : w.repointed? j s with
        | none => exact hw.manager_lt hm₀
        | some place => exact hw.repointed hplace
      · exact hw.adds_managers hm
    omega
  case handles =>
    intro place hplace
    rw [h.handles] at hplace
    rw [hlength]
    rcases List.mem_append.mp hplace with hplace | hplace
    · exact Nat.lt_add_right _ (hw.handles place hplace)
    · exact hw.adds_handles hplace

theorem punctual_start (settings : Settings) : (start settings).Punctual :=
  ⟨.nil, fun _ hd => nomatch hd⟩

/-- **In every run** deliveries are in order, managers and handles point to
stores that are there, and what is still to be delivered was sent. -/
theorem invariant_after (settings : Settings) (steps : List Step) :
    ((start settings).after steps).Punctual ∧ ((start settings).after steps).Placed ∧
      ∀ d ∈ ((start settings).after steps).pending, (start settings).SentBy steps d := by
  induction steps using List.reverseRecOn with
  | nil => exact ⟨punctual_start settings, placed_start settings, fun _ hd => nomatch hd⟩
  | append_singleton steps s ih =>
    obtain ⟨hpunctual, hplaced, hsent⟩ := ih
    obtain ⟨made, h⟩ := step_frame hpunctual s
    rw [after_snoc]
    refine ⟨h.punctual, h.placed hplaced, fun d hd => ?_⟩
    obtain ⟨left, hpending, hleft, -⟩ := h.pending
    rw [hleft] at hd
    rcases mem_foldr_schedule.mp hd with hd | hd
    · obtain ⟨i, key, value, afterMs, m, rfl, hm, rfl⟩ := sent_of_mem_adds hd
      exact ⟨steps, i, key, value, afterMs, [], m, rfl, hm, rfl⟩
    · exact (hsent d (hpending ▸ List.mem_append_right _ hd)).snoc s

/-! ## What managers see of each other -/

/-- What a manager takes without waiting is in its store. -/
theorem tryFind_eq {j : Nat} {m : Manager} (hm : w.managers[j]? = some m) (key : String) :
    (w.step (.tryFind j key)).1 =
      some (.option ((w.stores[m.store]?).bind fun s => s.value? key)) := by
  rw [step, hm]
  rfl

/-- And after another one has stored a value, it is that value if the store is
the same. -/
theorem tryFind_store {i j : Nat} {m m' : Manager} (hm : w.managers[i]? = some m)
    (hm' : w.managers[j]? = some m') (key value : String) :
    ((w.step (.store i key value)).2.step (.tryFind j key)).1 =
      some (.option ((w.stores[m'.store]?).bind fun s =>
        if m.store = m'.store then some value else s.value? key)) := by
  have hstep : (w.step (.store i key value)).2 = w.addTo m.store key value := by
    rw [step, hm]
  have hmanagers : (w.addTo m.store key value).managers[j]? = some m' := hm'
  rw [hstep, tryFind_eq hmanagers, addTo, getElem?_updateStore]
  cases w.stores[m'.store]? with
  | none => rfl
  | some s =>
    rw [Option.map_some, Option.bind_some, Option.bind_some]
    split
    · rw [Store.value?_add_self]
    · rfl

/-- **Managers see each other's values exactly while they point to the same
store.** -/
theorem store_eq_iff_tryFind (hw : w.Placed) {i j : Nat} {m m' : Manager}
    (hm : w.managers[i]? = some m) (hm' : w.managers[j]? = some m') :
    m.store = m'.store ↔ ∀ key value,
      ((w.step (.store i key value)).2.step (.tryFind j key)).1 =
        some (.option (some value)) := by
  obtain ⟨s, hs⟩ : ∃ s, w.stores[m'.store]? = some s :=
    ⟨_, List.getElem?_eq_getElem (hw.manager_lt hm')⟩
  simp only [tryFind_store hm hm', hs, Option.bind_some, Option.some.injEq, Reply.option.injEq]
  constructor
  · intro heq _ _
    rw [if_pos heq]
  · intro hsees
    by_contra hne
    -- one value in the store cannot be both of two that are stored elsewhere
    have ha := hsees "" "a"
    have hb := hsees "" "b"
    rw [if_neg hne] at ha hb
    rw [ha] at hb
    exact absurd hb (by decide)

/-- **Stores, managers and handles do not leak into each other.** After any
steps, let there be one more. Each store it does not aim at takes in the
deliveries to it that come due meanwhile, and changes in no other way; no
manager but the one it points to another store changes, copies are added and
leave their originals as they were, and handles point where they did. Each
delivery goes to the store that its manager pointed to when it was sent. And
of two managers each sees what the other one stores exactly while the two
point to the same store: otherwise what it sees does not change. -/
theorem steps_keep_apart (settings : Settings) (steps : List Step) :
    let w := (start settings).after steps
    (∀ s, ∃ made, Frame w s made (w.step s).2) ∧
      (∀ d ∈ w.pending, (start settings).SentBy steps d) ∧
      ∀ i j m m', w.managers[i]? = some m → w.managers[j]? = some m' →
        (m.store = m'.store ↔ ∀ key value,
          ((w.step (.store i key value)).2.step (.tryFind j key)).1 =
            some (.option (some value))) ∧
        (m.store ≠ m'.store → ∀ key value,
          ((w.step (.store i key value)).2.step (.tryFind j key)).1 =
            (w.step (.tryFind j key)).1) := by
  intro w
  obtain ⟨hpunctual, hplaced, hsent⟩ := invariant_after settings steps
  refine ⟨step_frame hpunctual, hsent, fun i j m m' hm hm' => ⟨?_, fun hne key value => ?_⟩⟩
  · exact store_eq_iff_tryFind hplaced hm hm'
  · rw [tryFind_store hm hm', tryFind_eq hm']
    simp only [if_neg hne]

end World
end Correlation
end Scenario
