import Mathlib.Logic.ExistsUnique
import Scenario.Proofs.Correlation.Interleaving

/-!
# The ledger of a store — what becomes of every value added

Each addition gets a number of its own (`History.tag`), so it can be told
apart from others with the same key and value. `Meets` says what has become
of an addition by some moment: it is still in the store, or it left at one
event, for one of four reasons.

An entry in the store is always the latest addition under its key
(`History.exists_added`), and an entry that is not there any more has left
with an event that says why (`Effect.exit`). What has left does not come
back, because later additions get larger numbers, so there is exactly one
fate for each addition (`existsUnique_meets`). Nothing is said about the
order of the moves: the ledger is exact for every interleaving.
-/

namespace Scenario
namespace Correlation

open Config (Settings)

variable {α : Type}

/-! ## How an entry leaves a store -/

/-- The events with which an entry can leave a store. -/
inductive Exit (s : Store α) (e : Entry α) : Event α → Prop
  /-- A consumer takes it. -/
  | taken : Exit s e (.asked e.key (some e.value))
  /-- Another value is added under its key. -/
  | replaced (value : α) : Exit s e (.added e.key value)
  /-- The store is full, and a value is added under another key. -/
  | dropped (key : String) (value : α) : key ≠ e.key → s.isFull = true → Exit s e (.added key value)
  /-- The store is cleared. -/
  | cleared : Exit s e .cleared

/-- **An entry leaves with an event that says why.** -/
theorem Effect.exit {s t : Store α} {event : Event α} {e : Entry α} (h : Effect s event t)
    (hs : s.KeysDistinct) (he : e ∈ s.entries) (hne : e ∉ t.entries) : Exit s e event := by
  cases h with
  | added now key value =>
    by_cases hkey : key = e.key
    · subst hkey
      exact .replaced value
    · -- what is not there under another key had to make room
      rw [Store.mem_add, not_or, not_and] at hne
      have hroom : e ∉ (s.makeRoom key).entries := fun hmem =>
        hne.1 hmem fun heq => hkey heq.symm
      exact .dropped key value hkey (Store.isFull_of_not_mem_makeRoom he hroom).1
  | asked key =>
    -- an entry under any other key would still be there
    have hkey : e.key = key := Classical.byContradiction fun hkey =>
      hne (Store.mem_remove.mpr ⟨he, hkey⟩)
    subst hkey
    rw [(Store.remove_eq_some_iff hs).mpr ⟨e, he, rfl, rfl⟩]
    exact .taken
  | cleared => exact .cleared
  | looked => exact absurd he hne

/-- And it comes only with its own addition. -/
theorem Effect.enter {s t : Store α} {event : Event α} {e : Entry α} (h : Effect s event t)
    (he : e ∈ t.entries) (hne : e ∉ s.entries) :
    event = .added e.key e.value ∧ e.sequence = s.nextSequence := by
  cases h with
  | added now key value =>
    rcases Store.mem_add.mp he with ⟨hroom, -⟩ | rfl
    · exact absurd ((Store.makeRoom_sublist s key).subset hroom) hne
    · exact ⟨rfl, rfl⟩
  | asked key => exact absurd (Store.mem_remove.mp he).1 hne
  | cleared => cases he
  | looked => exact absurd he hne

theorem Effect.keysDistinct {s t : Store α} {event : Event α} (h : Effect s event t)
    (hs : s.KeysDistinct) : t.KeysDistinct := by
  cases h with
  | added now key value => exact hs.add now key value
  | asked key => exact hs.remove key
  | cleared => exact List.nodup_nil
  | looked => exact hs

/-- After an addition its entry is the only one under the key. -/
theorem Effect.mem_added {s t : Store α} {key : String} {value : α}
    (h : Effect s (.added key value) t) :
    (∃ now, ⟨key, key, value, now, s.nextSequence⟩ ∈ t.entries) ∧
      (∀ e ∈ t.entries, e.key = key → e.sequence = s.nextSequence) ∧
      t.nextSequence = s.nextSequence + 1 := by
  cases h with
  | added now =>
    refine ⟨⟨now, Store.mem_add.mpr (.inr rfl)⟩, fun e he hkey => ?_, Store.nextSequence_add ..⟩
    rcases Store.mem_add.mp he with ⟨-, hne⟩ | rfl
    · exact absurd hkey hne
    · rfl

theorem Effect.nextSequence_le {s t : Store α} {event : Event α} (h : Effect s event t) :
    s.nextSequence ≤ t.nextSequence := by
  cases h with
  | added now key value =>
    rw [Store.nextSequence_add]
    exact Nat.le_succ _
  | asked key => exact Nat.le_refl _
  | cleared => exact Nat.le_refl _
  | looked => exact Nat.le_refl _

/-- A consumer is given the value under the key, and nothing is left there. -/
theorem Effect.asked_iff {s t : Store α} {key : String} {answer : Option α}
    (h : Effect s (.asked key answer) t) (hs : s.KeysDistinct) :
    (∀ value, answer = some value ↔ ∃ e ∈ s.entries, e.key = key ∧ e.value = value) ∧
      ∀ e ∈ t.entries, e.key ≠ key := by
  cases h
  exact ⟨fun _ => Store.remove_eq_some_iff hs, fun e he => (Store.mem_remove.mp he).2⟩

namespace History

variable (h : History α)

/-! ## Where the entries come from -/

theorem keysDistinct (n : Nat) : (h.store n).KeysDistinct := by
  induction n with
  | zero => rw [h.starts]; exact Store.keysDistinct_empty h.limit
  | succ n ih => exact (h.effect n).keysDistinct ih

/-- The number that an addition at this event gets. -/
def tag (n : Nat) : Nat := (h.store n).nextSequence

theorem tag_mono {m n : Nat} (hmn : m ≤ n) : h.tag m ≤ h.tag n := by
  induction hmn with
  | refl => exact Nat.le_refl _
  | @step n _ ih => exact Nat.le_trans ih (h.effect n).nextSequence_le

variable {h} {i j n : Nat} {key : String} {value : α}

/-- **Later additions get larger numbers.** -/
theorem tag_lt (hi : h.event i = .added key value) (hij : i < j) : h.tag i < h.tag j := by
  have heffect := h.effect i
  rw [hi] at heffect
  have hnext : h.tag (i + 1) = h.tag i + 1 := heffect.mem_added.2.2
  have hle : h.tag (i + 1) ≤ h.tag j := h.tag_mono hij
  omega

/-- So a number belongs to one addition. -/
theorem eq_of_tag_eq {key' : String} {value' : α} (hi : h.event i = .added key value)
    (hj : h.event j = .added key' value') (heq : h.tag i = h.tag j) : i = j := by
  rcases Nat.lt_trichotomy i j with hlt | rfl | hlt
  · have := tag_lt hi hlt
    omega
  · rfl
  · have := tag_lt hj hlt
    omega

/-- **Every entry is the latest addition under its key.** -/
theorem exists_added {e : Entry α} (he : e ∈ (h.store n).entries) :
    ∃ i < n, h.event i = .added e.key e.value ∧ e.sequence = h.tag i ∧
      ∀ m value, i < m → m < n → h.event m ≠ .added e.key value := by
  induction n with
  | zero => rw [h.starts] at he; cases he
  | succ n ih =>
    by_cases hn : e ∈ (h.store n).entries
    · obtain ⟨i, hi, hadd, htag, hlatest⟩ := ih hn
      refine ⟨i, Nat.lt_succ_of_lt hi, hadd, htag, fun m value him hm hm' => ?_⟩
      rcases Nat.lt_succ_iff_lt_or_eq.mp hm with hlt | rfl
      · exact hlatest m value him hlt hm'
      · -- an addition at the last event would have replaced the entry
        have heffect := h.effect m
        rw [hm'] at heffect
        have hseq : e.sequence = h.tag m := heffect.mem_added.2.1 e he rfl
        have := tag_lt hadd hi
        omega
    · obtain ⟨hadd, htag⟩ := (h.effect n).enter he hn
      exact ⟨n, Nat.lt_succ_self n, hadd, htag, fun m _ h1 h2 => absurd h1 (by omega)⟩

variable (h i key value)

/-- Before an event, the value of an addition is in the store, under its
key. -/
def Holds (n : Nat) : Prop :=
  ∃ e ∈ (h.store n).entries, e.key = key ∧ e.value = value ∧ e.sequence = h.tag i

/-- The value is in the store before an event, and is not there after it. -/
structure Leaves (j : Nat) : Prop where
  /-- The event comes after the addition. -/
  later : i < j
  /-- The value is there. -/
  held : h.Holds i key value j
  /-- And then it is not. -/
  gone : ¬ h.Holds i key value (j + 1)

end History

/-! ## Fates -/

/-- Why a value is not in the store any more. -/
inductive Ending where
  | delivered
  | overwritten
  | evicted
  | discarded
  deriving DecidableEq

/-- The way in which an event can end a value under a key. -/
def Ending.ofEvent? (key : String) : Event α → Option Ending
  | .asked _ _ => some .delivered
  | .added other _ => some (if other = key then .overwritten else .evicted)
  | .cleared => some .discarded
  | .looked => none

/-- What has become of a value: it is still stored, or it left at some
event. -/
inductive Fate where
  | stored
  | ended (how : Ending) (step : Nat)
  deriving DecidableEq

namespace History

/-- **The event with which a value of an addition at `i` ends in one way.**
A delivered value is what a consumer is given. An overwritten one is
followed by the next addition under its key, and an evicted one by an
addition under another key, for which there was no room. -/
def EndsBy (h : History α) (i : Nat) (key : String) (value : α) (j : Nat) : Ending → Prop
  | .delivered => h.event j = .asked key (some value)
  | .overwritten => (∃ next, h.event j = .added key next) ∧
      ∀ m next, i < m → m < j → h.event m ≠ .added key next
  | .evicted => ∃ other next, h.event j = .added other next ∧ other ≠ key ∧
      (h.store j).isFull = true
  | .discarded => h.event j = .cleared

/-- **What has become, before the event `n`, of a value added at `i`.** -/
inductive Meets (h : History α) (n i : Nat) (key : String) (value : α) : Fate → Prop
  /-- It is in the store. -/
  | stored : h.Holds i key value n → Meets h n i key value .stored
  /-- It has left the store in some way. -/
  | ended {how : Ending} {j : Nat} : j < n → h.Leaves i key value j →
      h.EndsBy i key value j how → Meets h n i key value (.ended how j)

variable {h : History α} {i j n : Nat} {key : String} {value : α}

/-- An entry with the number of an addition is what was added, and still the
latest under its key. -/
theorem latest_of_tag {e : Entry α} (hadd : h.event i = .added key value)
    (he : e ∈ (h.store n).entries) (htag : e.sequence = h.tag i) :
    e.key = key ∧ e.value = value ∧ i < n ∧
      ∀ m value, i < m → m < n → h.event m ≠ .added key value := by
  obtain ⟨i', hi', hadd', htag', hlatest⟩ := exists_added he
  obtain rfl := eq_of_tag_eq hadd hadd' (htag.symm.trans htag')
  rw [hadd] at hadd'
  cases hadd'
  exact ⟨rfl, rfl, hi', hlatest⟩

/-- A value that is added is in the store. -/
theorem holds_of_added (hadd : h.event i = .added key value) : h.Holds i key value (i + 1) := by
  have heffect := h.effect i
  rw [hadd] at heffect
  obtain ⟨now, he⟩ := heffect.mem_added.1
  exact ⟨_, he, rfl, rfl, rfl⟩

/-- **What is there now was there ever since it was added.** -/
theorem Holds.of_le (hadd : h.event i = .added key value) (hn : h.Holds i key value n) {m : Nat}
    (him : i < m) (hmn : m ≤ n) : h.Holds i key value m := by
  induction hmn with
  | refl => exact hn
  | @step n hmn ih =>
    refine ih ?_
    obtain ⟨e, he, hkey, hvalue, htag⟩ := hn
    refine ⟨e, Classical.byContradiction fun hne => ?_, hkey, hvalue, htag⟩
    -- an entry that is new would have a larger number
    have hseq : e.sequence = h.tag n := ((h.effect n).enter he hne).2
    have := tag_lt hadd (Nat.lt_of_lt_of_le him hmn)
    omega

/-- So it leaves only once. -/
theorem Leaves.unique {j' : Nat} (hadd : h.event i = .added key value)
    (hj : h.Leaves i key value j) (hj' : h.Leaves i key value j') : j = j' := by
  rcases Nat.lt_trichotomy j j' with hlt | rfl | hlt
  · exact absurd (hj'.held.of_le hadd (Nat.lt_succ_of_lt hj.later) hlt) hj.gone
  · rfl
  · exact absurd (hj.held.of_le hadd (Nat.lt_succ_of_lt hj'.later) hlt) hj'.gone

/-- The event alone says for what reason. -/
theorem EndsBy.ofEvent?_eq {how : Ending} (he : h.EndsBy i key value j how) :
    Ending.ofEvent? key (h.event j) = some how := by
  cases how with
  | delivered =>
    have hevent : h.event j = .asked key (some value) := he
    rw [hevent]
    rfl
  | overwritten =>
    obtain ⟨⟨next, hevent⟩, -⟩ := he
    rw [hevent, Ending.ofEvent?, if_pos rfl]
  | evicted =>
    obtain ⟨other, next, hevent, hother, -⟩ := he
    rw [hevent, Ending.ofEvent?, if_neg hother]
  | discarded =>
    have hevent : h.event j = .cleared := he
    rw [hevent]
    rfl

/-- So there is only one. -/
theorem EndsBy.unique {how how' : Ending} (he : h.EndsBy i key value j how)
    (he' : h.EndsBy i key value j how') : how = how' :=
  Option.some.inj (he.ofEvent?_eq.symm.trans he'.ofEvent?_eq)

/-- **A value in the store stays there, or leaves for some reason.** -/
theorem Holds.step (hadd : h.event i = .added key value) (hn : h.Holds i key value n)
    (hi : i < n) : h.Holds i key value (n + 1) ∨
      h.Leaves i key value n ∧ ∃ how, h.EndsBy i key value n how := by
  refine Classical.or_iff_not_imp_left.mpr fun hgone => ⟨⟨hi, hn, hgone⟩, ?_⟩
  obtain ⟨e, he, rfl, rfl, htag⟩ := hn
  have hne : e ∉ (h.store (n + 1)).entries := fun hmem => hgone ⟨e, hmem, rfl, rfl, htag⟩
  have hexit := (h.effect n).exit (h.keysDistinct n) he hne
  generalize hevent : h.event n = event at hexit
  cases hexit with
  | taken => exact ⟨.delivered, hevent⟩
  | replaced next =>
    exact ⟨.overwritten, ⟨next, hevent⟩, (latest_of_tag hadd he htag).2.2.2⟩
  | dropped other next hother hfull => exact ⟨.evicted, other, next, hevent, hother, hfull⟩
  | cleared => exact ⟨.discarded, hevent⟩

theorem exists_meets (hadd : h.event i = .added key value) (hi : i < n) :
    ∃ fate, h.Meets n i key value fate := by
  induction hi with
  | refl => exact ⟨.stored, .stored (holds_of_added hadd)⟩
  | @step n hi ih =>
    obtain ⟨fate, hfate⟩ := ih
    cases hfate with
    | stored hn =>
      rcases hn.step hadd hi with hstays | ⟨hleaves, how, hends⟩
      · exact ⟨.stored, .stored hstays⟩
      · exact ⟨.ended how n, .ended (Nat.lt_succ_self n) hleaves hends⟩
    | @ended how j hj hleaves hends =>
      exact ⟨.ended how j, .ended (Nat.lt_succ_of_lt hj) hleaves hends⟩

theorem Meets.unique {fate fate' : Fate} (hadd : h.event i = .added key value)
    (hf : h.Meets n i key value fate) (hf' : h.Meets n i key value fate') : fate = fate' := by
  cases hf with
  | stored hn =>
    cases hf' with
    | stored _ => rfl
    | ended hj hleaves _ =>
      exact absurd (hn.of_le hadd (Nat.lt_succ_of_lt hleaves.later) hj) hleaves.gone
  | ended hj hleaves hends =>
    cases hf' with
    | stored hn => exact absurd (hn.of_le hadd (Nat.lt_succ_of_lt hleaves.later) hj) hleaves.gone
    | ended _ hleaves' hends' =>
      obtain rfl := hleaves.unique hadd hleaves'
      rw [hends.unique hends']

/-- **Every addition has exactly one fate at every moment.** -/
theorem existsUnique_meets (hadd : h.event i = .added key value) (hi : i < n) :
    ∃! fate, h.Meets n i key value fate := by
  obtain ⟨fate, hfate⟩ := exists_meets hadd hi
  exact ⟨fate, hfate, fun _ hother => hother.unique hadd hfate⟩

/-- **What a consumer is given is the latest addition under the key**, and
this is where that addition ends. -/
theorem exists_delivered (hasked : h.event j = .asked key (some value)) :
    ∃ i < j, h.event i = .added key value ∧
      (∀ m next, i < m → m < j → h.event m ≠ .added key next) ∧
      h.Meets (j + 1) i key value (.ended .delivered j) := by
  have heffect := h.effect j
  rw [hasked] at heffect
  obtain ⟨hanswer, hleft⟩ := heffect.asked_iff (h.keysDistinct j)
  obtain ⟨e, he, rfl, rfl⟩ := (hanswer value).mp rfl
  obtain ⟨i, hi, hadd, htag, hlatest⟩ := exists_added he
  have hleaves : h.Leaves i e.key e.value j :=
    ⟨hi, ⟨e, he, rfl, rfl, htag⟩, fun ⟨f, hf, hkey, _⟩ => hleft f hf hkey⟩
  exact ⟨i, hi, hadd, hlatest, .ended (Nat.lt_succ_self j) hleaves hasked⟩

/-- A consumer is refused only if nothing under the key is stored. -/
theorem not_holds_of_refused (hasked : h.event j = .asked key none) (i : Nat) (value : α) :
    ¬ h.Holds i key value j := by
  have heffect := h.effect j
  rw [hasked] at heffect
  rintro ⟨e, he, hkey, hvalue, -⟩
  have := ((heffect.asked_iff (h.keysDistinct j)).1 value).mpr ⟨e, he, hkey, hvalue⟩
  cases this

/-- No addition is delivered twice. -/
theorem Meets.delivered_once {n' j' : Nat} (hadd : h.event i = .added key value)
    (hm : h.Meets n i key value (.ended .delivered j))
    (hm' : h.Meets n' i key value (.ended .delivered j')) : j = j' := by
  cases hm with
  | ended _ hleaves _ =>
    cases hm' with
    | ended _ hleaves' _ => exact hleaves.unique hadd hleaves'

end History

/-- **The ledger is exact in every interleaving.** Some tasks and the holders
of handles take turns on a store of any limit, in any order. Then at every
moment each value added has exactly one fate, none is delivered twice, a
consumer who is given a value gets the latest one added under the key, and
one who is refused finds nothing that was added under the key still stored.
-/
theorem interleaving_conserves (settings : Nat → Settings) (limit : Option Nat)
    (tasks : List (Task α)) (moves : Nat → Move α) :
    let h := History.ofMoves settings limit tasks moves
    (∀ n i key value, h.event i = .added key value → i < n →
      ∃! fate, h.Meets n i key value fate) ∧
    (∀ n n' i j j' key value, h.event i = .added key value →
      h.Meets n i key value (.ended .delivered j) →
      h.Meets n' i key value (.ended .delivered j') → j = j') ∧
    (∀ j key value, h.event j = .asked key (some value) →
      ∃ i < j, h.event i = .added key value ∧
        (∀ m next, i < m → m < j → h.event m ≠ .added key next) ∧
        h.Meets (j + 1) i key value (.ended .delivered j)) ∧
    (∀ j key, h.event j = .asked key none → ∀ i value, ¬ h.Holds i key value j) := by
  refine ⟨?_, ?_, ?_, ?_⟩
  · exact fun n i key value hadd hi => History.existsUnique_meets hadd hi
  · exact fun n n' i j j' key value hadd hm hm' => hm.delivered_once hadd hm'
  · exact fun j key value hasked => History.exists_delivered hasked
  · exact fun j key hasked i value => History.not_holds_of_refused hasked i value

end Correlation
end Scenario
