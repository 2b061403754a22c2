import Scenario.Correlation.Store

/-!
# What a store holds — after each operation

Which entries each operation keeps, adds and drops, as membership facts
about `entries`. Keys stay distinct (`Store.KeysDistinct`), so an entry is
found under its key (`entry?_eq_some_iff`); a full store alone drops an
entry for a new key (`isFull_of_not_mem_makeRoom`).
-/

namespace Scenario
namespace Correlation
namespace Store

variable {α : Type} {s : Store α} {e : Entry α} {key : String}

/-- No two entries have the same key. -/
def KeysDistinct (s : Store α) : Prop := (s.entries.map (·.key)).Nodup

theorem keysDistinct_empty (limit : Option Nat) : (empty (α := α) limit).KeysDistinct :=
  List.nodup_nil

/-- Leaving entries out keeps the keys distinct. -/
theorem KeysDistinct.of_sublist {t : Store α} (h : s.KeysDistinct)
    (hsub : t.entries.Sublist s.entries) : t.KeysDistinct :=
  List.Nodup.sublist (hsub.map _) h

/-- **An entry is found under its key.** -/
theorem entry?_eq_some_iff (h : s.KeysDistinct) :
    s.entry? key = some e ↔ e ∈ s.entries ∧ e.key = key := by
  obtain ⟨entries, nextSequence, capacity⟩ := s
  unfold KeysDistinct at h
  unfold entry?
  induction entries with
  | nil => simp
  | cons f es ih =>
    rw [List.map_cons, List.nodup_cons] at h
    obtain ⟨hf, hes⟩ := h
    by_cases hkey : f.key = key
    · rw [List.find?_cons_of_pos (by simp [hkey]), Option.some.injEq, List.mem_cons]
      constructor
      · rintro rfl
        exact ⟨.inl rfl, hkey⟩
      · rintro ⟨rfl | he, hek⟩
        · rfl
        · exact absurd (List.mem_map.mpr ⟨e, he, hek.trans hkey.symm⟩) hf
    · rw [List.find?_cons_of_neg (by simp [hkey]), ih hes, List.mem_cons]
      constructor
      · exact fun ⟨he, hek⟩ => ⟨.inr he, hek⟩
      · rintro ⟨rfl | he, hek⟩
        · exact absurd hek hkey
        · exact ⟨he, hek⟩

/-! ## Removing -/

theorem mem_without : e ∈ s.without key ↔ e ∈ s.entries ∧ e.key ≠ key := by
  rw [without, List.mem_filter, bne_iff_ne]

/-- The entries under other keys are still there. -/
theorem mem_remove : e ∈ (s.remove key).2.entries ↔ e ∈ s.entries ∧ e.key ≠ key := mem_without

/-- **What is removed is the value of the entry under the key.** -/
theorem remove_eq_some_iff (h : s.KeysDistinct) {value : α} :
    (s.remove key).1 = some value ↔ ∃ e ∈ s.entries, e.key = key ∧ e.value = value := by
  rw [remove, Option.map_eq_some_iff]
  simp only [entry?_eq_some_iff h, and_assoc]

/-- Nothing is removed if nothing is there. -/
theorem remove_eq_none_iff : (s.remove key).1 = none ↔ s.contains key = false := by
  rw [remove, contains, Option.map_eq_none_iff, Option.isSome_eq_false_iff,
    Option.isNone_iff_eq_none]

theorem contains_of_remove {value : α} (h : (s.remove key).1 = some value) :
    s.contains key = true := by
  rw [← Bool.not_eq_false, ← remove_eq_none_iff, h]
  exact fun heq => nomatch heq

theorem KeysDistinct.remove (h : s.KeysDistinct) (key : String) : (s.remove key).2.KeysDistinct :=
  h.of_sublist List.filter_sublist

/-! ## Adding -/

theorem nextSequence_makeRoom (s : Store α) (key : String) :
    (s.makeRoom key).nextSequence = s.nextSequence := by
  unfold makeRoom
  split
  · split <;> rfl
  · rfl

theorem makeRoom_sublist (s : Store α) (key : String) :
    (s.makeRoom key).entries.Sublist s.entries := by
  unfold makeRoom
  split
  · split
    · exact List.filter_sublist
    · exact List.Sublist.refl _
  · exact List.Sublist.refl _

/-- **Only a full store drops an entry**, and only for a new key. -/
theorem isFull_of_not_mem_makeRoom (he : e ∈ s.entries) (hne : e ∉ (s.makeRoom key).entries) :
    s.isFull = true ∧ s.contains key = false := by
  unfold makeRoom at hne
  split at hne
  · next h => simpa using h
  · exact absurd he hne

/-- **What is there after an addition**: what had room, under other keys,
and the new entry. -/
theorem mem_add {now : Nat} {value : α} :
    e ∈ (s.add now key value).entries ↔
      (e ∈ (s.makeRoom key).entries ∧ e.key ≠ key) ∨ e = ⟨key, key, value, now, s.nextSequence⟩ := by
  rw [add, List.mem_append, mem_without, List.mem_singleton, nextSequence_makeRoom]

theorem nextSequence_add (now : Nat) (key : String) (value : α) :
    (s.add now key value).nextSequence = s.nextSequence + 1 := by
  rw [add, nextSequence_makeRoom]

theorem KeysDistinct.add (h : s.KeysDistinct) (now : Nat) (key : String) (value : α) :
    (s.add now key value).KeysDistinct := by
  have hroom : ((s.makeRoom key).without key).Sublist s.entries :=
    List.filter_sublist.trans (makeRoom_sublist s key)
  have hkeys : (((s.makeRoom key).without key).map (·.key)).Nodup :=
    List.Nodup.sublist (hroom.map _) h
  rw [KeysDistinct, Store.add, List.map_append, List.map_singleton, List.nodup_append]
  refine ⟨hkeys, by simp, fun a ha b hb => ?_⟩
  obtain ⟨e, he, rfl⟩ := List.mem_map.mp ha
  rw [List.mem_singleton.mp hb]
  exact (mem_without.mp he).2

/-! ## The value under a key -/

/-- The value stored under a key. -/
def value? (s : Store α) (key : String) : Option α := (s.entry? key).map (·.value)

theorem remove_eq (s : Store α) (key : String) : s.remove key = (s.value? key, s.erase key) := rfl

theorem contains_eq_isSome (s : Store α) (key : String) :
    s.contains key = (s.value? key).isSome := by
  rw [contains, value?, Option.isSome_map]

theorem value?_erase_self (s : Store α) (key : String) : (s.erase key).value? key = none := by
  rw [value?, entry?, erase, without, List.find?_filter, Option.map_eq_none_iff, List.find?_eq_none]
  intro e _
  simp

/-- Removing leaves the values under other keys. -/
theorem value?_erase_of_ne {other : String} (h : other ≠ key) :
    (s.erase other).value? key = s.value? key := by
  rw [value?, value?, entry?, entry?, erase, without, List.find?_filter]
  congr 2
  funext e
  by_cases he : e.key = key
  · simp [he, h.symm]
  · simp [he]

/-- And it never brings a value back. -/
theorem value?_erase_eq_none (h : s.value? key = none) (other : String) :
    (s.erase other).value? key = none := by
  by_cases hkey : other = key
  · rw [hkey, value?_erase_self]
  · rw [value?_erase_of_ne hkey, h]

/-- There is nothing to remove under a key without a value. -/
theorem erase_eq_self (h : s.value? key = none) : s.erase key = s := by
  have hall : (s.entries.filter fun e => e.key != key) = s.entries := by
    refine List.filter_eq_self.mpr fun e he => bne_iff_ne.mpr fun hkey => ?_
    rw [value?, entry?, Option.map_eq_none_iff, List.find?_eq_none] at h
    exact h e he (beq_iff_eq.mpr hkey)
  rw [erase, without, hall]

/-- What is added is the value under its key. -/
theorem value?_add_self (s : Store α) (now : Nat) (key : String) (value : α) :
    (s.add now key value).value? key = some value := by
  have hnone : ((s.makeRoom key).without key).find? (fun e => e.key == key) = none := by
    refine List.find?_eq_none.mpr fun e he => ?_
    simpa using (mem_without.mp he).2
  rw [value?, entry?, add, List.find?_append, hnone]
  simp

/-- A store without a limit always has room. -/
theorem makeRoom_of_unlimited (h : s.capacity = none) (key : String) : s.makeRoom key = s := by
  rw [makeRoom, isFull, h]
  rfl

/-- So adding to it leaves the values under other keys. -/
theorem value?_add_of_ne (hcap : s.capacity = none) {other : String} (h : other ≠ key) (now : Nat)
    (value : α) : (s.add now other value).value? key = s.value? key := by
  have hold := value?_erase_of_ne (s := s) h
  have hnew : (other == key) = false := beq_eq_false_iff_ne.mpr h
  rw [value?, entry?, erase] at hold
  rw [← hold, value?, entry?, add, makeRoom_of_unlimited hcap, List.find?_append]
  simp [hnew]

end Store
end Correlation
end Scenario
