import Scenario.Unicode.Property

/-!
# Membership in sets of characters

A set is looked up in intervals that rise, and it is put together from
intervals in any order. `Covers` says which code points some intervals hold,
without looking at their order. Looking a code point up in rising intervals
finds it exactly if they cover it (`inRanges_eq_true_iff`), and joining what
touches keeps what is covered (`joinFrom_spec`), so a set contains what the
intervals it was made of cover (`contains_ofRanges`), and a union what
either set contains (`contains_union`).
-/

namespace Scenario
namespace Unicode

/-- An interval covers a code point that is between its ends. -/
def Covers (ranges : Ranges) (n : Nat) : Prop := ∃ r ∈ ranges, r.1 ≤ n ∧ n ≤ r.2

/-- No interval of a list is empty. -/
def Proper (ranges : Ranges) : Prop := ∀ r ∈ ranges, r.1 ≤ r.2

instance (ranges : Ranges) : Decidable (Proper ranges) :=
  inferInstanceAs (Decidable (∀ r ∈ ranges, r.1 ≤ r.2))

/-- **Intervals that rise**: none is empty, and each ends before the next
begins. -/
structure Rising (ranges : Ranges) : Prop where
  /-- None is empty. -/
  proper : Proper ranges
  /-- And they do not overlap. -/
  apart : ranges.Pairwise fun r s => r.2 < s.1

variable {ranges : Ranges} {r : Nat × Nat} {n : Nat}

theorem covers_cons : Covers (r :: ranges) n ↔ r.1 ≤ n ∧ n ≤ r.2 ∨ Covers ranges n := by
  simp only [Covers, List.mem_cons, or_and_right, exists_or, exists_eq_left]

theorem covers_append {more : Ranges} :
    Covers (ranges ++ more) n ↔ Covers ranges n ∨ Covers more n := by
  simp only [Covers, List.mem_append, or_and_right, exists_or]

theorem rising_cons : Rising (r :: ranges) ↔
    r.1 ≤ r.2 ∧ (∀ s ∈ ranges, r.2 < s.1) ∧ Rising ranges := by
  constructor
  · rintro ⟨hproper, hapart⟩
    obtain ⟨hfirst, hrest⟩ := List.pairwise_cons.mp hapart
    exact ⟨hproper r List.mem_cons_self, hfirst,
      fun s hs => hproper s (List.mem_cons_of_mem r hs), hrest⟩
  · rintro ⟨hr, hfirst, hproper, hapart⟩
    refine ⟨fun s hs => ?_, List.pairwise_cons.mpr ⟨hfirst, hapart⟩⟩
    rcases List.mem_cons.mp hs with rfl | hs
    · exact hr
    · exact hproper s hs

/-- **Looking up in rising intervals** finds what they cover, though it stops
at the first interval that does not end before. -/
theorem inRanges_eq_true_iff (h : Rising ranges) : inRanges ranges n = true ↔ Covers ranges n := by
  induction ranges with
  | nil => simp [inRanges, Covers]
  | cons r ranges ih =>
    obtain ⟨low, high⟩ := r
    obtain ⟨-, hfirst, hrest⟩ := rising_cons.mp h
    rw [inRanges, covers_cons]
    by_cases hn : n ≤ high
    · -- no later interval begins early enough
      have hnone : ¬ Covers ranges n := by
        rintro ⟨s, hs, hlow, -⟩
        have := hfirst s hs
        dsimp only at this
        omega
      rw [if_pos hn, decide_eq_true_eq]
      exact ⟨fun hlow => .inl ⟨hlow, hn⟩, fun hc => (hc.resolve_right hnone).1⟩
    · rw [if_neg hn, ih hrest]
      exact ⟨.inr, fun hc => hc.resolve_left fun hin => hn hin.2⟩

namespace CharSet

/-- **Joining keeps what is covered.** The intervals come in the order of
their beginnings, and the first one takes those in that it touches. -/
theorem joinFrom_spec (hr : r.1 ≤ r.2) (hproper : Proper ranges)
    (hfirst : ∀ s ∈ ranges, r.1 ≤ s.1) (hsorted : ranges.Pairwise fun s t => s.1 ≤ t.1) :
    Rising (joinFrom r ranges) ∧ (∀ s ∈ joinFrom r ranges, r.1 ≤ s.1) ∧
      ∀ n, Covers (joinFrom r ranges) n ↔ Covers (r :: ranges) n := by
  induction ranges generalizing r with
  | nil =>
    refine ⟨rising_cons.mpr ⟨hr, by simp, by simp [Proper], .nil⟩, ?_, fun _ => Iff.rfl⟩
    intro s hs
    rw [joinFrom, List.mem_singleton] at hs
    exact Nat.le_of_eq (hs ▸ rfl)
  | cons s rest ih =>
    obtain ⟨hs, hrest⟩ := List.pairwise_cons.mp hsorted
    have hsproper : s.1 ≤ s.2 := hproper s List.mem_cons_self
    have hrs : r.1 ≤ s.1 := hfirst s List.mem_cons_self
    have hproper' : Proper rest := fun t ht => hproper t (List.mem_cons_of_mem s ht)
    rw [joinFrom]
    by_cases htouch : s.1 ≤ r.2 + 1
    · -- the first interval grows, and keeps its beginning
      rw [if_pos htouch]
      have hmax : (r.1, Nat.max r.2 s.2).1 ≤ (r.1, Nat.max r.2 s.2).2 :=
        Nat.le_trans hr (Nat.le_max_left _ _)
      obtain ⟨hrising, hlow, hcovers⟩ := ih hmax hproper'
        (fun t ht => hfirst t (List.mem_cons_of_mem s ht)) hrest
      refine ⟨hrising, hlow, fun n => ?_⟩
      rw [hcovers, covers_cons, covers_cons, covers_cons, ← or_assoc]
      refine or_congr_left ?_
      rw [show Nat.max r.2 s.2 = max r.2 s.2 from rfl]
      omega
    · rw [if_neg htouch]
      obtain ⟨hrising, hlow, hcovers⟩ := ih hsproper hproper' hs hrest
      refine ⟨rising_cons.mpr ⟨hr, fun t ht => ?_, hrising⟩, fun t ht => ?_, fun n => ?_⟩
      · have := hlow t ht
        omega
      · rcases List.mem_cons.mp ht with rfl | ht
        · exact Nat.le_refl _
        · exact Nat.le_trans hrs (hlow t ht)
      · rw [covers_cons, hcovers, ← covers_cons]

/-- The order in which intervals are joined is one. -/
theorem pairwise_mergeSort_startsBefore (ranges : Ranges) :
    (ranges.mergeSort startsBefore).Pairwise fun r s => r.1 ≤ s.1 := by
  have hle : ∀ r s : Nat × Nat, startsBefore r s = true ↔
      r.1 < s.1 ∨ r.1 = s.1 ∧ r.2 ≤ s.2 := by
    intro r s
    simp [startsBefore]
  have hsorted : (ranges.mergeSort startsBefore).Pairwise fun r s => startsBefore r s = true := by
    refine List.pairwise_mergeSort (fun r s t hrs hst => ?_) (fun r s => ?_) ranges
    · rw [hle] at hrs hst ⊢
      omega
    · rw [Bool.or_eq_true, hle, hle]
      omega
  refine hsorted.imp fun {r s} hrs => ?_
  rw [hle] at hrs
  omega

/-- **A set made of intervals** keeps them rising and covers what they do. -/
theorem ofRanges_spec (h : Proper ranges) :
    Rising (ofRanges ranges).ranges ∧ ∀ n, Covers (ofRanges ranges).ranges n ↔ Covers ranges n := by
  have hmem : ∀ s, s ∈ ranges.mergeSort startsBefore ↔ s ∈ ranges := fun s => List.mem_mergeSort
  have hcovers : ∀ n, Covers (ranges.mergeSort startsBefore) n ↔ Covers ranges n := by
    intro n
    simp only [Covers, hmem]
  have hproper : Proper (ranges.mergeSort startsBefore) := fun s hs => h s ((hmem s).mp hs)
  have hsorted := pairwise_mergeSort_startsBefore ranges
  show Rising (join (ranges.mergeSort startsBefore)) ∧
    ∀ n, Covers (join (ranges.mergeSort startsBefore)) n ↔ Covers ranges n
  cases hrs : ranges.mergeSort startsBefore with
  | nil =>
    rw [hrs] at hcovers
    exact ⟨⟨by simp [join, Proper], .nil⟩, hcovers⟩
  | cons r rest =>
    rw [hrs] at hcovers hproper hsorted
    obtain ⟨hfirst, hrest⟩ := List.pairwise_cons.mp hsorted
    obtain ⟨hrising, -, hjoin⟩ := joinFrom_spec (hproper r List.mem_cons_self)
      (fun s hs => hproper s (List.mem_cons_of_mem r hs)) hfirst hrest
    exact ⟨hrising, fun n => (hjoin n).trans (hcovers n)⟩

variable {s t : CharSet} {c : Char}

/-- A set of rising intervals contains what they cover. -/
theorem contains_eq_true_iff (h : Rising s.ranges) :
    s.contains c = true ↔ Covers s.ranges c.toNat := inRanges_eq_true_iff h

/-- **A set contains what the intervals it is made of cover.** -/
theorem contains_ofRanges (h : Proper ranges) :
    (ofRanges ranges).contains c = true ↔ Covers ranges c.toNat := by
  obtain ⟨hrising, hcovers⟩ := ofRanges_spec h
  rw [contains_eq_true_iff hrising, hcovers]

/-- The intervals of a union rise, and cover what those of both sets do. -/
theorem union_spec (hs : Rising s.ranges) (ht : Rising t.ranges) :
    Rising (s ∪ t).ranges ∧
      ∀ n, Covers (s ∪ t).ranges n ↔ Covers s.ranges n ∨ Covers t.ranges n := by
  show Rising (s.union t).ranges ∧
    ∀ n, Covers (s.union t).ranges n ↔ Covers s.ranges n ∨ Covers t.ranges n
  rw [union]
  by_cases hkept : (t.ranges.isEmpty || s = t) = true
  · rw [if_pos hkept]
    refine ⟨hs, fun n => ?_⟩
    rw [Bool.or_eq_true, List.isEmpty_iff, decide_eq_true_eq] at hkept
    rcases hkept with hnil | rfl
    · simp [hnil, Covers]
    · exact (or_self_iff).symm
  · rw [if_neg hkept]
    have hproper : Proper (s.ranges ++ t.ranges) := fun r hr =>
      (List.mem_append.mp hr).elim (hs.proper r) (ht.proper r)
    obtain ⟨hrising, hcovers⟩ := ofRanges_spec hproper
    exact ⟨hrising, fun n => (hcovers n).trans covers_append⟩

/-- **A union contains what either set does.** -/
theorem contains_union (hs : Rising s.ranges) (ht : Rising t.ranges) :
    (s ∪ t).contains c = true ↔ s.contains c = true ∨ t.contains c = true := by
  obtain ⟨hrising, hcovers⟩ := union_spec hs ht
  rw [contains_eq_true_iff hrising, hcovers, contains_eq_true_iff hs, contains_eq_true_iff ht]

end CharSet

end Unicode
end Scenario
