import Mathlib.Algebra.Order.Ring.Nat
import Mathlib.Logic.Function.Iterate
import Scenario.Pattern.Search

/-!
# Runs — searching finds what matches

Running the plan of a regular expression takes a set of positions of a text
to the positions its matches lead to from there (`run_ofRegex`). A
repetition without a limit needs no more turns than the text has
characters, since turns that stay in place can be left out
(`Turns.without_idle`).

So a search succeeds exactly if some part of the text matches
(`occursIn_iff`), as long as no repetition is asked for more turns at least
than at most: `Regex.Ordered`.
-/

namespace Scenario
namespace Pattern

/-- No repetition has a least number of turns above its largest. -/
inductive Regex.Ordered : Regex → Prop
  | empty : Ordered .empty
  | chars {ascii : Bool} {set : Unicode.CharSet} : Ordered (.chars ascii set)
  | look {test : Look} : Ordered (.look test)
  | capture {r : Regex} : Ordered r → Ordered (.capture r)
  | seq {r s : Regex} : Ordered r → Ordered s → Ordered (.seq r s)
  | choice {rs : List Regex} : (∀ r ∈ rs, Ordered r) → Ordered (.choice rs)
  | repetition {greedy : Bool} {min : Nat} {max : Option Nat} {r : Regex} :
      (∀ n, max = some n → min ≤ n) → Ordered r → Ordered (.repetition greedy min max r)

open Regex (Matches)

variable {text : List Char}

/-! ## Matches and their positions -/

/-- Reading goes forward, and not past the end of the text. -/
theorem Regex.Matches.bounds {r : Regex} {i j : Nat} (h : Matches text r i j) :
    i ≤ j ∧ (i ≤ text.length → j ≤ text.length) := by
  induction h with
  | empty | look | stop => exact ⟨le_rfl, id⟩
  | chars hc _ =>
    have hlt := (List.getElem?_eq_some_iff.mp hc).1
    omega
  | capture _ ih | choice _ _ ih => exact ih
  | seq _ _ ih ih' | turn _ _ _ ih ih' => exact ⟨ih.1.trans ih'.1, fun hi => ih'.2 (ih.2 hi)⟩

/-- A number of matches of one expression, each from where the one before it
ends. -/
inductive Turns (text : List Char) (r : Regex) : Nat → Nat → Nat → Prop
  | none {i : Nat} : Turns text r 0 i i
  | more {n i j k : Nat} : Matches text r i j → Turns text r n j k → Turns text r (n + 1) i k

/-- **A repetition matches what as many turns as are allowed match.** -/
theorem matches_repetition_iff {greedy : Bool} {min : Nat} {max : Option Nat} {r : Regex}
    {i j : Nat} : Matches text (.repetition greedy min max r) i j ↔
      ∃ n, min ≤ n ∧ (∀ m, max = some m → n ≤ m) ∧ Turns text r n i j := by
  constructor
  · -- a turn ends in a match of the repetition that is left, with other bounds
    generalize heq : Regex.repetition greedy min max r = s
    intro h
    induction h generalizing min max with
    | stop => cases heq; exact ⟨0, le_rfl, by simp, .none⟩
    | turn hmax hfirst _ _ ih =>
      cases heq
      obtain ⟨n, hmin, hn, hturns⟩ := ih rfl
      refine ⟨n + 1, by omega, fun m hm => ?_, .more hfirst hturns⟩
      rcases hmax with ⟨rfl, -⟩ | ⟨m', rfl, rfl⟩
      · cases hm
      · cases hm
        exact Nat.succ_le_succ (hn m' rfl)
    | _ => cases heq
  · rintro ⟨n, hmin, hmax, hturns⟩
    induction hturns generalizing min max with
    | none => obtain rfl := Nat.le_zero.mp hmin; exact .stop
    | @more n _ _ _ hfirst _ ih =>
      cases max with
      | none => exact .turn (.inl ⟨rfl, rfl⟩) hfirst (ih (by omega) (by simp))
      | some m =>
        have hm := hmax m rfl
        obtain ⟨m, rfl⟩ := Nat.exists_eq_succ_of_ne_zero (by omega : m ≠ 0)
        refine .turn (.inr ⟨m, rfl, rfl⟩) hfirst (ih (by omega) fun m' hm' => ?_)
        cases hm'
        omega

theorem turns_succ_iff {r : Regex} {n i k : Nat} :
    Turns text r (n + 1) i k ↔ ∃ j, Turns text r n i j ∧ Matches text r j k := by
  constructor
  · intro h
    generalize hn : n + 1 = m at h
    induction h generalizing n with
    | none => cases hn
    | @more m i j k hfirst hturns ih =>
      obtain rfl := Nat.succ.inj hn
      cases n with
      | zero => cases hturns; exact ⟨i, .none, hfirst⟩
      | succ n =>
        obtain ⟨l, hturns, hlast⟩ := ih rfl
        exact ⟨l, .more hfirst hturns, hlast⟩
  · rintro ⟨j, hturns, hlast⟩
    induction hturns with
    | none => exact .more hlast .none
    | more hfirst _ ih => exact .more hfirst (ih hlast)

theorem Turns.bounds {r : Regex} {n i j : Nat} (h : Turns text r n i j) :
    i ≤ j ∧ (i ≤ text.length → j ≤ text.length) := by
  induction h with
  | none => exact ⟨le_rfl, id⟩
  | more hfirst _ ih =>
    exact ⟨hfirst.bounds.1.trans ih.1, fun hi => ih.2 (hfirst.bounds.2 hi)⟩

/-- Turns after turns are as many as both. -/
theorem turns_add_iff {r : Regex} {m n i k : Nat} :
    Turns text r (m + n) i k ↔ ∃ j, Turns text r m i j ∧ Turns text r n j k := by
  induction n generalizing k with
  | zero =>
    refine ⟨fun h => ⟨k, h, .none⟩, ?_⟩
    rintro ⟨j, h, hnone⟩
    cases hnone
    exact h
  | succ n ih =>
    rw [← Nat.add_assoc, turns_succ_iff]
    simp only [ih, turns_succ_iff]
    constructor
    · rintro ⟨l, ⟨j, hm, hn⟩, hlast⟩
      exact ⟨j, hm, l, hn, hlast⟩
    · rintro ⟨j, hm, l, hn, hlast⟩
      exact ⟨l, ⟨j, hm, hn⟩, hlast⟩

/-- **Turns that stay in place can be left out**, so no more are needed than
there are characters to read. -/
theorem Turns.without_idle {r : Regex} {n i j : Nat} (h : Turns text r n i j) :
    ∃ m, m ≤ j - i ∧ Turns text r m i j := by
  induction h with
  | @none i => exact ⟨0, Nat.zero_le _, .none⟩
  | @more n i j k hfirst hturns ih =>
    obtain ⟨m, hm, hfewer⟩ := ih
    have hstep := hfirst.bounds.1
    have hrest := hturns.bounds.1
    rcases Nat.eq_or_lt_of_le hstep with rfl | hlt
    · exact ⟨m, hm, hfewer⟩
    · exact ⟨m + 1, by omega, .more hfirst hfewer⟩

/-! ## Masks -/

/-- A mask has the bits of its list. -/
theorem testBit_maskOf (bits : List Bool) (i : Nat) :
    (Plan.maskOf bits).testBit i = true ↔ bits[i]? = some true := by
  induction bits generalizing i with
  | nil => simp [Plan.maskOf]
  | cons b bs ih =>
    cases i with
    | zero =>
      rw [Plan.maskOf, Nat.testBit_zero, List.getElem?_cons_zero]
      cases b <;> simp
    | succ i =>
      rw [Plan.maskOf, Nat.testBit_succ, List.getElem?_cons_succ, ← ih]
      have hhalf : ((if b then 1 else 0) + 2 * Plan.maskOf bs) / 2 = Plan.maskOf bs := by
        cases b <;> simp; omega
      rw [hhalf]

/-- The character before a position is the last one passed over. -/
theorem before?_length (read unread : List Char) :
    Regex.before? (read ++ unread) read.length = read.getLast? := by
  cases read with
  | nil => rfl
  | cons c cs =>
    rw [Regex.before?, if_neg (by simp), List.getLast?_eq_getElem?,
      List.getElem?_append_left (by simp)]

/-- The values of a test are those at the positions of the text, here of a
text of which a part is passed over. -/
theorem getElem?_testAt (look : Look) (read unread : List Char) (i : Nat) :
    (Plan.testAt look read.getLast? unread)[i]? = some true ↔
      i ≤ unread.length ∧
        look.holds (Regex.before? (read ++ unread) (read.length + i))
          (read ++ unread)[read.length + i]? = true := by
  induction unread generalizing read i with
  | nil =>
    cases i with
    | zero =>
      rw [← before?_length read []]
      simp [Plan.testAt]
    | succ i => simp [Plan.testAt]
  | cons c cs ih =>
    cases i with
    | zero => simp [Plan.testAt, before?_length]
    | succ i =>
      have hmoved := ih (read ++ [c]) i
      simp only [List.getLast?_concat, List.append_assoc, List.singleton_append, List.length_append,
        List.length_singleton] at hmoved
      rw [Plan.testAt, List.getElem?_cons_succ, hmoved, List.length_cons, Nat.succ_le_succ_iff,
        Nat.add_assoc, Nat.add_comm 1 i]

/-- So the mask of a test holds its positions. -/
theorem testBit_testAt (look : Look) (i : Nat) :
    (Plan.maskOf (Plan.testAt look none text)).testBit i = true ↔
      i ≤ text.length ∧ look.holds (Regex.before? text i) text[i]? = true := by
  rw [testBit_maskOf]
  simpa using getElem?_testAt look [] text i

/-- And that of a class the positions of its characters. -/
theorem testBit_chars (set : Unicode.CharSet) (i : Nat) :
    (Plan.maskOf (text.map set.contains)).testBit i = true ↔
      ∃ c, text[i]? = some c ∧ set.contains c = true := by
  rw [testBit_maskOf, List.getElem?_map, Option.map_eq_some_iff]

/-! ## Repeated steps -/

/-- Stopping early at a set that a step does not change makes no
difference. -/
theorem iterate_eq (step : Nat → Nat) (n s : Nat) : Plan.iterate step n s = step^[n] s := by
  induction n generalizing s with
  | zero => rfl
  | succ n ih =>
    rw [Plan.iterate, Function.iterate_succ_apply]
    split
    · next hfix => rw [hfix, Function.iterate_fixed hfix]
    · exact ih _

/-- A step follows a relation between positions if it takes a set of positions
of the text to those they are related to. -/
def Follows (length : Nat) (step : Nat → Nat) (leads : Nat → Nat → Prop) : Prop :=
  ∀ s, (∀ i, s.testBit i = true → i ≤ length) →
    ∀ j, (step s).testBit j = true ↔ ∃ i, s.testBit i = true ∧ leads i j

/-- So it stays within the text if the relation does. -/
theorem Follows.within {length : Nat} {step : Nat → Nat} {leads : Nat → Nat → Prop}
    (h : Follows length step leads) (hleads : ∀ i j, leads i j → i ≤ length → j ≤ length)
    {s : Nat} (hs : ∀ i, s.testBit i = true → i ≤ length) :
    ∀ j, (step s).testBit j = true → j ≤ length := by
  intro j hj
  obtain ⟨i, hi, hij⟩ := (h s hs j).mp hj
  exact hleads i j hij (hs i hi)

/-- Steps one after another follow the relations one after another. -/
theorem Follows.andThen {length : Nat} {step step' : Nat → Nat} {leads leads' : Nat → Nat → Prop}
    (h : Follows length step leads) (h' : Follows length step' leads')
    (hleads : ∀ i j, leads i j → i ≤ length → j ≤ length) :
    Follows length (fun s => step' (step s)) fun i k => ∃ j, leads i j ∧ leads' j k := by
  intro s hs k
  rw [h' (step s) (h.within hleads hs) k]
  simp only [h s hs]
  constructor
  · rintro ⟨j, ⟨i, hi, hij⟩, hjk⟩
    exact ⟨i, hi, j, hij, hjk⟩
  · rintro ⟨i, hi, j, hij, hjk⟩
    exact ⟨j, ⟨i, hi, hij⟩, hjk⟩

section Repetition

variable {r : Regex} {step : Nat → Nat} (h : Follows text.length step (Matches text r))
include h

/-- A step taken a number of times takes as many turns. -/
theorem Follows.turns (n : Nat) : Follows text.length (step^[n]) (Turns text r n) := by
  induction n with
  | zero =>
    intro s _ j
    constructor
    · intro hj
      exact ⟨j, hj, .none⟩
    · rintro ⟨i, hi, hturns⟩
      cases hturns
      exact hi
  | succ n ih =>
    intro s hs j
    have hboth := ih.andThen h (fun _ _ hturns => hturns.bounds.2) s hs j
    rw [Function.iterate_succ_apply', hboth]
    simp only [turns_succ_iff]

/-- And one that keeps what is reached takes at most as many. -/
theorem Follows.upTo (n : Nat) :
    Follows text.length ((fun s => s ||| step s)^[n]) fun i j =>
      ∃ m, m ≤ n ∧ Turns text r m i j := by
  induction n with
  | zero =>
    intro s _ j
    constructor
    · intro hj
      exact ⟨j, hj, 0, le_rfl, .none⟩
    · rintro ⟨i, hi, m, hm, hturns⟩
      obtain rfl := Nat.le_zero.mp hm
      cases hturns
      exact hi
  | succ n ih =>
    intro s hs j
    have hwithin := ih.within (fun _ _ ⟨_, _, hturns⟩ => hturns.bounds.2) hs
    rw [Function.iterate_succ_apply', Nat.testBit_or, Bool.or_eq_true, ih s hs j, h _ hwithin j]
    simp only [ih s hs]
    -- the last step keeps what is reached or takes one more turn
    constructor
    · rintro (⟨i, hi, m, hm, hturns⟩ | ⟨k, ⟨i, hi, m, hm, hturns⟩, hlast⟩)
      · exact ⟨i, hi, m, by omega, hturns⟩
      · exact ⟨i, hi, m + 1, by omega, turns_succ_iff.mpr ⟨k, hturns, hlast⟩⟩
    · rintro ⟨i, hi, m, hm, hturns⟩
      rcases Nat.le_succ_iff.mp hm with hfew | rfl
      · exact .inl ⟨i, hi, m, hfew, hturns⟩
      · obtain ⟨k, hturns, hlast⟩ := turns_succ_iff.mp hturns
        exact .inr ⟨k, ⟨i, hi, n, le_rfl, hturns⟩, hlast⟩

/-- **A repetition's step follows what it matches.** -/
theorem Follows.repetition {greedy : Bool} {min : Nat} {max : Option Nat}
    (hbounds : ∀ n, max = some n → min ≤ n) :
    Follows text.length
      (fun s => (fun t => t ||| step t)^[max.elim (text.length + 1) (· - min)] (step^[min] s))
      (Matches text (.repetition greedy min max r)) := by
  intro s hs j
  have hboth := (h.turns min).andThen (h.upTo (max.elim (text.length + 1) (· - min)))
    (fun _ _ hturns => hturns.bounds.2) s hs j
  rw [hboth]
  refine exists_congr fun i => and_congr_right fun hi => ?_
  rw [matches_repetition_iff]
  constructor
  · rintro ⟨k, hmin, m, hm, hmore⟩
    refine ⟨min + m, Nat.le_add_right _ _, fun n hn => ?_, turns_add_iff.mpr ⟨k, hmin, hmore⟩⟩
    subst hn
    have hle := hbounds n rfl
    simp only [Option.elim_some] at hm
    omega
  · rintro ⟨n, hmin, hmax, hturns⟩
    obtain ⟨d, rfl⟩ := Nat.exists_eq_add_of_le hmin
    obtain ⟨k, hfirst, hmore⟩ := turns_add_iff.mp hturns
    refine ⟨k, hfirst, ?_⟩
    cases max with
    | none =>
      -- without a limit there may be more turns than steps, but not without idle ones
      obtain ⟨m, hm, hfewer⟩ := hmore.without_idle
      have hle := hturns.bounds.2 (hs i hi)
      refine ⟨m, ?_, hfewer⟩
      simp only [Option.elim_none]
      omega
    | some n =>
      have hle := hmax n rfl
      refine ⟨d, ?_, hmore⟩
      simp only [Option.elim_some]
      omega

end Repetition

/-! ## Plans -/

/-- Running the plan of a choice follows what one of its branches matches. -/
theorem run_ofBranches {rs : List Regex}
    (h : ∀ r ∈ rs, Follows text.length ((Plan.ofRegex text r).run text.length) (Matches text r)) :
    Follows text.length ((Plan.ofBranches text rs).run text.length) fun i j =>
      ∃ r ∈ rs, Matches text r i j := by
  induction rs with
  | nil =>
    intro s _ j
    simp [Plan.ofBranches, Plan.run]
  | cons r rs ih =>
    intro s hs j
    have hhead := h r List.mem_cons_self s hs j
    have htail := ih (fun r' hr' => h r' (List.mem_cons_of_mem _ hr')) s hs j
    rw [Plan.ofBranches, Plan.run, Nat.testBit_or, Bool.or_eq_true, hhead, htail]
    simp only [List.mem_cons, exists_eq_or_imp, and_or_left, exists_or]

/-- **Running a plan follows what its expression matches.** -/
theorem run_ofRegex {r : Regex} (h : r.Ordered) :
    Follows text.length ((Plan.ofRegex text r).run text.length) (Matches text r) := by
  induction h with
  | empty =>
    intro s _ j
    rw [Plan.ofRegex, Plan.run]
    constructor
    · intro hj
      exact ⟨j, hj, .empty⟩
    · rintro ⟨i, hi, h⟩
      cases h
      exact hi
  | @chars ascii set =>
    intro s _ j
    -- the shift takes the positions of the class past its characters
    rw [Plan.ofRegex, Plan.run, Nat.testBit_shiftLeft, Bool.and_eq_true, Nat.testBit_and,
      Bool.and_eq_true, testBit_chars, decide_eq_true_eq]
    constructor
    · rintro ⟨hj, hs, c, hc, hset⟩
      have hmatch : Matches text (.chars ascii set) (j - 1) (j - 1 + 1) := .chars hc hset
      rw [Nat.sub_add_cancel hj] at hmatch
      exact ⟨j - 1, hs, hmatch⟩
    · rintro ⟨i, hi, h⟩
      cases h with
      | chars hc hset => exact ⟨Nat.le_add_left 1 _, hi, _, hc, hset⟩
  | look =>
    intro s hs j
    rw [Plan.ofRegex, Plan.run, Nat.testBit_and, Bool.and_eq_true, testBit_testAt]
    constructor
    · rintro ⟨hj, -, hholds⟩
      exact ⟨j, hj, .look hholds⟩
    · rintro ⟨i, hi, h⟩
      cases h with
      | look hholds => exact ⟨hi, hs _ hi, hholds⟩
  | capture _ ih =>
    intro s hs j
    rw [Plan.ofRegex, ih s hs j]
    refine exists_congr fun i => and_congr_right fun _ => ⟨.capture, fun h => ?_⟩
    cases h with
    | capture h => exact h
  | seq _ _ ih ih' =>
    intro s hs j
    have hboth := ih.andThen ih' (fun _ _ h => h.bounds.2) s hs j
    rw [Plan.ofRegex, Plan.run, hboth]
    refine exists_congr fun i => and_congr_right fun _ => ⟨?_, fun h => ?_⟩
    · rintro ⟨k, hfirst, hsecond⟩
      exact .seq hfirst hsecond
    · cases h with
      | seq hfirst hsecond => exact ⟨_, hfirst, hsecond⟩
  | choice _ ih =>
    intro s hs j
    rw [Plan.ofRegex, run_ofBranches ih s hs j]
    refine exists_congr fun i => and_congr_right fun _ => ⟨?_, fun h => ?_⟩
    · rintro ⟨r, hr, h⟩
      exact .choice hr h
    · cases h with
      | choice hr h => exact ⟨_, hr, h⟩
  | @repetition greedy min max r hbounds _ ih =>
    intro s hs j
    have hturns := @Follows.repetition text r _ ih greedy min max hbounds s hs j
    rw [Plan.ofRegex, ← hturns]
    cases max <;> simp only [Plan.run, iterate_eq, Option.elim_none, Option.elim_some]

/-- **A search finds what matches**: some part of the text, if any does. -/
theorem occursIn_iff {r : Regex} (h : r.Ordered) :
    r.occursIn text = true ↔ ∃ i j, i ≤ text.length ∧ Matches text r i j := by
  have heverywhere : ∀ i, (1 <<< (text.length + 1) - 1).testBit i = true ↔ i ≤ text.length := by
    intro i
    rw [Nat.one_shiftLeft, Nat.testBit_two_pow_sub_one, decide_eq_true_eq, Nat.lt_succ_iff]
  have hrun := run_ofRegex h (1 <<< (text.length + 1) - 1) fun i => (heverywhere i).mp
  simp only [heverywhere] at hrun
  rw [Regex.occursIn, bne_iff_ne]
  constructor
  · intro hne
    obtain ⟨j, hj⟩ := Nat.exists_testBit_of_ne_zero hne
    obtain ⟨i, hi, hmatch⟩ := (hrun j).mp hj
    exact ⟨i, j, hi, hmatch⟩
  · rintro ⟨i, j, hi, hmatch⟩ hzero
    have hj := (hrun j).mpr ⟨i, hi, hmatch⟩
    rw [hzero, Nat.zero_testBit] at hj
    exact Bool.false_ne_true hj

end Pattern
end Scenario
