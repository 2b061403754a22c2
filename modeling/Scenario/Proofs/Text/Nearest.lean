import Mathlib.Algebra.Order.Ring.Int
import Mathlib.Tactic.Positivity
import Mathlib.Tactic.Ring
import Scenario.Text.Binary64

/-!
# Nearest numbers — integers in the format binary64

A mantissa has 53 bits, so the integers of the format are those of fewer
than 53 significant bits and some wider ones (`Fits`). An integer is read as
the nearest of them, and as the even one of two that are equally near
(`Nearest`); there is always exactly one (`nearest_iff`).

`spells_ofDecimal` shows that reading digits finds it: the mantissa and the
exponent `ofDecimal` gives are those of the nearest integer, or infinite if
that integer is past the largest number of the format.
-/

namespace Scenario
namespace Text
namespace Binary64

/-! ## Integers of the format -/

/-- An integer fits a number of bits if it is one of at most so many bits
times a power of two. -/
def Fits (bits : Nat) (n : Int) : Prop :=
  ∃ (k : Int) (e : Nat), k.natAbs < 2 ^ bits ∧ n = k * 2 ^ e

/-- **The integer of the format nearest to another**: none is nearer, and it
is even, as mantissas go, if another is as near. -/
structure Nearest (n r : Int) : Prop where
  fits : Fits mantissaBits r
  least : ∀ s, Fits mantissaBits s → (n - r).natAbs ≤ (n - s).natAbs
  even : ∀ s, Fits mantissaBits s → s ≠ r → (n - s).natAbs = (n - r).natAbs →
    Fits (mantissaBits - 1) r

theorem Fits.neg {bits : Nat} {n : Int} (h : Fits bits n) : Fits bits (-n) := by
  obtain ⟨k, e, hk, rfl⟩ := h
  exact ⟨-k, e, by rwa [Int.natAbs_neg], (Int.neg_mul k _).symm⟩

theorem Fits.of_lt {bits : Nat} {n : Int} (h : n.natAbs < 2 ^ bits) : Fits bits n :=
  ⟨n, 0, h, by simp⟩

/-- The two signs are alike. -/
theorem Nearest.neg {n r : Int} (h : Nearest n r) : Nearest (-n) (-r) where
  fits := h.fits.neg
  least s hs := by
    have hle := h.least (-s) hs.neg
    omega
  even s hs hne heq := (h.even (-s) hs.neg (by omega) (by omega)).neg

theorem nearest_neg_iff {n r : Int} : Nearest (-n) (-r) ↔ Nearest n r := by
  refine ⟨fun h => ?_, Nearest.neg⟩
  have hneg := h.neg
  rwa [Int.neg_neg, Int.neg_neg] at hneg

/-- What is nearer than everything else is the nearest. -/
theorem nearest_iff_of_nearer {n r x : Int} (hr : Fits mantissaBits r)
    (hnear : ∀ s, Fits mantissaBits s → s ≠ r → (n - r).natAbs < (n - s).natAbs) :
    Nearest n x ↔ x = r := by
  constructor
  · intro h
    by_contra hne
    have hlt := hnear x h.fits hne
    have hle := h.least r hr
    omega
  · rintro rfl
    refine ⟨hr, fun s hs => ?_, fun s hs hne heq => ?_⟩
    · by_cases heq : s = x
      · rw [heq]
      · exact (hnear s hs heq).le
    · have hlt := hnear s hs hne
      omega

/-- Of two that are nearer than everything else and equally near, the
nearest is the even one. -/
theorem nearest_iff_of_tie {n r other x : Int} (hr : Fits (mantissaBits - 1) r)
    (hother : Fits mantissaBits other) (hodd : ¬ Fits (mantissaBits - 1) other)
    (htie : (n - other).natAbs = (n - r).natAbs)
    (hnear : ∀ s, Fits mantissaBits s → s ≠ r → s ≠ other → (n - r).natAbs < (n - s).natAbs) :
    Nearest n x ↔ x = r := by
  have hfit : Fits mantissaBits r := by
    obtain ⟨k, e, hk, rfl⟩ := hr
    exact ⟨k, e, hk.trans (by decide), rfl⟩
  have hne : r ≠ other := fun heq => hodd (heq ▸ hr)
  constructor
  · intro h
    by_contra hx
    by_cases hxo : x = other
    · subst hxo
      exact hodd (h.even r hfit hne htie.symm)
    · have hlt := hnear x h.fits hx hxo
      have hle := h.least r hfit
      omega
  · rintro rfl
    refine ⟨hfit, fun s hs => ?_, fun _ _ _ _ => hr⟩
    by_cases hsx : s = x
    · rw [hsx]
    by_cases hso : s = other
    · rw [hso, htie]
    · exact (hnear s hs hsx hso).le

/-- An integer of the format is its own nearest. -/
theorem nearest_iff_of_fits {n x : Int} (h : Fits mantissaBits n) : Nearest n x ↔ x = n :=
  nearest_iff_of_nearer h fun s _ hne => by omega

/-! ## Neighbours

From `2 ^ 52 * 2 ^ t` to `2 ^ 53 * 2 ^ t`, the integers of the format are
the multiples of `2 ^ t`. -/

section Neighbours

variable {q t : Nat}

/-- The multiples are integers of the format. -/
theorem fits_mul (hq : q ≤ 2 ^ mantissaBits) : Fits mantissaBits ((q * 2 ^ t : Nat) : Int) := by
  rcases Nat.lt_or_eq_of_le hq with hlt | rfl
  · exact ⟨q, t, by simpa using hlt, by push_cast; rfl⟩
  · exact ⟨1, mantissaBits + t, by decide, by push_cast; rw [pow_add]; ring⟩

/-- **Nothing else is**: no integer of the format is strictly between two
neighbouring multiples. -/
theorem Fits.not_between (hq : 2 ^ (mantissaBits - 1) ≤ q) {s : Int} (hs : Fits mantissaBits s) :
    s ≤ (q * 2 ^ t : Nat) ∨ ((q + 1) * 2 ^ t : Nat) ≤ s := by
  obtain ⟨k, e, hk, rfl⟩ := hs
  rcases Nat.lt_or_ge e t with he | he
  · -- with a smaller power the mantissa bounds the number
    left
    obtain ⟨d, rfl⟩ := Nat.exists_eq_add_of_lt he
    have hlow : k * 2 ^ e ≤ (2 ^ mantissaBits : Nat) * 2 ^ e :=
      mul_le_mul_of_nonneg_right (by omega) (by positivity)
    have hhigh : 2 ^ mantissaBits * 2 ^ e ≤ q * 2 ^ (e + d + 1) := by
      calc 2 ^ mantissaBits * 2 ^ e
          = 2 ^ (mantissaBits - 1) * 2 ^ (e + 1) := by
            rw [← pow_add, ← pow_add]
            exact congrArg (2 ^ ·) (by unfold mantissaBits; omega)
        _ ≤ q * 2 ^ (e + d + 1) :=
            Nat.mul_le_mul hq (Nat.pow_le_pow_right (by decide) (by omega))
    exact hlow.trans (by exact_mod_cast hhigh)
  · -- with a larger one it is a multiple itself
    obtain ⟨d, rfl⟩ := Nat.exists_eq_add_of_le he
    have hpos : (0 : Int) < 2 ^ t := by positivity
    have hmul : k * 2 ^ (t + d) = k * 2 ^ d * 2 ^ t := by rw [pow_add]; ring
    rw [hmul]
    push_cast
    rcases Int.lt_or_le (q : Int) (k * 2 ^ d) with hlt | hle
    · exact .inr (mul_le_mul_of_nonneg_right hlt hpos.le)
    · exact .inl (mul_le_mul_of_nonneg_right hle hpos.le)

/-- **A multiple has an even mantissa** if it is an even multiple. -/
theorem fits_even_iff (hlow : 2 ^ (mantissaBits - 1) ≤ q) (hhigh : q ≤ 2 ^ mantissaBits) :
    Fits (mantissaBits - 1) ((q * 2 ^ t : Nat) : Int) ↔ q % 2 = 0 := by
  constructor
  · rintro ⟨k, e, hk, heq⟩
    have habs : q * 2 ^ t = k.natAbs * 2 ^ e := by
      have hnat := congrArg Int.natAbs heq
      rwa [Int.natAbs_natCast, Int.natAbs_mul, Int.natAbs_pow] at hnat
    by_contra hodd
    rcases Nat.lt_or_ge t e with he | he
    · obtain ⟨d, rfl⟩ := Nat.exists_eq_add_of_lt he
      have hcancel : q = k.natAbs * 2 ^ d * 2 := by
        refine Nat.eq_of_mul_eq_mul_right (Nat.two_pow_pos t) ?_
        rw [habs]; ring
      omega
    · obtain ⟨d, rfl⟩ := Nat.exists_eq_add_of_le he
      have hcancel : q * 2 ^ d = k.natAbs := by
        refine Nat.eq_of_mul_eq_mul_right (Nat.two_pow_pos e) ?_
        rw [← habs]; ring
      have hle := Nat.le_mul_of_pos_right q (Nat.two_pow_pos d)
      omega
  · intro heven
    obtain ⟨h, rfl⟩ := Nat.dvd_of_mod_eq_zero heven
    rcases Nat.lt_or_eq_of_le hhigh with hlt | heq
    · refine ⟨h, t + 1, ?_, by push_cast; ring⟩
      rw [Int.natAbs_natCast]
      have hdouble : 2 ^ mantissaBits = 2 * 2 ^ (mantissaBits - 1) := by decide
      omega
    · rw [heq]
      exact ⟨1, mantissaBits + t, by decide, by push_cast; rw [pow_add]; ring⟩

/-- **Rounding a quotient finds the nearest**, between neighbouring
multiples. -/
theorem nearest_iff_roundQuotient {n : Nat} {x : Int} (hlow : 2 ^ (mantissaBits - 1) ≤ n / 2 ^ t)
    (hhigh : n / 2 ^ t < 2 ^ mantissaBits) :
    Nearest n x ↔ x = (roundQuotient n (2 ^ t) * 2 ^ t : Nat) := by
  have hdiv := Nat.div_add_mod' n (2 ^ t)
  have hmod := Nat.mod_lt n (Nat.two_pow_pos t)
  generalize hq : n / 2 ^ t = q at *
  generalize hr : n % 2 ^ t = r at *
  have hnext : (q + 1) * 2 ^ t = q * 2 ^ t + 2 ^ t := Nat.succ_mul q _
  have hdown := fits_mul (t := t) hhigh.le
  have hup := fits_mul (q := q + 1) (t := t) (by omega)
  have hbetween := @Fits.not_between q t hlow
  have hdownEven := fits_even_iff (t := t) hlow hhigh.le
  have hupEven := fits_even_iff (q := q + 1) (t := t) (by omega) (by omega)
  rw [hnext] at hup hbetween hupEven
  rw [roundQuotient, hq, hr]
  split_ifs with hless hmore heven
  · refine nearest_iff_of_nearer hdown fun s hs hne => ?_
    have hs := hbetween hs
    omega
  · rw [hnext]
    refine nearest_iff_of_nearer hup fun s hs hne => ?_
    have hs := hbetween hs
    omega
  · refine nearest_iff_of_tie (hdownEven.mpr heven) hup (mt hupEven.mp (by omega)) (by omega)
      fun s hs hne hne' => ?_
    have hs := hbetween hs
    omega
  · rw [hnext]
    refine nearest_iff_of_tie (hupEven.mpr (by omega)) hdown (mt hdownEven.mp heven) (by omega)
      fun s hs hne hne' => ?_
    have hs := hbetween hs
    omega

end Neighbours

/-! ## The nearest integer -/

/-- The integer of the format nearest to a natural number. -/
def rounded (n : Nat) : Nat :=
  roundQuotient n (2 ^ (Nat.log2 n - (mantissaBits - 1))) * 2 ^ (Nat.log2 n - (mantissaBits - 1))

/-- Dividing by one rounds nothing. -/
@[simp] theorem roundQuotient_one (n : Nat) : roundQuotient n 1 = n := by
  simp [roundQuotient, Nat.mod_one]

/-- A number of at most 53 bits is rounded to itself. -/
theorem rounded_of_lt {n : Nat} (h : n < 2 ^ mantissaBits) : rounded n = n := by
  have hlog : Nat.log2 n - (mantissaBits - 1) = 0 := by
    rcases Nat.eq_zero_or_pos n with rfl | hpos
    · rfl
    · have hlt := (Nat.log2_lt hpos.ne').mpr h
      omega
  rw [rounded, hlog, Nat.pow_zero, roundQuotient_one, Nat.mul_one]

/-- **There is exactly one nearest integer.** -/
theorem nearest_iff {n : Nat} {x : Int} : Nearest n x ↔ x = (rounded n : Nat) := by
  rcases Nat.lt_or_ge n (2 ^ mantissaBits) with hlt | hge
  · rw [rounded_of_lt hlt]
    exact nearest_iff_of_fits (Fits.of_lt (by rwa [Int.natAbs_natCast]))
  · have hpos : n ≠ 0 := by
      have := Nat.two_pow_pos mantissaBits
      omega
    have hlog := (Nat.le_log2 hpos).mpr hge
    refine nearest_iff_roundQuotient ?_ ?_
    · rw [Nat.le_div_iff_mul_le (Nat.two_pow_pos _), ← pow_add, Nat.add_sub_of_le (by omega)]
      exact Nat.log2_self_le hpos
    · rw [Nat.div_lt_iff_lt_mul (Nat.two_pow_pos _), ← pow_add]
      refine Nat.lt_log2_self.trans_eq (congrArg (2 ^ ·) ?_)
      have : mantissaBits = 53 := rfl
      omega

/-- The nearest integer is at least any power of two that the number is, since
the power is an integer of the format. -/
theorem Nearest.two_pow_le {n r : Int} (hr : Nearest n r) {e : Nat} (h : 2 ^ e ≤ n.natAbs) :
    2 ^ e ≤ r.natAbs := by
  have hpower : Fits mantissaBits (2 ^ e : Nat) := ⟨1, e, by decide, by simp⟩
  rcases Int.le_total 0 n with hn | hn
  · have hle := hr.least _ hpower
    omega
  · have hle := hr.least _ hpower.neg
    omega

theorem two_pow_le_rounded {n e : Nat} (h : 2 ^ e ≤ n) : 2 ^ e ≤ rounded n := by
  have hnearest : Nearest n (rounded n : Nat) := nearest_iff.mpr rfl
  simpa using hnearest.two_pow_le (by simpa using h)

/-- And at most any power that the number is. -/
theorem rounded_le_two_pow {n e : Nat} (h : n ≤ 2 ^ e) : rounded n ≤ 2 ^ e := by
  have hnearest : Nearest n (rounded n : Nat) := nearest_iff.mpr rfl
  have hle := hnearest.least (2 ^ e : Nat) ⟨1, e, by decide, by simp⟩
  omega

/-! ## What is read -/

/-- The number of bits of the largest number of the format. -/
def widestBits : Nat := 1024

/-- The first power of two past the numbers of the format. -/
def overflow : Nat := 2 ^ widestBits

theorem overflow_pos : 0 < overflow := by
  unfold overflow
  positivity

/-- A number of the format spells an integer of it, given by sign and
magnitude. -/
inductive Spells (negative : Bool) : Nat → Binary64 → Prop
  | zero : Spells negative 0 (finite negative 0 minExponent)
  | normal {r m k : Nat} (low : 2 ^ (mantissaBits - 1) ≤ m) (high : m < 2 ^ mantissaBits)
      (value : m * 2 ^ k = r * 2 ^ (mantissaBits - 1)) (bound : r < overflow) :
      Spells negative r (finite negative m (k - (mantissaBits - 1 : Nat)))
  | past {r : Nat} (bound : overflow ≤ r) : Spells negative r (infinite negative)

/-- The integer of a sign and a magnitude. -/
def signed (negative : Bool) (n : Nat) : Int := if negative then -n else n

/-- Two integers that the format does not tell apart: the same one, or two of
one sign past its largest number. -/
def Alike (r s : Int) : Prop :=
  r = s ∨ (overflow ≤ r ∧ overflow ≤ s) ∨ (r ≤ -overflow ∧ s ≤ -overflow)

/-- Mantissa and exponent are determined by the integer. -/
theorem normal_unique {m k m' k' : Nat} (hlow : 2 ^ (mantissaBits - 1) ≤ m)
    (hhigh' : m' < 2 ^ mantissaBits) (heq : m * 2 ^ k = m' * 2 ^ k') : k ≤ k' := by
  by_contra hlt
  obtain ⟨d, rfl⟩ := Nat.exists_eq_add_of_lt (Nat.lt_of_not_le hlt)
  have hcancel : m * 2 ^ d * 2 = m' := by
    refine Nat.eq_of_mul_eq_mul_right (Nat.two_pow_pos k') ?_
    rw [← heq]; ring
  have hle := Nat.le_mul_of_pos_right m (Nat.two_pow_pos d)
  have hdouble : 2 ^ mantissaBits = 2 * 2 ^ (mantissaBits - 1) := by decide
  omega

theorem alike_comm {r s : Int} : Alike r s ↔ Alike s r := by
  unfold Alike
  omega

/-- The nearest integer of a number with a sign has that sign. -/
theorem nearest_signed_iff {s : Bool} {n : Nat} {x : Int} :
    Nearest (signed s n) x ↔ x = signed s (rounded n) := by
  cases s with
  | false => exact nearest_iff
  | true =>
    rw [← nearest_neg_iff, signed, if_pos rfl, Int.neg_neg, nearest_iff, signed, if_pos rfl]
    omega

/-- So every integer has a nearest one. -/
theorem exists_nearest (n : Int) : ∃ r, Nearest n r := by
  obtain ⟨m, rfl | rfl⟩ := n.eq_nat_or_neg
  · exact ⟨_, nearest_iff.mpr rfl⟩
  · exact ⟨_, (nearest_iff.mpr rfl).neg⟩

/-- **Below 53 bits the format tells integers apart**: no other integer has
the same nearest one. -/
theorem eq_of_alike {m n r s : Int} (hr : Nearest m r) (hs : Nearest n s)
    (hm : m.natAbs < 2 ^ mantissaBits) (halike : Alike r s) : m = n := by
  obtain rfl := (nearest_iff_of_fits (Fits.of_lt hm)).mp hr
  have hover : 2 ^ mantissaBits ≤ overflow := Nat.pow_le_pow_right (by decide) (by decide)
  rcases halike with rfl | hpast | hpast
  · by_cases hn : n.natAbs < 2 ^ mantissaBits
    · exact (nearest_iff_of_fits (Fits.of_lt hn)).mp hs
    · have hge := hs.two_pow_le (Nat.le_of_not_lt hn)
      omega
  · omega
  · omega

/-- The sizes of two numbers that are not zero are compared sign by sign. -/
theorem alike_signed_iff {s t : Bool} {r u : Nat} (hr : 0 < r) (hu : 0 < u) :
    Alike (signed s r) (signed t u) ↔ s = t ∧ (r = u ∨ overflow ≤ r ∧ overflow ≤ u) := by
  have hover := overflow_pos
  unfold Alike signed
  generalize overflow = bound at *
  cases s <;> cases t <;> simp <;> omega

/-- And zero is like no other. -/
theorem alike_signed_zero_iff {s t : Bool} {u : Nat} :
    Alike (signed s 0) (signed t u) ↔ u = 0 := by
  have hover := overflow_pos
  unfold Alike signed
  generalize overflow = bound at *
  cases s <;> cases t <;> simp <;> omega

/-- A normal number is not zero. -/
theorem pos_of_normal {r m k : Nat} (low : 2 ^ (mantissaBits - 1) ≤ m)
    (value : m * 2 ^ k = r * 2 ^ (mantissaBits - 1)) : 0 < r := by
  rcases Nat.eq_zero_or_pos r with rfl | hr
  · rw [Nat.zero_mul] at value
    have hpos : 0 < m * 2 ^ k :=
      Nat.mul_pos ((Nat.two_pow_pos _).trans_le low) (Nat.two_pow_pos k)
    omega
  · exact hr

/-- **Numbers are the same exactly if their integers are alike.** -/
theorem Spells.same_iff {s t : Bool} {r u : Nat} {x y : Binary64} (hx : Spells s r x)
    (hy : Spells t u y) : x.same y = true ↔ Alike (signed s r) (signed t u) := by
  have hover := overflow_pos
  cases hx with
  | zero =>
    rw [alike_signed_zero_iff]
    cases hy with
    | zero => simp [same]
    | @normal _ m _ low _ value _ =>
      have hpos := pos_of_normal low value
      have hm : m ≠ 0 := ((Nat.two_pow_pos _).trans_le low).ne'
      simp [same, hm, hpos.ne', Ne.symm hm]
    | past bound => simp [same, (hover.trans_le bound).ne']
  | @normal _ m k low high value bound =>
    have hpos := pos_of_normal low value
    have hm : m ≠ 0 := ((Nat.two_pow_pos _).trans_le low).ne'
    cases hy with
    | zero =>
      rw [alike_comm, alike_signed_zero_iff]
      simp [same, hm, hpos.ne']
    | @normal _ m' k' low' high' value' bound' =>
      rw [alike_signed_iff hpos (pos_of_normal low' value')]
      have hsame : (finite s m (k - (mantissaBits - 1 : Nat))).same
          (finite t m' (k' - (mantissaBits - 1 : Nat))) = true ↔ s = t ∧ m = m' ∧ k = k' := by
        simp [same, hm, and_assoc]
      rw [hsame]
      refine and_congr_right fun _ => ⟨?_, ?_⟩
      · rintro ⟨rfl, rfl⟩
        exact .inl (Nat.eq_of_mul_eq_mul_right (Nat.two_pow_pos _) (value.symm.trans value'))
      · rintro (rfl | ⟨hge, -⟩)
        · have hk : k = k' := Nat.le_antisymm (normal_unique low high' (value.trans value'.symm))
            (normal_unique low' high (value'.trans value.symm))
          subst hk
          exact ⟨Nat.eq_of_mul_eq_mul_right (Nat.two_pow_pos k) (value.trans value'.symm), rfl⟩
        · omega
    | past bound' =>
      rw [alike_signed_iff hpos (hover.trans_le bound')]
      simp [same]
      omega
  | past bound =>
    have hpos := hover.trans_le bound
    cases hy with
    | zero =>
      rw [alike_comm, alike_signed_zero_iff]
      simp [same, hpos.ne']
    | normal low' high' value' bound' =>
      rw [alike_signed_iff hpos (pos_of_normal low' value')]
      simp [same]
      omega
    | past bound' =>
      rw [alike_signed_iff hpos (hover.trans_le bound')]
      simp [same, bound, bound']

/-- The logarithm of a whole number. -/
theorem logQuotient_one {n : Nat} (hn : 0 < n) : logQuotient n 1 = Nat.log2 n := by
  have hle := Nat.log2_self_le hn.ne'
  have hlog : Nat.log2 1 = 0 := by decide
  simp [logQuotient, hlog, hle]

/-- A mantissa and an exponent make a number of the format unless the exponent
is too large, and then the integer is. -/
theorem spells_of_mantissa {s : Bool} {r m k : Nat} (low : 2 ^ (mantissaBits - 1) ≤ m)
    (high : m < 2 ^ mantissaBits) (value : m * 2 ^ k = r * 2 ^ (mantissaBits - 1)) :
    Spells s r (if maxExponent < (k : Int) - (mantissaBits - 1 : Nat) then infinite s
      else finite s m (k - (mantissaBits - 1 : Nat))) := by
  have hmax : maxExponent < (k : Int) - (mantissaBits - 1 : Nat) ↔ widestBits ≤ k := by
    unfold maxExponent mantissaBits widestBits
    omega
  split_ifs with hk
  · refine .past ?_
    calc overflow
        ≤ 2 ^ k := Nat.pow_le_pow_right (by decide) (hmax.mp hk)
      _ ≤ r := by
        refine Nat.le_of_mul_le_mul_right ?_ (Nat.two_pow_pos (mantissaBits - 1))
        rw [← value, Nat.mul_comm]
        exact Nat.mul_le_mul_right _ low
  · refine .normal low high value ?_
    calc r
        < 2 ^ (k + 1) := by
          refine Nat.lt_of_mul_lt_mul_right (a := 2 ^ (mantissaBits - 1)) ?_
          calc r * 2 ^ (mantissaBits - 1)
              = m * 2 ^ k := value.symm
            _ < 2 ^ mantissaBits * 2 ^ k := Nat.mul_lt_mul_of_pos_right high (Nat.two_pow_pos k)
            _ = 2 ^ (k + 1) * 2 ^ (mantissaBits - 1) := by
              rw [← pow_add, ← pow_add]
              exact congrArg (2 ^ ·) (by unfold mantissaBits; omega)
      _ ≤ overflow := Nat.pow_le_pow_right (by decide) (by rw [hmax] at hk; omega)

/-- The mantissa read is that of the nearest integer, before it is carried
into the next power of two. -/
theorem mantissa_value (n : Nat) :
    (if 0 ≤ (Nat.log2 n : Int) - (mantissaBits - 1 : Nat) then
        roundQuotient n (1 * 2 ^ ((Nat.log2 n : Int) - (mantissaBits - 1 : Nat)).toNat)
      else roundQuotient (n * 2 ^ (-((Nat.log2 n : Int) - (mantissaBits - 1 : Nat))).toNat) 1) *
        2 ^ Nat.log2 n =
      rounded n * 2 ^ (mantissaBits - 1) := by
  have hbits : mantissaBits = 53 := rfl
  split_ifs with hlog
  · have htoNat : ((Nat.log2 n : Int) - (mantissaBits - 1 : Nat)).toNat =
        Nat.log2 n - (mantissaBits - 1) := by omega
    rw [htoNat, Nat.one_mul, rounded, Nat.mul_assoc, ← pow_add, Nat.sub_add_cancel (by omega)]
  · have htoNat : (-((Nat.log2 n : Int) - (mantissaBits - 1 : Nat))).toNat =
        mantissaBits - 1 - Nat.log2 n := by omega
    have hsmall : n < 2 ^ mantissaBits :=
      Nat.lt_log2_self.trans_le (Nat.pow_le_pow_right (by decide) (by omega))
    rw [htoNat, roundQuotient_one, rounded_of_lt hsmall, Nat.mul_assoc, ← pow_add,
      Nat.sub_add_cancel (by omega)]

/-- **A whole number is read as the nearest integer.** -/
theorem spells_ofQuotient {s : Bool} {n : Nat} (hn : 0 < n) :
    Spells s (rounded n) (ofQuotient s n 1) := by
  have hmax : max ((Nat.log2 n : Int) - (mantissaBits - 1 : Nat)) minExponent =
      (Nat.log2 n : Int) - (mantissaBits - 1 : Nat) := by
    unfold mantissaBits minExponent
    omega
  have hvalue := mantissa_value n
  simp only [ofQuotient, logQuotient_one hn, hmax, Nat.pow_eq]
  generalize (if 0 ≤ (Nat.log2 n : Int) - (mantissaBits - 1 : Nat) then
    roundQuotient n (1 * 2 ^ ((Nat.log2 n : Int) - (mantissaBits - 1 : Nat)).toNat)
    else roundQuotient _ _) = m at *
  have hlow : 2 ^ (mantissaBits - 1) ≤ m := by
    refine Nat.le_of_mul_le_mul_right ?_ (Nat.two_pow_pos (Nat.log2 n))
    rw [hvalue, Nat.mul_comm]
    exact Nat.mul_le_mul_right _ (two_pow_le_rounded (Nat.log2_self_le hn.ne'))
  have hhigh : m ≤ 2 ^ mantissaBits := by
    refine Nat.le_of_mul_le_mul_right ?_ (Nat.two_pow_pos (Nat.log2 n))
    calc m * 2 ^ Nat.log2 n
        = rounded n * 2 ^ (mantissaBits - 1) := hvalue
      _ ≤ 2 ^ (Nat.log2 n + 1) * 2 ^ (mantissaBits - 1) :=
        Nat.mul_le_mul_right _ (rounded_le_two_pow Nat.lt_log2_self.le)
      _ = 2 ^ mantissaBits * 2 ^ Nat.log2 n := by
        rw [← pow_add, ← pow_add]
        exact congrArg (2 ^ ·) (by unfold mantissaBits; omega)
  by_cases hcarry : m = 2 ^ mantissaBits
  · -- a carry leaves the same integer with the next exponent
    have hcarried : 2 ^ (mantissaBits - 1) * 2 ^ (Nat.log2 n + 1) =
        rounded n * 2 ^ (mantissaBits - 1) := by
      rw [← hvalue, hcarry, ← pow_add, ← pow_add]
      exact congrArg (2 ^ ·) (by unfold mantissaBits; omega)
    have hspells := spells_of_mantissa (s := s) le_rfl (by decide) hcarried
    rw [if_pos hcarry]
    convert hspells using 3 <;> push_cast <;> ring
  · rw [if_neg hcarry]
    exact spells_of_mantissa hlow (Nat.lt_of_le_of_ne hhigh hcarry) hvalue

/-- The number of digits past which the decimal order settles the value. -/
def widestDigits : Nat := 310

/-- So many digits are past the numbers of the format. -/
theorem overflow_le_digits : overflow ≤ 10 ^ widestDigits := by decide +kernel

/-- **And so are digits.** -/
theorem spells_ofDecimal (s : Bool) (n : Nat) : Spells s (rounded n) (ofDecimal s n 0) := by
  rcases Nat.eq_zero_or_pos n with rfl | hn
  · rw [rounded_of_lt (by decide)]
    exact .zero
  · simp only [ofDecimal, hn.ne', if_false, Int.zero_add, le_refl, if_true, Int.toNat_zero,
      Nat.pow_eq, pow_zero, Nat.mul_one]
    split_ifs with hlong hshort
    · have hdigits : ¬ n < 10 ^ widestDigits := by
        rw [← Nat.length_toDigits_le_iff (by decide) (by decide), widestDigits]
        omega
      exact .past (two_pow_le_rounded (overflow_le_digits.trans (Nat.le_of_not_lt hdigits)))
    · omega
    · exact spells_ofQuotient hn

end Binary64
end Text
end Scenario
