import Mathlib.Logic.Relation
import Scenario.Matcher.Verdict
import Scenario.Pattern.Search

/-!
# Equal values — the comparison behind membership checks

Two texts are equal values if they are the same text but for blank ends, or
spell the same number (`SameValue`). The two ways agree where they meet, since a
text spells one number at most, and equality of numbers is transitive. So equal
values are an equivalence (`equivalence_sameValue`): even `nan`, which as a
number equals nothing, is the same text as itself.

A membership check asks whether a value is equal to one of its arguments. So its
arguments matter only up to equal values: in another order, repeated, or
replaced by equal ones they are the same members (`Altered.sameMembers`), and
the verdict is the same (`membership_invariant`).
-/

namespace Scenario

/-! ## Equal numbers -/

namespace Text
namespace Binary64

variable {x y z : Binary64}

/-- A zero, of either sign. -/
def IsZero : Binary64 → Prop
  | finite _ m _ => m = 0
  | _ => False

/-- **Equal numbers** are one value, or both are zeros; `nan` equals nothing. -/
theorem same_iff_eq_or_zero : x.same y = true ↔ x = y ∧ x ≠ nan ∨ x.IsZero ∧ y.IsZero := by
  cases x <;> cases y <;> simp [same, IsZero, and_assoc, or_comm]

theorem same_symm (h : x.same y = true) : y.same x = true := by
  rw [same_iff_eq_or_zero] at h ⊢
  rcases h with ⟨rfl, hx⟩ | ⟨hx, hy⟩
  · exact .inl ⟨rfl, hx⟩
  · exact .inr ⟨hy, hx⟩

theorem same_trans (hxy : x.same y = true) (hyz : y.same z = true) : x.same z = true := by
  rw [same_iff_eq_or_zero] at hxy hyz ⊢
  rcases hxy with ⟨rfl, -⟩ | ⟨hx, hy⟩
  · exact hyz
  · rcases hyz with ⟨rfl, -⟩ | ⟨-, hz⟩
    · exact .inr ⟨hx, hy⟩
    · exact .inr ⟨hx, hz⟩

end Binary64
end Text

namespace Matcher

open Text

/-! ## Equal values -/

/-- **Equal values**, as membership checks compare them. -/
def SameValue (a b : String) : Prop := sameValue a.toList b.toList = true

instance : DecidableRel SameValue := fun a b =>
  inferInstanceAs (Decidable (sameValue a.toList b.toList = true))

variable {a b : String} {as bs : List String}

/-- They are the same text, or the same number. -/
theorem sameValue_iff_text_or_number : SameValue a b ↔
    trimmed a.toList = trimmed b.toList ∨
      ∃ x y, Binary64.ofText? (trimmed a.toList) = some x ∧
        Binary64.ofText? (trimmed b.toList) = some y ∧ x.same y = true := by
  rw [SameValue, sameValue, Bool.or_eq_true, beq_iff_eq]
  refine or_congr_right ?_
  split
  · next x y hx hy => simp [hx, hy]
  · next hnone =>
    refine ⟨nofun, ?_⟩
    rintro ⟨x, y, hx, hy, -⟩
    exact (hnone x y hx hy).elim

/-- **Equal values are an equivalence.** Where a text is equal to one as a text and
to another as a number, these two are equal as numbers. -/
theorem equivalence_sameValue : Equivalence SameValue where
  refl a := sameValue_iff_text_or_number.mpr (.inl rfl)
  symm h := by
    rw [sameValue_iff_text_or_number] at h ⊢
    rcases h with htext | ⟨x, y, hx, hy, hsame⟩
    · exact .inl htext.symm
    · exact .inr ⟨y, x, hy, hx, Binary64.same_symm hsame⟩
  trans h h' := by
    rw [sameValue_iff_text_or_number] at h h' ⊢
    rcases h with htext | ⟨x, y, hx, hy, hsame⟩
    · rwa [htext]
    · rcases h' with htext | ⟨y', z, hy', hz, hsame'⟩
      · exact .inr ⟨x, y, hx, htext ▸ hy, hsame⟩
      · -- the text in the middle spells one number
        rw [hy] at hy'
        cases hy'
        exact .inr ⟨x, z, hx, hz, Binary64.same_trans hsame hsame'⟩

example : SameValue "-0" " 0.0e7 " ∧ SameValue "NaN" " NaN" ∧ ¬ SameValue "NaN" "nan" := by
  decide +kernel

/-! ## The same members -/

/-- Each text of a list is equal to one of another. -/
def Covers (as bs : List String) : Prop := ∀ a ∈ as, ∃ b ∈ bs, SameValue a b

/-- **The same members**: two lists of texts that cover each other. -/
def SameMembers (as bs : List String) : Prop := Covers as bs ∧ Covers bs as

theorem Covers.trans {cs : List String} (h : Covers as bs) (h' : Covers bs cs) : Covers as cs := by
  intro a ha
  obtain ⟨b, hb, hab⟩ := h a ha
  obtain ⟨c, hc, hbc⟩ := h' b hb
  exact ⟨c, hc, equivalence_sameValue.trans hab hbc⟩

theorem covers_of_subset (h : as ⊆ bs) : Covers as bs := fun a ha =>
  ⟨a, h ha, equivalence_sameValue.refl a⟩

/-- One text may stand for another that it is equal to. -/
theorem covers_replace {before after : List String} (h : SameValue a b) :
    Covers (before ++ a :: after) (before ++ b :: after) := by
  intro c hc
  rcases List.mem_append.mp hc with hc | hc
  · exact ⟨c, by simp [hc], equivalence_sameValue.refl c⟩
  · rcases List.mem_cons.mp hc with rfl | hc
    · exact ⟨b, by simp, h⟩
    · exact ⟨c, by simp [hc], equivalence_sameValue.refl c⟩

theorem equivalence_sameMembers : Equivalence SameMembers where
  refl as := ⟨covers_of_subset (List.Subset.refl as), covers_of_subset (List.Subset.refl as)⟩
  symm h := ⟨h.2, h.1⟩
  trans h h' := ⟨h.1.trans h'.1, h'.2.trans h.2⟩

/-- **A change to a list of arguments** that a membership check does not see. -/
inductive Altered : List String → List String → Prop
  /-- The arguments stand in another order. -/
  | permuted {as bs : List String} : as.Perm bs → Altered as bs
  /-- One of them is repeated. -/
  | repeated {a : String} {as : List String} : a ∈ as → Altered as (a :: as)
  /-- One of them is replaced by a text that it is equal to. -/
  | replaced {before after : List String} {a b : String} : SameValue a b →
      Altered (before ++ a :: after) (before ++ b :: after)

/-- **It keeps the members.** -/
theorem Altered.sameMembers (h : Altered as bs) : SameMembers as bs := by
  cases h with
  | permuted hperm => exact ⟨covers_of_subset hperm.subset, covers_of_subset hperm.symm.subset⟩
  | repeated hmem =>
    exact ⟨covers_of_subset (List.subset_cons_self _ _),
      covers_of_subset (List.cons_subset.mpr ⟨hmem, List.Subset.refl _⟩)⟩
  | replaced hsame =>
    exact ⟨covers_replace hsame, covers_replace (equivalence_sameValue.symm hsame)⟩

/-- So do several such changes, and taking them back. -/
theorem sameMembers_of_eqvGen (h : Relation.EqvGen Altered as bs) : SameMembers as bs :=
  equivalence_sameMembers.eqvGen_iff.mp (h.mono fun _ _ => Altered.sameMembers)

/-! ## Membership -/

/-- A membership check passes if the value is equal to one of its arguments. -/
theorem holds_membership [PatternLibrary] {kind : Check}
    (hkind : kind = .isOneOf ∨ kind = .isIn) (scope : Scope) (args : List String)
    (value : Option String) :
    (Predicate.check kind args).holds scope value = true ↔
      ∃ a ∈ args.map scope.fill, SameValue (value.getD "") a := by
  rw [Predicate.holds]
  rcases hkind with rfl | rfl <;> exact List.any_eq_true

/-- A value equal to one of some texts is equal to one of those that cover them. -/
theorem exists_sameValue_of_covers {v w : String} (hvalue : SameValue v w)
    (hcovers : Covers as bs) (h : ∃ a ∈ as, SameValue v a) : ∃ b ∈ bs, SameValue w b := by
  obtain ⟨a, ha, hva⟩ := h
  obtain ⟨b, hb, hab⟩ := hcovers a ha
  have hwv := equivalence_sameValue.symm hvalue
  exact ⟨b, hb, equivalence_sameValue.trans hwv (equivalence_sameValue.trans hva hab)⟩

/-- **Membership is invariant under equal values**, which are an equivalence. With
its variables filled in, the arguments of a check may be permuted, repeated and
replaced by equal ones, and the value by an equal one, and the verdict is the
same. -/
theorem membership_invariant [PatternLibrary] :
    Equivalence SameValue ∧
      ∀ (scope scope' : Scope) (kind : Check) (args args' : List String)
        (value value' : Option String), kind = .isOneOf ∨ kind = .isIn →
        Relation.EqvGen Altered (args.map scope.fill) (args'.map scope'.fill) →
        SameValue (value.getD "") (value'.getD "") →
        (Predicate.check kind args).holds scope value =
          (Predicate.check kind args').holds scope' value' := by
  refine ⟨equivalence_sameValue, ?_⟩
  intro scope scope' kind args args' value value' hkind hargs hvalue
  obtain ⟨hcovers, hcovers'⟩ := sameMembers_of_eqvGen hargs
  rw [Bool.eq_iff_iff, holds_membership hkind, holds_membership hkind]
  exact ⟨exists_sameValue_of_covers hvalue hcovers,
    exists_sameValue_of_covers (equivalence_sameValue.symm hvalue) hcovers'⟩

/-- One zero stands for the other, filled in and as a value, and `nan` for itself. -/
theorem membership_invariant_zeros :
    Relation.EqvGen Altered
        (["${zero}", "nan"].map (Scope.ofList [("zero", "0")]).fill)
        (["nan", "nan", " -0.0"].map Scope.empty.fill) ∧
      SameValue "0e5" "-0" ∧
      (Predicate.check .isOneOf ["${zero}", "nan"]).holds (.ofList [("zero", "0")]) (some "0e5") =
        (Predicate.check .isOneOf ["nan", "nan", " -0.0"]).holds .empty (some "-0") := by
  have hfill : ["${zero}", "nan"].map (Scope.ofList [("zero", "0")]).fill = ["0", "nan"] := by
    decide +kernel
  have hfill' : ["nan", "nan", " -0.0"].map Scope.empty.fill = ["nan", "nan", " -0.0"] := by
    decide +kernel
  have hzero : SameValue "0" " -0.0" := by decide +kernel
  have hargs : Relation.EqvGen Altered
      (["${zero}", "nan"].map (Scope.ofList [("zero", "0")]).fill)
      (["nan", "nan", " -0.0"].map Scope.empty.fill) := by
    rw [hfill, hfill']
    refine .trans _ [" -0.0", "nan"] _ (.rel _ _ (@Altered.replaced [] _ _ _ hzero)) ?_
    exact .trans _ ["nan", " -0.0"] _ (.rel _ _ (.permuted (.swap ..)))
      (.rel _ _ (.repeated (by simp)))
  have hvalue : SameValue "0e5" "-0" := by decide +kernel
  exact ⟨hargs, hvalue, membership_invariant.2 _ _ .isOneOf _ _ _ _ (.inl rfl) hargs hvalue⟩

end Matcher
end Scenario
