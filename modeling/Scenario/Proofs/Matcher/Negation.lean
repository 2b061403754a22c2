import Mathlib.Logic.Basic
import Mathlib.Logic.Relation
import Scenario.Matcher.Verdict

/-!
# Negation — rewriting predicates, and their normal form

A combinator looks at nothing but the verdicts of its parts: `Not` fails exactly
if all of them hold, `AnyOf` asks for one and `AllOf` for all. So the laws of
Boolean logic are rules to rewrite trees by, at any position (`Rewrites`), and
no verdict changes (`Rewrites.holds_eq`). Nothing is asked of the number of
parts: a tree built by hand can have any, or none.

`normal` drives the negations of a tree down to its checks, and `opposite` does
so with the negation of a tree. What comes out negates checks only
(`NegationNormal`), and the rules lead there (`reduces_normal`).
-/

namespace Scenario
namespace Matcher
namespace Predicate

/-- **Induction on a tree**: what holds of all parts holds of the whole. -/
@[elab_as_elim]
theorem induct {motive : Predicate → Prop} (check : ∀ kind args, motive (check kind args))
    (combine : ∀ kind parts, (∀ p ∈ parts, motive p) → motive (combine kind parts))
    (t : Predicate) : motive t :=
  @Predicate.rec motive (fun parts => ∀ p ∈ parts, motive p) check combine
    (fun _ hp => nomatch hp)
    (fun _ _ hhead htail => List.forall_mem_cons.mpr ⟨hhead, htail⟩) t

variable {scope : Scope} {value : Option String} {kind : Combinator}
variable {parts parts' before after : List Predicate} {p q t u : Predicate}

/-! ## Verdicts of combinators -/

section Verdicts

variable [PatternLibrary]

theorem allHold_eq_all (scope : Scope) (value : Option String) (parts : List Predicate) :
    allHold scope value parts = parts.all (holds scope value) := by
  induction parts with
  | nil => rfl
  | cons p parts ih => rw [allHold, ih, List.all_cons]

theorem anyHolds_eq_any (scope : Scope) (value : Option String) (parts : List Predicate) :
    anyHolds scope value parts = parts.any (holds scope value) := by
  induction parts with
  | nil => rfl
  | cons p parts ih => rw [anyHolds, ih, List.any_cons]

@[simp] theorem holds_not :
    (combine .not parts).holds scope value = !parts.all (holds scope value) := by
  rw [holds, allHold_eq_all]

@[simp] theorem holds_anyOf :
    (combine .anyOf parts).holds scope value = parts.any (holds scope value) := by
  rw [holds, anyHolds_eq_any]

@[simp] theorem holds_allOf :
    (combine .allOf parts).holds scope value = parts.all (holds scope value) := by
  rw [holds, allHold_eq_all]

/-- **It matters only which parts there are**, not in what order and how often. -/
theorem holds_combine_of_mem_iff (h : ∀ p, p ∈ parts ↔ p ∈ parts') :
    (combine kind parts).holds scope value = (combine kind parts').holds scope value := by
  have hall : parts.all (holds scope value) = parts'.all (holds scope value) := by
    rw [Bool.eq_iff_iff, List.all_eq_true, List.all_eq_true]
    simp only [h]
  have hany : parts.any (holds scope value) = parts'.any (holds scope value) := by
    rw [Bool.eq_iff_iff, List.any_eq_true, List.any_eq_true]
    simp only [h]
  cases kind <;> simp [hall, hany]

/-- The negation of a predicate. -/
def negation (p : Predicate) : Predicate := combine .not [p]

@[simp] theorem holds_negation : p.negation.holds scope value = !p.holds scope value := by
  simp [negation]

end Verdicts

/-! ## Rewriting -/

/-- **The laws of Boolean logic**, as rules to rewrite a tree by. -/
inductive Rewrites : Predicate → Predicate → Prop
  /-- A double negation. -/
  | notNot (p : Predicate) : Rewrites p.negation.negation p
  /-- Not all of some: any of their negations. -/
  | notAllOf (parts : List Predicate) :
      Rewrites (combine .allOf parts).negation (combine .anyOf (parts.map negation))
  /-- Not any of some: all of their negations. -/
  | notAnyOf (parts : List Predicate) :
      Rewrites (combine .anyOf parts).negation (combine .allOf (parts.map negation))
  /-- The negation of some parts is that of all of them. -/
  | notParts (parts : List Predicate) :
      Rewrites (combine .not parts) (combine .allOf parts).negation
  /-- A part of the same kind gives way to its own parts. -/
  | flattened {kind : Combinator} (before inner after : List Predicate) : kind ≠ .not →
      Rewrites (combine kind (before ++ combine kind inner :: after))
        (combine kind (before ++ inner ++ after))
  /-- The parts stand in another order. -/
  | permuted {kind : Combinator} {parts parts' : List Predicate} : kind ≠ .not →
      parts.Perm parts' → Rewrites (combine kind parts) (combine kind parts')
  /-- A part is repeated. -/
  | repeated {kind : Combinator} {parts : List Predicate} {p : Predicate} : kind ≠ .not →
      p ∈ parts → Rewrites (combine kind parts) (combine kind (p :: parts))
  /-- A part is rewritten. -/
  | within {kind : Combinator} {before after : List Predicate} {p q : Predicate} : Rewrites p q →
      Rewrites (combine kind (before ++ p :: after)) (combine kind (before ++ q :: after))

/-- **Rewriting does not change the verdict.** -/
theorem Rewrites.holds_eq [PatternLibrary] (h : Rewrites t u) (scope : Scope)
    (value : Option String) : t.holds scope value = u.holds scope value := by
  induction h with
  | notNot p => simp
  | notAllOf parts => simp [List.any_map, Function.comp_def, List.not_all_eq_any_not]
  | notAnyOf parts => simp [List.all_map, Function.comp_def, List.not_any_eq_all_not]
  | notParts parts => simp
  | @flattened kind before inner after hkind =>
    cases kind with
    | not => exact absurd rfl hkind
    | anyOf => simp
    | allOf => simp
  | permuted _ hperm => exact holds_combine_of_mem_iff fun p => hperm.mem_iff
  | @repeated _ parts q _ hmem =>
    have hmember : ∀ p, p ∈ parts ↔ p ∈ q :: parts := by
      intro p
      rw [List.mem_cons]
      exact ⟨.inr, fun hp => hp.elim (fun heq => heq ▸ hmem) id⟩
    exact holds_combine_of_mem_iff hmember
  | @within kind _ _ _ _ _ ih => cases kind <;> simp [ih]

/-- Nor do several such changes, or taking them back. -/
theorem holds_eq_of_eqvGen [PatternLibrary] (h : Relation.EqvGen Rewrites t u) (scope : Scope)
    (value : Option String) : t.holds scope value = u.holds scope value := by
  induction h with
  | rel t u hstep => exact hstep.holds_eq scope value
  | refl t => rfl
  | symm t u _ ih => exact ih.symm
  | trans t u v _ _ ih ih' => exact ih.trans ih'

/-! ## The normal form -/

/-- **Negations around checks only.** -/
inductive NegationNormal : Predicate → Prop
  /-- A check. -/
  | check (kind : Check) (args : List String) : NegationNormal (check kind args)
  /-- The negation of one. -/
  | negation (kind : Check) (args : List String) :
      NegationNormal (Predicate.check kind args).negation
  /-- Any or all of some such predicates. -/
  | combine {kind : Combinator} {parts : List Predicate} : kind ≠ .not →
      (∀ p ∈ parts, NegationNormal p) → NegationNormal (combine kind parts)

mutual

/-- **The negation normal form** of a predicate. -/
def normal : Predicate → Predicate
  | check kind args => check kind args
  | combine .not [p] => p.opposite
  | combine .not parts => combine .anyOf (oppositeAll parts)
  | combine .anyOf parts => combine .anyOf (normalAll parts)
  | combine .allOf parts => combine .allOf (normalAll parts)

/-- That of its negation. -/
def opposite : Predicate → Predicate
  | check kind args => (check kind args).negation
  | combine .not [p] => p.normal
  | combine .not parts => combine .allOf (normalAll parts)
  | combine .anyOf parts => combine .allOf (oppositeAll parts)
  | combine .allOf parts => combine .anyOf (oppositeAll parts)

/-- The normal forms of some predicates. -/
def normalAll : List Predicate → List Predicate
  | [] => []
  | p :: ps => p.normal :: normalAll ps

/-- And those of their negations. -/
def oppositeAll : List Predicate → List Predicate
  | [] => []
  | p :: ps => p.opposite :: oppositeAll ps

end

theorem normalAll_eq_map (parts : List Predicate) : normalAll parts = parts.map normal := by
  induction parts with
  | nil => rfl
  | cons p parts ih => rw [normalAll, ih, List.map_cons]

theorem oppositeAll_eq_map (parts : List Predicate) : oppositeAll parts = parts.map opposite := by
  induction parts with
  | nil => rfl
  | cons p parts ih => rw [oppositeAll, ih, List.map_cons]

/-- Several parts are negated one by one. -/
theorem normal_not (h : ∀ p, parts ≠ [p]) :
    (combine .not parts).normal = combine .anyOf (parts.map opposite) := by
  rw [normal, oppositeAll_eq_map]
  exact h

theorem opposite_not (h : ∀ p, parts ≠ [p]) :
    (combine .not parts).opposite = combine .allOf (parts.map normal) := by
  rw [opposite, normalAll_eq_map]
  exact h

/-- **The normal form negates checks only.** -/
theorem negationNormal_normal (t : Predicate) :
    t.normal.NegationNormal ∧ t.opposite.NegationNormal := by
  induction t using induct with
  | check kind args => exact ⟨.check kind args, .negation kind args⟩
  | combine kind parts ih =>
    have hnormal : ∀ kind, kind ≠ .not → (combine kind (parts.map normal)).NegationNormal :=
      fun kind hkind => .combine hkind (List.forall_mem_map.mpr fun p hp => (ih p hp).1)
    have hopposite : ∀ kind, kind ≠ .not → (combine kind (parts.map opposite)).NegationNormal :=
      fun kind hkind => .combine hkind (List.forall_mem_map.mpr fun p hp => (ih p hp).2)
    cases kind with
    | anyOf =>
      rw [normal, opposite, normalAll_eq_map, oppositeAll_eq_map]
      exact ⟨hnormal .anyOf nofun, hopposite .allOf nofun⟩
    | allOf =>
      rw [normal, opposite, normalAll_eq_map, oppositeAll_eq_map]
      exact ⟨hnormal .allOf nofun, hopposite .anyOf nofun⟩
    | not =>
      rcases exists_or_forall_not (fun p => parts = [p]) with ⟨p, rfl⟩ | hseveral
      · exact (ih p (by simp)).symm
      · rw [normal_not hseveral, opposite_not hseveral]
        exact ⟨hopposite .anyOf nofun, hnormal .allOf nofun⟩

/-- **And it is that of a tree which does so already.** -/
theorem NegationNormal.normal_eq (h : t.NegationNormal) : t.normal = t := by
  induction h with
  | check kind args => rfl
  | negation kind args => rfl
  | @combine kind parts hkind _ ih =>
    have hparts : parts.map normal = parts :=
      (List.map_congr_left ih).trans (List.map_id' parts)
    cases kind with
    | not => exact absurd rfl hkind
    | anyOf => rw [normal, normalAll_eq_map, hparts]
    | allOf => rw [normal, normalAll_eq_map, hparts]

/-! ## Rewriting to the normal form -/

/-- **Rewriting any number of times**, always by the rules as they stand. -/
abbrev Reduces : Predicate → Predicate → Prop := Relation.ReflTransGen Rewrites

/-- A part is rewritten any number of times. -/
theorem Reduces.within (h : Reduces p q) :
    Reduces (combine kind (before ++ p :: after)) (combine kind (before ++ q :: after)) :=
  h.lift (fun r => combine kind (before ++ r :: after)) fun _ _ => .within

/-- And so are all of them, one after another. -/
theorem reduces_map {f g : Predicate → Predicate} (h : ∀ p ∈ parts, Reduces (f p) (g p))
    (before : List Predicate) :
    Reduces (combine kind (before ++ parts.map f)) (combine kind (before ++ parts.map g)) := by
  induction parts generalizing before with
  | nil => exact .refl
  | cons p parts ih =>
    have hfirst : Reduces (combine kind (before ++ f p :: parts.map f))
        (combine kind (before ++ g p :: parts.map f)) := (h p (by simp)).within
    have hothers := ih (fun q hq => h q (by simp [hq])) (before ++ [g p])
    rw [List.append_assoc, List.append_assoc] at hothers
    exact hfirst.trans hothers

/-- **The rules lead to the normal form**, of a tree and of its negation. -/
theorem reduces_normal (t : Predicate) : Reduces t t.normal ∧ Reduces t.negation t.opposite := by
  induction t using induct with
  | check kind args => exact ⟨.refl, .refl⟩
  | combine kind parts ih =>
    have hnormal : ∀ kind, Reduces (combine kind parts) (combine kind (parts.map normal)) := by
      intro kind
      have hparts : Reduces (combine kind (parts.map id)) (combine kind (parts.map normal)) :=
        reduces_map (fun p hp => (ih p hp).1) []
      rwa [List.map_id] at hparts
    have hopposite : ∀ kind,
        Reduces (combine kind (parts.map negation)) (combine kind (parts.map opposite)) :=
      fun kind => reduces_map (fun p hp => (ih p hp).2) []
    cases kind with
    | anyOf =>
      rw [normal, opposite, normalAll_eq_map, oppositeAll_eq_map]
      exact ⟨hnormal .anyOf, .head (.notAnyOf parts) (hopposite .allOf)⟩
    | allOf =>
      rw [normal, opposite, normalAll_eq_map, oppositeAll_eq_map]
      exact ⟨hnormal .allOf, .head (.notAllOf parts) (hopposite .anyOf)⟩
    | not =>
      rcases exists_or_forall_not (fun p => parts = [p]) with ⟨p, rfl⟩ | hseveral
      · exact ⟨(ih p (by simp)).2, .head (.notNot p) (ih p (by simp)).1⟩
      · rw [normal_not hseveral, opposite_not hseveral]
        -- several parts are negated as all of them first
        have hall : Rewrites (combine .not parts) (combine .allOf parts).negation := .notParts parts
        have hinner : Rewrites (combine .not parts).negation
            (combine .allOf parts).negation.negation := @Rewrites.within .not [] [] _ _ hall
        exact ⟨.head hall (.head (.notAllOf parts) (hopposite .anyOf)),
          .head hinner (.head (.notNot _) (hnormal .allOf))⟩

/-- **Evaluation is Boolean logic.** However a tree is rewritten by its laws, and
wherever, the verdict stays the same on every value and in every scope. The laws
lead to its negation normal form, which negates checks only, so the tree
evaluates like that. -/
theorem holds_of_rewriting [PatternLibrary] (t : Predicate) :
    (∀ u, Relation.EqvGen Rewrites t u →
      ∀ scope value, u.holds scope value = t.holds scope value) ∧
    t.normal.NegationNormal ∧ Reduces t t.normal ∧
    ∀ scope value, t.normal.holds scope value = t.holds scope value := by
  have hreduces : Reduces t t.normal := (reduces_normal t).1
  have hverdict : ∀ u, Relation.EqvGen Rewrites t u →
      ∀ scope value, u.holds scope value = t.holds scope value :=
    fun u h scope value => (holds_eq_of_eqvGen h scope value).symm
  refine ⟨hverdict, (negationNormal_normal t).1, hreduces, hverdict _ ?_⟩
  exact Relation.EqvGen.reflTransGen_le_eqvGen Rewrites _ _ hreduces

example : (combine .not [combine .not [check .empty [], check .nullValue []]]).normal =
    combine .allOf [check .empty [], check .nullValue []] := by decide

end Predicate
end Matcher
end Scenario
