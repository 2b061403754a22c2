import Scenario.Pattern.Search
import Scenario.Proofs.Matcher.Negation
import Scenario.Proofs.Matcher.WellFormed

/-!
# Null checks — what tells null from the empty text

Every check but two reads null as the empty text, also the two that look at
null before it is read so: an empty text is empty and blank as well. The two
that ask for null itself are answered the other way round on the empty text
(`Check.passes_null`). What a check sees goes through the combinators as it is,
so a tree on null is the tree with these two exchanged on the empty text
(`Predicate.holds_exchanged`). A tree without them is its own exchange, and
cannot tell the two values apart (`null_told_from_empty`).
-/

namespace Scenario
namespace Matcher

namespace Check

/-- **The check asks for null itself**, or for anything else. -/
def AsksForNull (kind : Check) : Prop := kind = nullValue ∨ kind = notNullValue

instance : DecidablePred AsksForNull := fun kind =>
  inferInstanceAs (Decidable (kind = nullValue ∨ kind = notNullValue))

/-- The check, with the two that ask for null exchanged. -/
def exchanged : Check → Check
  | nullValue => notNullValue
  | notNullValue => nullValue
  | kind => kind

variable {kind : Check}

theorem exchanged_eq_self (h : ¬ kind.AsksForNull) : kind.exchanged = kind := by
  unfold AsksForNull at h
  rw [not_or] at h
  cases kind with
  | nullValue => exact absurd rfl h.1
  | notNullValue => exact absurd rfl h.2
  | _ => rfl

/-- **A check on null is the exchanged check on the empty text.** -/
theorem passes_null [PatternLibrary] (kind : Check) (args : List String) :
    kind.passes args none = kind.exchanged.passes args (some "") := by
  cases kind <;> rfl

/-- **Only the checks that ask for null tell it from the empty text**, whatever
their arguments are. -/
theorem passes_null_ne_iff [PatternLibrary] (args : List String) :
    kind.passes args none ≠ kind.passes args (some "") ↔ kind.AsksForNull := by
  constructor
  · intro hne
    by_cases hasks : kind.AsksForNull
    · exact hasks
    · rw [passes_null, exchanged_eq_self hasks] at hne
      exact absurd rfl hne
  · rintro (rfl | rfl)
    · exact Bool.false_ne_true.symm
    · exact Bool.false_ne_true

end Check

namespace Predicate

variable {scope scope' : Scope} {value value' : Option String} {kind : Combinator}
variable {t : Predicate} {parts parts' : List Predicate}

/-! ## The exchanged tree -/

/-- **A combinator sees the verdicts of its parts**, and not where they come from. -/
theorem holds_combine_congr [PatternLibrary]
    (h : parts.map (holds scope value) = parts'.map (holds scope' value')) :
    (combine kind parts).holds scope value = (combine kind parts').holds scope' value' := by
  have hall : parts.all (holds scope value) = parts'.all (holds scope' value') := by
    have hmapped := congrArg (List.all · id) h
    simpa only [List.all_map, Function.id_comp] using hmapped
  have hany : parts.any (holds scope value) = parts'.any (holds scope' value') := by
    have hmapped := congrArg (List.any · id) h
    simpa only [List.any_map, Function.id_comp] using hmapped
  cases kind with
  | not => rw [holds_not, holds_not, hall]
  | anyOf => rw [holds_anyOf, holds_anyOf, hany]
  | allOf => rw [holds_allOf, holds_allOf, hall]

mutual

/-- **The tree with the checks that ask for null exchanged**, at any depth. -/
def exchanged : Predicate → Predicate
  | check kind args => check kind.exchanged args
  | combine kind parts => combine kind (exchangedAll parts)

/-- The same for some trees. -/
def exchangedAll : List Predicate → List Predicate
  | [] => []
  | p :: ps => p.exchanged :: exchangedAll ps

end

theorem exchangedAll_eq_map (parts : List Predicate) :
    exchangedAll parts = parts.map exchanged := by
  induction parts with
  | nil => rfl
  | cons p parts ih => rw [exchangedAll, ih, List.map_cons]

/-- **The exchange makes up for null**: on the empty text the exchanged tree has
the verdict that the tree has on null. -/
theorem holds_exchanged [PatternLibrary] (t : Predicate) :
    t.exchanged.holds scope (some "") = t.holds scope none := by
  induction t using induct with
  | check kind args => rw [exchanged, holds, holds, Check.passes_null]
  | combine kind parts ih =>
    rw [exchanged, exchangedAll_eq_map]
    refine holds_combine_congr ?_
    rw [List.map_map]
    exact List.map_congr_left ih

/-! ## Trees without checks for null -/

/-- **No check of the tree asks for null.** -/
def BlindToNull (t : Predicate) : Prop :=
  ∀ kind args, check kind args ∈ t.nodes → ¬ kind.AsksForNull

/-- The nodes of some trees are those of each of them. -/
theorem mem_nodesAll {node : Predicate} :
    node ∈ nodesAll parts ↔ ∃ p ∈ parts, node ∈ p.nodes := by
  induction parts with
  | nil => simp [nodesAll]
  | cons p parts ih => simp [nodesAll, ih]

/-- Then none of a part asks for it. -/
theorem BlindToNull.part {p : Predicate}
    (h : (combine kind parts).BlindToNull) (hp : p ∈ parts) : p.BlindToNull := by
  intro leaf args hleaf
  refine h leaf args ?_
  rw [nodes]
  exact List.mem_append_left _ (mem_nodesAll.mpr ⟨p, hp, hleaf⟩)

/-- **Such a tree is its own exchange.** -/
theorem BlindToNull.exchanged_eq (h : t.BlindToNull) : t.exchanged = t := by
  induction t using induct with
  | check kind args =>
    have hasks : ¬ kind.AsksForNull := h kind args (by simp [nodes])
    rw [exchanged, Check.exchanged_eq_self hasks]
  | combine kind parts ih =>
    have hparts : parts.map exchanged = parts :=
      (List.map_congr_left fun p hp => ih p hp (h.part hp)).trans (List.map_id' parts)
    rw [exchanged, exchangedAll_eq_map, hparts]

/-- **Only the checks that ask for null tell null from the empty text.** A tree
without them has the same verdict on both, in every scope and whatever its
shape. Every tree has on null the verdict that it has on the empty text with
these checks exchanged, and each of them does tell the two apart. -/
theorem null_told_from_empty [PatternLibrary] (t : Predicate) (scope : Scope) :
    (t.BlindToNull → t.holds scope none = t.holds scope (some "")) ∧
      t.holds scope none = t.exchanged.holds scope (some "") ∧
      ∀ kind args, (check kind args).holds scope none ≠ (check kind args).holds scope (some "") ↔
        kind.AsksForNull := by
  have hexchanged : t.holds scope none = t.exchanged.holds scope (some "") :=
    (holds_exchanged t).symm
  refine ⟨fun hblind => ?_, hexchanged, fun kind args => ?_⟩
  · rw [hexchanged, hblind.exchanged_eq]
  · rw [holds, holds]
    exact Check.passes_null_ne_iff _

/-- A tree of combinators with any number of parts and checks with any number of
arguments, two of which look at null before it is read as the empty text. -/
def unchecked : Predicate :=
  combine .not [combine .allOf [check .isEmptyOrNullString ["x"], check .blankOrNullString [],
    check .isOneOf ["${v}", "null"], combine .anyOf [check .equalTo []]], combine .not []]

/-- It takes null for the empty text, which is one of its arguments filled in. -/
theorem null_told_from_empty_unchecked :
    unchecked.BlindToNull ∧
      unchecked.holds (.ofList [("v", " ")]) none =
        unchecked.holds (.ofList [("v", " ")]) (some "") := by
  have hblind : unchecked.BlindToNull := by
    intro kind args hmem
    simp only [unchecked, nodes, nodesAll, List.append_nil, List.nil_append, List.cons_append,
      List.mem_cons, check.injEq, List.not_mem_nil, or_false, reduceCtorEq] at hmem
    rcases hmem with ⟨rfl, -⟩ | ⟨rfl, -⟩ | ⟨rfl, -⟩ | ⟨rfl, -⟩ <;> decide
  exact ⟨hblind, (null_told_from_empty unchecked _).1 hblind⟩

end Predicate
end Matcher
end Scenario
