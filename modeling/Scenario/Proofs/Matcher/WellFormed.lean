import Scenario.Matcher.Reader

/-!
# Well-formed predicates — what every node owes its kind

A tree can be built with any number of arguments and parts and with any
text for a pattern. `Sound` is what a kind asks of one node, and a tree is
`WellFormed` if all its nodes are sound. The nodes are listed with the
children, left to right, before their parent, which is the order the reader
meets them in. What the reader checks of a call is soundness and nothing
else (`mistake?_eq_none_iff`).
-/

namespace Scenario
namespace Matcher

theorem namesVariables_eq_true_iff {pattern : String} :
    namesVariables pattern = true ↔ ['$', '{'] <:+: pattern.toList :=
  Text.occursIn_eq_true_iff

/-- The only check whose arguments are patterns takes one. -/
theorem exists_eq_singleton_of_matchesPattern {args : List String}
    (h : Check.matchesPattern.arity.accepts args.length = true) : ∃ pattern, args = [pattern] :=
  List.length_eq_one_iff.mp (by simpa [Check.arity, Arity.accepts] using h)

/-- A combinator is let pass exactly if it has as many parts as it takes. -/
theorem partsMistake?_eq_none_iff {kind : Combinator} {parts : List Predicate} :
    partsMistake? kind parts = none ↔ kind.arity.accepts parts.length = true := by
  rw [partsMistake?]
  cases kind.arity.accepts parts.length <;> simp

variable [PatternLibrary]

/-- What a check asks of its arguments: as many as its arity takes, and of
a pattern that it names variables or compiles. -/
structure Check.Admits (kind : Check) (args : List String) : Prop where
  /-- The arity takes the arguments. -/
  accepts : kind.arity.accepts args.length = true
  /-- Patterns are valid as far as they are known. -/
  patterns : kind = .matchesPattern → ∀ pattern ∈ args,
    ['$', '{'] <:+: pattern.toList ∨ (PatternLibrary.compileWhole pattern).isOk = true

namespace Predicate

/-- The node at the root has as many arguments or parts as its kind takes,
and its patterns are valid. -/
def Sound : Predicate → Prop
  | check kind args => kind.Admits args
  | combine kind parts => kind.arity.accepts parts.length = true

mutual

/-- The nodes of a tree, children left to right before their parent. -/
def nodes : Predicate → List Predicate
  | check kind args => [check kind args]
  | combine kind parts => nodesAll parts ++ [combine kind parts]

/-- The nodes of some trees, one tree after the other. -/
def nodesAll : List Predicate → List Predicate
  | [] => []
  | p :: ps => p.nodes ++ nodesAll ps

end

/-- **Every node is sound**, at any depth. -/
def WellFormed (t : Predicate) : Prop := ∀ node ∈ t.nodes, node.Sound

/-! ## What the reader checks of a call -/

/-- The mistake the reader finds at the root. -/
def mistake? : Predicate → Option Mistake
  | check kind args => argumentMistake? kind args
  | combine kind parts => partsMistake? kind parts

/-- What is wrong with a node that is not sound: the number of its
arguments or parts, or else its pattern. -/
inductive Fault : Predicate → Mistake → Prop
  | arguments {kind : Check} {args : List String} :
      kind.arity.accepts args.length = false →
      Fault (check kind args) (.wrongArity kind.name kind.arity args.length)
  | parts {kind : Combinator} {parts : List Predicate} :
      kind.arity.accepts parts.length = false →
      Fault (combine kind parts) (.wrongArity kind.name kind.arity parts.length)
  | pattern {pattern detail : String} :
      ¬ ['$', '{'] <:+: pattern.toList → PatternLibrary.compileWhole pattern = .error detail →
      Fault (check .matchesPattern [pattern]) (.invalidPattern pattern detail)

/-- A faulty node is not sound. -/
theorem Fault.not_sound {p : Predicate} {m : Mistake} (h : p.Fault m) : ¬ p.Sound := by
  cases h with
  | arguments h => intro hs; simp [hs.accepts] at h
  | parts h => intro hs; rw [Sound, h] at hs; cases hs
  | pattern hvars herror =>
    intro hs
    rcases hs.patterns rfl _ (List.mem_singleton_self _) with hv | hc
    · exact hvars hv
    · rw [herror] at hc; cases hc

/-- And its mistake is of one of two kinds. -/
theorem Fault.kind {p : Predicate} {m : Mistake} (h : p.Fault m) :
    m.kind = .invalidArity ∨ m.kind = .invalidPattern := by
  cases h with
  | arguments => exact .inl rfl
  | parts => exact .inl rfl
  | pattern => exact .inr rfl

end Predicate

/-- **The reader objects to a check exactly if it is faulty.** -/
theorem argumentMistake?_cases (kind : Check) (args : List String) :
    argumentMistake? kind args = none ∧ kind.Admits args ∨
      ∃ m, argumentMistake? kind args = some m ∧ (Predicate.check kind args).Fault m := by
  unfold argumentMistake?
  cases ha : kind.arity.accepts args.length with
  | false => exact .inr ⟨_, rfl, .arguments ha⟩
  | true =>
    by_cases hk : kind = .matchesPattern
    · subst hk
      obtain ⟨pattern, rfl⟩ := exists_eq_singleton_of_matchesPattern ha
      cases hv : namesVariables pattern with
      | true =>
        refine .inl ⟨by simp [hv], ha, fun _ p hp => ?_⟩
        rw [List.mem_singleton.mp hp]
        exact .inl (namesVariables_eq_true_iff.mp hv)
      | false =>
        cases hc : PatternLibrary.compileWhole pattern with
        | error detail =>
          refine .inr ⟨.invalidPattern pattern detail, by simp [hv, hc], .pattern ?_ hc⟩
          rw [← namesVariables_eq_true_iff, hv]
          exact Bool.false_ne_true
        | ok test =>
          refine .inl ⟨by simp [hv, hc], ha, fun _ p hp => ?_⟩
          rw [List.mem_singleton.mp hp, hc]
          exact .inr rfl
    · refine .inl ⟨?_, ha, fun h => absurd h hk⟩
      rw [if_neg (by simp)]
      split
      · exact absurd rfl hk
      · rfl

/-- So a check is let pass exactly if its arguments are admitted. -/
theorem argumentMistake?_eq_none_iff {kind : Check} {args : List String} :
    argumentMistake? kind args = none ↔ kind.Admits args := by
  rcases argumentMistake?_cases kind args with ⟨hn, ha⟩ | ⟨m, hm, hf⟩
  · exact ⟨fun _ => ha, fun _ => hn⟩
  · rw [hm]
    exact ⟨fun h => (nomatch h), fun h => absurd h hf.not_sound⟩

namespace Predicate

/-- **What the reader checks of a call is soundness.** -/
theorem mistake?_eq_none_iff {p : Predicate} : p.mistake? = none ↔ p.Sound := by
  cases p with
  | check kind args => exact argumentMistake?_eq_none_iff
  | combine kind parts => exact partsMistake?_eq_none_iff

/-- And what it reports is the fault of the node. -/
theorem fault_of_mistake? {p : Predicate} {m : Mistake} (h : p.mistake? = some m) :
    p.Fault m := by
  cases p with
  | check kind args =>
    rw [mistake?] at h
    rcases argumentMistake?_cases kind args with ⟨hn, -⟩ | ⟨m', hm, hf⟩
    · rw [hn] at h; cases h
    · rw [hm] at h; cases h; exact hf
  | combine kind parts =>
    rw [mistake?, partsMistake?] at h
    cases ha : kind.arity.accepts parts.length with
    | true => simp [ha] at h
    | false =>
      rw [ha] at h
      cases h
      exact .parts ha

end Predicate

end Matcher
end Scenario
