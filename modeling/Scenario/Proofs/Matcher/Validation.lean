import Scenario.Pattern.Search
import Scenario.Proofs.Matcher.Inlining

/-!
# Validation — what parsing spares evaluation

A pattern is compiled twice: when the expression is parsed, unless it names
variables, and each time its check is evaluated, with the variables filled in.
`Predicate.evaluated` is the evaluation of a predicate that also tells which
checks it comes to, one part after another and no further than the verdict
needs. Its verdict is the one of the predicate (`verdict_evaluated`), and the
checks it comes to are nodes of the tree (`mem_nodes_of_mem_visited`).

What is parsed is well-formed, so a pattern that names no variables has
compiled. Filling does not change it, hence it compiles again
(`names_variables_of_meetsInvalid`). The pattern that evaluation finds to be
none is one that names variables.
-/

namespace Scenario
namespace Matcher

/-- An evaluation: the verdict, and the checks that were evaluated for it, in
their order. -/
structure Evaluation where
  /-- The verdict. -/
  verdict : Bool
  /-- The checks evaluated, as they are written. -/
  visited : List Predicate
  deriving DecidableEq

section

variable [PatternLibrary]

namespace Predicate

variable (scope : Scope) (value : Option String)

mutual

/-- **The evaluation of a predicate.** A check is evaluated with its variables
filled in, `AnyOf` comes to its parts until one holds, and `Not` and `AllOf`
until one does not. -/
def evaluated : Predicate → Evaluation
  | check kind args => ⟨kind.passes (args.map scope.fill) value, [check kind args]⟩
  | combine .not parts =>
    let all := evaluatedUntil false parts
    ⟨!all.verdict, all.visited⟩
  | combine .anyOf parts => evaluatedUntil true parts
  | combine .allOf parts => evaluatedUntil false parts

/-- The evaluation of some predicates, one after another, until the verdict of
one is `stop`. -/
def evaluatedUntil (stop : Bool) : List Predicate → Evaluation
  | [] => ⟨!stop, []⟩
  | p :: ps =>
    let first := p.evaluated
    if first.verdict = stop then first
    else
      let others := evaluatedUntil stop ps
      ⟨others.verdict, first.visited ++ others.visited⟩

end

mutual

/-- **Evaluating gives the verdict of the predicate.** -/
theorem verdict_evaluated :
    ∀ t : Predicate, (t.evaluated scope value).verdict = t.holds scope value
  | check kind args => by rw [evaluated, holds]
  | combine .not parts => by
    have hall := verdict_evaluatedUntil_false parts
    rw [evaluated, holds]
    dsimp only
    rw [hall]
  | combine .anyOf parts => by rw [evaluated, holds, verdict_evaluatedUntil_true parts]
  | combine .allOf parts => by rw [evaluated, holds, verdict_evaluatedUntil_false parts]

/-- Stopping at the first part that does not hold decides whether all do. -/
theorem verdict_evaluatedUntil_false : ∀ ps : List Predicate,
    (evaluatedUntil scope value false ps).verdict = allHold scope value ps
  | [] => by rw [evaluatedUntil, allHold]; rfl
  | p :: ps => by
    have hfirst := verdict_evaluated p
    rw [evaluatedUntil, allHold, ← hfirst]
    dsimp only
    split
    · next hstop => rw [hstop, Bool.false_and]
    · next hstop =>
      rw [Bool.not_eq_false] at hstop
      rw [hstop, Bool.true_and, verdict_evaluatedUntil_false ps]

/-- And stopping at the first that does, whether one does. -/
theorem verdict_evaluatedUntil_true : ∀ ps : List Predicate,
    (evaluatedUntil scope value true ps).verdict = anyHolds scope value ps
  | [] => by rw [evaluatedUntil, anyHolds]; rfl
  | p :: ps => by
    have hfirst := verdict_evaluated p
    rw [evaluatedUntil, anyHolds, ← hfirst]
    dsimp only
    split
    · next hstop => rw [hstop, Bool.true_or]
    · next hstop =>
      rw [Bool.not_eq_true] at hstop
      rw [hstop, Bool.false_or, verdict_evaluatedUntil_true ps]

end

variable {scope value} {leaf : Predicate}

mutual

/-- **Evaluation comes to nodes of the tree.** -/
theorem mem_nodes_of_mem_visited : ∀ {t : Predicate},
    leaf ∈ (t.evaluated scope value).visited → leaf ∈ t.nodes
  | check kind args, h => by
    rw [evaluated] at h
    rwa [nodes]
  | combine kind parts, h => by
    rw [nodes]
    refine List.mem_append_left _ ?_
    cases kind with
    | not =>
      rw [evaluated] at h
      exact mem_nodesAll_of_mem_visited false h
    | anyOf =>
      rw [evaluated] at h
      exact mem_nodesAll_of_mem_visited true h
    | allOf =>
      rw [evaluated] at h
      exact mem_nodesAll_of_mem_visited false h

/-- And so it does in a list of trees, wherever it stops. -/
theorem mem_nodesAll_of_mem_visited : ∀ (stop : Bool) {ps : List Predicate},
    leaf ∈ (evaluatedUntil scope value stop ps).visited → leaf ∈ nodesAll ps
  | stop, [], h => by
    rw [evaluatedUntil] at h
    cases h
  | stop, p :: ps, h => by
    rw [evaluatedUntil] at h
    dsimp only at h
    rw [nodesAll]
    split at h
    · exact List.mem_append_left _ (mem_nodes_of_mem_visited h)
    · rcases List.mem_append.mp h with hfirst | hothers
      · exact List.mem_append_left _ (mem_nodes_of_mem_visited hfirst)
      · exact List.mem_append_right _ (mem_nodesAll_of_mem_visited stop hothers)

end

/-- **Evaluating a check meets an invalid pattern**: it is the check of a
pattern, and the pattern with its variables filled in does not compile. -/
def MeetsInvalid (scope : Scope) : Predicate → Prop
  | check kind args => kind = .matchesPattern ∧
      (PatternLibrary.compileWhole ((args.map scope.fill).headD "")).isOk = false
  | combine _ _ => False

/-- **Only a pattern that names variables can turn out invalid**, if the check is
sound: any other has compiled, and filling does not change it. -/
theorem names_variables_of_meetsInvalid (hsound : leaf.Sound) (h : leaf.MeetsInvalid scope) :
    ∃ pattern, leaf = check .matchesPattern [pattern] ∧ ['$', '{'] <:+: pattern.toList := by
  cases leaf with
  | check kind args =>
    obtain ⟨rfl, hinvalid⟩ := h
    obtain ⟨pattern, rfl⟩ := exists_eq_singleton_of_matchesPattern hsound.accepts
    refine ⟨pattern, rfl, ?_⟩
    rcases hsound.patterns rfl pattern (List.mem_singleton_self _) with hnames | hcompiles
    · exact hnames
    · by_cases hvariables : ['$', '{'] <:+: pattern.toList
      · exact hvariables
      · have hfill : scope.fill pattern = pattern := scope.fill_of_no_marker hvariables
        rw [List.map_singleton, List.headD_cons, hfill] at hinvalid
        rw [hinvalid] at hcompiles
        cases hcompiles
  | combine kind parts => exact h.elim

end Predicate

/-- **What is parsed is valid all the way down, and stays so when it is
evaluated.** Each node has as many arguments or parts as its kind takes, and each
pattern names variables or compiles. In every scope and on every value,
evaluation finds a pattern invalid only at a check that is written with variables
in its pattern. -/
theorem valid_of_parse {expression : String} {t : Predicate} (h : parse expression = .ok t) :
    (∀ node ∈ t.nodes, node.Sound) ∧
      ∀ scope value, (t.evaluated scope value).verdict = t.holds scope value ∧
        ∀ leaf ∈ (t.evaluated scope value).visited, leaf.MeetsInvalid scope →
          ∃ pattern, leaf = .check .matchesPattern [pattern] ∧
            ['$', '{'] <:+: pattern.toList := by
  have hsound : ∀ node ∈ t.nodes, node.Sound := wellFormed_of_parse h
  refine ⟨hsound, fun scope value => ⟨t.verdict_evaluated scope value, ?_⟩⟩
  intro leaf hleaf hinvalid
  have hnode : leaf ∈ t.nodes := Predicate.mem_nodes_of_mem_visited hleaf
  exact Predicate.names_variables_of_meetsInvalid (hsound leaf hnode) hinvalid

end

/-- A value that is no pattern: evaluation meets it at the second check, takes it
for one that does not match, and with that does not come to the third. -/
theorem valid_of_parse_unclosed :
    ∃ t, parse "AnyOf(EqualTo(a), Not(MatchesPattern(${p})), MatchesPattern(b))" = .ok t ∧
      (t.evaluated (.ofList [("p", "[")]) (some "b")).visited =
        [.check .equalTo ["a"], .check .matchesPattern ["${p}"]] ∧
      (Predicate.check .matchesPattern ["${p}"]).MeetsInvalid (.ofList [("p", "[")]) ∧
      ∃ pattern, Predicate.check .matchesPattern ["${p}"] = .check .matchesPattern [pattern] ∧
        ['$', '{'] <:+: pattern.toList := by
  have hparse : parse "AnyOf(EqualTo(a), Not(MatchesPattern(${p})), MatchesPattern(b))" =
      .ok (.combine .anyOf [.check .equalTo ["a"],
        .combine .not [.check .matchesPattern ["${p}"]], .check .matchesPattern ["b"]]) := by
    decide +kernel
  have hvisited : (Predicate.evaluated (.ofList [("p", "[")]) (some "b")
      (.combine .anyOf [.check .equalTo ["a"], .combine .not [.check .matchesPattern ["${p}"]],
        .check .matchesPattern ["b"]])).visited =
      [.check .equalTo ["a"], .check .matchesPattern ["${p}"]] := by
    decide +kernel
  have hinvalid : (Predicate.check .matchesPattern ["${p}"]).MeetsInvalid
      (.ofList [("p", "[")]) := ⟨rfl, by decide +kernel⟩
  obtain ⟨-, hevaluation⟩ := valid_of_parse hparse
  obtain ⟨-, hmeets⟩ := hevaluation (.ofList [("p", "[")]) (some "b")
  exact ⟨_, hparse, hvisited, hinvalid, hmeets _ (by rw [hvisited]; simp) hinvalid⟩

end Matcher
end Scenario
