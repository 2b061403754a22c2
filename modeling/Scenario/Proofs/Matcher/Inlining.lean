import Scenario.Matcher.Verdict
import Scenario.Pattern.Search
import Scenario.Proofs.Matcher.Canonical
import Scenario.Proofs.Scope.Pieces

/-!
# Inlining — filling the variables in before, or while evaluating

`inlined` fills the variables of every argument of a tree in and keeps the
tree otherwise. A verdict in a scope fills the arguments in as it reaches
them, so it is the verdict of the inlined tree where nothing is bound:
whatever placeholders are left, or came with a value, stay as they are on
the second pass (`holds_inlined`).

The inlined tree can also be written down and read again. Its nodes are the
nodes of the tree, inlined (`nodes_inlined`), and have as many arguments and
parts, so it is well-formed as soon as its patterns are (`wellFormed_inlined`).
No value can change its shape, since the canonical text quotes them all.
-/

namespace Scenario
namespace Matcher

/-! ## Inlined trees -/

namespace Predicate

mutual

/-- The tree with the variables of its arguments filled in. -/
def inlined (scope : Scope) : Predicate → Predicate
  | check kind args => check kind (args.map scope.fill)
  | combine kind parts => combine kind (inlinedAll scope parts)

/-- The same for some trees. -/
def inlinedAll (scope : Scope) : List Predicate → List Predicate
  | [] => []
  | p :: ps => p.inlined scope :: inlinedAll scope ps

end

variable (scope : Scope)

theorem inlinedAll_eq_map (ps : List Predicate) : inlinedAll scope ps = ps.map (inlined scope) := by
  induction ps with
  | nil => rfl
  | cons p ps ih => rw [inlinedAll, ih, List.map_cons]

mutual

/-- **Inlining works node by node.** -/
theorem nodes_inlined : ∀ t : Predicate, (t.inlined scope).nodes = t.nodes.map (inlined scope)
  | check kind args => by rw [inlined, nodes, nodes, List.map_singleton, inlined]
  | combine kind parts => by
    rw [inlined, nodes, nodes, nodesAll_inlinedAll parts, List.map_append, List.map_singleton,
      inlined]

theorem nodesAll_inlinedAll : ∀ ps : List Predicate,
    nodesAll (inlinedAll scope ps) = (nodesAll ps).map (inlined scope)
  | [] => rfl
  | p :: ps => by
    rw [inlinedAll, nodesAll, nodesAll, nodes_inlined p, nodesAll_inlinedAll ps, List.map_append]

end

end Predicate

section

variable [PatternLibrary]

/-! ## Parsing and well-formed trees -/

namespace Grammar

/-- **A call derives well-formed trees only.** The induction goes through
the items of a call and the lists in it. -/
theorem Call.wellFormed {cs rest : List Char} {t : Predicate} (h : Call cs t rest) :
    t.WellFormed := by
  refine @Call.rec _ (fun _ t _ _ => t.WellFormed)
    (fun _ parts _ _ => ∀ node ∈ Predicate.nodesAll parts, node.Sound)
    (fun _ parts _ _ => ∀ node ∈ Predicate.nodesAll parts, node.Sound)
    ?check ?combine ?none ?some ?last ?more cs t rest h
  case check =>
    intro kind blank inside rest args _ _ hadmits node hn
    rw [Predicate.nodes, List.mem_singleton] at hn
    rw [hn]
    exact hadmits
  case combine =>
    intro kind blank inside rest parts _ _ haccepts ih node hn
    rw [Predicate.nodes, List.mem_append, List.mem_singleton] at hn
    rcases hn with hn | rfl
    · exact ih node hn
    · exact haccepts
  case none =>
    intro blank rest _ node hn
    cases hn
  case some =>
    intro text rest parts _ _ ih
    exact ih
  case last =>
    intro lead item trail rest part _ _ _ ih node hn
    rw [Predicate.nodesAll, Predicate.nodesAll, List.append_nil] at hn
    exact ih node hn
  case more =>
    intro lead item trail next rest part parts _ _ _ _ ih ihNext node hn
    rw [Predicate.nodesAll, List.mem_append] at hn
    exact hn.elim (ih node) (ihNext node)

end Grammar

/-- **What is parsed is well-formed.** -/
theorem wellFormed_of_parse {expression : String} {t : Predicate}
    (h : parse expression = .ok t) : t.WellFormed := by
  rw [parse, Parser.next, Parser.start] at h
  split at h
  · next hread =>
    cases h
    obtain ⟨⟨_, _, _, _, _, _, hcall⟩, -⟩ := Grammar.readExpression_eq_done_iff.mp hread
    exact hcall.wellFormed
  · cases h

/-- **A canonical text is read back** as its own tree, if that is well-formed, and as
no other. -/
theorem parse_text_eq_ok_iff {t u : Predicate} : parse t.text = .ok u ↔ u = t ∧ t.WellFormed := by
  have hreport := Grammar.reports_readExpression t
  unfold Reading.Reports at hreport
  rw [Predicate.wellFormed_iff_placed, ← firstMistake?_eq_none_iff, parse, Parser.next,
    Parser.start, Predicate.text, String.toList_ofList]
  cases hfirst : firstMistake? (t.placed []) with
  | none =>
    rw [hfirst] at hreport
    rw [hreport]
    simp [eq_comm]
  | some found =>
    rw [hfirst] at hreport
    obtain ⟨place, unread, -, hread⟩ := hreport
    rw [hread]
    simp

/-- So what is well-formed is the matcher of its canonical text. -/
theorem ofSource_text {t : Predicate} (h : t.WellFormed) : ofSource t.text = .ok ⟨t.text, t⟩ := by
  rw [ofSource, parse_text_eq_ok_iff.mpr ⟨rfl, h⟩]

/-! ## Verdicts of inlined trees -/

namespace Predicate

variable (scope : Scope) (value : Option String)

mutual

/-- **Inlining first does not change the verdict**: what a scope fills in as
the tree is evaluated may as well be there before. -/
theorem holds_inlined : ∀ t : Predicate, (t.inlined scope).holds .empty value = t.holds scope value
  | check kind args => by
    have hfill : (args.map scope.fill).map Scope.empty.fill = args.map scope.fill := by
      rw [List.map_map]
      exact List.map_congr_left fun arg _ => Scope.fill_empty (scope.fill arg)
    rw [inlined, holds, holds, hfill]
  | combine .not parts => by rw [inlined, holds, holds, allHold_inlinedAll parts]
  | combine .anyOf parts => by rw [inlined, holds, holds, anyHolds_inlinedAll parts]
  | combine .allOf parts => by rw [inlined, holds, holds, allHold_inlinedAll parts]

theorem allHold_inlinedAll : ∀ ps : List Predicate,
    allHold .empty value (inlinedAll scope ps) = allHold scope value ps
  | [] => rfl
  | p :: ps => by rw [inlinedAll, allHold, allHold, holds_inlined p, allHold_inlinedAll ps]

theorem anyHolds_inlinedAll : ∀ ps : List Predicate,
    anyHolds .empty value (inlinedAll scope ps) = anyHolds scope value ps
  | [] => rfl
  | p :: ps => by rw [inlinedAll, anyHolds, anyHolds, holds_inlined p, anyHolds_inlinedAll ps]

end

/-- **Every pattern of the tree is valid as far as it is known**: it still
names variables, or it compiles. -/
def PatternsAdmitted (t : Predicate) : Prop :=
  ∀ args, check .matchesPattern args ∈ t.nodes → ∀ pattern ∈ args,
    ['$', '{'] <:+: pattern.toList ∨ (PatternLibrary.compileWhole pattern).isOk = true

variable {scope} {t : Predicate}

/-- **An inlined tree is well-formed if its patterns are**: the numbers of
arguments and parts are those of the tree. -/
theorem wellFormed_inlined (h : t.WellFormed) (hp : (t.inlined scope).PatternsAdmitted) :
    (t.inlined scope).WellFormed := by
  intro node hn
  obtain ⟨origin, ho, rfl⟩ := List.mem_map.mp (nodes_inlined scope t ▸ hn)
  have hsound := h origin ho
  cases origin with
  | check kind args =>
    rw [inlined] at hn ⊢
    refine ⟨?_, ?_⟩
    · rw [List.length_map]
      exact hsound.accepts
    · rintro rfl
      exact hp _ hn
  | combine kind parts =>
    rw [inlined, Sound, inlinedAll_eq_map, List.length_map]
    exact hsound

end Predicate

/-- **Evaluating with variables is evaluating with their values inlined.**
The tree of an accepted expression and its inlined tree, the latter without
any variables, have the same verdict on every value. And if the patterns in
the inlined tree are valid, its canonical text is accepted, and the matcher
it is read as has that verdict too, whatever is in the values. -/
theorem accepts_inlined {expression : String} {t : Predicate} (h : parse expression = .ok t)
    (scope : Scope) :
    (∀ value, (t.inlined scope).holds .empty value = t.holds scope value) ∧
      ((t.inlined scope).PatternsAdmitted →
        ∃ m, ofSource (t.inlined scope).text = .ok m ∧
          ∀ value, m.accepts .empty value = t.holds scope value) := by
  refine ⟨fun value => Predicate.holds_inlined scope value t, fun hp => ?_⟩
  have hwf : (t.inlined scope).WellFormed := Predicate.wellFormed_inlined (wellFormed_of_parse h) hp
  exact ⟨_, ofSource_text hwf, fun value => Predicate.holds_inlined scope value t⟩

end

/-- A value that would end its argument, open a call and name itself is only
quoted; the pattern still names a variable that is not bound. -/
theorem accepts_inlined_hostile :
    ∃ t m, parse "AllOf(EqualTo(${name}), Not(MatchesPattern(${pattern})))" = .ok t ∧
      (t.inlined (.ofList [("name", "it's), Not(${name}, \\")])).PatternsAdmitted ∧
      ofSource "AllOf(EqualTo('it\\'s), Not(${name}, \\\\'), Not(MatchesPattern('${pattern}')))" =
        .ok m ∧
      ∀ value, m.accepts .empty value =
        t.holds (.ofList [("name", "it's), Not(${name}, \\")]) value := by
  obtain ⟨scope, hscope⟩ : ∃ scope, scope = Scope.ofList [("name", "it's), Not(${name}, \\")] :=
    ⟨_, rfl⟩
  obtain ⟨t, ht⟩ : ∃ t, t = Predicate.combine .allOf [.check .equalTo ["${name}"],
    .combine .not [.check .matchesPattern ["${pattern}"]]] := ⟨_, rfl⟩
  rw [← hscope]
  have hparse : parse "AllOf(EqualTo(${name}), Not(MatchesPattern(${pattern})))" = .ok t := by
    have hsome : (parse "AllOf(EqualTo(${name}), Not(MatchesPattern(${pattern})))").toOption =
        some t := by
      rw [ht]
      decide +kernel
    cases hread : parse "AllOf(EqualTo(${name}), Not(MatchesPattern(${pattern})))" with
    | ok p =>
      rw [hread] at hsome
      cases hsome
      rfl
    | error e =>
      rw [hread] at hsome
      cases hsome
  have hinlined : t.inlined scope = .combine .allOf [.check .equalTo ["it's), Not(${name}, \\"],
      .combine .not [.check .matchesPattern ["${pattern}"]]] := by
    rw [ht, hscope]
    decide +kernel
  have hpatterns : (t.inlined scope).PatternsAdmitted := by
    intro args hargs pattern hp
    rw [hinlined] at hargs
    simp only [Predicate.nodes, Predicate.nodesAll] at hargs
    obtain rfl : args = ["${pattern}"] := by simpa using hargs
    rw [List.mem_singleton.mp hp]
    exact .inl (by decide)
  have htext : (t.inlined scope).text =
      "AllOf(EqualTo('it\\'s), Not(${name}, \\\\'), Not(MatchesPattern('${pattern}')))" := by
    rw [hinlined]
    decide +kernel
  obtain ⟨-, haccepts⟩ := accepts_inlined hparse scope
  obtain ⟨m, hm, hverdict⟩ := haccepts hpatterns
  rw [htext] at hm
  exact ⟨t, m, hparse, hpatterns, hm, hverdict⟩

end Matcher
end Scenario
