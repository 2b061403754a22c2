import Scenario.Proofs.Pattern.Turns
import Scenario.Proofs.Pattern.Run

/-!
# Ordered counts — what is read can be searched for

A repetition in braces is read only if its first count is at most its second
one, and all other repetitions have counts of their own. So every expression
that is read is ordered (`ordered_of_read?`), and so is the regular expression
it resolves to, whatever the flags (`Expr.Ordered.resolve`).
-/

namespace Scenario
namespace Pattern

/-- No repetition has a least number of turns above its largest. -/
inductive Expr.Ordered : Expr → Prop
  | empty : Ordered .empty
  | flags {setting : FlagSetting} : Ordered (.flags setting)
  | literal {c : Char} {twoDigits : Bool} : Ordered (.literal c twoDigits)
  | dot : Ordered .dot
  | assertion {kind : Assertion} : Ordered (.assertion kind)
  | set {body : SetExpr} : Ordered (.set body)
  | repetition {greedy : Bool} {min : Nat} {max : Option Nat} {body : Expr} :
      (∀ n, max = some n → min ≤ n) → Ordered body → Ordered (.repetition greedy min max body)
  | group {captures : Bool} {setting : FlagSetting} {body : Expr} :
      Ordered body → Ordered (.group captures setting body)
  | alternation {branches : List Expr} :
      (∀ e ∈ branches, Ordered e) → Ordered (.alternation branches)
  | concat {items : List Expr} : (∀ e ∈ items, Ordered e) → Ordered (.concat items)

namespace Expr

/-- All of some expressions are ordered. -/
def AllOrdered (es : List Expr) : Prop := ∀ e ∈ es, e.Ordered

theorem AllOrdered.nil : AllOrdered [] := fun _ h => absurd h List.not_mem_nil

theorem AllOrdered.concat {es : List Expr} {e : Expr} (hes : AllOrdered es) (he : e.Ordered) :
    AllOrdered (es ++ [e]) := by
  intro e' he'
  rcases List.mem_append.mp he' with h | h
  · exact hes e' h
  · exact List.mem_singleton.mp h ▸ he

/-- The last expression repeated is as ordered as its counts. -/
theorem AllOrdered.repeated {before : List Expr} {e : Expr} (h : AllOrdered (before ++ [e]))
    {greedy : Bool} {min : Nat} {max : Option Nat} (hcounts : ∀ n, max = some n → min ≤ n) :
    AllOrdered (before ++ [.repetition greedy min max e]) :=
  concat (fun e' he' => h e' (List.mem_append_left _ he'))
    (.repetition hcounts (h e (List.mem_append_right _ (List.mem_singleton_self e))))

theorem AllOrdered.ofItems {es : List Expr} (h : AllOrdered es) : (Expr.ofItems es).Ordered := by
  rcases es with _ | ⟨e, _ | ⟨e', es⟩⟩
  · exact .empty
  · exact h e List.mem_cons_self
  · exact .concat h

theorem AllOrdered.ofBranches {es : List Expr} (h : AllOrdered es) :
    (Expr.ofBranches es).Ordered := by
  rcases es with _ | ⟨e, _ | ⟨e', es⟩⟩
  · exact .alternation h
  · exact h e List.mem_cons_self
  · exact .alternation h

/-! ## Resolved expressions -/

theorem ordered_resolveItems {f g : Flags} {r : Regex} {items : List Expr}
    (h : ∀ e ∈ items, ∀ f r g, e.resolve f = some (r, g) → r.Ordered)
    (hr : resolveItems f items = some (r, g)) : r.Ordered := by
  induction items generalizing f r with
  | nil =>
    cases hr
    exact .empty
  | cons e es ih =>
    rw [resolveItems] at hr
    split at hr
    · cases hr
    · next hfirst =>
      split at hr
      · cases hr
      · next hrest =>
        cases hr
        exact .seq (h e List.mem_cons_self _ _ _ hfirst)
          (ih (fun e' he' => h e' (List.mem_cons_of_mem _ he')) hrest)

theorem ordered_resolveBranches {f g : Flags} {rs : List Regex} {branches : List Expr}
    (h : ∀ e ∈ branches, ∀ f r g, e.resolve f = some (r, g) → r.Ordered)
    (hrs : resolveBranches f branches = some (rs, g)) : ∀ r ∈ rs, r.Ordered := by
  induction branches generalizing f rs with
  | nil =>
    cases hrs
    intro r hr
    cases hr
  | cons e es ih =>
    rw [resolveBranches] at hrs
    split at hrs
    · cases hrs
    · next hfirst =>
      split at hrs
      · cases hrs
      · next hrest =>
        cases hrs
        intro r hr
        rcases List.mem_cons.mp hr with rfl | hr
        · exact h e List.mem_cons_self _ _ _ hfirst
        · exact ih (fun e' he' => h e' (List.mem_cons_of_mem _ he')) hrest r hr

/-- **Resolving keeps the counts in order.** -/
theorem Ordered.resolve {e : Expr} (h : e.Ordered) :
    ∀ f r g, e.resolve f = some (r, g) → r.Ordered := by
  induction h with
  | empty | flags | assertion =>
    intro f r g hr
    cases hr
    constructor
  | literal =>
    intro f r g hr
    rw [Expr.resolve] at hr
    split at hr <;> cases hr
    exact .chars
  | dot | set =>
    intro f r g hr
    rw [Expr.resolve, Option.map_eq_some_iff] at hr
    obtain ⟨set, -, hr⟩ := hr
    cases hr
    exact .chars
  | repetition hcounts _ ih =>
    intro f r g hr
    rw [Expr.resolve, Option.map_eq_some_iff] at hr
    obtain ⟨⟨r', g'⟩, hbody, hr⟩ := hr
    cases hr
    exact .repetition hcounts (ih _ _ _ hbody)
  | @group captures setting body _ ih =>
    intro f r g hr
    rw [Expr.resolve, Option.map_eq_some_iff] at hr
    obtain ⟨⟨r', g'⟩, hbody, hr⟩ := hr
    cases hr
    cases captures
    · exact ih _ _ _ hbody
    · exact .capture (ih _ _ _ hbody)
  | alternation _ ih =>
    intro f r g hr
    rw [Expr.resolve, Option.map_eq_some_iff] at hr
    obtain ⟨⟨rs, g'⟩, hbranches, hr⟩ := hr
    cases hr
    exact .choice (ordered_resolveBranches ih hbranches)
  | concat _ ih =>
    intro f r g hr
    rw [Expr.resolve] at hr
    exact ordered_resolveItems ih hr

end Expr

/-! ## Expressions that are read -/

namespace Reader

open Scenario.Pattern.Expr (AllOrdered)

variable {branches items : List Expr} {i j : Input}

/-- **Counts are read in order.** -/
theorem le_of_counts {low : Nat} {high : Option Nat} (h : counts i = some ((low, high), j)) :
    ∀ n, high = some n → low ≤ n := by
  rw [counts_eq] at h
  obtain ⟨_, _, -, h⟩ := bind_eq_some_iff.mp h
  obtain ⟨_, _, -, h⟩ := bind_eq_some_iff.mp h
  obtain ⟨_, _, -, h⟩ := bind_eq_some_iff.mp h
  rintro n rfl
  split at h
  · obtain ⟨_, _, -, h⟩ := bind_eq_some_iff.mp h
    obtain ⟨_, _, -, h⟩ := bind_eq_some_iff.mp h
    unfold countsAfter at h
    split at h
    · cases h
    · obtain ⟨_, _, -, h⟩ := bind_eq_some_iff.mp h
      obtain ⟨_, _, hrequire, h⟩ := bind_eq_some_iff.mp h
      cases h
      exact of_decide_eq_true (of_require hrequire).1
  · cases h
    exact Nat.le_refl _

section Turns

variable {a : List Expr × List Expr} (hbranches : AllOrdered branches) (hitems : AllOrdered items)
include hbranches hitems

theorem ordered_of_quantifier {min : Nat} {max : Option Nat}
    (hcounts : ∀ n, max = some n → min ≤ n)
    (h : quantifier min max branches items i = some (a, j)) :
    AllOrdered a.1 ∧ AllOrdered a.2 := by
  rw [quantifier] at h
  obtain ⟨⟨before, e⟩, _, hrepeated, h⟩ := bind_eq_some_iff.mp h
  obtain ⟨hsplit, -⟩ := of_repeated hrepeated
  obtain ⟨_, _, -, h⟩ := bind_eq_some_iff.mp h
  obtain ⟨_, _, -, h⟩ := bind_eq_some_iff.mp h
  cases h
  exact ⟨hbranches, (hsplit ▸ hitems : AllOrdered (_ ++ [_])).repeated hcounts⟩

theorem ordered_of_braces (h : braces branches items i = some (a, j)) :
    AllOrdered a.1 ∧ AllOrdered a.2 := by
  rw [braces] at h
  obtain ⟨⟨before, e⟩, _, hrepeated, h⟩ := bind_eq_some_iff.mp h
  obtain ⟨hsplit, -⟩ := of_repeated hrepeated
  obtain ⟨⟨low, high⟩, _, hcounts, h⟩ := bind_eq_some_iff.mp h
  obtain ⟨_, _, -, h⟩ := bind_eq_some_iff.mp h
  obtain ⟨_, _, -, h⟩ := bind_eq_some_iff.mp h
  obtain ⟨_, _, -, h⟩ := bind_eq_some_iff.mp h
  obtain ⟨_, _, -, h⟩ := bind_eq_some_iff.mp h
  obtain ⟨_, _, -, h⟩ := bind_eq_some_iff.mp h
  cases h
  exact ⟨hbranches, (hsplit ▸ hitems : AllOrdered (_ ++ [_])).repeated (le_of_counts hcounts)⟩

variable {inside : Reader Expr} (hinside : ∀ i e j, inside i = some (e, j) → e.Ordered)
include hinside

theorem ordered_of_group (h : group inside branches items i = some (a, j)) :
    AllOrdered a.1 ∧ AllOrdered a.2 := by
  obtain ⟨_, _, -, h⟩ := bind_eq_some_iff.mp h
  obtain ⟨opening, _, -, h⟩ := bind_eq_some_iff.mp h
  cases opening with
  | flags setting =>
    cases h
    exact ⟨hbranches, hitems.concat .flags⟩
  | group captures setting =>
    obtain ⟨_, _, -, h⟩ := bind_eq_some_iff.mp h
    obtain ⟨inner, _, hinner, h⟩ := bind_eq_some_iff.mp h
    obtain ⟨_, -, rfl, -⟩ := groupEnd_eq_some_iff.mp h
    exact ⟨hbranches, hitems.concat (.group (hinside _ _ _ hinner))⟩

/-- **A turn keeps the counts in order.** -/
theorem ordered_of_turn {c : Char} (h : turn inside branches items c i = some (a, j)) :
    AllOrdered a.1 ∧ AllOrdered a.2 := by
  unfold turn at h
  split at h
  · exact ordered_of_group hbranches hitems hinside h
  · obtain ⟨_, _, -, h⟩ := bind_eq_some_iff.mp h
    cases h
    exact ⟨hbranches.concat hitems.ofItems, AllOrdered.nil⟩
  · obtain ⟨_, _, -, h⟩ := bind_eq_some_iff.mp h
    obtain ⟨_, _, -, h⟩ := bind_eq_some_iff.mp h
    cases h
    exact ⟨hbranches, hitems.concat .set⟩
  · exact ordered_of_quantifier hbranches hitems (by rintro n ⟨⟩; exact Nat.zero_le 1) h
  · exact ordered_of_quantifier hbranches hitems (by rintro n ⟨⟩) h
  · exact ordered_of_quantifier hbranches hitems (by rintro n ⟨⟩) h
  · exact ordered_of_braces hbranches hitems h
  · obtain ⟨item, _, -, h⟩ := bind_eq_some_iff.mp h
    cases h
    refine ⟨hbranches, hitems.concat ?_⟩
    cases item <;> constructor

end Turns

/-- So what is read is ordered. -/
theorem ordered_of_body {fuel : Nat} {e : Expr} (hbranches : AllOrdered branches)
    (hitems : AllOrdered items) (h : body fuel branches items i = some (e, j)) : e.Ordered := by
  induction fuel generalizing branches items i e j with
  | zero => cases h
  | succ fuel ih =>
    have hdone : (Expr.ofBranches (branches ++ [.ofItems items])).Ordered :=
      (hbranches.concat hitems.ofItems).ofBranches
    rw [body_succ] at h
    obtain ⟨_, i₁, -, h⟩ := bind_eq_some_iff.mp h
    cases hrest : i₁.rest with
    | nil =>
      rw [bodyFrom_of_nil hrest] at h
      cases h
      exact hdone
    | cons c cs =>
      by_cases hc : c = ')'
      · subst hc
        rw [bodyFrom_of_parenthesis hrest] at h
        cases h
        exact hdone
      · rw [bodyFrom_of_cons hrest hc] at h
        obtain ⟨read, _, hturn, h⟩ := bind_eq_some_iff.mp h
        obtain ⟨hbranches', hitems'⟩ := ordered_of_turn hbranches hitems
          (fun _ _ _ => ih AllOrdered.nil AllOrdered.nil) hturn
        exact ih hbranches' hitems' h

end Reader

/-- **Every pattern is ordered.** -/
theorem ordered_of_read? {text : List Char} {e : Expr} (h : read? text = some e) : e.Ordered := by
  unfold read? at h
  split at h
  · next hbody =>
    split at h <;> cases h
    exact Reader.ordered_of_body Expr.AllOrdered.nil Expr.AllOrdered.nil hbody
  · cases h

end Pattern
end Scenario
