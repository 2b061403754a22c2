import Mathlib.Data.List.Induction
import Scenario.Proofs.Scope.Substitution

/-!
# Bindings — what a list of names and values makes of a scope

Binding some names in order gives each of them the value that it is bound to
last (`find?_ofList_eq_some_iff`). A bound name without a closing brace in it is
then reached by the placeholder that is made of it, with or without blanks
around the name (`fill_reference`).
-/

namespace Scenario
namespace Scope

variable {scope : Scope} {name other value inner : String} {bindings : List (String × String)}

theorem get_eq_ok_iff : scope.get name = .ok value ↔ scope.find? name = some value := by
  rw [get]
  cases scope.find? name <;> simp

/-- Leaving a name out does not matter to the others. -/
theorem lookup_others (h : other ≠ name) :
    (scope.others name).lookup other = scope.find? other := by
  rw [others, find?]
  induction scope.bindings with
  | nil => rfl
  | cons b bs ih =>
    by_cases hb : b.1 = name
    · have hne : (other == b.1) = false := beq_false_of_ne (hb ▸ h)
      rw [List.filter_cons_of_neg (by simp [hb]), ih, List.lookup_cons, hne]
    · rw [List.filter_cons_of_pos (by simp [hb]), List.lookup_cons, List.lookup_cons, ih]

/-- **A name has the value that it is set to**, and every other what it had. -/
theorem find?_set (scope : Scope) (name value other : String) :
    (scope.set name value).find? other =
      if other = name then some value else scope.find? other := by
  rw [find?, set]
  dsimp only
  rw [List.lookup_cons]
  by_cases h : other = name
  · rw [if_pos h, beq_iff_eq.mpr h]
  · rw [if_neg h, beq_false_of_ne h]
    exact lookup_others h

theorem ofList_append_singleton (bindings : List (String × String)) (b : String × String) :
    ofList (bindings ++ [b]) = (ofList bindings).set b.1 b.2 := by
  rw [ofList, List.foldl_append]
  rfl

/-- A place in a list with one more element is the last one, or a place in the
list before. -/
theorem append_cons_eq_append_singleton {α : Type} {xs before after : List α} {x y : α}
    (h : xs ++ [y] = before ++ x :: after) :
    (x = y ∧ after = []) ∨ ∃ more, after = more ++ [y] ∧ xs = before ++ x :: more := by
  rcases List.eq_nil_or_concat' after with rfl | ⟨more, last, rfl⟩
  · exact .inl ⟨(List.singleton_inj.mp (List.append_inj_right' h rfl)).symm, rfl⟩
  · rw [← List.cons_append, ← List.append_assoc] at h
    have hlast := List.singleton_inj.mp (List.append_inj_right' h rfl)
    exact .inr ⟨more, by rw [hlast], List.append_inj_left' h rfl⟩

/-- **A name has the value that it is bound to last.** -/
theorem find?_ofList_eq_some_iff : (ofList bindings).find? name = some value ↔
    ∃ before after, bindings = before ++ (name, value) :: after ∧ name ∉ after.map Prod.fst := by
  induction bindings using List.reverseRecOn with
  | nil =>
    constructor
    · intro h
      cases h
    · rintro ⟨before, after, h, -⟩
      simp at h
  | append_singleton bindings b ih =>
    rw [ofList_append_singleton, find?_set]
    by_cases hb : name = b.1
    · rw [if_pos hb, Option.some.injEq]
      constructor
      · rintro rfl
        exact ⟨bindings, [], by rw [hb], List.not_mem_nil⟩
      · rintro ⟨before, after, heq, hnot⟩
        rcases append_cons_eq_append_singleton heq with ⟨rfl, -⟩ | ⟨more, rfl, -⟩
        · rfl
        · exact absurd (by simp [hb]) hnot
    · rw [if_neg hb, ih]
      constructor
      · rintro ⟨before, after, rfl, hnot⟩
        exact ⟨before, after ++ [b], by simp, by simp [hnot, hb]⟩
      · rintro ⟨before, after, heq, hnot⟩
        rcases append_cons_eq_append_singleton heq with ⟨rfl, -⟩ | ⟨more, rfl, rfl⟩
        · exact absurd rfl hb
        · rw [List.map_append] at hnot
          exact ⟨before, more, rfl, fun hmem => hnot (List.mem_append_left _ hmem)⟩

open Placeholder in
/-- **A placeholder of a bound name is its value**, if the name has no closing
brace in it. -/
theorem fill_reference (hinner : '}' ∉ inner.toList)
    (hfind : scope.find? (Text.trim inner) = some value) :
    scope.fill ("$\x7b" ++ inner ++ "\x7d") = value := by
  have hlist : ("$\x7b" ++ inner ++ "\x7d").toList = '$' :: '{' :: (inner.toList ++ ['}']) := by
    simp
  have hfirst :
      firstReference ('$' :: '{' :: (inner.toList ++ ['}'])) = some ([], inner.toList, []) :=
    firstReference_eq_some_iff.mpr ⟨⟨rfl, fun _ _ _ => Nat.zero_le _⟩, hinner⟩
  have hnil : pieces [] = [.literal []] := pieces_of_no_marker (by simp)
  rw [fill, hlist, fillChars, pieces_of_firstReference_eq_some hfirst, hnil]
  have hpiece : fillPiece scope.find? (.reference inner.toList) = value.toList := by
    rw [fillPiece, nameOf, ← Text.trim, hfind]
  rw [List.flatMap_cons, List.flatMap_cons, hpiece, List.flatMap_singleton, fillPiece,
    List.nil_append, List.append_nil, String.ofList_toList]

end Scope
end Scenario
