/-!
# Finding one text in another

`after?` strips a given beginning, `occursIn` looks for a text anywhere,
and `splitLast?` cuts at the last occurrence of a character.
-/

namespace Scenario
namespace Text

/-- What follows `lead` in a text that begins with it. -/
def after? : List Char → List Char → Option (List Char)
  | [], cs => some cs
  | _ :: _, [] => none
  | l :: ls, c :: cs => if l = c then after? ls cs else none

/-- Whether `part` stands somewhere in the text. -/
def occursIn (part : List Char) : List Char → Bool
  | [] => part.isEmpty
  | c :: cs => part.isPrefixOf (c :: cs) || occursIn part cs

/-- The text before and after the last `d` in it. -/
def splitLast? (d : Char) : List Char → Option (List Char × List Char)
  | [] => none
  | c :: cs =>
    match splitLast? d cs with
    | some (front, back) => some (c :: front, back)
    | none => if c = d then some ([], cs) else none

/-- What follows a lead is what the text is after it. -/
theorem after?_eq_some_iff {lead cs rest : List Char} :
    after? lead cs = some rest ↔ cs = lead ++ rest := by
  induction lead generalizing cs with
  | nil => simp [after?, eq_comm]
  | cons l ls ih =>
    cases cs with
    | nil => simp [after?]
    | cons c cs =>
      by_cases h : l = c
      · simp [after?, h, ih]
      · simp [after?, h, Ne.symm h]

/-- Looking for a text anywhere finds it exactly where it is an infix. -/
theorem occursIn_eq_true_iff {part cs : List Char} : occursIn part cs = true ↔ part <:+: cs := by
  induction cs with
  | nil => simp [occursIn]
  | cons c cs ih =>
    rw [occursIn, Bool.or_eq_true, List.isPrefixOf_iff_prefix, ih, List.infix_cons_iff]

/-- A text without the character is not cut. -/
theorem splitLast?_eq_none_iff {d : Char} {cs : List Char} : splitLast? d cs = none ↔ d ∉ cs := by
  induction cs with
  | nil => simp [splitLast?]
  | cons c cs ih =>
    rw [splitLast?, List.mem_cons, not_or, ← ih]
    cases splitLast? d cs with
    | some found => simp
    | none => by_cases hc : c = d <;> simp [hc, Ne.symm]

/-- The cut is at the character after which it does not stand again. -/
theorem splitLast?_append {d : Char} {back : List Char} (h : d ∉ back) (front : List Char) :
    splitLast? d (front ++ d :: back) = some (front, back) := by
  induction front with
  | nil => rw [List.nil_append, splitLast?, splitLast?_eq_none_iff.mpr h, if_pos rfl]
  | cons c front ih => rw [List.cons_append, splitLast?, ih]

/-- And there is no other cut. -/
theorem splitLast?_eq_some_iff {d : Char} {cs front back : List Char} :
    splitLast? d cs = some (front, back) ↔ cs = front ++ d :: back ∧ d ∉ back := by
  refine ⟨fun h => ?_, fun ⟨hcs, hback⟩ => hcs ▸ splitLast?_append hback front⟩
  induction cs generalizing front with
  | nil => cases h
  | cons c cs ih =>
    rw [splitLast?] at h
    cases hcut : splitLast? d cs with
    | some found =>
      rw [hcut] at h
      cases h
      obtain ⟨hcs, hback⟩ := ih hcut
      exact ⟨by rw [hcs, List.cons_append], hback⟩
    | none =>
      rw [hcut] at h
      by_cases hc : c = d
      · simp only [hc, if_true, Option.some.injEq, Prod.mk.injEq] at h
        obtain ⟨rfl, rfl⟩ := h
        exact ⟨by rw [hc, List.nil_append], splitLast?_eq_none_iff.mp hcut⟩
      · simp [hc] at h

end Text
end Scenario
