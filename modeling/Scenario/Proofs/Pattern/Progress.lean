import Scenario.Pattern.Reader

/-!
# Progress — what a reader leaves of its input

Whatever a reader of a pattern leaves to be read is an end of what it was
given, and layout comes to be skipped only by a flag in what it has read:
`Input.After`. One lemma for each reader says so (`Leaves`), put together by
`Leaves.bind`.

A reader that passes over a character at least `Shortens` its input.
-/

namespace Scenario
namespace Pattern

/-- A group in a text sets the flag for layout: only other flags and hyphens
come between the beginning of the group and the letter of that flag. -/
def SetsLayout (text : List Char) : Prop :=
  ∃ front letters back, text = front ++ '(' :: '?' :: (letters ++ 'x' :: back) ∧
    ∀ c ∈ letters, c = '-' ∨ (Reader.flag? c).isSome = true

theorem SetsLayout.append {text : List Char} (h : SetsLayout text) (before after : List Char) :
    SetsLayout (before ++ text ++ after) := by
  obtain ⟨front, letters, back, rfl, hletters⟩ := h
  exact ⟨before ++ front, letters, back ++ after, by simp, hletters⟩

/-- **What is left of an input** is an end of it. Layout is skipped there if
it was before, or by a flag. -/
structure Input.After (i j : Input) : Prop where
  suffix : j.rest <:+ i.rest
  spaced : j.spaced = true → i.spaced = true ∨ ∃ read, i.rest = read ++ j.rest ∧ SetsLayout read

theorem Input.After.refl (i : Input) : i.After i := ⟨List.suffix_rfl, .inl⟩

theorem Input.After.trans {i j k : Input} (h : i.After j) (h' : j.After k) : i.After k where
  suffix := h'.suffix.trans h.suffix
  spaced hk := by
    rcases h'.spaced hk with hj | ⟨later, hlater, hset⟩
    · obtain ⟨later, hlater⟩ := h'.suffix
      rcases h.spaced hj with hi | ⟨read, hread, hset⟩
      · exact .inl hi
      · refine .inr ⟨read ++ later, by rw [hread, ← hlater, List.append_assoc], ?_⟩
        exact hset.append [] later
    · obtain ⟨read, hread⟩ := h.suffix
      refine .inr ⟨read ++ later, by rw [← hread, hlater, List.append_assoc], ?_⟩
      simpa using hset.append read []

/-- What is left after one character. -/
theorem Input.after_cons {i : Input} {c : Char} {cs : List Char} (hi : i.rest = c :: cs) :
    i.After { i with rest := cs } := ⟨hi ▸ List.suffix_cons c cs, .inl⟩

namespace Reader

variable {α β : Type}

/-- Every outcome of a reader is after its input. -/
def Leaves (m : Reader α) : Prop := ∀ i a j, m i = some (a, j) → i.After j

theorem bind_apply (m : Reader α) (f : α → Reader β) (i : Input) :
    (m >>= f) i = (m i).bind fun p => f p.1 p.2 := rfl

/-- The outcome of one reader after another. -/
theorem bind_eq_some_iff {m : Reader α} {f : α → Reader β} {i k : Input} {b : β} :
    (m >>= f) i = some (b, k) ↔ ∃ a j, m i = some (a, j) ∧ f a j = some (b, k) := by
  rw [bind_apply, Option.bind_eq_some_iff, Prod.exists]

theorem Leaves.pure (a : α) : Leaves (Pure.pure a : Reader α) := by
  rintro i a' j h
  cases h
  exact .refl i

theorem Leaves.failure : Leaves (Alternative.failure : Reader α) := fun _ _ _ h => nomatch h

theorem Leaves.bind {m : Reader α} {f : α → Reader β} (hm : Leaves m) (hf : ∀ a, Leaves (f a)) :
    Leaves (m >>= f) := by
  intro i b k h
  obtain ⟨a, j, hfirst, hrest⟩ := bind_eq_some_iff.mp h
  exact (hm i a j hfirst).trans (hf a j b k hrest)

theorem Leaves.discard {m : Reader α} (hm : Leaves m) : Leaves (Functor.discard m) :=
  hm.bind fun _ => .pure _

/-- A reader that only looks leaves everything. -/
theorem Leaves.of_eq {m : Reader α} (h : ∀ i a j, m i = some (a, j) → j = i) : Leaves m := by
  intro i a j heq
  rw [h i a j heq]
  exact .refl i

/-- One that passes over characters leaves the rest. -/
theorem Leaves.of_suffix {m : Reader α}
    (h : ∀ i a j, m i = some (a, j) → j.rest <:+ i.rest ∧ j.spaced = i.spaced) : Leaves m := by
  intro i a j heq
  obtain ⟨hsuffix, hspaced⟩ := h i a j heq
  exact ⟨hsuffix, fun hj => .inl (hspaced ▸ hj)⟩

/-! ## Single steps -/

theorem peek_eq_some_iff {i j : Input} {c : Char} :
    peek i = some (c, j) ↔ ∃ cs, i.rest = c :: cs ∧ i = j := by
  unfold peek
  split
  · next h => simp [h]
  · next h => simp [h]

theorem leaves_peek : Leaves peek :=
  .of_eq fun _ _ _ h => (peek_eq_some_iff.mp h).choose_spec.2.symm

theorem leaves_sees (text : String) : Leaves (sees text) := .of_eq fun _ _ _ h => by cases h; rfl

theorem leaves_fuelHere : Leaves fuelHere := .of_eq fun _ _ _ h => by cases h; rfl

theorem of_require {condition : Bool} {i j : Input} {a : Unit}
    (h : require condition i = some (a, j)) : condition = true ∧ j = i := by
  unfold require at h
  split at h <;> cases h
  exact ⟨‹_›, rfl⟩

theorem leaves_require (condition : Bool) : Leaves (require condition) :=
  .of_eq fun _ _ _ h => (of_require h).2

theorem leaves_bump : Leaves bump := by
  refine .of_suffix fun i a j h => ?_
  cases h
  exact ⟨List.drop_suffix 1 _, rfl⟩

/-- A text is passed over if it comes next. -/
theorem accept_eq_some {text : String} {i j : Input} {seen : Bool}
    (h : accept text i = some (seen, j)) :
    seen = true ∧ i.rest = text.toList ++ j.rest ∨ seen = false ∧ j = i := by
  simp only [accept] at h
  split at h <;> cases h
  · next hseen =>
    obtain ⟨more, hmore⟩ := List.isPrefixOf_iff_prefix.mp hseen
    exact .inl ⟨rfl, by simp [← hmore]⟩
  · exact .inr ⟨rfl, rfl⟩

theorem leaves_accept (text : String) : Leaves (accept text) := by
  refine .of_suffix fun i a j h => ?_
  simp only [accept] at h
  split at h <;> cases h
  · exact ⟨List.drop_suffix _ _, rfl⟩
  · exact ⟨List.suffix_rfl, rfl⟩

/-- Skipping layout leaves an end of the text. -/
theorem skipLayout_suffix (comment : Bool) (cs : List Char) : skipLayout comment cs <:+ cs := by
  induction cs generalizing comment with
  | nil => exact List.suffix_rfl
  | cons c cs ih =>
    cases comment with
    | true => exact (ih _).trans (List.suffix_cons c cs)
    | false =>
      rw [skipLayout]
      split
      · exact (ih _).trans (List.suffix_cons c cs)
      · split
        · exact (ih _).trans (List.suffix_cons c cs)
        · exact List.suffix_rfl

theorem leaves_bumpSpace : Leaves bumpSpace := by
  refine .of_suffix fun i a j h => ?_
  cases h
  split
  · exact ⟨skipLayout_suffix _ _, rfl⟩
  · exact ⟨List.suffix_rfl, rfl⟩

theorem leaves_next : Leaves next :=
  leaves_bump.bind fun _ => leaves_bumpSpace.bind fun _ => leaves_peek.bind fun _ => .pure _

theorem Leaves.ite {c : Prop} [Decidable c] {m m' : Reader α} (h : Leaves m) (h' : Leaves m') :
    Leaves (if c then m else m') := by
  split
  · exact h
  · exact h'

/-! ## Readers that pass over a character -/

/-- A reader passes over a character at least, where there is one. -/
def Shortens (m : Reader α) : Prop :=
  ∀ i a j, i.rest ≠ [] → m i = some (a, j) → j.rest.length < i.rest.length

theorem Shortens.bind {m : Reader α} {f : α → Reader β} (hm : Shortens m)
    (hf : ∀ a, Leaves (f a)) : Shortens (m >>= f) := by
  intro i b k hi h
  obtain ⟨a, j, hfirst, hrest⟩ := bind_eq_some_iff.mp h
  exact Nat.lt_of_le_of_lt (hf a j b k hrest).suffix.length_le (hm i a j hi hfirst)

/-- What is only looked at first makes no difference. -/
theorem Shortens.after {m : Reader α} {f : α → Reader β}
    (hm : ∀ i a j, m i = some (a, j) → j = i) (hf : ∀ a, Shortens (f a)) :
    Shortens (m >>= f) := by
  intro i b k hi h
  obtain ⟨a, j, hfirst, hrest⟩ := bind_eq_some_iff.mp h
  obtain rfl := hm i a j hfirst
  exact hf a j b k hi hrest

theorem Shortens.ite {c : Prop} [Decidable c] {m m' : Reader α} (h : Shortens m)
    (h' : Shortens m') : Shortens (if c then m else m') := by
  split
  · exact h
  · exact h'

theorem looks_peek (i : Input) (c : Char) (j : Input) (h : peek i = some (c, j)) : j = i :=
  (peek_eq_some_iff.mp h).choose_spec.2.symm

theorem shortens_bump : Shortens bump := by
  intro i a j hi h
  cases h
  obtain ⟨c, cs, hrest⟩ := List.exists_cons_of_ne_nil hi
  simp [hrest]

theorem shortens_next : Shortens next :=
  shortens_bump.bind fun _ => leaves_bumpSpace.bind fun _ => leaves_peek.discard

end Reader

end Pattern
end Scenario
