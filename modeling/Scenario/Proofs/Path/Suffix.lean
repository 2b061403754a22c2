import Scenario.Path.Segment

/-!
# Index suffixes — a name with a number in brackets after it

`Indexed` says what a piece of an expression looks like if it carries an
index, and not how it is read: a name, and after it, in brackets, a number in
ASCII digits that is not too large. A piece is such a text in at most one way
(`Indexed.unique`), since no digit is a bracket, and the reader finds it if
there is one (`splitIndex?_eq_some_iff`). `Ordinary` is the segment that a
piece stands for, with its index or without one (`ofPiece_eq_iff`).

A segment is written with its index in plain decimal, so a piece is written
back as it was exactly if its index has no zeros in front
(`text_ofPiece_eq_iff`).
-/

namespace Scenario
namespace Path

/-! ## Decimal digits -/

/-- Digits that begin with a zero which the number does not need. -/
def Padded (digits : List Char) : Prop := ∃ d rest, digits = '0' :: d :: rest

/-- A digit is the digit of its number. -/
theorem digitChar_of_isDigit {d : Char} (h : d.isDigit = true) :
    d.toNat - '0'.toNat < 10 ∧ (d.toNat - '0'.toNat).digitChar = d := by
  have hrange : 48 ≤ d.toNat ∧ d.toNat ≤ 57 := by
    simpa [Char.isDigit, UInt32.le_iff_toNat_le] using h
  obtain ⟨n, hn⟩ : ∃ n, d.toNat = 48 + n := ⟨d.toNat - 48, by omega⟩
  have hlt : n < 10 := by omega
  have hd : d = Char.ofNat (48 + n) := by rw [← hn, Char.ofNat_toNat]
  have hzero : '0'.toNat = 48 := rfl
  have hsub : d.toNat - '0'.toNat = n := by omega
  rw [hsub, hd]
  refine ⟨hlt, ?_⟩
  match n, hlt with
  | 0, _ | 1, _ | 2, _ | 3, _ | 4, _ | 5, _ | 6, _ | 7, _ | 8, _ | 9, _ => rfl

/-- More digits after a positive number. -/
theorem toDigits_ofDigitChars_append {digits : List Char} (hd : ∀ d ∈ digits, d.isDigit = true)
    {n : Nat} (hn : 0 < n) :
    Nat.toDigits 10 (Nat.ofDigitChars 10 digits n) = Nat.toDigits 10 n ++ digits := by
  induction digits generalizing n with
  | nil => simp
  | cons d rest ih =>
    obtain ⟨hlt, hchar⟩ := digitChar_of_isDigit (hd d (by simp))
    have hpos : 0 < 10 * n + (d.toNat - '0'.toNat) := by omega
    rw [Nat.ofDigitChars_cons, ih (fun e he => hd e (by simp [he])) hpos,
      ← Nat.toDigits_append_toDigits (by decide) hn hlt, Nat.toDigits_of_lt_base hlt, hchar,
      List.append_assoc, List.singleton_append]

/-- A number has no more digits than it is read from. -/
theorem ofDigitChars_lt {digits : List Char} (hd : ∀ d ∈ digits, d.isDigit = true) :
    Nat.ofDigitChars 10 digits 0 < Nat.pow 10 digits.length := by
  induction digits with
  | nil => simp
  | cons d rest ih =>
    have hlt := (digitChar_of_isDigit (hd d (by simp))).1
    have hrest := ih fun e he => hd e (by simp [he])
    have hle : Nat.pow 10 rest.length * (d.toNat - '0'.toNat) ≤ Nat.pow 10 rest.length * 9 :=
      Nat.mul_le_mul_left _ (by omega)
    have hfirst : Nat.ofDigitChars 10 rest (d.toNat - '0'.toNat) =
        Nat.pow 10 rest.length * (d.toNat - '0'.toNat) + Nat.ofDigitChars 10 rest 0 :=
      Nat.ofDigitChars_eq_ofDigitChars_zero
    have hstep : Nat.pow 10 (rest.length + 1) = Nat.pow 10 rest.length * 10 := rfl
    rw [Nat.ofDigitChars_cons, Nat.mul_zero, Nat.zero_add, hfirst, List.length_cons, hstep]
    omega

/-- **Digits are printed back exactly if they are not padded.** -/
theorem toDigits_ofDigitChars_eq_iff {digits : List Char} (hne : digits ≠ [])
    (hd : ∀ d ∈ digits, d.isDigit = true) :
    Nat.toDigits 10 (Nat.ofDigitChars 10 digits 0) = digits ↔ ¬ Padded digits := by
  obtain ⟨d, rest, rfl⟩ := List.exists_cons_of_ne_nil hne
  obtain ⟨hlt, hchar⟩ := digitChar_of_isDigit (hd d (by simp))
  have hrest : ∀ e ∈ rest, e.isDigit = true := fun e he => hd e (by simp [he])
  rw [Nat.ofDigitChars_cons, Nat.mul_zero, Nat.zero_add]
  constructor
  · rintro h ⟨e, more, heq⟩
    obtain ⟨rfl, rfl⟩ := List.cons.inj heq
    -- without the zero there is one digit less to the same number
    have hsmall := ofDigitChars_lt hrest
    have hlen := (Nat.length_toDigits_le_iff (by decide) (by simp)).mpr hsmall
    rw [Nat.sub_self] at h
    rw [h, List.length_cons] at hlen
    omega
  · intro hpad
    by_cases hzero : d.toNat - '0'.toNat = 0
    · -- a zero stands alone
      have hd0 : d = '0' := by rw [← hchar, hzero]; rfl
      cases rest with
      | nil => rw [Nat.ofDigitChars_nil, Nat.toDigits_of_lt_base hlt, hchar]
      | cons e more => exact absurd ⟨e, more, by rw [hd0]⟩ hpad
    · rw [toDigits_ofDigitChars_append hrest (by omega), Nat.toDigits_of_lt_base hlt, hchar,
        List.singleton_append]

namespace Segment

/-! ## Reading an index -/

/-- **A name with an index**: in brackets at the end of the piece stand
digits, with a name before them. -/
structure Indexed (piece name digits : List Char) : Prop where
  /-- How the piece is written. -/
  written : piece = name ++ '[' :: (digits ++ [']'])
  /-- There is a name. -/
  name_ne_nil : name ≠ []
  /-- And there are digits. -/
  digits_ne_nil : digits ≠ []
  /-- They are ASCII digits. -/
  isDigit : ∀ d ∈ digits, d.isDigit = true
  /-- The number is one that an index can be. -/
  le_maxIndex : Nat.ofDigitChars 10 digits 0 ≤ maxIndex

/-- **The segment that a piece stands for.** -/
inductive Ordinary (piece : List Char) : Segment → Prop
  /-- A name with an index. -/
  | indexed {name digits : List Char} : Indexed piece name digits →
      Ordinary piece ⟨.ofList name, Nat.ofDigitChars 10 digits 0, none⟩
  /-- Any other piece is a name. -/
  | whole : (∀ name digits, ¬ Indexed piece name digits) → Ordinary piece ⟨.ofList piece, -1, none⟩

variable {piece name name' digits digits' : List Char}

/-- No opening bracket is among the digits. -/
theorem Indexed.not_mem_digits (h : Indexed piece name digits) : '[' ∉ digits := by
  intro hmem
  have := h.isDigit '[' hmem
  cases this

/-- **There is only one way to see an index.** -/
theorem Indexed.unique (h : Indexed piece name digits) (h' : Indexed piece name' digits') :
    name = name' ∧ digits = digits' := by
  -- both names end where the last opening bracket stands
  have hinner : name ++ '[' :: digits = name' ++ '[' :: digits' := by
    have heq := h.written.symm.trans h'.written
    rw [← List.cons_append, ← List.cons_append, ← List.append_assoc, ← List.append_assoc] at heq
    exact List.append_cancel_right heq
  have hsplit := Text.splitLast?_append h.not_mem_digits name
  rw [hinner, Text.splitLast?_append h'.not_mem_digits, Option.some.injEq, Prod.mk.injEq] at hsplit
  exact ⟨hsplit.1.symm, hsplit.2.symm⟩

/-- The reader finds an index that is there. -/
theorem Indexed.splitIndex? (h : Indexed piece name digits) :
    splitIndex? piece = some (name, Nat.ofDigitChars 10 digits 0) := by
  have hpiece : piece = (name ++ '[' :: digits) ++ ']' :: [] := by rw [h.written]; simp
  have hdigits : digits.all Char.isDigit = true := List.all_eq_true.mpr h.isDigit
  rw [Segment.splitIndex?, hpiece, Text.splitLast?_append List.not_mem_nil]
  simp only [Text.splitLast?_append h.not_mem_digits]
  rw [hdigits, if_neg (by simp [h.name_ne_nil, h.digits_ne_nil]), if_pos h.le_maxIndex]

/-- **And what it finds is an index.** -/
theorem splitIndex?_eq_some_iff {i : Nat} :
    splitIndex? piece = some (name, i) ↔
      ∃ digits, Indexed piece name digits ∧ Nat.ofDigitChars 10 digits 0 = i := by
  refine ⟨fun h => ?_, fun ⟨digits, hi, hvalue⟩ => hvalue ▸ hi.splitIndex?⟩
  rw [splitIndex?] at h
  split at h
  · next inner hclose =>
    split at h
    · next front digits hopen =>
      obtain ⟨hpiece, -⟩ := Text.splitLast?_eq_some_iff.mp hclose
      obtain ⟨hinner, -⟩ := Text.splitLast?_eq_some_iff.mp hopen
      split at h
      · cases h
      · next hshape =>
        dsimp only at h
        split at h
        · next hle =>
          cases h
          simp only [Bool.or_eq_true, Bool.not_eq_true', not_or, Bool.not_eq_false,
            List.isEmpty_iff, List.all_eq_true] at hshape
          obtain ⟨⟨hname, hdigits⟩, hall⟩ := hshape
          exact ⟨digits, ⟨by rw [hpiece, hinner]; simp, hname, hdigits, hall, hle⟩, rfl⟩
        · cases h
    · cases h
  · cases h

theorem splitIndex?_eq_none_iff :
    splitIndex? piece = none ↔ ∀ name digits, ¬ Indexed piece name digits := by
  constructor
  · intro h name digits hi
    rw [hi.splitIndex?] at h
    cases h
  · intro h
    cases hsplit : splitIndex? piece with
    | none => rfl
    | some found =>
      obtain ⟨digits, hi, -⟩ := splitIndex?_eq_some_iff.mp hsplit
      exact absurd hi (h _ _)

/-- **The segment read from a piece is the one it stands for.** -/
theorem ofPiece_eq_iff {s : Segment} : ofPiece piece = s ↔ Ordinary piece s := by
  have hread : Ordinary piece (ofPiece piece) := by
    rw [ofPiece]
    split
    · next name i hsplit =>
      obtain ⟨digits, hi, rfl⟩ := splitIndex?_eq_some_iff.mp hsplit
      exact .indexed hi
    · next hsplit => exact .whole (splitIndex?_eq_none_iff.mp hsplit)
  refine ⟨fun h => h ▸ hread, fun h => ?_⟩
  cases h with
  | indexed hi => rw [ofPiece, hi.splitIndex?]; rfl
  | whole hnone => rw [ofPiece, splitIndex?_eq_none_iff.mpr hnone]; rfl

/-! ## Writing an index -/

/-- A property with an index is written with its number in decimal. -/
theorem toList_text_item (name : String) (i : Nat) :
    (⟨name, i, none⟩ : Segment).text.toList =
      name.toList ++ '[' :: (Nat.toDigits 10 i ++ [']']) := by
  simp [text, arrayIndex]

/-- A property without an index is its name. -/
theorem text_property (name : String) : (⟨name, -1, none⟩ : Segment).text = name := rfl

/-- A call is written with its text in parentheses. -/
theorem toList_text_call (content : String) (index : Int) (language : Embedded) :
    (⟨content, index, some language⟩ : Segment).text.toList =
      language.name.toList ++ '(' :: (content.toList ++ [')']) := by
  simp [text]

/-- What is written is an index. -/
theorem indexed_toDigits (hname : name ≠ []) {i : Nat} (hi : i ≤ maxIndex) :
    Indexed (name ++ '[' :: (Nat.toDigits 10 i ++ [']'])) name (Nat.toDigits 10 i) where
  written := rfl
  name_ne_nil := hname
  digits_ne_nil := Nat.toDigits_ne_nil
  isDigit _ hd := Nat.isDigit_of_mem_toDigits (by decide) (by decide) hd
  le_maxIndex := by rw [Nat.ofDigitChars_ten_toDigits]; exact hi

/-- **A piece is written back exactly if its index is not padded.** -/
theorem text_ofPiece_eq_iff :
    (ofPiece piece).text.toList = piece ↔
      ∀ name digits, Indexed piece name digits → ¬ Padded digits := by
  have hread : Ordinary piece (ofPiece piece) := ofPiece_eq_iff.mp rfl
  generalize ofPiece piece = s at hread
  cases hread with
  | @indexed name digits hi =>
    have hcanon := toDigits_ofDigitChars_eq_iff hi.digits_ne_nil hi.isDigit
    rw [toList_text_item, String.toList_ofList]
    constructor
    · intro heq name' digits' hi'
      obtain ⟨rfl, rfl⟩ := hi.unique hi'
      rw [hi.written] at heq
      have htail := (List.cons.inj (List.append_cancel_left heq)).2
      exact hcanon.mp (List.append_cancel_right htail)
    · intro hpad
      rw [hcanon.mpr (hpad name digits hi), ← hi.written]
  | whole hnone =>
    rw [text_property, String.toList_ofList]
    exact ⟨fun _ name digits hi => absurd hi (hnone name digits), fun _ => rfl⟩

end Segment

end Path
end Scenario
