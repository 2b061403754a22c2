/-!
# Byte offsets — where a character of a text stands in its UTF-8 form

Cursors and error positions count bytes, while the grammar reads
characters. `byteSize` measures a list of characters and `dropBytes` goes
the other way: it answers with what is left after an offset, and with
nothing at an offset past the end or inside a character
(`dropBytes_byteSize`, `byteSize_of_dropBytes`).
-/

namespace Scenario
namespace Text

/-- The number of bytes a list of characters takes in UTF-8. -/
def byteSize : List Char → Nat
  | [] => 0
  | c :: cs => c.utf8Size + byteSize cs

/-- What is left of a text after its first `n` bytes, if that is where a
character ends. -/
def dropBytes : Nat → List Char → Option (List Char)
  | 0, cs => some cs
  | _ + 1, [] => none
  | n + 1, c :: cs => if c.utf8Size ≤ n + 1 then dropBytes (n + 1 - c.utf8Size) cs else none
termination_by structural _ cs => cs

@[simp] theorem byteSize_nil : byteSize [] = 0 := rfl

@[simp] theorem byteSize_cons (c : Char) (cs : List Char) :
    byteSize (c :: cs) = c.utf8Size + byteSize cs := rfl

@[simp] theorem byteSize_append (as bs : List Char) :
    byteSize (as ++ bs) = byteSize as + byteSize bs := by
  induction as with
  | nil => simp
  | cons c cs ih => simp [ih, Nat.add_assoc]

@[simp] theorem dropBytes_zero (cs : List Char) : dropBytes 0 cs = some cs := by
  cases cs <;> simp [dropBytes]

/-- Offsets of whole characters are exactly undone: the first `byteSize as`
bytes of `as ++ bs` are `as`. -/
theorem dropBytes_byteSize (as bs : List Char) :
    dropBytes (byteSize as) (as ++ bs) = some bs := by
  induction as with
  | nil => simp
  | cons c cs ih =>
    obtain ⟨n, hn⟩ : ∃ n, c.utf8Size + byteSize cs = n + 1 :=
      ⟨c.utf8Size + byteSize cs - 1, by have := c.utf8Size_pos; omega⟩
    have hle : c.utf8Size ≤ n + 1 := by omega
    have hsub : n + 1 - c.utf8Size = byteSize cs := by omega
    simp [hn, dropBytes, hle, hsub, ih]

/-- After all its bytes nothing is left of a text. -/
@[simp] theorem dropBytes_byteSize_self (cs : List Char) : dropBytes (byteSize cs) cs = some [] := by
  have hdrop := dropBytes_byteSize cs []
  rwa [List.append_nil] at hdrop

/-- Whatever is left after `n` bytes is a suffix with `n` bytes before it. -/
theorem byteSize_of_dropBytes {n : Nat} {cs rest : List Char} (h : dropBytes n cs = some rest) :
    ∃ lead, cs = lead ++ rest ∧ byteSize lead = n := by
  induction cs generalizing n with
  | nil =>
    cases n with
    | zero => simp at h; exact ⟨[], by simp [h]⟩
    | succ n => simp [dropBytes] at h
  | cons c cs ih =>
    cases n with
    | zero => simp at h; exact ⟨[], by simp [h]⟩
    | succ n =>
      rw [dropBytes] at h
      split at h
      · obtain ⟨lead, h1, h2⟩ := ih h
        exact ⟨c :: lead, by simp [h1], by simp [h2]; omega⟩
      · simp at h

end Text
end Scenario
