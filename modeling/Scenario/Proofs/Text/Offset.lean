import Mathlib.Data.String.Basic
import Scenario.Text.Offset

/-!
# Byte offsets — where the characters of a string begin and end

The bytes of a string are those of its characters (`byteSize_toList`), so a
byte offset that cuts its list of characters cuts the string
(`dropBytes_toList_eq_some_iff`). These offsets are the character boundaries of
the string; at any other there is nothing (`dropBytes_toList_eq_none_iff`).
-/

namespace Scenario
namespace Text

/-- The bytes of a text are those of its characters. -/
theorem byteSize_toList (s : String) : byteSize s.toList = s.utf8ByteSize := by
  rw [← String.ofList_toList (s := s), String.utf8ByteSize_ofList, String.toList_ofList]
  induction s.toList with
  | nil => rfl
  | cons c cs ih => rw [byteSize_cons, String.utf8Len_cons, ih, Nat.add_comm]

/-- An end of a text is not larger. -/
theorem byteSize_le_of_suffix {rest cs : List Char} (h : rest <:+ cs) :
    byteSize rest ≤ byteSize cs := by
  obtain ⟨front, rfl⟩ := h
  rw [byteSize_append]
  exact Nat.le_add_left _ _

variable {source : String} {offset : Nat}

/-- **What is left after an offset is the rest of the string**, with so many bytes
before it. -/
theorem dropBytes_toList_eq_some_iff {rest : List Char} :
    dropBytes offset source.toList = some rest ↔
      ∃ lead : String, source = lead ++ .ofList rest ∧ lead.utf8ByteSize = offset := by
  constructor
  · intro h
    obtain ⟨lead, hsource, hsize⟩ := byteSize_of_dropBytes h
    refine ⟨.ofList lead, ?_, ?_⟩
    · rw [← String.ofList_append, ← hsource, String.ofList_toList]
    · rw [← byteSize_toList, String.toList_ofList, hsize]
  · rintro ⟨lead, rfl, rfl⟩
    rw [String.toList_append, String.toList_ofList, ← byteSize_toList]
    exact dropBytes_byteSize lead.toList rest

/-- **Where nothing is left there is no character boundary.** -/
theorem dropBytes_toList_eq_none_iff :
    dropBytes offset source.toList = none ↔ ¬ String.Pos.Raw.IsValid source ⟨offset⟩ := by
  rw [String.Pos.Raw.isValid_iff_exists_append, Option.eq_none_iff_forall_ne_some]
  constructor
  · rintro h ⟨lead, rest, hsource, hoffset⟩
    refine h rest.toList (dropBytes_toList_eq_some_iff.mpr ⟨lead, ?_, ?_⟩)
    · rw [String.ofList_toList, hsource]
    · exact (congrArg String.Pos.Raw.byteIdx hoffset).symm
  · intro h rest hrest
    obtain ⟨lead, hsource, hsize⟩ := dropBytes_toList_eq_some_iff.mp hrest
    exact h ⟨lead, _, hsource, congrArg String.Pos.Raw.mk hsize.symm⟩

end Text
end Scenario
