import Scenario.Proofs.Path.Suffix
import Scenario.Proofs.Path.Walk
import Scenario.Proofs.Text.Offset

/-!
# Boundaries — reading one segment at any byte offset

A scan passes over dots and finds nothing if there is nothing else
(`scan_eq_none_iff`). A segment that it finds has a name, or is a call whose
text can be empty (`named_of_scan`).

`segmentAt` scans what is left of the expression at its offset, and what stands
before does not matter (`segmentAt_append`). The offsets with something left are
the character boundaries, and the scan stops at another one, further on. So a
read is safe wherever the cursor is put (`segmentAt_safe`): past the end and
inside a character it finds nothing, and elsewhere it makes progress.
-/

namespace Scenario
namespace Path

variable {cs rest : List Char} {s : Segment}

/-! ## What a scan finds -/

/-- **A scan finds nothing in dots**, and something in any other text. -/
theorem scan_eq_none_iff : scan cs = none ↔ ∀ c ∈ cs, c = '.' := by
  induction cs with
  | nil => simp [scan]
  | cons c cs ih =>
    rw [scan, List.forall_mem_cons]
    by_cases hc : c = '.'
    · rw [if_pos hc, ih, and_iff_right hc]
    · rw [if_neg hc]
      refine iff_of_false ?_ fun hdots => hc hdots.1
      split <;> exact Option.some_ne_none _

/-- The segment of a piece has a name. -/
theorem Segment.name_ofPiece_ne_empty {piece : List Char} (h : piece ≠ []) :
    (ofPiece piece).name ≠ "" := by
  have hread : Ordinary piece (ofPiece piece) := ofPiece_eq_iff.mp rfl
  generalize ofPiece piece = s at hread
  cases hread with
  | indexed hi => exact fun hname => hi.name_ne_nil (String.ofList_eq_empty_iff.mp hname)
  | whole _ => exact fun hname => h (String.ofList_eq_empty_iff.mp hname)

/-- **A segment has a name, or it is a call.** -/
theorem named_of_scan (h : scan cs = some (s, rest)) : s.name ≠ "" ∨ s.isEscaped = true := by
  induction cs with
  | nil => cases h
  | cons c cs ih =>
    rw [scan] at h
    split at h
    · exact ih h
    · split at h
      · cases h
        exact .inr rfl
      · cases h
        exact .inl (Segment.name_ofPiece_ne_empty (List.cons_ne_nil _ _))

/-! ## Reading at an offset -/

/-- **What stands before the offset does not matter**: the segment is the one at
the beginning of the rest, and the offset after it that much further on. -/
theorem segmentAt_append (lead rest : String) :
    segmentAt (lead ++ rest) lead.utf8ByteSize =
      (segmentAt rest 0).map fun found => (found.1, lead.utf8ByteSize + found.2) := by
  have hdrop : Text.dropBytes lead.utf8ByteSize (lead ++ rest).toList = some rest.toList := by
    refine Text.dropBytes_toList_eq_some_iff.mpr ⟨lead, ?_, rfl⟩
    rw [String.ofList_toList]
  rw [segmentAt, segmentAt, hdrop, Text.dropBytes_zero]
  simp only [Option.map_map, Nat.zero_add]
  rfl

/-- At the beginning of a text the scan leaves a boundary behind, further on. -/
theorem exists_append_of_segmentAt_zero {text : String} {next : Nat}
    (h : segmentAt text 0 = some (s, next)) :
    0 < next ∧ (s.name ≠ "" ∨ s.isEscaped = true) ∧
      ∃ read unread : String, text = read ++ unread ∧ read.utf8ByteSize = next := by
  rw [segmentAt, Text.dropBytes_zero] at h
  obtain ⟨⟨found, left⟩, hscan, heq⟩ := Option.map_eq_some_iff.mp h
  cases heq
  obtain ⟨read, hread⟩ := scan_suffix hscan
  have hlt := scan_length_lt hscan
  have hsize : Text.byteSize text.toList - Text.byteSize left = Text.byteSize read := by
    rw [← hread, Text.byteSize_append, Nat.add_sub_cancel]
  refine ⟨?_, named_of_scan hscan, .ofList read, .ofList left, ?_, ?_⟩
  · -- at least one character has been read, and it has a byte at least
    cases read with
    | nil =>
      rw [List.nil_append] at hread
      rw [hread] at hlt
      exact absurd hlt (Nat.lt_irrefl _)
    | cons c read =>
      have hpos := c.utf8Size_pos
      rw [hsize, Text.byteSize_cons]
      omega
  · rw [← String.ofList_append, hread, String.ofList_toList]
  · rw [← Text.byteSize_toList, String.toList_ofList, hsize, Nat.zero_add]

variable {source : String} {offset : Nat}

/-- **From the offset on there are only dots**, or nothing at all. -/
def OnlyDots (source : String) (offset : Nat) : Prop :=
  ∃ lead rest : String, source = lead ++ rest ∧ lead.utf8ByteSize = offset ∧
    ∀ c ∈ rest.toList, c = '.'

/-- **Nothing is found** where no character begins, or where only dots are left. -/
theorem segmentAt_eq_none_iff : segmentAt source offset = none ↔
    ¬ String.Pos.Raw.IsValid source ⟨offset⟩ ∨ OnlyDots source offset := by
  rw [← Text.dropBytes_toList_eq_none_iff, segmentAt]
  cases hdrop : Text.dropBytes offset source.toList with
  | none => simp
  | some rest =>
    have hiff : OnlyDots source offset ↔ ∀ c ∈ rest, c = '.' := by
      constructor
      · rintro ⟨lead, rest', hsource, hsize, hdots⟩
        -- there is only one rest at the offset
        have hdrop' : Text.dropBytes offset source.toList = some rest'.toList := by
          refine Text.dropBytes_toList_eq_some_iff.mpr ⟨lead, ?_, hsize⟩
          rw [String.ofList_toList, hsource]
        rw [hdrop] at hdrop'
        cases hdrop'
        exact hdots
      · intro hdots
        obtain ⟨lead, hsource, hsize⟩ := Text.dropBytes_toList_eq_some_iff.mp hdrop
        exact ⟨lead, _, hsource, hsize, by rwa [String.toList_ofList]⟩
    simp [hiff, scan_eq_none_iff]

/-- **A read is safe at every offset.** It finds nothing exactly if the offset is
past the end or inside a character, or if only dots are left from there. What it
finds is a segment with a name, or a call, and the offset after it is further on,
a character boundary, and not past the end. The segment, and how far the offset
moves, are what a read at the beginning of the rest of the expression gives. -/
theorem segmentAt_safe (source : String) (offset : Nat) :
    (segmentAt source offset = none ↔
      source.utf8ByteSize < offset ∨ ¬ String.Pos.Raw.IsValid source ⟨offset⟩ ∨
        OnlyDots source offset) ∧
    (∀ s next, segmentAt source offset = some (s, next) →
      offset < next ∧ next ≤ source.utf8ByteSize ∧ String.Pos.Raw.IsValid source ⟨next⟩ ∧
        (s.name ≠ "" ∨ s.isEscaped = true)) ∧
    ∀ lead rest : String, source = lead ++ rest → lead.utf8ByteSize = offset →
      segmentAt source offset =
        (segmentAt rest 0).map fun found => (found.1, offset + found.2) := by
  refine ⟨?_, fun s next hfound => ?_, ?_⟩
  · -- an offset past the end is no boundary either
    have hpast : source.utf8ByteSize < offset → ¬ String.Pos.Raw.IsValid source ⟨offset⟩ :=
      fun hlt hvalid => Nat.not_le_of_lt hlt hvalid.le_rawEndPos
    rw [segmentAt_eq_none_iff]
    exact ⟨.inr, fun h => h.elim (fun hlt => .inl (hpast hlt)) id⟩
  · have hvalid : String.Pos.Raw.IsValid source ⟨offset⟩ := by
      by_contra hvalid
      rw [segmentAt_eq_none_iff.mpr (.inl hvalid)] at hfound
      cases hfound
    obtain ⟨lead, rest, rfl, hoffset⟩ := String.Pos.Raw.isValid_iff_exists_append.mp hvalid
    obtain rfl : offset = lead.utf8ByteSize := congrArg String.Pos.Raw.byteIdx hoffset
    rw [segmentAt_append] at hfound
    obtain ⟨⟨found, move⟩, hzero, heq⟩ := Option.map_eq_some_iff.mp hfound
    cases heq
    obtain ⟨hpos, hnamed, read, unread, rfl, rfl⟩ := exists_append_of_segmentAt_zero hzero
    refine ⟨by omega, ?_, ?_, hnamed⟩
    · rw [String.utf8ByteSize_append, String.utf8ByteSize_append]
      omega
    · refine String.Pos.Raw.isValid_iff_exists_append.mpr ⟨lead ++ read, unread, ?_, ?_⟩
      · rw [String.append_assoc]
      · exact congrArg String.Pos.Raw.mk String.utf8ByteSize_append.symm
  · rintro lead rest rfl rfl
    exact segmentAt_append lead rest

/-- Behind a character of two bytes, and dots: the call of the second segment is
left to the next read. -/
theorem segmentAt_safe_dots :
    segmentAt "é..ab[2].xpath(" 2 = some (⟨"ab", 2, none⟩, 10) ∧
      (2 < 10 ∧ 10 ≤ "é..ab[2].xpath(".utf8ByteSize ∧
        String.Pos.Raw.IsValid "é..ab[2].xpath(" ⟨10⟩ ∧
        (Segment.name ⟨"ab", 2, none⟩ ≠ "" ∨ Segment.isEscaped ⟨"ab", 2, none⟩ = true)) ∧
      segmentAt "é..ab[2].xpath(" 2 =
        (segmentAt "..ab[2].xpath(" 0).map fun found => (found.1, 2 + found.2) := by
  have hfound : segmentAt "é..ab[2].xpath(" 2 = some (⟨"ab", 2, none⟩, 10) := by decide +kernel
  obtain ⟨-, hprogress, hsuffix⟩ := segmentAt_safe "é..ab[2].xpath(" 2
  exact ⟨hfound, hprogress _ _ hfound,
    hsuffix "é" "..ab[2].xpath(" (by decide +kernel) (by decide +kernel)⟩

end Path
end Scenario
