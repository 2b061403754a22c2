import Scenario.Proofs.Path.Split

/-!
# Rejoining — segments written with dots between them

Writing segments and reading them again is tried from both ends. A list of
segments is read back exactly if it is `WellFormed`, which every list is that
has been read (`segments_joined_eq_iff`). An expression is written back
exactly if nothing in it is lost on reading: no dot beside another or at an
end, no zero in front of an index, nothing behind the last parenthesis of a
call, and that parenthesis is there (`joined_segments_eq_iff`).

Both come from the cut of what is written (`cut_joined`): the texts of the
ordinary segments are its pieces, so they are found again one by one.
-/

namespace Scenario
namespace Path

variable {piece : List Char} {before : List (List Char)} {ss : List Segment}
variable {call : Option (Embedded × List Char)}

namespace Segment

/-! ## Segments that can be read -/

/-- **A segment that an expression can have.** -/
inductive Valid : Segment → Prop
  /-- A call, whatever its text is. -/
  | call (content : String) (language : Embedded) : Valid ⟨content, -1, some language⟩
  /-- A property with an index, which is at most the largest that an index
  can be. -/
  | item {name : String} {index : Int} : name ≠ "" → Plain name.toList → 0 ≤ index →
      index ≤ maxIndex → Valid ⟨name, index, none⟩
  /-- A property without one, whose name does not end like an index. -/
  | property {name : String} : name ≠ "" → Plain name.toList →
      (∀ front digits, ¬ Indexed name.toList front digits) → Valid ⟨name, -1, none⟩

/-- A name with brackets behind it is plain exactly if the name is. -/
theorem plain_append_bracket {name rest : List Char} (hrest : '.' ∉ rest) :
    Plain (name ++ '[' :: rest) ↔ Plain name := by
  have hcall : OpensCall (name ++ '[' :: rest) ↔ OpensCall name :=
    exists_congr fun language => opens_append_cons (not_mem_head language).2 name rest
  simp [Plain, hcall, hrest]

/-- There are no dots between the brackets of an index. -/
theorem not_mem_digits {digits : List Char} (h : ∀ d ∈ digits, d.isDigit = true) :
    '.' ∉ digits ++ [']'] := by
  rw [List.mem_append, not_or]
  refine ⟨fun hmem => ?_, by decide⟩
  have := h '.' hmem
  cases this

/-- **What is read from a piece is valid.** -/
theorem valid_ofPiece (hp : Plain piece) (hne : piece ≠ []) :
    (ofPiece piece).Valid ∧ (ofPiece piece).escape = none := by
  have hread : Ordinary piece (ofPiece piece) := ofPiece_eq_iff.mp rfl
  generalize ofPiece piece = s at hread
  cases hread with
  | @indexed name digits hi =>
    have hname : Plain name := by
      rw [hi.written, plain_append_bracket (not_mem_digits hi.isDigit)] at hp
      exact hp
    refine ⟨.item ?_ ?_ (Int.natCast_nonneg _) (Int.ofNat_le.mpr hi.le_maxIndex), rfl⟩
    · rw [Ne, String.ofList_eq_empty_iff]
      exact hi.name_ne_nil
    · rwa [String.toList_ofList]
  | whole hnone =>
    refine ⟨.property ?_ ?_ ?_, rfl⟩
    · rw [Ne, String.ofList_eq_empty_iff]
      exact hne
    · rwa [String.toList_ofList]
    · rwa [String.toList_ofList]

/-- **And what is valid is written as a piece from which it is read.** -/
theorem Valid.plain_text {s : Segment} (h : s.Valid) (hs : s.escape = none) :
    Plain s.text.toList ∧ s.text.toList ≠ [] ∧ ofPiece s.text.toList = s := by
  cases h with
  | call content language => cases hs
  | @item name index hname hplain hindex hle =>
    obtain ⟨i, rfl⟩ := Int.eq_ofNat_of_zero_le hindex
    have hne : name.toList ≠ [] := fun h => hname (String.toList_eq_nil_iff.mp h)
    have hi := indexed_toDigits hne (Int.ofNat_le.mp hle)
    rw [toList_text_item]
    refine ⟨(plain_append_bracket (not_mem_digits hi.isDigit)).mpr hplain, by simp, ?_⟩
    have hread := ofPiece_eq_iff.mpr (.indexed hi)
    rwa [String.ofList_toList, Nat.ofDigitChars_ten_toDigits] at hread
  | @property name hname hplain hnone =>
    rw [text_property]
    refine ⟨hplain, fun h => hname (String.toList_eq_nil_iff.mp h), ?_⟩
    have hread := ofPiece_eq_iff.mpr (.whole hnone)
    rwa [String.ofList_toList] at hread

end Segment

/-! ## Lists of segments -/

/-- **A list of segments that an expression can have**: all of them are
valid, and only the last one may be a call. -/
structure WellFormed (ss : List Segment) : Prop where
  /-- The segments are valid. -/
  valid : ∀ s ∈ ss, s.Valid
  /-- Before the last one there is no call. -/
  call_last : ∀ s ∈ ss.dropLast, s.escape = none

theorem toList_joined (ss : List Segment) :
    (joined ss).toList = ['.'].intercalate (ss.map (·.text.toList)) := by
  rw [joined, String.toList_intercalate, List.map_map]
  rfl

/-- A call at the end is written behind a dot after each of the others. -/
theorem toList_joined_call (ss : List Segment) (language : Embedded) (body : List Char) :
    (joined (ss ++ [callSegment (language, body)])).toList =
      (ss.map (·.text.toList)).flatMap (· ++ ['.']) ++
        (language.name.toList ++ '(' :: (callText body ++ [')'])) := by
  rw [toList_joined, List.map_append, List.map_singleton, intercalate_append_cons,
    List.intercalate_singleton, callSegment, Segment.toList_text_call, String.toList_ofList]

theorem callText_closed (content : List Char) : callText (content ++ [')']) = content :=
  callText_eq_iff.mpr (.closed rfl List.not_mem_nil)

/-- Segments without calls, and perhaps a call after them, are well formed. -/
theorem wellFormed_append (hss : ∀ s ∈ ss, s.Valid ∧ s.escape = none)
    (call : Option (Embedded × List Char)) :
    WellFormed (ss ++ (call.map callSegment).toList) := by
  cases call with
  | none =>
    rw [Option.map_none, Option.toList_none, List.append_nil]
    exact ⟨fun s hs => (hss s hs).1, fun s hs => (hss s (List.dropLast_subset ss hs)).2⟩
  | some call =>
    rw [Option.map_some, Option.toList_some]
    refine ⟨fun s hs => ?_, fun s hs => ?_⟩
    · rcases List.mem_append.mp hs with hs | hs
      · exact (hss s hs).1
      · rw [List.mem_singleton.mp hs]
        exact .call _ _
    · rw [List.dropLast_concat] at hs
      exact (hss s hs).2

/-- **All well-formed lists are such.** -/
theorem WellFormed.exists_eq_append (h : WellFormed ss) :
    ∃ (ts : List Segment) (call : Option (Embedded × List Char)),
      ss = ts ++ (call.map callSegment).toList ∧ ∀ s ∈ ts, s.Valid ∧ s.escape = none := by
  rcases List.eq_nil_or_concat ss with rfl | ⟨front, last, rfl⟩
  · exact ⟨[], none, rfl, fun s hs => nomatch hs⟩
  · have hfront : ∀ s ∈ front, s.Valid ∧ s.escape = none := fun s hs =>
      ⟨h.valid s (by simp [hs]), h.call_last s (by simpa using hs)⟩
    have hlast : last.Valid := h.valid last (by simp)
    by_cases hescape : last.escape = none
    · refine ⟨front ++ [last], none, by simp, fun s hs => ?_⟩
      rcases List.mem_append.mp hs with hs | hs
      · exact hfront s hs
      · rw [List.mem_singleton.mp hs]
        exact ⟨hlast, hescape⟩
    · cases hlast with
      | item => exact absurd rfl hescape
      | property => exact absurd rfl hescape
      | call content language =>
        -- the text of the call stands before the parenthesis that it is written with
        refine ⟨front, some (language, content.toList ++ [')']), ?_, hfront⟩
        simp [callSegment, callText_closed]

/-- **The cut of what is written**: the pieces are the texts of the ordinary
segments. -/
theorem cut_joined (hss : ∀ s ∈ ss, s.Valid ∧ s.escape = none)
    (hne : ss ++ (call.map callSegment).toList ≠ []) :
    Cut (joined (ss ++ (call.map callSegment).toList)).toList (ss.map (·.text.toList))
      (call.map fun c => (c.1, callText c.2 ++ [')'])) := by
  have hplain : ∀ p ∈ ss.map (·.text.toList), Plain p := by
    intro p hp
    obtain ⟨s, hs, rfl⟩ := List.mem_map.mp hp
    exact ((hss s hs).1.plain_text (hss s hs).2).1
  cases call with
  | none =>
    rw [Option.map_none, Option.toList_none, List.append_nil] at hne ⊢
    exact .whole hplain (by simpa using hne) (toList_joined ss)
  | some call => exact .call hplain (toList_joined_call ss call.1 call.2)

/-- So all the segments are read back. -/
theorem segments_joined_append (hss : ∀ s ∈ ss, s.Valid ∧ s.escape = none)
    (call : Option (Embedded × List Char)) :
    segments (joined (ss ++ (call.map callSegment).toList)) =
      ss ++ (call.map callSegment).toList := by
  by_cases hne : ss ++ (call.map callSegment).toList = []
  · rw [hne]
    exact scanAll_nil
  · rw [segments, (cut_joined hss hne).scanAll_eq]
    have htexts : ((ss.map (·.text.toList)).filter (· ≠ [])).map .ofPiece = ss := by
      rw [List.filter_eq_self.mpr, List.map_map, List.map_congr_left, List.map_id]
      · exact fun s hs => ((hss s hs).1.plain_text (hss s hs).2).2.2
      · intro p hp
        obtain ⟨s, hs, rfl⟩ := List.mem_map.mp hp
        exact decide_eq_true ((hss s hs).1.plain_text (hss s hs).2).2.1
    rw [htexts]
    cases call with
    | none => rfl
    | some call => simp [callSegment, callText_closed]

/-- The segments of the pieces in a cut are valid, and no calls. -/
theorem Cut.valid {cs : List Char} (h : Cut cs before call) :
    ∀ s ∈ (before.filter (· ≠ [])).map Segment.ofPiece, s.Valid ∧ s.escape = none := by
  intro s hs
  obtain ⟨p, hp, rfl⟩ := List.mem_map.mp hs
  obtain ⟨hmem, hne⟩ := List.mem_filter.mp hp
  exact Segment.valid_ofPiece (h.plain p hmem) (of_decide_eq_true hne)

/-- **What is read from an expression is well formed.** -/
theorem wellFormed_segments (expression : String) : WellFormed (segments expression) := by
  obtain ⟨before, call, hcut⟩ := exists_cut expression.toList
  rw [segments, hcut.scanAll_eq]
  exact wellFormed_append hcut.valid call

/-- **Lists of segments are read back exactly if they are well formed**, and
what is read from an expression always is. -/
theorem segments_joined_eq_iff :
    (∀ ss, segments (joined ss) = ss ↔ WellFormed ss) ∧
      ∀ expression, WellFormed (segments expression) ∧
        segments (joined (segments expression)) = segments expression := by
  have hback : ∀ ss, WellFormed ss → segments (joined ss) = ss := by
    intro ss h
    obtain ⟨ts, call, rfl, hts⟩ := h.exists_eq_append
    exact segments_joined_append hts call
  refine ⟨fun ss => ⟨fun h => h ▸ wellFormed_segments (joined ss), hback ss⟩, fun expression => ?_⟩
  have hread := wellFormed_segments expression
  exact ⟨hread, hback _ hread⟩

/-! ## Expressions that are written back -/

/-- The pieces of an expression before the first that opens a call; all of
them if none does. -/
def plainPieces (expression : String) : List (List Char) :=
  (pieces expression).takeWhile fun p => ¬ OpensCall p

/-- They are the pieces of the cut. -/
theorem Cut.plainPieces_eq {expression : String} (h : Cut expression.toList before call) :
    plainPieces expression = before := by
  have hplain : ∀ p ∈ before, decide (¬ OpensCall p) = true := fun p hp =>
    decide_eq_true (h.plain p hp).2
  obtain ⟨rest, hpieces, hrest⟩ : ∃ rest, pieces expression = before ++ rest ∧
      rest.takeWhile (fun p => decide (¬ OpensCall p)) = [] := by
    cases call with
    | none => exact ⟨[], by rw [List.append_nil]; exact h.splitOn_eq, rfl⟩
    | some call =>
      obtain ⟨p, after, hpieces, hopens⟩ := h.exists_splitOn_eq
      refine ⟨p :: after, hpieces, List.takeWhile_cons_of_neg ?_⟩
      simpa using ⟨call.1, hopens⟩
  rw [plainPieces, hpieces, List.takeWhile_append_of_pos hplain, hrest, List.append_nil]

/-- Some piece opens a call exactly if there is one in the cut. -/
theorem Cut.exists_opensCall_iff {expression : String} (h : Cut expression.toList before call) :
    (∃ p ∈ pieces expression, OpensCall p) ↔ call ≠ none := by
  cases call with
  | none =>
    have hpieces : pieces expression = before := h.splitOn_eq
    rw [hpieces]
    simpa using fun p hp => (h.plain p hp).2
  | some call =>
    obtain ⟨p, after, hpieces, hopens⟩ := h.exists_splitOn_eq
    refine ⟨fun _ => Option.some_ne_none _, fun _ => ⟨p, ?_, call.1, hopens⟩⟩
    rw [pieces, hpieces]
    simp

/-- A list that is the image of what it holds besides empty texts holds no
empty ones, if no image is empty. -/
theorem forall_of_eq_map_filter {f : List Char → List Char}
    (hf : ∀ p ∈ before.filter (· ≠ []), f p ≠ []) (h : before = (before.filter (· ≠ [])).map f) :
    ∀ p ∈ before, p ≠ [] ∧ f p = p := by
  have hne : ∀ p ∈ before, p ≠ [] := by
    intro p hp
    rw [h] at hp
    obtain ⟨q, hq, rfl⟩ := List.mem_map.mp hp
    exact hf q hq
  rw [List.filter_eq_self.mpr fun p hp => decide_eq_true (hne p hp)] at h
  have hid : before.map id = before.map f := by rwa [List.map_id]
  exact fun p hp => ⟨hne p hp, (List.map_inj_left.mp hid p hp).symm⟩

/-- A text that ends in a closing parenthesis after the head of a call has it
behind the head. -/
theorem exists_eq_append_of_getLast? {lead body : List Char} {language : Embedded}
    (h : (lead ++ (language.name.toList ++ '(' :: body)).getLast? = some ')') :
    ∃ content, body = content ++ [')'] := by
  rcases List.eq_nil_or_concat body with rfl | ⟨content, c, rfl⟩
  · simp [List.getLast?_cons] at h
  · have hc : c = ')' := by simpa [List.getLast?_cons] using h
    exact ⟨content, by rw [hc, List.concat_eq_append]⟩

/-- What is written back has the pieces it is written from. -/
theorem Cut.eq_of_joined_eq {expression : String} (h : Cut expression.toList before call)
    (hjoin : joined (segments expression) = expression) (hne : expression ≠ "") :
    before = ((before.filter (· ≠ [])).map Segment.ofPiece).map (·.text.toList) := by
  have hread : segments expression =
      (before.filter (· ≠ [])).map .ofPiece ++ (call.map callSegment).toList := h.scanAll_eq
  have hsome : (before.filter (· ≠ [])).map .ofPiece ++ (call.map callSegment).toList ≠ [] := by
    intro hnil
    rw [hread, hnil] at hjoin
    exact hne hjoin.symm
  -- so there are two cuts of the expression, this one and that of its segments
  have hcut := cut_joined h.valid hsome
  rw [← hread, hjoin] at hcut
  exact h.plainPieces_eq.symm.trans hcut.plainPieces_eq

/-- So none of them is empty, and each is written as it is. -/
theorem Cut.text_eq_of_joined_eq {expression : String} (h : Cut expression.toList before call)
    (hjoin : joined (segments expression) = expression) (hne : expression ≠ "") :
    ∀ p ∈ before, p ≠ [] ∧ (Segment.ofPiece p).text.toList = p := by
  have hpieces := h.eq_of_joined_eq hjoin hne
  rw [List.map_map] at hpieces
  refine forall_of_eq_map_filter (fun p hp => ?_) hpieces
  have hvalid := h.valid (.ofPiece p) (List.mem_map_of_mem hp)
  exact (hvalid.1.plain_text hvalid.2).2.1

/-- What is written ends in a closing parenthesis if there is a call. -/
theorem Cut.getLast?_of_joined_eq {expression : String} {c : Embedded × List Char}
    (h : Cut expression.toList before (some c))
    (hjoin : joined (segments expression) = expression) :
    expression.toList.getLast? = some ')' := by
  have hread : segments expression = (before.filter (· ≠ [])).map .ofPiece ++ [callSegment c] :=
    h.scanAll_eq
  rw [← hjoin, hread, toList_joined_call]
  simp [List.getLast?_cons]

/-- **Where nothing is lost the expression is written back.** -/
theorem Cut.joined_segments {expression : String} (h : Cut expression.toList before call)
    (hpieces : ∀ p ∈ before, p ≠ [] ∧ (Segment.ofPiece p).text.toList = p)
    (hlast : call ≠ none → expression.toList.getLast? = some ')') :
    joined (segments expression) = expression := by
  have hread : segments expression =
      (before.filter (· ≠ [])).map .ofPiece ++ (call.map callSegment).toList := h.scanAll_eq
  have hfilter : before.filter (· ≠ []) = before :=
    List.filter_eq_self.mpr fun p hp => decide_eq_true (hpieces p hp).1
  have htexts : (before.map Segment.ofPiece).map (·.text.toList) = before := by
    rw [List.map_map]
    exact (List.map_congr_left fun p hp => (hpieces p hp).2).trans (List.map_id' before)
  rw [← String.toList_inj, hread, hfilter]
  cases h with
  | whole _ _ hcs =>
    rw [Option.map_none, Option.toList_none, List.append_nil, toList_joined, htexts, hcs]
  | @call language body _ hcs =>
    -- the text of the call is all there is before the last parenthesis
    obtain ⟨content, rfl⟩ := exists_eq_append_of_getLast? (hcs ▸ hlast (Option.some_ne_none _))
    rw [Option.map_some, Option.toList_some, toList_joined_call, htexts, callText_closed, hcs]

/-- **An expression is written back exactly if nothing in it is lost.** It is
empty, or the pieces before its call are not empty and have no zeros in front
of an index, and if there is a call, the expression ends in a closing
parenthesis. -/
theorem joined_segments_eq_iff (expression : String) :
    joined (segments expression) = expression ↔ expression = "" ∨
      (∀ p ∈ plainPieces expression, p ≠ [] ∧
        ∀ name digits, Segment.Indexed p name digits → ¬ Padded digits) ∧
      ((∃ p ∈ pieces expression, OpensCall p) → expression.toList.getLast? = some ')') := by
  obtain ⟨before, call, hcut⟩ := exists_cut expression.toList
  simp only [hcut.plainPieces_eq, hcut.exists_opensCall_iff, ← Segment.text_ofPiece_eq_iff]
  constructor
  · intro hjoin
    by_cases hne : expression = ""
    · exact .inl hne
    · refine .inr ⟨hcut.text_eq_of_joined_eq hjoin hne, fun hcall => ?_⟩
      obtain ⟨c, rfl⟩ := Option.ne_none_iff_exists'.mp hcall
      exact hcut.getLast?_of_joined_eq hjoin
  · rintro (rfl | ⟨hpieces, hlast⟩)
    · rw [show segments "" = [] from scanAll_nil]
      rfl
    · exact hcut.joined_segments hpieces hlast

end Path
end Scenario
