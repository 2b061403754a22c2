import Scenario.Proofs.Scope.Substitution

/-!
# Joining — two texts, one behind the other

A text ends in a literal tail, what is left behind its last placeholder
(`LiteralTail`). What the text does to another one behind it depends on that
tail alone: a marker may be open in it, or begin with its last character. Where
neither is so, the markers behind the last placeholder are those of the second
text (`Apart.exists_of_marker`). So the pieces of the whole are those of the two
texts, with the literals at the cut run together (`SplitsInto.append`), and
filling the whole is filling the parts (`Scope.fill_append`).
-/

namespace Scenario
namespace Placeholder

variable {cs before rest tail front back u v : List Char} {ps qs : List Piece}

/-! ## The literal tail -/

/-- **The literal tail of a text**: its last piece. -/
def LiteralTail (cs tail : List Char) : Prop := ∃ ps, SplitsInto cs (ps ++ [.literal tail])

/-- Every text has one. -/
theorem exists_literalTail (cs : List Char) : ∃ tail, LiteralTail cs tail := by
  induction cs using pieces.induct with
  | case1 cs hnone => exact ⟨cs, [], .last (firstReference_eq_none_iff.mp hnone)⟩
  | case2 cs before inner rest hsome ih =>
    obtain ⟨tail, ps, hps⟩ := ih
    obtain ⟨hmarker, hmem⟩ := firstReference_eq_some_iff.mp hsome
    exact ⟨tail, .literal before :: .reference inner :: ps, .next hmarker hmem hps⟩

/-- And only one. -/
theorem LiteralTail.unique {tail' : List Char} (h : LiteralTail cs tail)
    (h' : LiteralTail cs tail') : tail = tail' := by
  obtain ⟨ps, hps⟩ := h
  obtain ⟨ps', hps'⟩ := h'
  have hpieces : ps ++ [Piece.literal tail] = ps' ++ [Piece.literal tail'] :=
    (splitsInto_iff.mp hps).trans (splitsInto_iff.mp hps').symm
  cases (List.append_inj' hpieces rfl).2
  rfl

/-- At its beginning stands a literal, too. -/
theorem SplitsInto.exists_eq_cons (h : SplitsInto cs ps) :
    ∃ front qs, ps = .literal front :: qs := by
  cases h with
  | last => exact ⟨_, _, rfl⟩
  | next => exact ⟨_, _, rfl⟩

/-- **No marker lies across the cut** between a literal tail and a text behind
it. -/
structure Apart (tail v : List Char) : Prop where
  /-- None is open in the tail. -/
  closed : ¬ ['$', '{'] <:+: tail
  /-- And none has its dollar sign before the cut and its brace behind it. -/
  not_astride : ¬ (['$'] <:+ tail ∧ ['{'] <+: v)

/-! ## Markers of a joined text -/

/-- **Where a marker of a joined text stands**: in the first part, across the
cut, or in the second part. -/
theorem marker_append (h : u ++ v = front ++ '$' :: '{' :: back) :
    (∃ more, u = front ++ '$' :: '{' :: more) ∨ (u = front ++ ['$'] ∧ v = '{' :: back) ∨
      ∃ more, front = u ++ more ∧ v = more ++ '$' :: '{' :: back := by
  rcases List.append_eq_append_iff.mp h with ⟨more, hfront, hv⟩ | ⟨beyond, hu, hmarker⟩
  · exact .inr (.inr ⟨more, hfront, hv⟩)
  · -- what the first part has of the marker and behind it
    match beyond with
    | [] => exact .inr (.inr ⟨[], by rw [hu]; simp, hmarker.symm⟩)
    | [c] =>
      obtain ⟨rfl, hv⟩ := List.cons.inj hmarker
      exact .inr (.inl ⟨hu, hv.symm⟩)
    | c :: d :: more =>
      simp only [List.cons_append, List.cons.injEq] at hmarker
      obtain ⟨rfl, rfl, -⟩ := hmarker
      exact .inl ⟨more, hu⟩

/-- **The leftmost marker stays the leftmost** whatever follows. -/
theorem FirstMarker.append (h : FirstMarker cs before rest) (v : List Char) :
    FirstMarker (cs ++ v) before (rest ++ v) where
  stands := by rw [h.stands]; simp
  leftmost := by
    intro front back hm
    have hlen := congrArg List.length h.stands
    simp only [List.length_append, List.length_cons] at hlen
    rcases marker_append hm with ⟨more, hcs⟩ | ⟨hcs, -⟩ | ⟨more, hfront, -⟩
    · exact h.leftmost front more hcs
    · have hcut := congrArg List.length hcs
      simp only [List.length_append, List.length_cons, List.length_nil] at hcut
      omega
    · rw [hfront, List.length_append]
      omega

/-- With no marker across the cut the markers behind the last placeholder are
those of the second text. -/
theorem Apart.exists_of_marker (h : Apart tail v)
    (hm : tail ++ v = front ++ '$' :: '{' :: back) :
    ∃ more, front = tail ++ more ∧ v = more ++ '$' :: '{' :: back := by
  rcases marker_append hm with ⟨more, htail⟩ | ⟨htail, hv⟩ | hmore
  · exact absurd ⟨front, more, by rw [htail]; simp⟩ h.closed
  · exact absurd ⟨⟨front, htail.symm⟩, ⟨back, hv.symm⟩⟩ h.not_astride
  · exact hmore

/-! ## Pieces of a joined text -/

/-- **A literal tail joins the first literal** of the text behind it. -/
theorem SplitsInto.tail_append (hv : SplitsInto v (.literal front :: qs)) (h : Apart tail v) :
    SplitsInto (tail ++ v) (.literal (tail ++ front) :: qs) := by
  cases hv with
  | last hnone =>
    refine .last fun lead back hm => ?_
    obtain ⟨more, -, hmore⟩ := h.exists_of_marker hm
    exact hnone more back hmore
  | next hmarker hmem hrest =>
    refine .next ⟨by rw [hmarker.stands]; simp, fun lead back hm => ?_⟩ hmem hrest
    obtain ⟨more, rfl, hmore⟩ := h.exists_of_marker hm
    simp only [List.length_append, Nat.add_le_add_iff_left]
    exact hmarker.leftmost more back hmore

/-- **The pieces of a joined text** are those of its parts, with the literals at
the cut in one. -/
theorem SplitsInto.append (hu : SplitsInto u (ps ++ [.literal tail]))
    (hv : SplitsInto v (.literal front :: qs)) (h : Apart tail v) :
    SplitsInto (u ++ v) (ps ++ .literal (tail ++ front) :: qs) := by
  generalize hall : ps ++ [.literal tail] = all at hu
  -- on the pieces of the first part: all but the tail are found again
  induction hu generalizing ps with
  | last =>
    obtain ⟨rfl, hlast⟩ := List.append_eq_singleton_iff.mp hall |>.resolve_right (by simp)
    cases hlast
    exact hv.tail_append h
  | @next cs before inner rest more hmarker hmem hrest ih =>
    match ps with
    | [] => cases hall
    | [p] => cases hall
    | p :: q :: ps =>
      simp only [List.cons_append, List.cons.injEq] at hall
      obtain ⟨rfl, rfl, hps⟩ := hall
      have hfirst := hmarker.append v
      rw [List.append_assoc, List.cons_append] at hfirst
      exact .next hfirst hmem (ih hps)

/-- **What a text is filled to**, from any way to split it. -/
theorem toList_fill_of_splitsInto {text : String} (h : SplitsInto text.toList ps) (scope : Scope) :
    (scope.fill text).toList = ps.flatMap (fillPiece scope.find?) := by
  rw [Scope.fill, String.toList_ofList, fillChars, splitsInto_iff.mp h]

end Placeholder

open Placeholder (LiteralTail Apart)

/-- **Filling distributes over joining** where no marker lies across the cut:
the first text leaves none open, and its literal tail does not end in a dollar
sign with a brace behind it. -/
theorem Scope.fill_append {u v : String}
    (h : ∀ tail, LiteralTail u.toList tail → Apart tail v.toList) (scope : Scope) :
    scope.fill (u ++ v) = scope.fill u ++ scope.fill v := by
  obtain ⟨tail, ps, hu⟩ := Placeholder.exists_literalTail u.toList
  have hv := Placeholder.splitsInto_pieces v.toList
  obtain ⟨front, qs, hqs⟩ := hv.exists_eq_cons
  rw [hqs] at hv
  have huv := hu.append hv (h tail ⟨ps, hu⟩)
  rw [← String.toList_append] at huv
  rw [← String.toList_inj, String.toList_append, Placeholder.toList_fill_of_splitsInto hu,
    Placeholder.toList_fill_of_splitsInto hv, Placeholder.toList_fill_of_splitsInto huv]
  simp [Placeholder.fillPiece]

/-- A dollar sign before the cut and a marker behind it are told apart, and so
are the markers that come with a value. -/
theorem Scope.fill_append_dollar :
    (∀ tail, LiteralTail "$${a}$".toList tail → Apart tail "${b}$\x7bc".toList) ∧
      (Scope.ofList [("a", "${b}"), ("b", "2")]).fill ("$${a}$" ++ "${b}$\x7bc") =
        "$${b}$" ++ "2$\x7bc" := by
  have htail : LiteralTail "$${a}$".toList ['$'] := by
    refine ⟨[.literal ['$'], .reference ['a']], Placeholder.splitsInto_iff.mpr ?_⟩
    decide +kernel
  have hapart : ∀ tail, LiteralTail "$${a}$".toList tail → Apart tail "${b}$\x7bc".toList := by
    intro tail h
    rw [h.unique htail]
    exact ⟨by decide, by decide⟩
  refine ⟨hapart, ?_⟩
  rw [Scope.fill_append hapart]
  decide +kernel

end Scenario
