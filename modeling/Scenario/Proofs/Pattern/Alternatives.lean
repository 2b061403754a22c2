import Mathlib.Data.List.TakeWhile
import Scenario.Proofs.Pattern.Turns

/-!
# Alternatives — what stands before a closing parenthesis stands alone

Groups, repetitions and alternatives are read the same way at the end of a
text and before a closing parenthesis. A group takes up the parenthesis where
its own is missing, so the longer run goes past it; a run of alternatives
stops there if the shorter run comes to its end (`together_body`).

So a text that is read up to a closing parenthesis is a complete expression
before it, and a complete expression without an open comment is read up to
any closing parenthesis put after it.
-/

namespace Scenario
namespace Pattern
namespace Reader

variable {α β : Type} {back : List Char} {i j : Input} {k l : Bool}

/-! ## The beginning of a group -/

/-- Flags end at the parenthesis. -/
theorem together_flagSetting {fuel fuel' : Nat} {value dangling : Bool} {setting : FlagSetting}
    (hfuel : i.rest.length < fuel) (hfuel' : i.rest.length < fuel') :
    Together back false i (flagSetting fuel value dangling setting i)
      (flagSetting fuel' value dangling setting (i.closed back)) := by
  induction fuel generalizing i fuel' value dangling setting with
  | zero => omega
  | succ fuel ih =>
    obtain ⟨fuel', rfl⟩ := Nat.exists_eq_succ_of_ne_zero (by omega : fuel' ≠ 0)
    refine .peek (fun c cs hrest => ?_) fun j hj => ?_
    · split
      · exact .require _ fun _ => .pure _
      · refine .bump (by simp [hrest]) fun j _ hlt => ?_
        have hmore : ∀ value dangling setting, Together back false j
            (flagSetting fuel value dangling setting j)
            (flagSetting fuel' value dangling setting (j.closed back)) :=
          fun _ _ _ => ih (by omega) (by omega)
        split
        · exact .require _ fun _ => hmore _ _ _
        · cases flag? c with
          | none => exact .failure
          | some flag => exact .require _ fun _ => hmore _ _ _
    · rw [if_pos (.inr rfl)]
      exact .of_stop ((leaves_require _).bind fun _ => .pure _) hj

/-- Whether a text may be the name of a group where some names are taken. -/
def namesGroup (taken : List (List Char)) : List Char → Bool
  | [] => false
  | c :: cs => isNameChar true c && cs.all (isNameChar false) && !taken.contains (c :: cs)

/-- The name of a group is what comes before the first angle. -/
theorem groupName_of_angle {name rest : List Char} (hname : '>' ∉ name)
    (hi : i.rest = name ++ '>' :: rest) :
    groupName i =
      if namesGroup i.names name then some ((), { i with rest, names := name :: i.names })
      else none := by
  have hother : ∀ c ∈ name, (c != '>') = true := by
    intro c hc
    rw [bne_iff_ne]
    rintro rfl
    exact hname hc
  have htake : i.rest.takeWhile (· != '>') = name := by
    rw [hi, List.takeWhile_append_of_pos hother, List.takeWhile_cons_of_neg (by decide),
      List.append_nil]
  have hdrop : i.rest.drop name.length = '>' :: rest := by rw [hi, List.drop_left]
  simp only [groupName, htake, hdrop]
  cases name <;> rfl

/-- Without an angle there is no name. -/
theorem groupName_of_no_angle (hi : '>' ∉ i.rest) : groupName i = none := by
  have hother : ∀ c ∈ i.rest, (c != '>') = true := by
    intro c hc
    rw [bne_iff_ne]
    rintro rfl
    exact hi hc
  have htake : i.rest.takeWhile (· != '>') = i.rest := List.takeWhile_eq_self_iff.2 hother
  simp only [groupName, htake, List.drop_length]
  split
  · next h => cases h
  · rfl

/-- The angle after a group's name comes before the parenthesis or after
it. -/
theorem together_groupName (i : Input) :
    Together back true i (groupName i) (groupName (i.closed back)) := by
  by_cases hangle : '>' ∈ i.rest
  · obtain ⟨name, rest, hrest, hname⟩ := List.eq_append_cons_of_mem hangle
    have hclosed : (i.closed back).rest = name ++ '>' :: (rest ++ ')' :: back) := by
      rw [Input.closed, hrest, List.append_assoc, List.cons_append]
    rw [groupName_of_angle hname hrest, groupName_of_angle hname hclosed]
    by_cases hnames : namesGroup i.names name = true
    · rw [if_pos hnames]
      exact .inl ⟨(), _, rfl, if_pos hnames⟩
    · rw [if_neg hnames]
      exact .of_past (if_neg hnames ▸ .none)
  · -- the name goes on to an angle after the parenthesis, if there is one
    rw [groupName_of_no_angle hangle]
    refine .of_past fun _ j hj => ?_
    by_cases hlater : '>' ∈ (i.closed back).rest
    · obtain ⟨name, rest, hrest, hname⟩ := List.eq_append_cons_of_mem hlater
      rw [groupName_of_angle hname hrest] at hj
      split at hj <;> cases hj
      rcases List.append_eq_append_iff.mp (show i.rest ++ ')' :: back = _ from hrest) with
        ⟨more, hmore, hback⟩ | ⟨more, hmore, hback⟩
      · rw [hback, List.length_append, List.length_cons]
        exact Nat.le_add_left _ _
      · cases more with
        | nil => cases hback
        | cons c more =>
          cases hback
          exact absurd (hmore ▸ List.mem_append_right _ List.mem_cons_self) hangle
    · rw [groupName_of_no_angle hlater] at hj
      cases hj

/-- A test that ends a reader. -/
theorem together_require (condition : Bool) (i : Input) :
    Together back k i (Reader.require condition i) (Reader.require condition (i.closed back)) := by
  cases condition with
  | false => exact .none
  | true => exact .inl ⟨(), i, rfl, rfl⟩

theorem together_openingParenthesis (hi : i.rest ≠ []) :
    Together back true i (openingParenthesis i) (openingParenthesis (i.closed back)) := by
  refine .bump hi fun j _ _ => .bumpSpace leaves_noLook leaves_noLook fun j _ => ?_
  refine .sees (by decide) fun _ => .require _ fun _ => ?_
  refine .sees (by decide) fun _ => .require _ fun _ => ?_
  refine .sees (by decide) fun _ => .require _ fun _ => ?_
  exact .sees (by decide) fun _ => together_require _ _

/-- Flags that end at the parenthesis take it up. -/
theorem together_openingFlags (i : Input) :
    Together back true i (openingFlags i) (openingFlags (i.closed back)) := by
  refine .fuelHere fun fuel fuel' hfuel hfuel' => ?_
  refine (together_flagSetting hfuel hfuel').bindLook (leaves_flagSetting _ _ _ _)
    (leaves_flagSetting _ _ _ _) leaves_openingAfter leaves_openingAfter (fun setting j _ => ?_)
    fun setting j hj => .peek hj (.bump hj (leaves_openingOf _ _))
  refine .peek (fun c cs hc => ?_) fun j hj => .bump hj (leaves_openingOf _ _)
  refine .bump (by simp [hc]) fun j _ _ => ?_
  rw [openingOf]
  split
  · exact .require _ fun _ => .pure _
  · exact .pure _

theorem together_openingKind (i : Input) :
    Together back true i (openingKind i) (openingKind (i.closed back)) := by
  refine .accept (by decide) fun _ j _ => .accept (by decide) fun _ j _ => ?_
  split
  · exact (together_groupName j).map leaves_groupName
  · refine .accept (by decide) fun seen j _ => ?_
    cases seen
    · exact .pure _
    · exact together_openingFlags j

theorem together_groupOpening (hi : i.rest ≠ []) :
    Together back true i (groupOpening i) (groupOpening (i.closed back)) := by
  rw [groupOpening_eq]
  exact (together_openingParenthesis hi).bind leaves_openingParenthesis
    (fun _ => leaves_openingKind) (fun _ => leaves_openingKind) fun _ j _ => together_openingKind j

/-! ## Turns -/

/-- A group that lacks its own parenthesis ends with the one that comes. -/
theorem past_groupEnd {spaced : Bool} {result : α} (hj : j.rest.length ≤ (')' :: back).length) :
    Past back true (groupEnd spaced result j) := by
  intro a j' h
  obtain ⟨cs, hrest, -, rfl⟩ := groupEnd_eq_some_iff.mp h
  rw [hrest] at hj
  exact hj

theorem together_groupEnd (spaced : Bool) (result : α) (i : Input) :
    Together back true i (groupEnd spaced result i) (groupEnd spaced result (i.closed back)) := by
  cases hi : i.rest with
  | nil =>
    refine .inr ⟨fun a j h => ?_, past_groupEnd (by simp [Input.closed, hi])⟩
    obtain ⟨cs, hrest, -⟩ := groupEnd_eq_some_iff.mp h
    rw [hi] at hrest
    cases hrest
  | cons c cs =>
    have hclosed : (i.closed back).rest = c :: (cs ++ ')' :: back) := by rw [Input.closed, hi]; rfl
    by_cases hc : c = ')'
    · subst hc
      exact .inl ⟨result, _, groupEnd_eq_some_iff.mpr ⟨cs, hi, rfl, rfl⟩,
        groupEnd_eq_some_iff.mpr ⟨_, hclosed, rfl, rfl⟩⟩
    · refine .inr ⟨fun a j h => ?_, fun a j h => ?_⟩
      · obtain ⟨cs, hrest, -⟩ := groupEnd_eq_some_iff.mp h
        rw [hi] at hrest
        cases hrest
        exact absurd rfl hc
      · obtain ⟨cs, hrest, -⟩ := groupEnd_eq_some_iff.mp h
        rw [hclosed] at hrest
        cases hrest
        exact absurd rfl hc

section Inside

variable {inside inside' : Reader Expr} (hinside : Leaves inside) (hinside' : Leaves inside')
include hinside hinside'

/-- **Groups stay together** if what is inside them does. -/
theorem together_group {cs : List Char} (hi : i.rest = '(' :: cs) (branches items : List Expr)
    (h : ∀ j : Input, j.rest.length < i.rest.length →
      Together back true j (inside j) (inside' (j.closed back))) :
    Together back true i (group inside branches items i)
      (group inside' branches items (i.closed back)) := by
  show Together back true i ((groupOpening >>= groupFrom inside branches items i.spaced) i)
    ((groupOpening >>= groupFrom inside' branches items i.spaced) (i.closed back))
  have hne : i.rest ≠ [] := by simp [hi]
  refine (together_groupOpening hne).bind_of (fun _ _ _ _ => suffix_of_groupFrom hinside)
    (fun opening j hj => ?_) fun opening j hj hlength a j' hj' => ?_
  · have hlt := shortens_groupOpening _ _ _ hne hj
    cases opening with
    | flags setting => exact .inl ⟨_, _, rfl, rfl⟩
    | group captures setting =>
      -- inside the group layout may be skipped by its own flags
      have hspaced := spaced_of_groupOpening hi hj (.inr ⟨captures, rfl⟩)
      have hset : i.After { j with spaced := spacedAfter setting i.spaced } :=
        ⟨(leaves_groupOpening _ _ _ hj).suffix, hspaced⟩
      let j' : Input := { j with spaced := spacedAfter setting i.spaced }
      let result inner := groupEnd i.spaced (branches, items ++ [.group captures setting inner])
      have hclosed : Together back true j' ((inside >>= result) j')
          ((inside' >>= result) (j'.closed back)) :=
        (h j' hlt).bind_of (fun _ _ _ _ => suffix_of_groupEnd)
          (fun inner k hk => (together_groupEnd _ _ _).of_after (hinside _ _ _ hk))
          fun inner k _ hlength => past_groupEnd (Nat.le_of_succ_le hlength)
      exact hclosed.of_after hset
  · have hle := (suffix_of_groupFrom hinside' hj').length_le
    omega

end Inside

theorem together_quantifier (min : Nat) (max : Option Nat) (branches items : List Expr)
    (hi : i.rest ≠ []) :
    Together back true i (quantifier min max branches items i)
      (quantifier min max branches items (i.closed back)) := by
  rw [quantifier]
  rcases repeated_cases items with ⟨before, e, -, h⟩ | h <;> rw [h]
  · rw [pure_bind]
    exact .bump hi fun j _ _ => .accept (by decide) fun _ _ _ => .pure _
  · exact .none

theorem together_countsTo (low : Nat) (i : Input) :
    Together back true i (countsTo low i) (countsTo low (i.closed back)) :=
  (together_decimal i).bind leaves_decimal (fun _ => (leaves_require _).bind fun _ => .pure _)
    (fun _ => (leaves_require _).bind fun _ => .pure _) fun _ _ _ => .require _ fun _ => .pure _

/-- The parenthesis is no greatest count. -/
theorem past_countsAfter (low : Nat) (hj : j.rest = ')' :: back) :
    Past back false (countsAfter low ')' j) := by
  rw [countsAfter, if_neg (by decide)]
  exact .of_stop (leaves_countsTo low) hj

theorem together_countsFrom (low : Nat) (i : Input) :
    Together back false i (countsFrom low i) (countsFrom low (i.closed back)) := by
  have hrest : Leaves (Reader.peek >>= countsAfter low) :=
    leaves_peek.bind (leaves_countsAfter low)
  refine .peek (fun c cs hc => ?_) fun j hj => ?_
  · split
    · refine .next (by simp [hc]) hrest hrest (fun j _ _ _ => ?_) fun j hj => .of_stop hrest hj
      refine .peek (fun c cs hc => ?_) fun j hj => past_countsAfter low hj
      rw [countsAfter]
      split
      · exact .pure _
      · exact (together_countsTo low j).look
    · exact .pure _
  · rw [if_neg (by decide)]
    exact .of_stop (.pure _) hj

theorem together_counts (hi : i.rest ≠ []) :
    Together back false i (counts i) (counts (i.closed back)) := by
  have hrest : Leaves (decimal >>= countsFrom) := leaves_decimal.bind leaves_countsFrom
  rw [counts_eq]
  refine .next hi hrest hrest (fun j _ _ _ => ?_) fun j hj => .of_stop hrest hj
  exact (together_decimal j).bind leaves_decimal leaves_countsFrom leaves_countsFrom
    fun low j _ => together_countsFrom low j

/-- A parenthesis does not close braces. -/
theorem together_braces (branches items : List Expr) (hi : i.rest ≠ []) :
    Together back true i (braces branches items i) (braces branches items (i.closed back)) := by
  rw [braces]
  rcases repeated_cases items with ⟨before, e, -, h⟩ | h <;> rw [h]
  · refine (together_counts hi).bindLook leaves_counts leaves_counts
      (leaves_bracesAfter branches before e) (leaves_bracesAfter branches before e)
      (fun counted j _ => .peek (fun c cs hc => ?_) fun j hj => .none)
      fun counted j hj => .peek hj .none
    refine .require _ fun _ => .bump (by simp [hc]) fun j _ _ => ?_
    exact .bumpSpace ((leaves_accept _).bind fun _ => .pure _)
      ((leaves_accept _).bind fun _ => .pure _) fun j _ => .accept (by decide) fun _ _ _ => .pure _
  · exact .none

theorem nearly_primitive {c : Char} {cs : List Char} (hi : i.rest = c :: cs) :
    Nearly back i (primitive i) (primitive (i.closed back)) := by
  rw [primitive_eq, peek_bind hi, peek_bind_closed hi]
  rcases primitiveOf_cases c with h | ⟨item, h⟩ <;> rw [h]
  · exact nearly_escape hi
  · exact .inl (.bump (by simp [hi]) fun _ _ _ => .pure _)

section Turns

variable {inside inside' : Reader Expr} (hinside : Leaves inside) (hinside' : Leaves inside')
include hinside hinside'

/-- **Turns stay together**, or one on a boundary goes back to a brace. -/
theorem nearly_turn {c : Char} {cs : List Char} (hi : i.rest = c :: cs) (branches items : List Expr)
    (h : ∀ j : Input, j.rest.length < i.rest.length →
      Together back true j (inside j) (inside' (j.closed back))) :
    Together back true i (turn inside branches items c i)
        (turn inside' branches items c (i.closed back)) ∨
      c ≠ '{' ∧ Braced back i (branches, items ++ [.assertion .wordBoundary])
        (turn inside branches items c i) (turn inside' branches items c (i.closed back)) := by
  have hne : i.rest ≠ [] := by simp [hi]
  unfold turn
  split
  · exact .inl (together_group hinside hinside' hi branches items h)
  · exact .inl (.bump hne fun _ _ _ => .pure _)
  · refine .inl (.fuelHere fun fuel fuel' hfuel hfuel' => ?_)
    exact ((together_setClass_setBody _ _ i).1 hne (by omega) (by omega)).map
      (leaves_setClass _)
  · exact .inl (together_quantifier _ _ _ _ hne)
  · exact .inl (together_quantifier _ _ _ _ hne)
  · exact .inl (together_quantifier _ _ _ _ hne)
  · exact .inl (together_braces _ _ hne)
  · next hbrace =>
    rcases nearly_primitive hi with htogether | ⟨hshort, j, ds, hlong, hj⟩
    · exact .inl (htogether.map leaves_primitive)
    · refine .inr ⟨hbrace, ?_, j, ds, ?_, hj⟩
      · rw [bind_apply, hshort]; rfl
      · rw [bind_apply, hlong]; rfl

end Turns

/-- A repetition does not begin where nothing but layout follows its brace. -/
theorem body_of_brace {fuel : Nat} {branches items : List Expr} {cs : List Char}
    (hi : i.rest = '{' :: cs) (hnext : Reader.next i = none) :
    body fuel branches items i = none := by
  cases fuel with
  | zero => rfl
  | succ fuel =>
    have hcounts : counts i = none := by rw [counts_eq, bind_apply, hnext]; rfl
    have hturn : turn (body fuel [] []) branches items '{' i = none := by
      show braces branches items i = none
      rw [braces]
      rcases repeated_cases items with ⟨before, e, -, h⟩ | h <;> rw [h]
      · rw [pure_bind]
        dsimp only
        rw [bind_apply, hcounts]
        rfl
      · rfl
    rw [body_succ, bind_apply, bumpSpace_of_none hi (by decide) (by decide), Option.bind_some,
      bodyFrom_of_cons hi (by decide), bind_apply, hturn]
    rfl

/-- **Alternatives stay together.** The shorter run comes to its end where the
longer one comes to the parenthesis. -/
theorem together_body {fuel fuel' : Nat} {branches items : List Expr}
    (hfuel : i.rest.length < fuel) (hfuel' : i.rest.length < fuel') :
    Together back true i (body fuel branches items i)
      (body fuel' branches items (i.closed back)) := by
  induction fuel generalizing i fuel' branches items with
  | zero => omega
  | succ fuel ih =>
    obtain ⟨fuel', rfl⟩ := Nat.exists_eq_succ_of_ne_zero (by omega : fuel' ≠ 0)
    rw [body_succ, body_succ]
    refine .bumpSpace (leaves_bodyFrom _ _ _) (leaves_bodyFrom _ _ _) fun j hj => ?_
    have hle := hj.suffix.length_le
    cases hrest : j.rest with
    | nil =>
      have hclosed : (j.closed back).rest = ')' :: back := by rw [Input.closed, hrest]; rfl
      exact .inl ⟨_, j, bodyFrom_of_nil hrest, bodyFrom_of_parenthesis hclosed⟩
    | cons c cs =>
      have hne : j.rest ≠ [] := by simp [hrest]
      have hclosed : (j.closed back).rest = c :: (cs ++ ')' :: back) := by
        rw [Input.closed, hrest]; rfl
      by_cases hc : c = ')'
      · subst hc
        exact .inl ⟨_, j, bodyFrom_of_parenthesis hrest, bodyFrom_of_parenthesis hclosed⟩
      rw [bodyFrom_of_cons hrest hc, bodyFrom_of_cons hclosed hc]
      have hlater : ∀ k : Input, k.rest.length < j.rest.length → ∀ branches items,
          Together back true k (body fuel branches items k)
            (body fuel' branches items (k.closed back)) :=
        fun k hk _ _ => ih (by omega) (by omega)
      rcases nearly_turn (leaves_body fuel [] []) (leaves_body fuel' [] []) hrest branches items
        (fun k hk => hlater k hk [] []) with hturn | ⟨hbrace, hshort, k, ds, hlong, hk, hds, hnext⟩
      · refine hturn.bind_of (fun _ _ _ _ hmore => (leaves_body _ _ _ _ _ _ hmore).suffix)
          (fun read k hk => ?_) fun _ _ _ hlength => .of_lt (leaves_body _ _ _) hlength
        have hlt := shortens_turn (leaves_body _ _ _) _ _ _ _ _ _ hne hk
        exact (hlater k hlt _ _).of_after (after_turn (leaves_body _ _ _) hrest hk)
      · -- the longer run goes back to a brace, from which the shorter one fails
        have hlt : k.rest.length < j.rest.length := by
          refine Nat.lt_of_le_of_ne hk.suffix.length_le fun heq => hbrace ?_
          have hsame := hk.suffix.eq_of_length heq
          rw [hds, hrest] at hsame
          cases hsame
          rfl
        rw [bind_apply, hshort, bind_apply, hlong, Option.bind_some]
        have hgo := hlater k hlt branches (items ++ [.assertion .wordBoundary])
        rw [body_of_brace hds hnext] at hgo
        exact hgo.of_after hk

end Reader
end Pattern
end Scenario
