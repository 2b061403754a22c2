import Scenario.Proofs.Pattern.Escapes

/-!
# Bracketed classes — a class and the rest of one

A class reads the rest of itself, and that reads the classes in it, so what
holds for both is proved for both at once: what they leave (`classLeaves`),
and that they read the same before a closing parenthesis
(`together_setClass_setBody`).
-/

namespace Scenario
namespace Pattern
namespace Reader

variable {back : List Char} {i j : Input} {k : Bool}

/-! ## What they leave -/

theorem leaves_setItem : Leaves setItem :=
  leaves_peek.bind fun _ => .ite leaves_escape (leaves_bump.bind fun _ => .pure _)

theorem leaves_memberOf (item : Primitive) : Leaves (memberOf item) := by
  cases item
  all_goals first | exact .pure _ | exact .failure

theorem leaves_peekPast : Leaves peekPast := by
  refine .of_eq fun i a j h => ?_
  simp only [peekPast] at h
  split at h <;> cases h <;> rfl

/-- A range between two items. -/
def rangeOf : Primitive → Primitive → Reader SetExpr
  | .literal low _, .literal high _ => do
    require (low ≤ high)
    return .range low high
  | _, _ => failure

/-- The end of a range, from its hyphen. -/
def rangeEnd (first : Primitive) : Reader SetExpr := do
  next
  let second ← setItem
  rangeOf first second

/-- What follows an item of a class. -/
def rangeTail (first : Primitive) : Reader SetExpr := do
  bumpSpace
  let c ← peek
  let past ← peekPast
  if c != '-' || past == some ']' || past == some '-' then memberOf first else rangeEnd first

/-- A member of a class, its parts taken apart. -/
theorem setRange_eq : setRange = setItem >>= rangeTail := rfl

theorem leaves_rangeOf (first second : Primitive) : Leaves (rangeOf first second) := by
  unfold rangeOf
  split
  · exact (leaves_require _).bind fun _ => .pure _
  · exact .failure

theorem leaves_rangeEnd (first : Primitive) : Leaves (rangeEnd first) :=
  leaves_next.bind fun _ => leaves_setItem.bind fun _ => leaves_rangeOf _ _

theorem leaves_rangeTail (first : Primitive) : Leaves (rangeTail first) :=
  leaves_bumpSpace.bind fun _ => leaves_peek.bind fun _ => leaves_peekPast.bind fun _ =>
    .ite (leaves_memberOf _) (leaves_rangeEnd _)

theorem leaves_setRange : Leaves setRange := by
  rw [setRange_eq]
  exact leaves_setItem.bind leaves_rangeTail

theorem leaves_leadingHyphens (fuel : Nat) : Leaves (leadingHyphens fuel) := by
  induction fuel with
  | zero => exact .failure
  | succ fuel ih =>
    exact leaves_peek.bind fun _ =>
      .ite (leaves_next.bind fun _ => ih.bind fun _ => .pure _) (.pure _)

theorem leaves_setOp : Leaves setOp :=
  (leaves_accept _).bind fun _ => .ite (.pure _) <| (leaves_accept _).bind fun _ =>
    .ite (.pure _) <| (leaves_accept _).bind fun _ => .ite (.pure _) (.pure _)

/-- The names of classes are letters. -/
theorem isAlpha_of_asciiClass? {name : List Char} {kind : AsciiClass}
    (h : asciiClass? (.ofList name) = some kind) : ∀ c ∈ name, c.isAlpha = true := by
  unfold asciiClass? at h
  split at h
  all_goals try cases h
  all_goals
    rename_i heq
    rw [← String.toList_inj, String.toList_ofList] at heq
    subst heq
    exact List.all_eq_true.mp (by decide)

/-- What a class begins with if it is negated. -/
def caret (negated : Bool) : List Char := if negated then ['^'] else []

/-- A text begins with a class between colons. -/
def NamesAscii (cs : List Char) (item : SetExpr) (rest : List Char) : Prop :=
  ∃ negated name kind, asciiClass? (.ofList name) = some kind ∧ item = .ascii negated kind ∧
    cs = '[' :: ':' :: (caret negated ++ (name ++ ':' :: ']' :: rest))

theorem eq_of_afterCaret (cs : List Char) :
    cs = caret (afterCaret cs).1 ++ (afterCaret cs).2 := by
  unfold afterCaret
  split <;> rfl

theorem afterCaret_append {negated : Bool} {c : Char} (cs : List Char) (hc : c ≠ '^') :
    afterCaret (caret negated ++ c :: cs) = (negated, c :: cs) := by
  cases negated with
  | true => rfl
  | false =>
    unfold afterCaret
    split
    · next h => cases h; exact absurd rfl hc
    · rfl

theorem asciiClass_of_colon {i : Input} {more : List Char} (h : i.rest = '[' :: ':' :: more) :
    asciiClass i =
      match (afterCaret more).2.dropWhile (· != ':') with
      | ':' :: ']' :: rest =>
        match asciiClass? (.ofList ((afterCaret more).2.takeWhile (· != ':'))) with
        | some kind => some (some (.ascii (afterCaret more).1 kind), { i with rest })
        | none => some (none, i)
      | _ => some (none, i) := by
  have hdrop : ∀ cs : List Char, cs.drop (cs.takeWhile (· != ':')).length =
      cs.dropWhile (· != ':') := by
    intro cs
    calc cs.drop (cs.takeWhile (· != ':')).length
        = (cs.takeWhile (· != ':') ++ cs.dropWhile (· != ':')).drop
            (cs.takeWhile (· != ':')).length := by rw [List.takeWhile_append_dropWhile]
      _ = cs.dropWhile (· != ':') := List.drop_left
  rw [asciiClass, h, ← hdrop]
  rfl

/-- A class between colons is found where one is. -/
theorem asciiClass_of_names {i : Input} {item : SetExpr} {rest : List Char}
    (h : NamesAscii i.rest item rest) : asciiClass i = some (some item, { i with rest }) := by
  obtain ⟨negated, name, kind, hkind, rfl, hrest⟩ := h
  have hletters := isAlpha_of_asciiClass? hkind
  have hcolon : ∀ c ∈ name, (c != ':') = true := by
    intro c hc
    rw [bne_iff_ne]
    rintro rfl
    exact absurd (hletters _ hc) (by decide)
  have hcaret : afterCaret (caret negated ++ (name ++ ':' :: ']' :: rest)) =
      (negated, name ++ ':' :: ']' :: rest) := by
    cases name with
    | nil => exact afterCaret_append _ (by decide)
    | cons c cs =>
      refine afterCaret_append _ ?_
      rintro rfl
      exact absurd (hletters _ List.mem_cons_self) (by decide)
  rw [asciiClass_of_colon hrest, hcaret, List.takeWhile_append_of_pos hcolon,
    List.dropWhile_append_of_pos hcolon, List.takeWhile_cons_of_neg (by decide),
    List.dropWhile_cons_of_neg (by decide), List.append_nil]
  simp only [hkind]

/-- **And only there.** -/
theorem asciiClass_cases (i : Input) :
    (asciiClass i = some (none, i) ∧ ∀ item rest, ¬ NamesAscii i.rest item rest) ∨
      ∃ item rest, NamesAscii i.rest item rest ∧
        asciiClass i = some (some item, { i with rest }) := by
  by_cases hnames : ∃ item rest, NamesAscii i.rest item rest
  · obtain ⟨item, rest, h⟩ := hnames
    exact .inr ⟨item, rest, h, asciiClass_of_names h⟩
  · refine .inl ⟨?_, fun item rest h => hnames ⟨item, rest, h⟩⟩
    -- what is found would be a name, since the text is its parts put together
    by_cases hcolon : ∃ more, i.rest = '[' :: ':' :: more
    · obtain ⟨more, hmore⟩ := hcolon
      rw [asciiClass_of_colon hmore]
      split
      · next rest hdrop =>
        split
        · next kind hkind =>
          refine absurd ⟨_, rest, (afterCaret more).1, _, kind, hkind, rfl, ?_⟩ hnames
          rw [← hdrop, List.takeWhile_append_dropWhile, ← eq_of_afterCaret, hmore]
        · rfl
      · rfl
    · unfold asciiClass
      split
      · next more hmore => exact absurd ⟨more, hmore⟩ hcolon
      · rfl

theorem leaves_asciiClass : Leaves asciiClass := by
  refine .of_suffix fun i a j h => ?_
  rcases asciiClass_cases i with ⟨hnone, -⟩ | ⟨item, rest, ⟨_, name, _, -, -, hrest⟩, hsome⟩
  · rw [hnone] at h
    cases h
    exact ⟨List.suffix_rfl, rfl⟩
  · rw [hsome] at h
    cases h
    refine ⟨?_, rfl⟩
    rw [hrest]
    exact (((List.suffix_cons _ _).trans (List.suffix_cons _ _)).trans
      ((List.suffix_append _ _).trans (List.suffix_append _ _))).trans
      ((List.suffix_cons _ _).trans (List.suffix_cons _ _))

/-- A class whose first items are read. -/
def bracketed (fuel : Nat) (negated : Bool) (items : List SetExpr) : Reader SetExpr := do
  return .bracket negated (← setBody fuel none items)

/-- A class from the character after its first hyphens; a bracket that comes
first does not end it. -/
def classFrom (fuel : Nat) (negated : Bool) (hyphens : List SetExpr) (c : Char) :
    Reader SetExpr := do
  if hyphens.isEmpty && c == ']' then
    next
    bracketed fuel negated [.char ']']
  else bracketed fuel negated hyphens

/-- A class from its first item. -/
def classItems (fuel : Nat) (negated : Bool) : Reader SetExpr := do
  let hyphens ← leadingHyphens (← fuelHere)
  classFrom fuel negated hyphens (← peek)

/-- A class from the character after its bracket. -/
def classAfter (fuel : Nat) (c : Char) : Reader SetExpr := do
  if c == '^' then
    next
    classItems fuel true
  else classItems fuel false

/-- A class, its parts taken apart. -/
theorem setClass_succ (fuel : Nat) : setClass (fuel + 1) = (do
    next
    classAfter fuel (← peek)) := by
  rw [setClass]
  refine bind_congr fun _ => bind_congr fun c => ?_
  unfold classAfter
  cases c == '^' <;> rfl

/-- The rest of a class, after a class between colons or before a nested one. -/
def bodyAfterAscii (fuel : Nat) (pending : Option (SetOp × SetExpr)) (items : List SetExpr) :
    Option SetExpr → Reader SetExpr
  | some item => setBody fuel pending (items ++ [item])
  | none => do
    let nested ← setClass fuel
    setBody fuel pending (items ++ [nested])

/-- The rest of a class, after an operation or before a member. -/
def bodyAfterOp (fuel : Nat) (pending : Option (SetOp × SetExpr)) (items : List SetExpr) :
    Option SetOp → Reader SetExpr
  | some op => setBody fuel (some (op, applyPending pending (.ofItems items))) []
  | none => do
    let item ← setRange
    setBody fuel pending (items ++ [item])

/-- The rest of a class from the character that comes next. -/
def setBodyFrom (fuel : Nat) (pending : Option (SetOp × SetExpr)) (items : List SetExpr)
    (c : Char) : Reader SetExpr :=
  if c = '[' then asciiClass >>= bodyAfterAscii fuel pending items
  else if c = ']' then do
    bump
    return applyPending pending (.ofItems items)
  else setOp >>= bodyAfterOp fuel pending items

/-- The rest of a class, its parts taken apart. -/
theorem setBody_succ (fuel : Nat) (pending : Option (SetOp × SetExpr)) (items : List SetExpr) :
    setBody (fuel + 1) pending items = (do
      bumpSpace
      setBodyFrom fuel pending items (← peek)) := by
  rw [setBody]
  rfl

/-- The readers of classes with some fuel leave ends of their input. -/
def ClassLeaves (fuel : Nat) : Prop :=
  Leaves (setClass fuel) ∧ ∀ pending items, Leaves (setBody fuel pending items)

section Classes

variable {fuel : Nat} (h : ClassLeaves fuel)
include h

theorem ClassLeaves.bracketed (negated : Bool) (items : List SetExpr) :
    Leaves (bracketed fuel negated items) := (h.2 _ _).bind fun _ => .pure _

theorem ClassLeaves.classFrom (negated : Bool) (hyphens : List SetExpr) (c : Char) :
    Leaves (classFrom fuel negated hyphens c) :=
  .ite (leaves_next.bind fun _ => h.bracketed _ _) (h.bracketed _ _)

theorem ClassLeaves.classItems (negated : Bool) : Leaves (classItems fuel negated) :=
  leaves_fuelHere.bind fun _ => (leaves_leadingHyphens _).bind fun _ =>
    leaves_peek.bind (h.classFrom _ _)

theorem ClassLeaves.classAfter (c : Char) : Leaves (classAfter fuel c) :=
  .ite (leaves_next.bind fun _ => h.classItems _) (h.classItems _)

theorem ClassLeaves.bodyAfterAscii (pending : Option (SetOp × SetExpr)) (items : List SetExpr)
    (item : Option SetExpr) : Leaves (bodyAfterAscii fuel pending items item) := by
  cases item with
  | some item => exact h.2 _ _
  | none => exact h.1.bind fun _ => h.2 _ _

theorem ClassLeaves.bodyAfterOp (pending : Option (SetOp × SetExpr)) (items : List SetExpr)
    (op : Option SetOp) : Leaves (bodyAfterOp fuel pending items op) := by
  cases op with
  | some op => exact h.2 _ _
  | none => exact leaves_setRange.bind fun _ => h.2 _ _

theorem ClassLeaves.setBodyFrom (pending : Option (SetOp × SetExpr)) (items : List SetExpr)
    (c : Char) : Leaves (setBodyFrom fuel pending items c) :=
  .ite (leaves_asciiClass.bind (h.bodyAfterAscii _ _)) <|
    .ite (leaves_bump.bind fun _ => .pure _) (leaves_setOp.bind (h.bodyAfterOp _ _))

end Classes

/-- A class and its rest, at once: each is read with less fuel by the other. -/
theorem classLeaves (fuel : Nat) : ClassLeaves fuel := by
  induction fuel with
  | zero => exact ⟨.failure, fun _ _ => .failure⟩
  | succ fuel ih =>
    refine ⟨?_, fun pending items => ?_⟩
    · rw [setClass_succ]
      exact leaves_next.bind fun _ => leaves_peek.bind ih.classAfter
    · rw [setBody_succ]
      exact leaves_bumpSpace.bind fun _ => leaves_peek.bind (ih.setBodyFrom _ _)

theorem leaves_setClass (fuel : Nat) : Leaves (setClass fuel) := (classLeaves fuel).1

theorem leaves_setBody (fuel : Nat) (pending : Option (SetOp × SetExpr)) (items : List SetExpr) :
    Leaves (setBody fuel pending items) := (classLeaves fuel).2 pending items

/-! ## Characters they pass over -/

theorem shortens_setItem : Shortens setItem :=
  .after looks_peek fun _ => .ite shortens_escape (shortens_bump.bind fun _ => .pure _)

theorem shortens_setRange : Shortens setRange := by
  rw [setRange_eq]
  exact shortens_setItem.bind leaves_rangeTail

theorem shortens_setClass (fuel : Nat) : Shortens (setClass fuel) := by
  cases fuel with
  | zero => exact fun _ _ _ _ h => nomatch h
  | succ fuel =>
    rw [setClass_succ]
    exact shortens_next.bind fun _ => leaves_peek.bind (classLeaves fuel).classAfter

theorem length_of_asciiClass {i j : Input} {item : SetExpr}
    (h : asciiClass i = some (some item, j)) : j.rest.length < i.rest.length := by
  rcases asciiClass_cases i with ⟨hnone, -⟩ | ⟨item, rest, ⟨_, name, _, -, -, hrest⟩, hsome⟩
  · rw [hnone] at h
    cases h
  · rw [hsome] at h
    cases h
    rw [hrest]
    simp only [List.length_cons, List.length_append]
    omega

theorem eq_of_asciiClass {i j : Input} (h : asciiClass i = some (none, j)) : j = i := by
  rcases asciiClass_cases i with ⟨hnone, -⟩ | ⟨item, rest, -, hsome⟩
  · rw [hnone] at h
    cases h
    rfl
  · rw [hsome] at h
    cases h

theorem length_of_setRange {i j : Input} {item : SetExpr} (h : setRange i = some (item, j)) :
    j.rest.length < i.rest.length := by
  refine shortens_setRange i item j (fun hnil => ?_) h
  have hpeek : peek i = none := by rw [peek, hnil]
  rw [setRange_eq, setItem, bind_apply, bind_apply, hpeek] at h
  cases h

/-- An operation that comes next is passed over, and so is one found later. -/
theorem length_of_accept {text : String} {here op : SetOp} {later : Reader (Option SetOp)}
    {i j : Input} (htext : text.toList ≠ [])
    (hlater : later i = some (some op, j) → j.rest.length < i.rest.length)
    (h : (accept text >>= fun seen => if seen then return some here else later) i =
      some (some op, j)) : j.rest.length < i.rest.length := by
  obtain ⟨seen, i', haccept, hthen⟩ := bind_eq_some_iff.mp h
  rcases accept_eq_some haccept with ⟨rfl, hrest⟩ | ⟨rfl, rfl⟩
  · cases hthen
    have hpos := List.length_pos_iff.mpr htext
    rw [hrest, List.length_append]
    omega
  · exact hlater hthen

theorem length_of_setOp {i j : Input} {op : SetOp} (h : setOp i = some (some op, j)) :
    j.rest.length < i.rest.length :=
  length_of_accept (by decide) (length_of_accept (by decide)
    (length_of_accept (by decide) fun h => by cases h)) h

/-! ## Before a parenthesis -/

/-- **So do single items.** -/
theorem nearly_setItem (back : List Char) (i : Input) :
    Nearly back i (setItem i) (setItem (i.closed back)) := by
  have hother : ∀ c, Leaves (do bump; return Primitive.literal c false) :=
    fun _ => leaves_bump.bind fun _ => .pure _
  rw [setItem]
  rcases peek_cases back i (fun c => if c = '\\' then escape else do bump; return .literal c false)
    (fun c => if c = '\\' then escape else do bump; return .literal c false) with
    ⟨c, cs, hrest, hshort, hlong⟩ | ⟨hshort, hrest, hlong⟩
  · rw [hshort, hlong]
    split
    · exact nearly_escape hrest
    · exact .inl (.bump (by simp [hrest]) fun _ _ _ => .pure _)
  · rw [hshort, hlong, if_neg (by decide)]
    exact .inl (.of_past (.bump hrest (.pure _)))

theorem past_setItem (hj : j.rest = ')' :: back) : Past back k (setItem j) :=
  .peek hj (.bump hj (.pure _))

theorem together_memberOf (item : Primitive) (i : Input) :
    Together back k i (memberOf item i) (memberOf item (i.closed back)) := by
  cases item
  all_goals first | exact .pure _ | exact .failure

theorem together_rangeOf (first second : Primitive) (i : Input) :
    Together back k i (rangeOf first second i) (rangeOf first second (i.closed back)) := by
  cases first <;> cases second
  all_goals first | exact .failure | exact .require _ fun _ => .pure _

theorem together_rangeEnd (first : Primitive) (hi : i.rest ≠ []) :
    Together back true i (rangeEnd first i) (rangeEnd first (i.closed back)) := by
  have hleaves : Leaves (do rangeOf first (← setItem)) :=
    leaves_setItem.bind fun _ => leaves_rangeOf _ _
  refine .next hi hleaves hleaves (fun j _ _ _ => ?_)
    fun j hj => (past_setItem hj).bind fun _ => leaves_rangeOf _ _
  rcases nearly_setItem back j with h | ⟨hshort, j', cs, hlong, -⟩
  · exact h.bind leaves_setItem (leaves_rangeOf _) (leaves_rangeOf _)
      fun _ _ _ => together_rangeOf _ _ _
  · -- a boundary is no end of a range
    rw [bind_apply, bind_apply, hshort, hlong]
    cases first <;> exact .none

/-- Skipping blanks stops at the same place. -/
theorem skipBlank_closed (cs : List Char) :
    Text.skipBlank (cs ++ ')' :: back) = Text.skipBlank cs ++ ')' :: back := by
  induction cs with
  | nil => rfl
  | cons c cs ih =>
    cases hc : Text.isBlank c with
    | true =>
      rw [List.cons_append, Text.skipBlank, List.dropWhile_cons_of_pos hc, Text.skipBlank,
        List.dropWhile_cons_of_pos hc]
      exact ih
    | false =>
      rw [List.cons_append, Text.skipBlank_cons hc, Text.skipBlank_cons hc, List.cons_append]

/-- A look past the next character shows the same, or the parenthesis where
the text ends. -/
theorem peekPast_closed (back : List Char) {c : Char} {cs : List Char} (hi : i.rest = c :: cs) :
    ∃ past past', peekPast i = some (past, i) ∧
      peekPast (i.closed back) = some (past', i.closed back) ∧
      (past' = past ∨ past = none ∧ past' = some ')') := by
  have hhead : ∀ cs : List Char, (cs ++ ')' :: back).head? = cs.head? ∨
      cs.head? = none ∧ (cs ++ ')' :: back).head? = some ')' := by
    intro cs
    cases cs with
    | nil => exact .inr ⟨rfl, rfl⟩
    | cons => exact .inl rfl
  cases hspaced : i.spaced with
  | false =>
    refine ⟨cs.head?, (cs ++ ')' :: back).head?, ?_, ?_, hhead cs⟩
    · simp [peekPast, hspaced, hi]
    · simp [peekPast, Input.closed, hspaced, hi]
  | true =>
    cases hskip : Text.skipBlank cs with
    | nil =>
      refine ⟨none, some ')', ?_, ?_, .inr ⟨rfl, rfl⟩⟩
      · simp [peekPast, hspaced, hi, hskip]
      · simp [peekPast, Input.closed, hspaced, hi, skipBlank_closed, hskip]
    | cons d ds =>
      by_cases hd : d = '#'
      · subst hd
        refine ⟨(Text.skipBlank ds).head?, (Text.skipBlank ds ++ ')' :: back).head?, ?_, ?_,
          hhead _⟩
        · simp [peekPast, hspaced, hi, hskip]
        · simp [peekPast, Input.closed, hspaced, hi, skipBlank_closed, hskip]
      · refine ⟨some d, some d, ?_, ?_, .inl rfl⟩
        · simp [peekPast, hspaced, hi, hskip, hd]
        · simp [peekPast, Input.closed, hspaced, hi, skipBlank_closed, hskip, hd]

theorem together_rangeTail (first : Primitive) (i : Input) :
    Together back false i (rangeTail first i) (rangeTail first (i.closed back)) := by
  have hrest : ∀ c, Leaves (do
      let past ← peekPast
      if c != '-' || past == some ']' || past == some '-' then memberOf first
      else rangeEnd first) := fun _ => leaves_peekPast.bind fun _ =>
    .ite (leaves_memberOf _) (leaves_rangeEnd _)
  refine .bumpSpace (leaves_peek.bind hrest) (leaves_peek.bind hrest) fun j _ =>
    .peek (fun c cs hj => ?_) fun j hj => .of_stop (hrest _) hj
  obtain ⟨past, past', hshort, hlong, hpast⟩ := peekPast_closed back hj
  have hsame : (past' == some ']') = (past == some ']') ∧
      (past' == some '-') = (past == some '-') := by
    rcases hpast with rfl | ⟨rfl, rfl⟩
    · exact ⟨rfl, rfl⟩
    · exact ⟨rfl, rfl⟩
  rw [bind_apply, bind_apply, hshort, hlong, Option.bind_some, Option.bind_some, hsame.1, hsame.2]
  dsimp only
  split
  · exact together_memberOf _ _
  · exact (together_rangeEnd first (by simp [hj])).look

theorem together_setRange (i : Input) :
    Together back false i (setRange i) (setRange (i.closed back)) := by
  rw [setRange_eq]
  rcases nearly_setItem back i with h | ⟨hshort, j, cs, hlong, -, hj, -⟩
  · exact h.bind leaves_setItem leaves_rangeTail leaves_rangeTail
      fun _ _ _ => together_rangeTail _ _
  · -- a boundary is no member of a class
    have hclosed : (j.closed back).rest = '{' :: (cs ++ ')' :: back) := by
      rw [Input.closed, hj]; rfl
    have hpeek : Reader.peek (j.closed back) = some ('{', j.closed back) :=
      peek_eq_some_iff.mpr ⟨_, hclosed, rfl⟩
    have hnone : rangeTail (.assertion .wordBoundary) (j.closed back) = Option.none := by
      rw [rangeTail, bind_apply, bumpSpace_of_none hclosed (by decide) (by decide),
        Option.bind_some, bind_apply, hpeek, Option.bind_some, bind_apply]
      cases hpast : peekPast (j.closed back) with
      | none => rfl
      | some outcome =>
        rw [Option.bind_some, if_pos (by simp)]
        rfl
    rw [bind_apply, bind_apply, hshort, hlong, Option.bind_some, hnone]
    exact .none

theorem together_leadingHyphens {fuel fuel' : Nat} (hfuel : i.rest.length < fuel)
    (hfuel' : i.rest.length < fuel') :
    Together back false i (leadingHyphens fuel i) (leadingHyphens fuel' (i.closed back)) := by
  induction fuel generalizing i fuel' with
  | zero => omega
  | succ fuel ih =>
    obtain ⟨fuel', rfl⟩ := Nat.exists_eq_succ_of_ne_zero (by omega : fuel' ≠ 0)
    have hmore : ∀ n, Leaves (do return SetExpr.char '-' :: (← leadingHyphens n)) :=
      fun _ => (leaves_leadingHyphens _).bind fun _ => .pure _
    refine .peek (fun c cs hrest => ?_) fun j hj => ?_
    · split
      · refine .next (by simp [hrest]) (hmore _) (hmore _) (fun j _ hlt _ => ?_)
          fun j hj => .of_stop (hmore _) hj
        exact (ih (by omega) (by omega)).bindLook (leaves_leadingHyphens _)
          (leaves_leadingHyphens _) (fun _ => .pure _) (fun _ => .pure _) (fun _ _ _ => .pure _)
          fun _ j hj => .of_stop (.pure _) hj
      · exact .pure _
    · rw [if_neg (by decide)]
      exact .of_stop (.pure _) hj

theorem together_setOp (i : Input) :
    Together back k i (setOp i) (setOp (i.closed back)) := by
  refine .accept (by decide) fun seen j _ => ?_
  cases seen
  · refine .accept (by decide) fun seen j _ => ?_
    cases seen
    · refine .accept (by decide) fun seen j _ => ?_
      cases seen <;> exact .pure _
    · exact .pure _
  · exact .pure _

theorem together_asciiClass (i : Input) :
    Together back k i (asciiClass i) (asciiClass (i.closed back)) := by
  rcases asciiClass_cases i with ⟨hnone, hnot⟩ | ⟨item, rest, hnames, hsome⟩
  · rcases asciiClass_cases (i.closed back) with ⟨hlong, -⟩ | ⟨item, rest, hnames, -⟩
    · exact .inl ⟨none, i, hnone, hlong⟩
    · -- a class in the longer text has ended before the parenthesis
      obtain ⟨negated, name, kind, hkind, hitem, hrest⟩ := hnames
      have hletters := isAlpha_of_asciiClass? hkind
      have hlead : ')' ∉ '[' :: ':' :: (caret negated ++ (name ++ [':', ']'])) := by
        have hname : ')' ∉ name := fun hmem => absurd (hletters _ hmem) (by decide)
        cases negated <;> simp [caret, hname]
      have hsplit : '[' :: ':' :: (caret negated ++ (name ++ [':', ']'])) ++ rest =
          i.rest ++ ')' :: back := by
        simpa [Input.closed] using hrest.symm
      obtain ⟨more, hmore, -⟩ := append_eq_append_closed hlead hsplit
      exact absurd ⟨negated, name, kind, hkind, hitem, by simp [hmore]⟩ (hnot item more)
  · have hclosed : NamesAscii (i.closed back).rest item (rest ++ ')' :: back) := by
      obtain ⟨negated, name, kind, hkind, hitem, hrest⟩ := hnames
      exact ⟨negated, name, kind, hkind, hitem, by simp [Input.closed, hrest]⟩
    exact .inl ⟨some item, { i with rest }, hsome, asciiClass_of_names hclosed⟩

/-- A text without a parenthesis does not come at one. -/
theorem accept_of_parenthesis {text : String} {c : Char} {cs : List Char}
    (htext : text.toList = c :: cs) (hc : c ≠ ')') (hj : j.rest = ')' :: back) :
    Reader.accept text j = some (false, j) := by
  have hfalse : text.toList.isPrefixOf j.rest = false := by
    rw [htext, hj, List.isPrefixOf_cons_cons, beq_eq_false_iff_ne.mpr hc, Bool.false_and]
  simp [Reader.accept, hfalse]

theorem setOp_of_parenthesis (hj : j.rest = ')' :: back) : setOp j = some (none, j) := by
  have hand : Reader.accept "&&" j = some (false, j) :=
    accept_of_parenthesis rfl (by decide) hj
  have hminus : Reader.accept "--" j = some (false, j) :=
    accept_of_parenthesis rfl (by decide) hj
  have htilde : Reader.accept "~~" j = some (false, j) :=
    accept_of_parenthesis rfl (by decide) hj
  rw [setOp, bind_apply, hand, Option.bind_some, if_neg Bool.false_ne_true, bind_apply, hminus,
    Option.bind_some, if_neg Bool.false_ne_true, bind_apply, htilde]
  rfl

/-- The parenthesis is read as a member of a class. -/
theorem past_setRange (hj : j.rest = ')' :: back) : Past back true (setRange j) := by
  rw [setRange_eq]
  exact (past_setItem hj).bind leaves_rangeTail

/-- So it does not end one. -/
theorem past_setBodyFrom (fuel : Nat) (pending : Option (SetOp × SetExpr)) (items : List SetExpr)
    (hj : j.rest = ')' :: back) : Past back true (setBodyFrom fuel pending items ')' j) := by
  rw [setBodyFrom, if_neg (by decide), if_neg (by decide), bind_apply, setOp_of_parenthesis hj]
  exact (past_setRange hj).bind fun _ => leaves_setBody _ _ _

theorem past_setBody (fuel : Nat) (pending : Option (SetOp × SetExpr)) (items : List SetExpr)
    (hj : j.rest = ')' :: back) : Past back true (setBody fuel pending items j) := by
  cases fuel with
  | zero => exact .none
  | succ fuel =>
    rw [setBody_succ]
    exact .bumpSpace hj (.peek hj (past_setBodyFrom _ _ _ hj))

theorem past_bracketed (fuel : Nat) (negated : Bool) (items : List SetExpr)
    (hj : j.rest = ')' :: back) : Past back true (bracketed fuel negated items j) :=
  (past_setBody _ _ _ hj).bind fun _ => .pure _

theorem past_classFrom (fuel : Nat) (negated : Bool) (hyphens : List SetExpr)
    (hj : j.rest = ')' :: back) : Past back true (classFrom fuel negated hyphens ')' j) := by
  rw [classFrom, if_neg (by simp)]
  exact past_bracketed _ _ _ hj

theorem past_classItems (fuel : Nat) (negated : Bool) (hj : j.rest = ')' :: back) :
    Past back true (classItems fuel negated j) := by
  have hpeek : Reader.peek j = some (')', j) := peek_eq_some_iff.mpr ⟨back, hj, rfl⟩
  have hhyphens : leadingHyphens (j.rest.length + 1) j = some ([], j) := by
    rw [leadingHyphens, bind_apply, hpeek]
    rfl
  have hfuel : Reader.fuelHere j = some (j.rest.length + 1, j) := rfl
  rw [classItems, bind_apply, hfuel, Option.bind_some, bind_apply, hhyphens, Option.bind_some]
  exact .peek hj (past_classFrom _ _ _ hj)

theorem past_classAfter (fuel : Nat) (hj : j.rest = ')' :: back) :
    Past back true (classAfter fuel ')' j) := by
  rw [classAfter, if_neg (by decide)]
  exact past_classItems _ _ hj

section Classes

variable {fuel fuel' : Nat}

/-- A class, if the rest of it is together. -/
theorem together_bracketed (negated : Bool) {items : List SetExpr}
    (h : Together back true i (setBody fuel none items i)
      (setBody fuel' none items (i.closed back))) :
    Together back true i (bracketed fuel negated items i)
      (bracketed fuel' negated items (i.closed back)) :=
  h.map (leaves_setBody _ _ _)

theorem together_classItems (negated : Bool)
    (h : ∀ j, i.After j → ∀ items, Together back true j (setBody fuel none items j)
      (setBody fuel' none items (j.closed back))) :
    Together back true i (classItems fuel negated i)
      (classItems fuel' negated (i.closed back)) := by
  have hrest : ∀ n hyphens, Leaves (Reader.peek >>= classFrom n negated hyphens) :=
    fun n _ => leaves_peek.bind ((classLeaves n).classFrom _ _)
  refine .fuelHere fun n n' hn hn' => ?_
  refine (together_leadingHyphens hn hn').bindLook (leaves_leadingHyphens _)
    (leaves_leadingHyphens _) (hrest _) (hrest _) (fun hyphens j hj => ?_)
    fun hyphens j hj => .peek hj (past_classFrom _ _ _ hj)
  have hafter := leaves_leadingHyphens _ i hyphens j hj
  refine .peek (fun c cs hc => ?_) fun j' hj' => past_classFrom _ _ _ hj'
  rw [classFrom, classFrom]
  split
  · exact .next (by simp [hc]) ((classLeaves _).bracketed _ _) ((classLeaves _).bracketed _ _)
      (fun j' hj' _ _ => together_bracketed _ (h j' (hafter.trans hj') _))
      fun j' hj' => past_bracketed _ _ _ hj'
  · exact together_bracketed _ (h j hafter _)

/-- One more nesting of classes, from its bracket. -/
theorem together_setClass_succ (hi : i.rest ≠ [])
    (h : ∀ j : Input, j.rest.length < i.rest.length → ∀ items, Together back true j
      (setBody fuel none items j) (setBody fuel' none items (j.closed back))) :
    Together back true i (setClass (fuel + 1) i) (setClass (fuel' + 1) (i.closed back)) := by
  have hitems : ∀ j : Input, j.rest.length < i.rest.length → ∀ negated,
      Together back true j (classItems fuel negated j)
        (classItems fuel' negated (j.closed back)) := fun j hlt negated =>
    together_classItems negated fun j' hj' => h j' (Nat.lt_of_le_of_lt hj'.suffix.length_le hlt)
  have hrest : ∀ n, Leaves (Reader.peek >>= classAfter n) :=
    fun n => leaves_peek.bind (classLeaves n).classAfter
  rw [setClass_succ, setClass_succ]
  refine .next hi (hrest _) (hrest _) (fun j _ hlt hne => ?_)
    fun j hj => .peek hj (past_classAfter _ hj)
  refine .peek (fun c cs hc => ?_) fun j' hj' => past_classAfter _ hj'
  rw [classAfter, classAfter]
  split
  · exact .next hne ((classLeaves _).classItems _) ((classLeaves _).classItems _)
      (fun j' _ hlt' _ => hitems j' (Nat.lt_trans hlt' hlt) true)
      fun j' hj' => past_classItems _ _ hj'
  · exact hitems j hlt false

/-- One more item of a class, at a given character. -/
theorem together_setBodyFrom {c : Char} {cs : List Char} (hi : i.rest = c :: cs)
    (hclass : Together back true i (setClass fuel i) (setClass fuel' (i.closed back)))
    (hbody : ∀ j : Input, j.rest.length < i.rest.length → ∀ pending items, Together back true j
      (setBody fuel pending items j) (setBody fuel' pending items (j.closed back)))
    (pending : Option (SetOp × SetExpr)) (items : List SetExpr) :
    Together back true i (setBodyFrom fuel pending items c i)
      (setBodyFrom fuel' pending items c (i.closed back)) := by
  have hne : i.rest ≠ [] := by simp [hi]
  rw [setBodyFrom, setBodyFrom]
  split
  · refine (together_asciiClass i).bind leaves_asciiClass ((classLeaves _).bodyAfterAscii _ _)
      ((classLeaves _).bodyAfterAscii _ _) fun item j hj => ?_
    cases item with
    | some item => exact hbody j (length_of_asciiClass hj) _ _
    | none =>
      -- nothing is read yet, so the nested class begins at the same place
      obtain rfl := eq_of_asciiClass hj
      exact hclass.bind (leaves_setClass _) (fun _ => leaves_setBody _ _ _)
        (fun _ => leaves_setBody _ _ _)
        fun nested j' hj' => hbody j' (shortens_setClass _ _ _ _ hne hj') _ _
  · split
    · exact .bump hne fun _ _ _ => .pure _
    · refine (together_setOp i).bind leaves_setOp ((classLeaves _).bodyAfterOp _ _)
        ((classLeaves _).bodyAfterOp _ _) fun op j hj => ?_
      cases op with
      | some op => exact hbody j (length_of_setOp hj) _ _
      | none =>
        have hle := (leaves_setOp _ _ _ hj).suffix.length_le
        exact (together_setRange j).bindLook leaves_setRange leaves_setRange
          (fun _ => leaves_setBody _ _ _) (fun _ => leaves_setBody _ _ _)
          (fun item j' hj' => hbody j' (Nat.lt_of_lt_of_le (length_of_setRange hj') hle) _ _)
          fun _ j' hj' => past_setBody _ _ _ hj'

end Classes

/-- **Classes stay together**, and so do their rests. A nested class begins
where the rest it stands in does, so the fuel for a rest is one more. -/
theorem together_setClass_setBody (fuel fuel' : Nat) (i : Input) :
    (i.rest ≠ [] → 2 * i.rest.length + 1 ≤ fuel → 2 * i.rest.length + 1 ≤ fuel' →
      Together back true i (setClass fuel i) (setClass fuel' (i.closed back))) ∧
    (2 * i.rest.length + 2 ≤ fuel → 2 * i.rest.length + 2 ≤ fuel' → ∀ pending items,
      Together back true i (setBody fuel pending items i)
        (setBody fuel' pending items (i.closed back))) := by
  induction fuel generalizing fuel' i with
  | zero => exact ⟨fun _ h => by omega, fun h => by omega⟩
  | succ fuel ih =>
    constructor
    · intro hi hfuel hfuel'
      obtain ⟨fuel', rfl⟩ := Nat.exists_eq_succ_of_ne_zero (by omega : fuel' ≠ 0)
      exact together_setClass_succ hi fun j hlt => (ih fuel' j).2 (by omega) (by omega) none
    · intro hfuel hfuel' pending items
      obtain ⟨fuel', rfl⟩ := Nat.exists_eq_succ_of_ne_zero (by omega : fuel' ≠ 0)
      have hrest : ∀ n, Leaves (Reader.peek >>= setBodyFrom n pending items) :=
        fun n => leaves_peek.bind ((classLeaves n).setBodyFrom _ _)
      rw [setBody_succ, setBody_succ]
      refine .bumpSpace (hrest _) (hrest _) fun j hj => .peek (fun c cs hc => ?_)
        fun j' hj' => past_setBodyFrom _ _ _ hj'
      have hle := hj.suffix.length_le
      refine together_setBodyFrom hc ?_ (fun j' hlt => ?_) pending items
      · exact (ih fuel' j).1 (by simp [hc]) (by omega) (by omega)
      · exact (ih fuel' j').2 (by omega) (by omega)

end Reader

end Pattern
end Scenario
