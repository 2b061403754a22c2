import Scenario.Proofs.Pattern.Locality

/-!
# Escapes — numbers, codes and the names of boundaries

A reader with several kinds of escapes is a first step and one reader for each
kind (`escape_eq`). What they leave is an end of the text, and on a text before
a closing parenthesis they do what they do at its end, but for one: a brace
after a boundary is looked into, and then left to what comes next (`Braced`).
-/

namespace Scenario
namespace Pattern
namespace Reader

variable {back : List Char} {α : Type} {i j : Input} {k : Bool}

/-! ## What they leave -/

theorem leaves_takeRun (p : Char → Bool) (fuel : Nat) : Leaves (takeRun p fuel) := by
  induction fuel with
  | zero => exact .failure
  | succ fuel ih =>
    intro i a j h
    simp only [takeRun] at h
    split at h
    · cases h
      exact .refl i
    · split at h
      · exact (leaves_bump.bind fun _ => leaves_bumpSpace.bind fun _ =>
          ih.bind fun _ => .pure _) i a j h
      · cases h
        exact .refl i

/-- The number of some digits. -/
def numberOf (digits : List Char) : Reader Nat := do
  require !digits.isEmpty
  let n := Nat.ofDigitChars 10 digits 0
  require (n < Nat.pow 2 32)
  return n

/-- A number from the blanks after its digits. -/
def decimalEnd (digits : List Char) : Reader Nat := do
  discard (takeRun Text.isBlank (← fuelHere))
  numberOf digits

/-- A number from its digits. -/
def decimalDigits : Reader Nat := do
  decimalEnd (← takeRun Char.isDigit (← fuelHere))

/-- A number, its parts taken apart. -/
theorem decimal_eq : decimal = (do
    discard (takeRun Text.isBlank (← fuelHere))
    decimalDigits) := rfl

theorem leaves_numberOf (digits : List Char) : Leaves (numberOf digits) :=
  (leaves_require _).bind fun _ => (leaves_require _).bind fun _ => .pure _

theorem leaves_decimalEnd (digits : List Char) : Leaves (decimalEnd digits) :=
  leaves_fuelHere.bind fun _ => (leaves_takeRun _ _).discard.bind fun _ => leaves_numberOf digits

theorem leaves_decimalDigits : Leaves decimalDigits :=
  leaves_fuelHere.bind fun _ => (leaves_takeRun _ _).bind leaves_decimalEnd

theorem leaves_decimal : Leaves decimal := by
  rw [decimal_eq]
  exact leaves_fuelHere.bind fun _ => (leaves_takeRun _ _).discard.bind fun _ =>
    leaves_decimalDigits

theorem leaves_charOfCode (n : Nat) : Leaves (charOfCode n) := .ite (.pure _) .failure

theorem leaves_hexDigits (n value : Nat) : Leaves (hexDigits n value) := by
  induction n generalizing value with
  | zero => exact .pure _
  | succ n ih =>
    refine leaves_peek.bind fun c => ?_
    split
    · refine .ite ?_ (leaves_next.bind fun _ => ih _)
      exact leaves_bump.bind fun _ => leaves_bumpSpace.bind fun _ => .pure _
    · exact .failure

theorem leaves_upToBrace (fuel : Nat) : Leaves (upToBrace fuel) := by
  induction fuel with
  | zero => exact .failure
  | succ fuel ih =>
    exact leaves_next.bind fun _ => leaves_peek.bind fun _ =>
      .ite (.pure _) (ih.bind fun _ => .pure _)

/-- The character of some hexadecimal digits. -/
def codeOf (text : List Char) : Reader Primitive :=
  match text.mapM hexDigit? with
  | none | some [] => failure
  | some ds => do return .literal (← charOfCode (ds.foldl (fun n d => 16 * n + d) 0)) false

/-- A code between braces, from the opening one. -/
def bracedCode : Reader Primitive := do
  let text ← upToBrace (← fuelHere)
  bump
  bumpSpace
  codeOf text

/-- A code of some digits. -/
def digitCode (digits : Nat) : Reader Primitive := do
  let value ← hexDigits digits 0
  return .literal (← charOfCode value) (digits == 2)

/-- A character given by its code, both forms taken apart. -/
theorem hexEscape_eq (digits : Nat) : hexEscape digits = (do
    next
    if (← peek) = '{' then bracedCode else digitCode digits) := rfl

theorem leaves_codeOf (text : List Char) : Leaves (codeOf text) := by
  unfold codeOf
  split
  · exact .failure
  · exact .failure
  · exact (leaves_charOfCode _).bind fun _ => .pure _

theorem leaves_bracedCode : Leaves bracedCode :=
  leaves_fuelHere.bind fun _ => (leaves_upToBrace _).bind fun _ =>
    leaves_bump.bind fun _ => leaves_bumpSpace.bind fun _ => leaves_codeOf _

theorem leaves_digitCode (digits : Nat) : Leaves (digitCode digits) :=
  (leaves_hexDigits _ _).bind fun _ => (leaves_charOfCode _).bind fun _ => .pure _

theorem leaves_hexEscape (digits : Nat) : Leaves (hexEscape digits) := by
  rw [hexEscape_eq]
  exact leaves_next.bind fun _ => leaves_peek.bind fun _ =>
    .ite leaves_bracedCode (leaves_digitCode _)

/-- A property between braces, from the opening one. -/
def bracedProperty (negated : Bool) : Reader Primitive := do
  let text ← upToBrace (← fuelHere)
  bump
  return .property negated (propertyOf text)

/-- A property of one letter. -/
def letterProperty (negated : Bool) (c : Char) : Reader Primitive := do
  require (c != '\\')
  bump
  bumpSpace
  return .property negated (.bare [c])

/-- A property, both forms taken apart. -/
theorem propertyEscape_eq (negated : Bool) : propertyEscape negated = (do
    next
    let c ← peek
    if c = '{' then bracedProperty negated else letterProperty negated c) := rfl

theorem leaves_bracedProperty (negated : Bool) : Leaves (bracedProperty negated) :=
  leaves_fuelHere.bind fun _ => (leaves_upToBrace _).bind fun _ => leaves_bump.bind fun _ => .pure _

theorem leaves_letterProperty (negated : Bool) (c : Char) : Leaves (letterProperty negated c) :=
  (leaves_require _).bind fun _ => leaves_bump.bind fun _ => leaves_bumpSpace.bind fun _ => .pure _

theorem leaves_propertyEscape (negated : Bool) : Leaves (propertyEscape negated) := by
  rw [propertyEscape_eq]
  exact leaves_next.bind fun _ => leaves_peek.bind fun _ =>
    .ite (leaves_bracedProperty _) (leaves_letterProperty _ _)

/-- The boundary of a name. -/
def boundaryOf (name : List Char) : Reader Assertion :=
  match String.ofList name with
  | "start" => return .wordStart
  | "end" => return .wordEnd
  | "start-half" => return .wordStartHalf
  | "end-half" => return .wordEndHalf
  | _ => failure

/-- The rest of a boundary's name, from its first character. -/
def boundaryTail : Reader Assertion := do
  let name ← takeRun (fun c => c.isAlpha || c == '-') (← fuelHere)
  require (← accept "\x7d")
  boundaryOf name

/-- The name of a boundary, from its brace; `before` is what to go back to
where no name begins. -/
def boundaryFrom (before : Input) : Reader Assertion := do
  next
  let c ← peek
  if c.isAlpha || c == '-' then boundaryTail
  else
    set before
    return .wordBoundary

/-- The name of a boundary, its parts taken apart. -/
theorem boundaryName_eq : boundaryName = (do
    if !(← sees "\x7b") then return .wordBoundary
    boundaryFrom (← get)) := by
  unfold boundaryName boundaryFrom
  refine bind_congr fun seen => ite_congr rfl (fun _ => rfl) fun _ => bind_congr fun before =>
    bind_congr fun _ => bind_congr fun c => ?_
  by_cases hname : (c.isAlpha || c == '-') = true
  · rw [if_pos hname, if_neg (by simp [hname])]
    rfl
  · rw [if_neg hname, if_pos (by simp [hname])]

theorem boundaryOf_cases (name : List Char) :
    (∃ kind, boundaryOf name = return kind) ∨ boundaryOf name = failure := by
  unfold boundaryOf
  split
  all_goals first | exact .inl ⟨_, rfl⟩ | exact .inr rfl

theorem leaves_boundaryOf (name : List Char) : Leaves (boundaryOf name) := by
  rcases boundaryOf_cases name with ⟨kind, h⟩ | h <;> rw [h]
  · exact .pure _
  · exact .failure

theorem leaves_boundaryTail : Leaves boundaryTail :=
  leaves_fuelHere.bind fun _ => (leaves_takeRun _ _).bind fun _ => (leaves_accept _).bind fun _ =>
    (leaves_require _).bind fun _ => leaves_boundaryOf _

theorem leaves_boundaryName : Leaves boundaryName := by
  rw [boundaryName_eq]
  refine (leaves_sees _).bind fun _ => .ite (.pure _) fun i kind j h => ?_
  obtain ⟨before, _, hget, h⟩ := bind_eq_some_iff.mp h
  cases hget
  obtain ⟨_, j₁, hnext, h⟩ := bind_eq_some_iff.mp h
  obtain ⟨c, j₂, hpeek, h⟩ := bind_eq_some_iff.mp h
  split at h
  · exact (leaves_next i _ j₁ hnext).trans
      ((leaves_peek j₁ c j₂ hpeek).trans (leaves_boundaryTail j₂ kind j h))
  · -- the input from before the brace is put back
    cases h
    exact .refl i

/-- An escape that is none of a class or a code, its character passed over. -/
def plainEscape (c : Char) : Reader Primitive := do
  if isPlainEscape c then return .literal c false
  match c with
  | 'a' => return .literal '\x07' false
  | 'f' => return .literal '\x0c' false
  | 't' => return .literal '\t' false
  | 'n' => return .literal '\n' false
  | 'r' => return .literal '\r' false
  | 'v' => return .literal '\x0b' false
  | 'A' => return .assertion .textStart
  | 'z' => return .assertion .textEnd
  | 'b' => return .assertion (← boundaryName)
  | 'B' => return .assertion .notWordBoundary
  | '<' => return .assertion .wordStart
  | '>' => return .assertion .wordEnd
  | _ => failure

/-- An escape, from the character after its backslash. -/
def escapeOf (c : Char) : Reader Primitive :=
  match c with
  | 'x' => hexEscape 2
  | 'u' => hexEscape 4
  | 'U' => hexEscape 8
  | 'p' => propertyEscape false
  | 'P' => propertyEscape true
  | 'd' => do bump; return .named false .digit
  | 's' => do bump; return .named false .space
  | 'w' => do bump; return .named false .word
  | 'D' => do bump; return .named true .digit
  | 'S' => do bump; return .named true .space
  | 'W' => do bump; return .named true .word
  | _ => do
    bump
    plainEscape c

/-- An escape, its kinds taken apart. -/
theorem escape_eq : escape = (do
    bump
    escapeOf (← peek)) := rfl

/-- Of these only the name of a boundary reads on. -/
theorem plainEscape_cases (c : Char) :
    (∃ item, plainEscape c = return item) ∨ plainEscape c = failure ∨
      plainEscape c = (do return .assertion (← boundaryName)) := by
  unfold plainEscape
  split
  · exact .inl ⟨_, rfl⟩
  · split
    all_goals first | exact .inl ⟨_, rfl⟩ | exact .inr (.inl rfl) | exact .inr (.inr rfl)

theorem leaves_plainEscape (c : Char) : Leaves (plainEscape c) := by
  rcases plainEscape_cases c with ⟨item, h⟩ | h | h <;> rw [h]
  · exact .pure _
  · exact .failure
  · exact leaves_boundaryName.bind fun _ => .pure _

/-- An escape is a code, a property, a class of one letter or none of these. -/
theorem escapeOf_cases (c : Char) :
    (∃ digits, digits ≠ 0 ∧ escapeOf c = hexEscape digits) ∨
      (∃ negated, escapeOf c = propertyEscape negated) ∨
      (∃ item, escapeOf c = (do bump; return item)) ∨
      escapeOf c = (do bump; plainEscape c) := by
  unfold escapeOf
  split
  · exact .inl ⟨2, by decide, rfl⟩
  · exact .inl ⟨4, by decide, rfl⟩
  · exact .inl ⟨8, by decide, rfl⟩
  · exact .inr (.inl ⟨false, rfl⟩)
  · exact .inr (.inl ⟨true, rfl⟩)
  all_goals first | exact .inr (.inr (.inl ⟨_, rfl⟩)) | exact .inr (.inr (.inr rfl))

theorem leaves_escapeOf (c : Char) : Leaves (escapeOf c) := by
  rcases escapeOf_cases c with ⟨digits, -, h⟩ | ⟨negated, h⟩ | ⟨item, h⟩ | h <;> rw [h]
  · exact leaves_hexEscape _
  · exact leaves_propertyEscape _
  · exact leaves_bump.bind fun _ => .pure _
  · exact leaves_bump.bind fun _ => leaves_plainEscape _

theorem leaves_escape : Leaves escape := by
  rw [escape_eq]
  exact leaves_bump.bind fun _ => leaves_peek.bind fun _ => leaves_escapeOf _

theorem shortens_escape : Shortens escape := by
  rw [escape_eq]
  exact shortens_bump.bind fun _ => leaves_peek.bind fun _ => leaves_escapeOf _

/-! ## Before a parenthesis -/

/-- Runs of characters, of which the parenthesis is none. -/
theorem together_takeRun {p : Char → Bool} (hp : p ')' = false) {fuel fuel' : Nat}
    (hfuel : i.rest.length < fuel) (hfuel' : i.rest.length < fuel') :
    Together back true i (takeRun p fuel i) (takeRun p fuel' (i.closed back)) := by
  induction fuel generalizing i fuel' with
  | zero => omega
  | succ fuel ih =>
    obtain ⟨fuel', rfl⟩ := Nat.exists_eq_succ_of_ne_zero (by omega : fuel' ≠ 0)
    cases hrest : i.rest with
    | nil =>
      refine .inl ⟨[], i, ?_, ?_⟩
      · simp only [takeRun, hrest]
      · simp [takeRun, Input.closed, hrest, hp]
    | cons c cs =>
      have hturn : ∀ n j, (∃ cs, j.rest = c :: cs) → takeRun p (n + 1) j =
          if p c then (do bump; bumpSpace; let more ← takeRun p n; return c :: more : Reader _) j
          else some ([], j) := by
        rintro n j ⟨cs, hj⟩
        simp only [takeRun, hj]
      rw [hturn fuel i ⟨cs, hrest⟩,
        hturn fuel' (i.closed back) ⟨_, by rw [Input.closed, hrest]; rfl⟩]
      split
      · have hi : i.rest ≠ [] := by simp [hrest]
        refine .bump hi fun j hj hlt => .bumpSpace ((leaves_takeRun _ _).bind fun _ => .pure _)
          ((leaves_takeRun _ _).bind fun _ => .pure _) fun j' hj' => ?_
        have hle := hj'.suffix.length_le
        exact (ih (by omega) (by omega)).map (leaves_takeRun _ _)
      · exact .inl ⟨[], i, rfl, rfl⟩

theorem together_decimal (i : Input) :
    Together back true i (decimal i) (decimal (i.closed back)) := by
  have hblank : Text.isBlank ')' = false := by decide
  have hdigit : Char.isDigit ')' = false := by decide
  rw [decimal_eq]
  refine .fuelHere fun fuel fuel' hfuel hfuel' => ?_
  refine ((together_takeRun hblank hfuel hfuel').discard (leaves_takeRun _ _)).bind
    (leaves_takeRun _ _).discard (fun _ => leaves_decimalDigits) (fun _ => leaves_decimalDigits)
    fun _ j _ => ?_
  refine .fuelHere fun fuel fuel' hfuel hfuel' => ?_
  refine (together_takeRun hdigit hfuel hfuel').bind (leaves_takeRun _ _) leaves_decimalEnd
    leaves_decimalEnd fun digits j _ => ?_
  refine .fuelHere fun fuel fuel' hfuel hfuel' => ?_
  refine ((together_takeRun hblank hfuel hfuel').discard (leaves_takeRun _ _)).bind
    (leaves_takeRun _ _).discard (fun _ => leaves_numberOf _) (fun _ => leaves_numberOf _)
    fun _ j _ => ?_
  exact .require _ fun _ => .require _ fun _ => .pure _

theorem together_charOfCode (n : Nat) (i : Input) :
    Together back k i (charOfCode n i) (charOfCode n (i.closed back)) := by
  unfold charOfCode
  split
  · exact .pure _
  · exact .failure

/-- The parenthesis is no hexadecimal digit. -/
theorem past_hexDigits {n value : Nat} (hn : n ≠ 0) (hj : j.rest = ')' :: back) :
    Past back k (hexDigits n value j) := by
  obtain ⟨n, rfl⟩ := Nat.exists_eq_succ_of_ne_zero hn
  exact .peek hj .none

theorem together_hexDigits (n value : Nat) (i : Input) :
    Together back true i (hexDigits n value i) (hexDigits n value (i.closed back)) := by
  induction n generalizing i value with
  | zero => exact .pure _
  | succ n ih =>
    refine .peek (fun c cs hrest => ?_) fun j hj => .none
    have hi : i.rest ≠ [] := by simp [hrest]
    cases hexDigit? c with
    | none => exact .failure
    | some d =>
      dsimp only
      split
      · refine .bump hi fun j hj _ => ?_
        exact .bumpSpace (.pure _) (.pure _) fun j' hj' => .pure _
      · next hn =>
        refine .next hi (leaves_hexDigits _ _) (leaves_hexDigits _ _)
          (fun j _ _ _ => ih _ j) fun j hj => past_hexDigits hn hj

/-- Braces do not end at the parenthesis. -/
theorem past_upToBrace (fuel : Nat) (hj : j.rest = ')' :: back) :
    Past back k (upToBrace fuel j) := by
  cases fuel with
  | zero => exact .none
  | succ fuel =>
    exact .next hj (leaves_peek.bind fun _ => .ite (.pure _)
      ((leaves_upToBrace _).bind fun _ => .pure _))

/-- What is between braces, up to the closing one. -/
theorem together_upToBrace {fuel fuel' : Nat} (hi : i.rest ≠ []) (hfuel : i.rest.length < fuel)
    (hfuel' : i.rest.length < fuel') :
    Together back true i (upToBrace fuel i) (upToBrace fuel' (i.closed back)) := by
  induction fuel generalizing i fuel' with
  | zero => omega
  | succ fuel ih =>
    obtain ⟨fuel', rfl⟩ := Nat.exists_eq_succ_of_ne_zero (by omega : fuel' ≠ 0)
    have hmore : ∀ n, Leaves (do
        let c ← Reader.peek
        if c = '}' then return []
        return c :: (← upToBrace n)) := fun _ => leaves_peek.bind fun _ =>
      .ite (.pure _) ((leaves_upToBrace _).bind fun _ => .pure _)
    have hstop : ∀ j : Input, j.rest = ')' :: back → Past back true ((do
        let c ← upToBrace fuel'
        return ')' :: c : Reader _) j) := fun j hj => (past_upToBrace _ hj).bind fun _ => .pure _
    refine .next hi (hmore _) (hmore _) (fun j hj hlt hne => ?_) fun j hj => .peek hj (hstop j hj)
    refine .peek (fun c cs hrest => ?_) hstop
    split
    · exact .pure _
    · exact (ih hne (by omega) (by omega)).map (leaves_upToBrace _)

/-- It is not the end of the text that closes them. -/
theorem rest_of_upToBrace {fuel : Nat} {text : List Char} (h : upToBrace fuel i = some (text, j)) :
    j.rest ≠ [] := by
  induction fuel generalizing i text with
  | zero => cases h
  | succ fuel ih =>
    obtain ⟨_, i₁, -, h⟩ := bind_eq_some_iff.mp h
    obtain ⟨c, i₂, hpeek, h⟩ := bind_eq_some_iff.mp h
    obtain ⟨cs, hrest, rfl⟩ := peek_eq_some_iff.mp hpeek
    split at h
    · cases h
      simp [hrest]
    · obtain ⟨more, i₃, hmore, h⟩ := bind_eq_some_iff.mp h
      cases h
      exact ih hmore

theorem together_codeOf (text : List Char) (i : Input) :
    Together back true i (codeOf text i) (codeOf text (i.closed back)) := by
  unfold codeOf
  rcases text.mapM hexDigit? with _ | _ | ⟨d, ds⟩
  · exact .failure
  · exact .failure
  · exact (together_charOfCode _ _).map (leaves_charOfCode _)

theorem together_bracedCode (hi : i.rest ≠ []) :
    Together back true i (bracedCode i) (bracedCode (i.closed back)) := by
  refine .fuelHere fun fuel fuel' hfuel hfuel' => ?_
  have hcode : ∀ text, Leaves (do bump; bumpSpace; codeOf text) := fun text =>
    leaves_bump.bind fun _ => leaves_bumpSpace.bind fun _ => leaves_codeOf text
  refine (together_upToBrace hi hfuel hfuel').bind (leaves_upToBrace _) hcode hcode
    fun text j hj => ?_
  exact .bump (rest_of_upToBrace hj) fun _ _ _ => .bumpSpace (leaves_codeOf _) (leaves_codeOf _)
    fun _ _ => together_codeOf _ _

theorem together_digitCode (digits : Nat) (i : Input) :
    Together back true i (digitCode digits i) (digitCode digits (i.closed back)) :=
  (together_hexDigits _ _ _).bind (leaves_hexDigits _ _)
    (fun _ => (leaves_charOfCode _).bind fun _ => .pure _)
    (fun _ => (leaves_charOfCode _).bind fun _ => .pure _) fun _ _ _ =>
    (together_charOfCode _ _).map (leaves_charOfCode _)

theorem together_hexEscape {digits : Nat} (hdigits : digits ≠ 0) (hi : i.rest ≠ []) :
    Together back true i (hexEscape digits i) (hexEscape digits (i.closed back)) := by
  rw [hexEscape_eq]
  have hleaves : Leaves (do
      if (← Reader.peek) = '{' then bracedCode else digitCode digits) :=
    leaves_peek.bind fun _ => .ite leaves_bracedCode (leaves_digitCode _)
  have hstop : ∀ j : Input, j.rest = ')' :: back → Past back true (digitCode digits j) :=
    fun j hj => (past_hexDigits hdigits hj).bind fun _ =>
      (leaves_charOfCode _).bind fun _ => .pure _
  refine .next hi hleaves hleaves (fun j hj _ hne => .peek (fun c cs hrest => ?_) hstop)
    fun j hj => .peek hj (hstop j hj)
  split
  · exact together_bracedCode hne
  · exact together_digitCode _ _

theorem together_propertyEscape (negated : Bool) (hi : i.rest ≠ []) :
    Together back true i (propertyEscape negated i) (propertyEscape negated (i.closed back)) := by
  rw [propertyEscape_eq]
  have hleaves : Leaves (do
      let c ← Reader.peek
      if c = '{' then bracedProperty negated else letterProperty negated c) :=
    leaves_peek.bind fun _ => .ite (leaves_bracedProperty _) (leaves_letterProperty _ _)
  have hstop : ∀ j : Input, j.rest = ')' :: back → Past back true (letterProperty negated ')' j) :=
    fun j hj => .require _ (.bump hj (leaves_bumpSpace.bind fun _ => .pure _))
  refine .next hi hleaves hleaves (fun j hj _ hne => .peek (fun c cs hrest => ?_) hstop)
    fun j hj => .peek hj (hstop j hj)
  split
  · refine .fuelHere fun fuel fuel' hfuel hfuel' => ?_
    refine (together_upToBrace hne hfuel hfuel').bind (leaves_upToBrace _)
      (fun _ => leaves_bump.bind fun _ => .pure _) (fun _ => leaves_bump.bind fun _ => .pure _)
      fun text j₁ hj₁ => ?_
    exact .bump (rest_of_upToBrace hj₁) fun _ _ _ => .pure _
  · refine .require _ fun _ => .bump hne fun _ _ _ => ?_
    exact .bumpSpace (.pure _) (.pure _) fun _ _ => .pure _

/-! ## Boundaries

A brace after a boundary may begin its name or a repetition. Where the text
ends in it the shorter run fails, but the longer one has to look further, and
goes back to the brace. -/

/-- The shorter run fails at a brace, and the longer one goes back to it with
a word boundary read. -/
def Braced (back : List Char) (i : Input) (boundary : α) (short long : Option (α × Input)) : Prop :=
  short = none ∧ ∃ j cs, long = some (boundary, j.closed back) ∧ i.After j ∧ j.rest = '{' :: cs ∧
    Reader.next j = none

theorem rest_of_next (h : Reader.next i = some ((), j)) : j.rest ≠ [] := by
  obtain ⟨_, i₁, -, h⟩ := bind_eq_some_iff.mp h
  obtain ⟨_, i₂, -, h⟩ := bind_eq_some_iff.mp h
  change (Reader.peek >>= fun _ => pure ()) i₂ = some ((), j) at h
  obtain ⟨c, i₃, hpeek, h⟩ := bind_eq_some_iff.mp h
  obtain ⟨cs, hrest, rfl⟩ := peek_eq_some_iff.mp hpeek
  cases h
  simp [hrest]

theorem together_boundaryTail (i : Input) :
    Together back true i (boundaryTail i) (boundaryTail (i.closed back)) := by
  have hname : ∀ name : List Char, Leaves (do
      require (← Reader.accept "\x7d")
      boundaryOf name) := fun name =>
    (leaves_accept _).bind fun _ => (leaves_require _).bind fun _ => leaves_boundaryOf name
  refine .fuelHere fun fuel fuel' hfuel hfuel' => ?_
  refine (together_takeRun (by decide) hfuel hfuel').bind (leaves_takeRun _ _) hname hname
    fun name j _ => .accept (by decide) fun _ j' _ => .require _ fun _ => ?_
  rcases boundaryOf_cases name with ⟨kind, h⟩ | h <;> rw [h]
  · exact .pure _
  · exact .failure

theorem together_next (back : List Char) (hi : i.rest ≠ []) :
    Together back false i (Reader.next i) (Reader.next (i.closed back)) := by
  have hlook : ∀ j : Input, j.rest = ')' :: back →
      Past back false ((Pure.pure () : Reader Unit) j) := fun j hj => .of_stop (.pure _) hj
  have h : Together back false i ((Reader.next >>= Pure.pure) i)
      ((Reader.next >>= Pure.pure) (i.closed back)) :=
    .next hi (.pure _) (.pure _) (fun j _ _ _ => .pure ()) hlook
  simpa only [bind_pure] using h

theorem boundaryFrom_of_next {before : Input} {c : Char} {cs : List Char}
    (hnext : Reader.next i = some ((), j)) (hj : j.rest = c :: cs) :
    boundaryFrom before i =
      if c.isAlpha || c == '-' then boundaryTail j else some (.wordBoundary, before) := by
  have hpeek : Reader.peek j = some (c, j) := peek_eq_some_iff.mpr ⟨cs, hj, rfl⟩
  rw [boundaryFrom, bind_apply, hnext, Option.bind_some, bind_apply, hpeek, Option.bind_some]
  split <;> rfl

theorem together_boundaryFrom (hi : ∃ cs, i.rest = '{' :: cs) :
    Together back true i (boundaryFrom i i) (boundaryFrom (i.closed back) (i.closed back)) ∨
      Braced back i .wordBoundary (boundaryFrom i i)
        (boundaryFrom (i.closed back) (i.closed back)) := by
  obtain ⟨cs, hi⟩ := hi
  have hne : i.rest ≠ [] := by simp [hi]
  rcases together_next back hne with ⟨_, j, hshort, hlong⟩ | ⟨hspent, hpast⟩
  · obtain ⟨c, rest, hj⟩ := List.exists_cons_of_ne_nil (rest_of_next hshort)
    rw [boundaryFrom_of_next hshort hj,
      boundaryFrom_of_next hlong (by rw [Input.closed, hj]; rfl : (j.closed back).rest = c :: _)]
    refine .inl ?_
    split
    · exact (together_boundaryTail j).of_after (leaves_next i _ j hshort)
    · exact .inl ⟨_, i, rfl, rfl⟩
  · have hnone : Reader.next i = Option.none := by
      refine Option.eq_none_iff_forall_ne_some.mpr ?_
      rintro ⟨_, j⟩ hj
      exact rest_of_next hj (hspent () j hj).1
    have hshort : boundaryFrom i i = Option.none := by rw [boundaryFrom, bind_apply, hnone]; rfl
    rw [hshort]
    cases hlong : Reader.next (i.closed back) with
    | none =>
      rw [boundaryFrom, bind_apply, hlong]
      exact .inl .none
    | some next =>
      obtain ⟨_, j⟩ := next
      obtain ⟨c, rest, hj⟩ := List.exists_cons_of_ne_nil (rest_of_next hlong)
      rw [boundaryFrom_of_next hlong hj]
      split
      · next hname =>
        -- a name does not begin with the parenthesis, so this is past it
        refine .inl (.of_past (.of_lt leaves_boundaryTail ?_))
        refine (stop_or_past leaves_next hlong (hpast _ j hlong)).resolve_left fun hstopped => ?_
        rw [hstopped] at hj
        cases hj
        exact absurd hname (by decide)
      · exact .inr ⟨rfl, i, cs, rfl, .refl i, hi, hnone⟩

theorem together_boundaryName (back : List Char) (i : Input) :
    Together back true i (boundaryName i) (boundaryName (i.closed back)) ∨
      Braced back i .wordBoundary (boundaryName i) (boundaryName (i.closed back)) := by
  rw [boundaryName_eq]
  have hsees : Reader.sees "\x7b" (i.closed back) =
      some ("\x7b".toList.isPrefixOf i.rest, i.closed back) := by
    rw [Reader.sees, Input.closed, isPrefixOf_closed back (by decide)]
  rw [bind_apply, bind_apply, hsees, Reader.sees]
  cases hbrace : "\x7b".toList.isPrefixOf i.rest with
  | false => exact .inl (.pure _)
  | true =>
    obtain ⟨cs, hi⟩ := List.isPrefixOf_iff_prefix.mp hbrace
    exact together_boundaryFrom ⟨cs, hi.symm⟩

/-- Runs on an item stay together, or the longer one goes back to a brace. -/
def Nearly (back : List Char) (i : Input) (short long : Option (Primitive × Input)) : Prop :=
  Together back true i short long ∨ Braced back i (.assertion .wordBoundary) short long

theorem Nearly.of_after {short long : Option (Primitive × Input)} (hij : i.After j)
    (h : Nearly back j short long) : Nearly back i short long := by
  rcases h with h | ⟨hshort, j', cs, hlong, hj', hrest, hnext⟩
  · exact .inl (h.of_after hij)
  · exact .inr ⟨hshort, j', cs, hlong, hij.trans hj', hrest, hnext⟩

theorem nearly_plainEscape (c : Char) (i : Input) :
    Nearly back i (plainEscape c i) (plainEscape c (i.closed back)) := by
  rcases plainEscape_cases c with ⟨item, h⟩ | h | h <;> rw [h]
  · exact .inl (.pure _)
  · exact .inl .failure
  · rcases together_boundaryName back i with htogether | ⟨hshort, j, cs, hlong, hj⟩
    · exact .inl (htogether.map leaves_boundaryName)
    · refine .inr ⟨?_, j, cs, ?_, hj⟩
      · rw [bind_apply, hshort]; rfl
      · rw [bind_apply, hlong]; rfl

theorem nearly_escapeOf {c : Char} {cs : List Char} (hi : i.rest = c :: cs) :
    Nearly back i (escapeOf c i) (escapeOf c (i.closed back)) := by
  have hne : i.rest ≠ [] := by simp [hi]
  rcases escapeOf_cases c with ⟨digits, hdigits, h⟩ | ⟨negated, h⟩ | ⟨item, h⟩ | h <;> rw [h]
  · exact .inl (together_hexEscape hdigits hne)
  · exact .inl (together_propertyEscape negated hne)
  · exact .inl (.bump hne fun _ _ _ => .pure _)
  · rw [bump_bind hi, bump_bind_closed hi]
    exact (nearly_plainEscape c _).of_after (Input.after_cons hi)

theorem past_escapeOf (hj : j.rest = ')' :: back) : Past back k (escapeOf ')' j) :=
  .bump hj (leaves_plainEscape ')')

/-- **Escapes stay together, or go back to a brace.** -/
theorem nearly_escape {c : Char} {cs : List Char} (hi : i.rest = c :: cs) :
    Nearly back i (escape i) (escape (i.closed back)) := by
  rw [escape_eq, bump_bind hi, bump_bind_closed hi]
  have hafter := Input.after_cons hi
  rcases peek_cases back { i with rest := cs } escapeOf escapeOf with
    ⟨d, ds, hrest, hshort, hlong⟩ | ⟨hshort, hrest, hlong⟩
  · rw [hshort, hlong]
    exact (nearly_escapeOf hrest).of_after hafter
  · rw [hshort, hlong]
    exact .inl (.of_past (past_escapeOf hrest))

end Reader

end Pattern
end Scenario
