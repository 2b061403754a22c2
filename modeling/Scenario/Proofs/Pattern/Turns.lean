import Scenario.Proofs.Pattern.Classes

/-!
# Turns — alternatives read one item after another

The alternatives of a group are read item by item. `turn` is what `body` does
with one character ahead of it, and `body_succ` the loop that is left. A turn
passes over a character (`shortens_turn`), and layout comes to be skipped only
by a flag that it reads (`after_turn`).
-/

namespace Scenario
namespace Pattern
namespace Reader

variable {α : Type}

/-! ## Groups and repetitions -/

theorem leaves_flagSetting (fuel : Nat) (value dangling : Bool) (setting : FlagSetting) :
    Leaves (flagSetting fuel value dangling setting) := by
  induction fuel generalizing value dangling setting with
  | zero => exact .failure
  | succ fuel ih =>
    refine leaves_peek.bind fun c => .ite ((leaves_require _).bind fun _ => .pure _) ?_
    refine leaves_bump.bind fun _ => .ite ((leaves_require _).bind fun _ => ih _ _ _) ?_
    split
    · exact (leaves_require _).bind fun _ => ih _ _ _
    · exact .failure

theorem leaves_groupName : Leaves groupName := by
  refine .of_suffix fun i a j h => ?_
  simp only [groupName] at h
  split at h
  · next hdrop =>
    split at h <;> cases h
    exact ⟨(List.suffix_cons _ _).trans (hdrop ▸ List.drop_suffix _ _), rfl⟩
  · cases h

/-- No kind of look-around comes next. -/
def noLook : Reader Unit := do
  require !(← sees "?=")
  require !(← sees "?!")
  require !(← sees "?<=")
  require !(← sees "?<!")

/-- The parenthesis of a group, which no kind of look-around may follow. -/
def openingParenthesis : Reader Unit := do
  bump
  bumpSpace
  noLook

/-- A group's beginning from the character that ends its flags. -/
def openingOf (setting : FlagSetting) (c : Char) : Reader Opening := do
  if c = ')' then
    require !setting.isEmpty
    return .flags setting
  else return .group false setting

/-- A group's beginning, after its flags. -/
def openingAfter (setting : FlagSetting) : Reader Opening := do
  let c ← peek
  bump
  openingOf setting c

/-- The flags of a group, after their question mark. -/
def openingFlags : Reader Opening := do
  openingAfter (← flagSetting (← fuelHere) true false [])

/-- A group's beginning, after its parenthesis. -/
def openingKind : Reader Opening := do
  if (← accept "?P<") || (← accept "?<") then
    groupName
    return .group true []
  else if ← accept "?" then openingFlags
  else return .group true []

/-- The beginning of a group, its parts taken apart. -/
theorem groupOpening_eq : groupOpening = openingParenthesis >>= fun _ => openingKind := by
  simp only [groupOpening, openingParenthesis, noLook, openingKind, openingFlags, openingAfter,
    openingOf, List.forIn_cons, List.forIn_nil, bind_assoc, pure_bind]

theorem leaves_noLook : Leaves noLook :=
  (leaves_sees _).bind fun _ => (leaves_require _).bind fun _ =>
    (leaves_sees _).bind fun _ => (leaves_require _).bind fun _ =>
    (leaves_sees _).bind fun _ => (leaves_require _).bind fun _ =>
    (leaves_sees _).bind fun _ => leaves_require _

theorem leaves_openingParenthesis : Leaves openingParenthesis :=
  leaves_bump.bind fun _ => leaves_bumpSpace.bind fun _ => leaves_noLook

theorem leaves_openingOf (setting : FlagSetting) (c : Char) : Leaves (openingOf setting c) :=
  .ite ((leaves_require _).bind fun _ => .pure _) (.pure _)

theorem leaves_openingAfter (setting : FlagSetting) : Leaves (openingAfter setting) :=
  leaves_peek.bind fun _ => leaves_bump.bind fun _ => leaves_openingOf _ _

theorem leaves_openingFlags : Leaves openingFlags :=
  leaves_fuelHere.bind fun _ => (leaves_flagSetting _ _ _ _).bind leaves_openingAfter

theorem leaves_openingKind : Leaves openingKind :=
  (leaves_accept _).bind fun _ => (leaves_accept _).bind fun _ =>
    .ite (leaves_groupName.bind fun _ => .pure _) <| (leaves_accept _).bind fun _ =>
    .ite leaves_openingFlags (.pure _)

theorem leaves_groupOpening : Leaves groupOpening := by
  rw [groupOpening_eq]
  exact leaves_openingParenthesis.bind fun _ => leaves_openingKind

/-- The counts with a greatest one. -/
def countsTo (low : Nat) : Reader (Nat × Option Nat) := do
  let high ← decimal
  require (low ≤ high)
  return (low, some high)

/-- The counts, from the character after the comma. -/
def countsAfter (low : Nat) (c : Char) : Reader (Nat × Option Nat) :=
  if c = '}' then return (low, none) else countsTo low

/-- The other count, after the least. -/
def countsFrom (low : Nat) : Reader (Nat × Option Nat) := do
  if (← peek) = ',' then
    next
    countsAfter low (← peek)
  else return (low, some low)

/-- The counts of a repetition, taken apart. -/
theorem counts_eq : counts = (do
    next
    countsFrom (← decimal)) := rfl

theorem leaves_countsTo (low : Nat) : Leaves (countsTo low) :=
  leaves_decimal.bind fun _ => (leaves_require _).bind fun _ => .pure _

theorem leaves_countsAfter (low : Nat) (c : Char) : Leaves (countsAfter low c) :=
  .ite (.pure _) (leaves_countsTo low)

theorem leaves_countsFrom (low : Nat) : Leaves (countsFrom low) :=
  leaves_peek.bind fun _ => .ite (leaves_next.bind fun _ => leaves_peek.bind fun _ =>
    leaves_countsAfter _ _) (.pure _)

theorem leaves_counts : Leaves counts := by
  rw [counts_eq]
  exact leaves_next.bind fun _ => leaves_decimal.bind leaves_countsFrom

/-- A repetition applies to the last expression. -/
theorem repeated_cases (items : List Expr) :
    (∃ before e, items = before ++ [e] ∧ repeated items = return (before, e)) ∨
      repeated items = failure := by
  unfold repeated
  split
  · exact .inr rfl
  · exact .inr rfl
  · exact .inr rfl
  · next e _ _ hlast =>
    obtain ⟨before, rfl⟩ := List.getLast?_eq_some_iff.mp hlast
    exact .inl ⟨before, e, rfl, by rw [List.dropLast_concat]⟩

theorem of_repeated {items : List Expr} {parts : List Expr × Expr} {i j : Input}
    (h : repeated items i = some (parts, j)) : items = parts.1 ++ [parts.2] ∧ j = i := by
  rcases repeated_cases items with ⟨before, e, hitems, hparts⟩ | hparts <;> rw [hparts] at h <;>
    cases h
  exact ⟨hitems, rfl⟩

theorem leaves_repeated (items : List Expr) : Leaves (repeated items) := by
  rcases repeated_cases items with ⟨before, e, -, h⟩ | h <;> rw [h]
  · exact .pure _
  · exact .failure

/-- A single item, from its first character. -/
def primitiveOf (c : Char) : Reader Primitive :=
  match c with
  | '\\' => escape
  | '.' => do bump; return .dot
  | '^' => do bump; return .assertion .lineStart
  | '$' => do bump; return .assertion .lineEnd
  | _ => do bump; return .literal c false

/-- A single item, its kinds taken apart. -/
theorem primitive_eq : primitive = peek >>= primitiveOf := rfl

theorem primitiveOf_cases (c : Char) :
    primitiveOf c = escape ∨ ∃ item, primitiveOf c = (do bump; return item) := by
  unfold primitiveOf
  split
  · exact .inl rfl
  all_goals exact .inr ⟨_, rfl⟩

theorem leaves_primitiveOf (c : Char) : Leaves (primitiveOf c) := by
  rcases primitiveOf_cases c with h | ⟨item, h⟩ <;> rw [h]
  · exact leaves_escape
  · exact leaves_bump.bind fun _ => .pure _

theorem leaves_primitive : Leaves primitive := leaves_peek.bind leaves_primitiveOf

theorem looks_repeated (items : List Expr) (i : Input) (a : List Expr × Expr) (j : Input)
    (h : repeated items i = some (a, j)) : j = i := (of_repeated h).2

theorem shortens_groupOpening : Shortens groupOpening := by
  rw [groupOpening_eq]
  exact (shortens_bump.bind fun _ => leaves_bumpSpace.bind fun _ => leaves_noLook).bind
    fun _ => leaves_openingKind

theorem shortens_counts : Shortens counts := by
  rw [counts_eq]
  exact shortens_next.bind fun _ => leaves_decimal.bind leaves_countsFrom

theorem shortens_primitive : Shortens primitive := by
  refine .after looks_peek fun c => show Shortens (primitiveOf c) from ?_
  rcases primitiveOf_cases c with h | ⟨item, h⟩ <;> rw [h]
  · exact shortens_escape
  · exact shortens_bump.bind fun _ => .pure _

/-! ## Alternatives -/

/-- A quantifier of one character, and the question mark that may follow. -/
def quantifier (min : Nat) (max : Option Nat) (branches items : List Expr) :
    Reader (List Expr × List Expr) := do
  let (before, e) ← repeated items
  bump
  let lazy ← accept "?"
  return (branches, before ++ [.repetition (!lazy) min max e])

/-- The end of a group, with its result; layout is skipped again as it was
around the group. -/
def groupEnd {α : Type} (spaced : Bool) (result : α) : Reader α := do
  require (← accept ")")
  setSpaced spaced
  return result

/-- A group or a setting of flags from what begins it, with a reader for what
is inside; `spaced` says whether layout is skipped around it. -/
def groupFrom (inside : Reader Expr) (branches items : List Expr) (spaced : Bool) :
    Opening → Reader (List Expr × List Expr)
  | .flags setting => do
    setSpaced (spacedAfter setting spaced)
    return (branches, items ++ [.flags setting])
  | .group captures setting => do
    setSpaced (spacedAfter setting spaced)
    let inner ← inside
    groupEnd spaced (branches, items ++ [.group captures setting inner])

/-- A group or a setting of flags, from its parenthesis. -/
def group (inside : Reader Expr) (branches items : List Expr) :
    Reader (List Expr × List Expr) := do
  let spaced := (← get).spaced
  groupFrom inside branches items spaced (← groupOpening)

/-- A quantifier in braces from the closing one, with its counts. -/
def bracesEnd (branches before : List Expr) (e : Expr) (counted : Nat × Option Nat) :
    Reader (List Expr × List Expr) := do
  bump
  bumpSpace
  let lazy ← accept "?"
  return (branches, before ++ [.repetition (!lazy) counted.1 counted.2 e])

/-- A quantifier in braces after its counts. -/
def bracesAfter (branches before : List Expr) (e : Expr) (counted : Nat × Option Nat) :
    Reader (List Expr × List Expr) := do
  require ((← peek) == '}')
  bracesEnd branches before e counted

/-- A quantifier in braces. -/
def braces (branches items : List Expr) : Reader (List Expr × List Expr) := do
  let (before, e) ← repeated items
  bracesAfter branches before e (← counts)

/-- **One turn of reading alternatives**, at a given character: the branches
and items there are after it. -/
def turn (inside : Reader Expr) (branches items : List Expr) :
    Char → Reader (List Expr × List Expr)
  | '(' => group inside branches items
  | '|' => do
    bump
    return (branches ++ [.ofItems items], [])
  | '[' => do
    let set ← setClass (2 * (← fuelHere))
    return (branches, items ++ [.set set])
  | '?' => quantifier 0 (some 1) branches items
  | '*' => quantifier 0 none branches items
  | '+' => quantifier 1 none branches items
  | '{' => braces branches items
  | _ => do
    let item ← primitive
    return (branches, items ++ [item.expr])

/-- Alternatives from where there is no layout: they end with the text or
before a parenthesis, or take a turn. -/
def bodyFrom (fuel : Nat) (branches items : List Expr) : Reader Expr := do
  if ← atEnd then return .ofBranches (branches ++ [.ofItems items])
  let c ← peek
  if c = ')' then return .ofBranches (branches ++ [.ofItems items])
  let (branches, items) ← turn (body fuel [] []) branches items c
  body fuel branches items

/-- **Alternatives are read turn by turn.** -/
theorem body_succ (fuel : Nat) (branches items : List Expr) :
    body (fuel + 1) branches items = bumpSpace >>= fun _ => bodyFrom fuel branches items := by
  simp only [body, bodyFrom]
  refine bind_congr fun _ => bind_congr fun ended => ?_
  cases ended with
  | true => rfl
  | false =>
    refine bind_congr fun c => ?_
    -- the cases of the loop are those of a turn, but for the parenthesis
    split
    · rfl
    · rw [if_neg (by decide), turn, group, bind_assoc]
      refine bind_congr fun before => ?_
      rw [bind_assoc]
      refine bind_congr fun opening => ?_
      cases opening <;> simp only [groupFrom, groupEnd, bind_assoc, pure_bind]
    · simp [turn]
    · simp [turn]
    · simp [turn, quantifier]
    · simp [turn, quantifier]
    · simp [turn, quantifier]
    · simp [turn, braces, bracesAfter, bracesEnd]
    · next h1 h2 h3 h4 h5 h6 h7 h8 =>
      rw [if_neg (h1 ·), turn, bind_assoc]
      · simp only [pure_bind]
      all_goals assumption

section BodyFrom

variable {fuel : Nat} {branches items : List Expr} {i : Input}

theorem bodyFrom_of_nil (hi : i.rest = []) :
    bodyFrom fuel branches items i = some (.ofBranches (branches ++ [.ofItems items]), i) := by
  have hend : atEnd i = some (true, i) := by rw [atEnd, hi]; rfl
  rw [bodyFrom, bind_apply, hend]
  rfl

theorem bodyFrom_of_parenthesis {cs : List Char} (hi : i.rest = ')' :: cs) :
    bodyFrom fuel branches items i = some (.ofBranches (branches ++ [.ofItems items]), i) := by
  have hend : atEnd i = some (false, i) := by rw [atEnd, hi]; rfl
  rw [bodyFrom, bind_apply, hend, Option.bind_some, if_neg Bool.false_ne_true, bind_apply,
    peek_eq_some_iff.mpr ⟨cs, hi, rfl⟩]
  rfl

theorem bodyFrom_of_cons {c : Char} {cs : List Char} (hi : i.rest = c :: cs) (hc : c ≠ ')') :
    bodyFrom fuel branches items i =
      (turn (body fuel [] []) branches items c >>= fun read => body fuel read.1 read.2) i := by
  have hend : atEnd i = some (false, i) := by rw [atEnd, hi]; rfl
  rw [bodyFrom, bind_apply, hend, Option.bind_some, if_neg Bool.false_ne_true, bind_apply,
    peek_eq_some_iff.mpr ⟨cs, hi, rfl⟩, Option.bind_some, if_neg hc]

end BodyFrom

/-! ## What alternatives leave -/

/-- The letter of the flag for layout. -/
theorem eq_of_flag? {c : Char} (h : flag? c = some .spaced) : c = 'x' := by
  unfold flag? at h
  split at h <;> cases h
  rfl

/-- Flags set together are those set before and those of the letters read. -/
theorem letters_of_flagSetting {fuel : Nat} {value dangling : Bool} {setting result : FlagSetting}
    {i j : Input} (h : flagSetting fuel value dangling setting i = some (result, j)) :
    ∃ letters, i.rest = letters ++ j.rest ∧ (∀ c ∈ letters, c = '-' ∨ (flag? c).isSome = true) ∧
      ∀ s ∈ result, s ∈ setting ∨ (s.1 = .spaced → 'x' ∈ letters) := by
  induction fuel generalizing value dangling setting i with
  | zero => cases h
  | succ fuel ih =>
    obtain ⟨c, _, hpeek, h⟩ := bind_eq_some_iff.mp h
    obtain ⟨cs, hrest, rfl⟩ := peek_eq_some_iff.mp hpeek
    split at h
    · obtain ⟨_, _, hrequire, h⟩ := bind_eq_some_iff.mp h
      cases h
      rw [(of_require hrequire).2]
      exact ⟨[], rfl, fun _ hc => absurd hc List.not_mem_nil, fun _ hs => .inl hs⟩
    obtain ⟨_, _, hbump, h⟩ := bind_eq_some_iff.mp h
    cases hbump
    have hmore : ∀ letters, cs = letters ++ j.rest → i.rest = c :: letters ++ j.rest :=
      fun _ hcs => by rw [hrest, hcs, List.cons_append]
    split at h
    · next hhyphen =>
      obtain ⟨_, _, hrequire, h⟩ := bind_eq_some_iff.mp h
      obtain ⟨letters, hletters, hall, hflags⟩ := ih h
      rw [(of_require hrequire).2] at hletters
      refine ⟨c :: letters, hmore letters (by simpa [hrest] using hletters), ?_, fun s hs => ?_⟩
      · exact List.forall_mem_cons.mpr ⟨.inl hhyphen, hall⟩
      · exact (hflags s hs).imp_right fun hx hspaced => List.mem_cons_of_mem _ (hx hspaced)
    · cases hflag : flag? c with
      | none =>
        rw [hflag] at h
        cases h
      | some flag =>
        rw [hflag] at h
        obtain ⟨_, _, hrequire, h⟩ := bind_eq_some_iff.mp h
        obtain ⟨letters, hletters, hall, hflags⟩ := ih h
        rw [(of_require hrequire).2] at hletters
        refine ⟨c :: letters, hmore letters (by simpa [hrest] using hletters), ?_, fun s hs => ?_⟩
        · exact List.forall_mem_cons.mpr ⟨.inr (by rw [hflag]; rfl), hall⟩
        · rcases hflags s hs with hset | hx
          · rcases List.mem_append.mp hset with hset | hnew
            · exact .inl hset
            · obtain rfl := List.mem_singleton.mp hnew
              refine .inr fun hspaced => ?_
              obtain rfl : flag = .spaced := hspaced
              rw [eq_of_flag? hflag]
              exact List.mem_cons_self
          · exact .inr fun hspaced => List.mem_cons_of_mem _ (hx hspaced)

/-- So are those of a group's beginning. -/
theorem letters_of_openingFlags {i j : Input} {opening : Opening} {setting : FlagSetting}
    (h : openingFlags i = some (opening, j))
    (hsetting : opening = .flags setting ∨ ∃ captures, opening = .group captures setting)
    {s : Flag × Bool} (hs : s ∈ setting) (hspaced : s.1 = .spaced) :
    ∃ letters back, i.rest = letters ++ 'x' :: (back ++ j.rest) ∧
      ∀ c ∈ letters, c = '-' ∨ (flag? c).isSome = true := by
  obtain ⟨_, _, hfuel, h⟩ := bind_eq_some_iff.mp h
  cases hfuel
  obtain ⟨result, i₁, hflags, h⟩ := bind_eq_some_iff.mp h
  obtain ⟨last, hlast⟩ := (leaves_openingAfter result _ _ _ h).suffix
  obtain ⟨_, i₂, -, h⟩ := bind_eq_some_iff.mp h
  obtain ⟨_, i₃, -, h⟩ := bind_eq_some_iff.mp h
  have hresult : setting = result := by
    unfold openingOf at h
    split at h
    · obtain ⟨_, _, -, h⟩ := bind_eq_some_iff.mp h
      cases h
      rcases hsetting with heq | ⟨_, heq⟩ <;> cases heq
      rfl
    · cases h
      rcases hsetting with heq | ⟨_, heq⟩ <;> cases heq
      rfl
  rw [hresult] at hs
  obtain ⟨letters, hletters, hall, hmem⟩ := letters_of_flagSetting hflags
  have hx := (hmem s hs).resolve_left List.not_mem_nil hspaced
  obtain ⟨front, back, rfl⟩ := List.append_of_mem hx
  refine ⟨front, back ++ last, ?_, fun c hc => hall c (List.mem_append_left _ hc)⟩
  rw [hletters, ← hlast]
  simp

/-- Without layout a group begins with its parenthesis alone. -/
theorem openingParenthesis_eq_some {i j : Input} {cs : List Char} (hi : i.rest = '(' :: cs)
    (hspaced : i.spaced = false) {a : Unit} (h : openingParenthesis i = some (a, j)) :
    j.rest = cs := by
  obtain ⟨_, _, hbump, h⟩ := bind_eq_some_iff.mp h
  cases hbump
  obtain ⟨_, _, hspace, h⟩ := bind_eq_some_iff.mp h
  rw [bumpSpace, if_neg (by simp [hspaced])] at hspace
  cases hspace
  obtain ⟨_, _, hsees, h⟩ := bind_eq_some_iff.mp h
  cases hsees
  obtain ⟨_, _, hrequire, h⟩ := bind_eq_some_iff.mp h
  rw [(of_require hrequire).2] at h
  obtain ⟨_, _, hsees, h⟩ := bind_eq_some_iff.mp h
  cases hsees
  obtain ⟨_, _, hrequire, h⟩ := bind_eq_some_iff.mp h
  rw [(of_require hrequire).2] at h
  obtain ⟨_, _, hsees, h⟩ := bind_eq_some_iff.mp h
  cases hsees
  obtain ⟨_, _, hrequire, h⟩ := bind_eq_some_iff.mp h
  rw [(of_require hrequire).2] at h
  obtain ⟨_, _, hsees, h⟩ := bind_eq_some_iff.mp h
  cases hsees
  rw [(of_require h).2, hi]
  rfl

/-- **Layout comes to be skipped only by a flag that is read.** -/
theorem spaced_of_groupOpening {i j : Input} {cs : List Char} (hi : i.rest = '(' :: cs)
    {opening : Opening} {setting : FlagSetting} (h : groupOpening i = some (opening, j))
    (hsetting : opening = .flags setting ∨ ∃ captures, opening = .group captures setting)
    (hspaced : spacedAfter setting i.spaced = true) :
    i.spaced = true ∨ ∃ read, i.rest = read ++ j.rest ∧ SetsLayout read := by
  cases hbefore : i.spaced with
  | true => exact .inl rfl
  | false =>
    rw [hbefore] at hspaced
    have hmem : ∃ s ∈ setting, s.1 = .spaced := by
      unfold spacedAfter at hspaced
      split at hspaced
      · next value hlookup =>
        obtain ⟨front, back, heq, -⟩ := List.lookup_eq_some_iff.mp hlookup
        exact ⟨(.spaced, value), heq ▸ List.mem_append_right _ List.mem_cons_self, rfl⟩
      · cases hspaced
    obtain ⟨s, hs, hs'⟩ := hmem
    -- a group that sets flags has no name, and its letters follow a question mark
    rw [groupOpening_eq] at h
    obtain ⟨_, i₁, hlead, hkind⟩ := bind_eq_some_iff.mp h
    have hcs := openingParenthesis_eq_some hi hbefore hlead
    obtain ⟨named, i₂, hname, hafter⟩ := bind_eq_some_iff.mp hkind
    obtain ⟨named', i₃, hname', hlast⟩ := bind_eq_some_iff.mp hafter
    split at hlast
    · obtain ⟨_, _, -, hgroup⟩ := bind_eq_some_iff.mp hlast
      cases hgroup
      rcases hsetting with heq | ⟨_, heq⟩ <;> cases heq
      cases hs
    · next hnot =>
      have hfalse : named = false ∧ named' = false := by simpa using hnot
      have h₂ := ((accept_eq_some hname).resolve_left fun h => by simp [hfalse.1] at h).2
      have h₃ := ((accept_eq_some hname').resolve_left fun h => by simp [hfalse.2] at h).2
      obtain ⟨marked, i₄, hmark, hflags⟩ := bind_eq_some_iff.mp hlast
      cases marked with
      | true =>
        obtain ⟨letters, back, hrest, hall⟩ := letters_of_openingFlags hflags hsetting hs hs'
        have hmarked := ((accept_eq_some hmark).resolve_right fun h => nomatch h.1).2
        refine .inr ⟨'(' :: '?' :: (letters ++ 'x' :: back), ?_, [], letters, back, rfl, hall⟩
        rw [hi, ← hcs, ← h₂, ← h₃, hmarked, hrest]
        simp
      | false =>
        cases hflags
        rcases hsetting with heq | ⟨_, heq⟩ <;> cases heq
        cases hs

theorem leaves_quantifier (min : Nat) (max : Option Nat) (branches items : List Expr) :
    Leaves (quantifier min max branches items) :=
  (leaves_repeated _).bind fun _ => leaves_bump.bind fun _ => (leaves_accept _).bind fun _ =>
    .pure _

theorem leaves_bracesEnd (branches before : List Expr) (e : Expr) (counted : Nat × Option Nat) :
    Leaves (bracesEnd branches before e counted) :=
  leaves_bump.bind fun _ => leaves_bumpSpace.bind fun _ => (leaves_accept _).bind fun _ => .pure _

theorem leaves_bracesAfter (branches before : List Expr) (e : Expr) (counted : Nat × Option Nat) :
    Leaves (bracesAfter branches before e counted) :=
  leaves_peek.bind fun _ => (leaves_require _).bind fun _ => leaves_bracesEnd _ _ _ _

theorem leaves_braces (branches items : List Expr) : Leaves (braces branches items) :=
  (leaves_repeated _).bind fun _ => leaves_counts.bind (leaves_bracesAfter _ _ _)

/-- A group ends with a parenthesis. -/
theorem groupEnd_eq_some_iff {spaced : Bool} {result a : α} {i j : Input} :
    groupEnd spaced result i = some (a, j) ↔
      ∃ cs, i.rest = ')' :: cs ∧ a = result ∧ j = { i with rest := cs, spaced } := by
  have haccept : accept ")" i = some (")".toList.isPrefixOf i.rest,
      if ")".toList.isPrefixOf i.rest then { i with rest := i.rest.drop 1 } else i) := by
    simp only [accept]
    cases ")".toList.isPrefixOf i.rest <;> rfl
  rw [groupEnd, bind_apply, haccept, Option.bind_some]
  rcases hi : i.rest with _ | ⟨c, cs⟩
  · simp only [reduceCtorEq, false_and, exists_false, iff_false]
    intro h
    cases h
  · by_cases hc : c = ')'
    · subst hc
      constructor
      · intro h
        cases h
        exact ⟨cs, rfl, rfl, rfl⟩
      · rintro ⟨cs', hcs, rfl, rfl⟩
        cases hcs
        rfl
    · have hfalse : ")".toList.isPrefixOf (c :: cs) = false := by
        rw [show ")".toList = [')'] from rfl, List.isPrefixOf_cons_cons,
          beq_eq_false_iff_ne.mpr (Ne.symm hc), Bool.false_and]
      rw [hfalse]
      constructor
      · intro h
        cases h
      · rintro ⟨cs', hcs, -⟩
        cases hcs
        exact absurd rfl hc

theorem suffix_of_groupEnd {spaced : Bool} {result a : α} {i j : Input}
    (h : groupEnd spaced result i = some (a, j)) : j.rest <:+ i.rest := by
  obtain ⟨cs, hrest, -, rfl⟩ := groupEnd_eq_some_iff.mp h
  exact hrest ▸ List.suffix_cons _ _

theorem suffix_of_groupFrom {inside : Reader Expr} (h : Leaves inside) {branches items : List Expr}
    {spaced : Bool} {opening : Opening} {i j : Input} {a : List Expr × List Expr}
    (hgroup : groupFrom inside branches items spaced opening i = some (a, j)) :
    j.rest <:+ i.rest := by
  cases opening with
  | flags setting =>
    cases hgroup
    exact List.suffix_rfl
  | group captures setting =>
    obtain ⟨_, _, hset, hgroup⟩ := bind_eq_some_iff.mp hgroup
    cases hset
    obtain ⟨inner, i₁, hinside, hgroup⟩ := bind_eq_some_iff.mp hgroup
    exact (suffix_of_groupEnd hgroup).trans (h _ _ _ hinside).suffix

/-- The end of a group puts the layout back. -/
theorem spaced_of_groupFrom {inside : Reader Expr} {branches items : List Expr} {spaced : Bool}
    {opening : Opening} {i j : Input} {a : List Expr × List Expr}
    (hgroup : groupFrom inside branches items spaced opening i = some (a, j)) :
    j.spaced = spaced ∨
      ∃ setting, opening = .flags setting ∧ j.spaced = spacedAfter setting spaced := by
  cases opening with
  | flags setting =>
    cases hgroup
    exact .inr ⟨setting, rfl, rfl⟩
  | group captures setting =>
    obtain ⟨_, _, -, hgroup⟩ := bind_eq_some_iff.mp hgroup
    obtain ⟨_, _, -, hgroup⟩ := bind_eq_some_iff.mp hgroup
    obtain ⟨_, -, -, rfl⟩ := groupEnd_eq_some_iff.mp hgroup
    exact .inl rfl

theorem after_group {inside : Reader Expr} (h : Leaves inside) {branches items : List Expr}
    {i j : Input} {cs : List Char} (hi : i.rest = '(' :: cs) {a : List Expr × List Expr}
    (hgroup : group inside branches items i = some (a, j)) : i.After j := by
  obtain ⟨before, _, hget, hgroup⟩ := bind_eq_some_iff.mp hgroup
  cases hget
  obtain ⟨opening, j₁, hopening, hgroup⟩ := bind_eq_some_iff.mp hgroup
  have hopened := leaves_groupOpening i opening j₁ hopening
  have hsuffix := suffix_of_groupFrom h hgroup
  refine ⟨hsuffix.trans hopened.suffix, fun hspaced => ?_⟩
  rcases spaced_of_groupFrom hgroup with hsame | ⟨setting, rfl, hset⟩
  · exact .inl (hsame ▸ hspaced)
  · refine (spaced_of_groupOpening hi hopening (.inl rfl) (hset ▸ hspaced)).imp_right ?_
    rintro ⟨read, hread, hsets⟩
    obtain ⟨more, hmore⟩ := hsuffix
    refine ⟨read ++ more, by rw [hread, ← hmore, List.append_assoc], ?_⟩
    exact hsets.append [] more

/-- What a turn leaves is after its input, which begins with the character it
is for. -/
theorem after_turn {inside : Reader Expr} (h : Leaves inside) {branches items : List Expr}
    {i j : Input} {c : Char} {cs : List Char} (hi : i.rest = c :: cs) {a : List Expr × List Expr}
    (hturn : turn inside branches items c i = some (a, j)) : i.After j := by
  revert hturn
  unfold turn
  split
  · exact after_group h hi
  · exact (leaves_bump.bind fun _ => .pure _) i a j
  · exact (leaves_fuelHere.bind fun _ => (leaves_setClass _).bind fun _ => .pure _) i a j
  · exact leaves_quantifier _ _ _ _ i a j
  · exact leaves_quantifier _ _ _ _ i a j
  · exact leaves_quantifier _ _ _ _ i a j
  · exact leaves_braces _ _ i a j
  · exact (leaves_primitive.bind fun _ => .pure _) i a j

theorem leaves_bodyFrom_of {fuel : Nat} (h : ∀ branches items, Leaves (body fuel branches items))
    (branches items : List Expr) : Leaves (bodyFrom fuel branches items) := by
  intro i e j hbody
  cases hrest : i.rest with
  | nil =>
    rw [bodyFrom_of_nil hrest] at hbody
    cases hbody
    exact .refl i
  | cons c cs =>
    by_cases hc : c = ')'
    · subst hc
      rw [bodyFrom_of_parenthesis hrest] at hbody
      cases hbody
      exact .refl i
    · rw [bodyFrom_of_cons hrest hc] at hbody
      obtain ⟨read, j₁, hturn, hmore⟩ := bind_eq_some_iff.mp hbody
      exact (after_turn (h _ _) hrest hturn).trans (h _ _ _ _ _ hmore)

theorem leaves_body (fuel : Nat) (branches items : List Expr) :
    Leaves (body fuel branches items) := by
  induction fuel generalizing branches items with
  | zero => exact .failure
  | succ fuel ih =>
    rw [body_succ]
    exact leaves_bumpSpace.bind fun _ => leaves_bodyFrom_of ih _ _

theorem leaves_bodyFrom (fuel : Nat) (branches items : List Expr) :
    Leaves (bodyFrom fuel branches items) := leaves_bodyFrom_of (leaves_body fuel) branches items

/-- **A turn passes over a character.** -/
theorem shortens_turn {inside : Reader Expr} (h : Leaves inside) (branches items : List Expr)
    (c : Char) : Shortens (turn inside branches items c) := by
  have hquantifier : ∀ min max, Shortens (quantifier min max branches items) := fun _ _ =>
    .after (looks_repeated items) fun _ =>
      shortens_bump.bind fun _ => (leaves_accept _).bind fun _ => .pure _
  unfold turn
  split
  · intro i a k hi hgroup
    obtain ⟨before, _, hget, hgroup⟩ := bind_eq_some_iff.mp hgroup
    cases hget
    obtain ⟨opening, j, hopening, hgroup⟩ := bind_eq_some_iff.mp hgroup
    exact Nat.lt_of_le_of_lt (suffix_of_groupFrom h hgroup).length_le
      (shortens_groupOpening _ _ _ hi hopening)
  · exact shortens_bump.bind fun _ => .pure _
  · exact .after (fun _ _ _ h => by cases h; rfl) fun _ =>
      (shortens_setClass _).bind fun _ => .pure _
  · exact hquantifier _ _
  · exact hquantifier _ _
  · exact hquantifier _ _
  · exact .after (looks_repeated items) fun _ =>
      shortens_counts.bind (leaves_bracesAfter _ _ _)
  · exact shortens_primitive.bind fun _ => .pure _

end Reader

end Pattern
end Scenario
