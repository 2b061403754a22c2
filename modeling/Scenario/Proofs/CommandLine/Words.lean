import Mathlib.Data.List.TakeWhile
import Scenario.CommandLine.Arguments

/-!
# Words — how options and operands are written

A word is an argument, or two where a value stands apart from its option, and
gives some items: an option with its value, an operand, or the options of a
cluster (`Level.Word`). Words one after another are read one after another, and
their items are added to what was given before (`readLevel_words`).

Whatever is read is words. One step of reading ends, at an operand that the level
does not take or at a mark behind which there are only operands, or it reads a
word (`readLevel_step`).
-/

namespace Scenario
namespace CommandLine

variable {level : Level} {name : OptionName} {g g' given : Given}
variable {argument operand text value : String} {arguments lead rest : List String}

/-! ## Options by name -/

/-- A search by a name that only one thing has finds that thing, wherever it is. -/
theorem find?_beq_eq_some_iff {α β : Type} [BEq β] [LawfulBEq β] {f : α → β} {y : β}
    (hunique : ∀ a b, f a = y → f b = y → a = b) {xs : List α} {a : α} :
    xs.find? (fun x => f x == y) = some a ↔ a ∈ xs ∧ f a = y := by
  constructor
  · intro h
    exact ⟨List.mem_of_find?_eq_some h, eq_of_beq (List.find?_some (p := fun x => f x == y) h)⟩
  · rintro ⟨hmem, ha⟩
    obtain ⟨b, hb⟩ := Option.isSome_iff_exists.mp
      (List.find?_isSome (p := fun x => f x == y).mpr ⟨a, hmem, beq_iff_eq.mpr ha⟩)
    rw [hb, hunique a b ha (eq_of_beq (List.find?_some (p := fun x => f x == y) hb))]

namespace OptionName

theorem long_injective {a b : OptionName} (h : a.long = b.long) : a = b := by
  cases a <;> cases b <;> first | rfl | exact absurd h (by decide)

theorem short?_injective {a b : OptionName} {letter : Char} (ha : a.short? = some letter)
    (hb : b.short? = some letter) : a = b := by
  rw [← hb] at ha
  cases a <;> cases b <;> first | rfl | exact absurd ha (by decide) | cases hb

/-- Long names have no equals sign in them, and some other character. -/
theorem long_spec (name : OptionName) :
    '=' ∉ name.long.toList ∧ ∃ c cs, name.long.toList = c :: cs := by
  cases name <;> exact ⟨by decide, _, _, rfl⟩

/-- No short name is a hyphen. -/
theorem short?_ne_hyphen {letter : Char} (h : name.short? = some letter) : letter ≠ '-' := by
  cases name <;> cases h <;> decide

end OptionName

theorem Level.long?_eq_some_iff {cs : List Char} :
    level.long? cs = some name ↔ name ∈ level.options ∧ name.long.toList = cs :=
  find?_beq_eq_some_iff fun _ _ ha hb =>
    OptionName.long_injective (String.toList_inj.mp (ha.trans hb.symm))

theorem Level.short?_eq_some_iff {letter : Char} :
    level.short? letter = some name ↔ name ∈ level.options ∧ name.short? = some letter :=
  find?_beq_eq_some_iff fun _ _ => OptionName.short?_injective

theorem CommandName.text_injective {a b : CommandName} (h : a.text = b.text) : a = b := by
  cases a <;> cases b <;> first | rfl | exact absurd h (by decide)

theorem CommandName.ofText?_eq_some_iff {command : CommandName} :
    ofText? text = some command ↔ command.text = text := by
  rw [ofText?, find?_beq_eq_some_iff fun _ _ ha hb => text_injective (ha.trans hb.symm)]
  exact and_iff_right (by cases command <;> decide)

/-! ## Equals signs -/

/-- A text is cut at its first equals sign. -/
theorem span_equals {front : List Char} (h : '=' ∉ front) (back : List Char) :
    (front ++ '=' :: back).takeWhile (· ≠ '=') = front ∧
      (front ++ '=' :: back).dropWhile (· ≠ '=') = '=' :: back := by
  have hfront : ∀ c ∈ front, decide (c ≠ '=') = true := by
    intro c hc
    exact decide_eq_true fun heq => h (heq ▸ hc)
  rw [List.takeWhile_append_of_pos hfront, List.dropWhile_append_of_pos hfront]
  exact ⟨by simp, by simp⟩

/-- Without one it is not cut. -/
theorem dropWhile_equals_eq_nil {cs : List Char} (h : '=' ∉ cs) : cs.dropWhile (· ≠ '=') = [] := by
  rw [List.dropWhile_eq_nil_iff]
  exact fun c hc => decide_eq_true fun heq => h (heq ▸ hc)

theorem splitLong_append {front : List Char} (h : '=' ∉ front) (value : String) :
    splitLong (front ++ '=' :: value.toList) = (front, some value) := by
  obtain ⟨htake, hdrop⟩ := span_equals h value.toList
  rw [splitLong, hdrop]
  dsimp only
  rw [htake, String.ofList_toList]

theorem splitLong_of_not_mem {cs : List Char} (h : '=' ∉ cs) : splitLong cs = (cs, none) := by
  rw [splitLong, dropWhile_equals_eq_nil h]

/-- **A long option is a name, or a name, an equals sign and a value.** -/
theorem splitLong_cases (cs : List Char) :
    ('=' ∉ cs ∧ splitLong cs = (cs, none)) ∨
      ∃ front value, cs = front ++ '=' :: String.toList value ∧
        splitLong cs = (front, some value) := by
  by_cases h : '=' ∈ cs
  · obtain ⟨front, back, rfl, hfront⟩ := List.eq_append_cons_of_mem h
    refine .inr ⟨front, .ofList back, by rw [String.toList_ofList], ?_⟩
    have hsplit := splitLong_append hfront (.ofList back)
    rwa [String.toList_ofList] at hsplit
  · exact .inl ⟨h, splitLong_of_not_mem h⟩

/-! ## Words -/

/-- An option with its value, empty where it takes none, or an operand. -/
inductive Item where
  | option (name : OptionName) (value : String)
  | operand (text : String)
  deriving DecidableEq

/-- Options that are taken down at a level; the others settle the matter at
once. -/
structure Level.Takes (level : Level) (name : OptionName) : Prop where
  /-- The level understands it. -/
  known : name ∈ level.options
  /-- It does not ask for help. -/
  not_help : name ≠ .help
  /-- Nor for the version. -/
  not_version : name ≠ .version

/-- **A word of a level**, with the items that it gives. -/
inductive Level.Word (level : Level) : List Item → List String → Prop
  /-- An option with its value after an equals sign. -/
  | attached {name : OptionName} {value : String} : level.Takes name → name.takesValue = true →
      Word level [.option name value] ["--" ++ name.long ++ "=" ++ value]
  /-- An option with its value as the next argument. -/
  | apart {name : OptionName} {value : String} : level.Takes name → name.takesValue = true →
      looksLikeOption value = false → Word level [.option name value] ["--" ++ name.long, value]
  /-- An option without a value. -/
  | flag {name : OptionName} : level.Takes name → name.takesValue = false →
      Word level [.option name ""] ["--" ++ name.long]
  /-- Some of them by their short names. -/
  | cluster {names : List OptionName} {letters : List Char} : names ≠ [] →
      (∀ name ∈ names, level.Takes name) → names.map OptionName.short? = letters.map some →
      Word level (names.map (.option · "")) [.ofList ('-' :: letters)]
  /-- An operand. -/
  | operand {text : String} : looksLikeOption text = false → Word level [.operand text] [text]

/-- Words one after another. -/
inductive Level.Words (level : Level) : List Item → List String → Prop
  | nil : Words level [] []
  | cons {items more : List Item} {word arguments : List String} :
      level.Word items word → Words level more arguments →
      Words level (items ++ more) (word ++ arguments)

/-- One more item, if it can be given. -/
def Given.add? (level : Level) (g : Given) : Item → Option Given
  | .option name value => g.addOption name value
  | .operand text =>
    if g.operands.length < level.operands then some (g.addOperand text) else none

/-- Items one after another. -/
def Given.addAll? (level : Level) (g : Given) (items : List Item) : Option Given :=
  items.foldlM (Given.add? level) g

theorem Given.addAll?_append {items more : List Item} :
    g.addAll? level (items ++ more) = (g.addAll? level items).bind (·.addAll? level more) :=
  List.foldlM_append

@[simp] theorem Given.addAll?_nil : g.addAll? level [] = some g := rfl

@[simp] theorem Given.addAll?_singleton {item : Item} :
    g.addAll? level [item] = g.add? level item := by
  simp [addAll?]

theorem Given.addAll?_cons {item : Item} {items : List Item} :
    g.addAll? level (item :: items) = (g.add? level item).bind (·.addAll? level items) :=
  List.foldlM_cons

@[simp] theorem Given.operands_addOperand :
    (g.addOperand operand).operands = g.operands ++ [operand] := rfl

theorem Given.operands_foldl_addOperand {operands : List String} :
    (operands.foldl Given.addOperand g).operands = g.operands ++ operands := by
  induction operands generalizing g with
  | nil => simp
  | cons operand operands ih => simp [ih]

/-! ## Reading a word -/

/-- An option that is taken is added, and the rest is read. -/
theorem afterOption_of_addOption (htakes : level.Takes name)
    (hadd : g.addOption name value = some g') (next : Given → Outcome) : Outcome.afterOption g name value next = next g' := by
  unfold Outcome.afterOption
  split
  · exact absurd rfl htakes.not_help
  · exact absurd rfl htakes.not_version
  · rw [hadd]

/-- The shapes of an argument. -/
inductive Shape : String → Prop
  /-- The mark before the last operands. -/
  | mark : Shape "--"
  /-- A long option. -/
  | long {argument : String} {c : Char} {cs : List Char} :
      argument.toList = '-' :: '-' :: c :: cs → Shape argument
  /-- A cluster of short ones. -/
  | cluster {argument : String} {c : Char} {cs : List Char} :
      argument.toList = '-' :: c :: cs → c ≠ '-' → Shape argument
  /-- An operand. -/
  | operand {argument : String} : looksLikeOption argument = false → Shape argument

theorem shape (argument : String) : Shape argument := by
  cases hlist : argument.toList with
  | nil => exact .operand (by rw [looksLikeOption, hlist])
  | cons c cs =>
    by_cases hc : c = '-'
    · subst hc
      match cs with
      | [] => exact .operand (by rw [looksLikeOption, hlist]; rfl)
      | d :: ds =>
        by_cases hd : d = '-'
        · subst hd
          match ds with
          | [] =>
            have hmark : argument = "--" := String.toList_inj.mp hlist
            exact hmark ▸ .mark
          | e :: es => exact .long hlist
        · exact .cluster hlist hd
    · refine .operand ?_
      rw [looksLikeOption, hlist]
      split
      · next heq => exact absurd (List.cons.inj heq).1 hc
      · rfl

theorem readLevel_mark : readLevel level ("--" :: rest) g = readOperands level g rest := rfl

/-- A long option is looked up by its name. -/
theorem readLevel_long {c : Char} {cs : List Char} (h : argument.toList = '-' :: '-' :: c :: cs)
    (level : Level) (rest : List String) (g : Given) :
    readLevel level (argument :: rest) g =
      match level.long? (splitLong (c :: cs)).1 with
      | none => .refused
      | some option =>
        match option.takesValue, (splitLong (c :: cs)).2 with
        | false, none => Outcome.afterOption g option "" (readLevel level rest)
        | false, some _ => .refused
        | true, some value => Outcome.afterOption g option value (readLevel level rest)
        | true, none =>
          match rest with
          | [] => .refused
          | value :: more =>
            if looksLikeOption value then .refused
            else Outcome.afterOption g option value (readLevel level more) := by
  rw [readLevel.eq_def]
  dsimp only
  rw [h]
  rfl

theorem readLevel_cluster {c : Char} {cs : List Char} (h : argument.toList = '-' :: c :: cs)
    (hc : c ≠ '-') (level : Level) (rest : List String) (g : Given) :
    readLevel level (argument :: rest) g =
      readCluster level (readLevel level rest) (c :: cs) g := by
  rw [readLevel.eq_def]
  dsimp only
  rw [h]
  split
  -- the mark and the long options have a second hyphen
  · next heq => cases heq; exact absurd rfl hc
  · next heq => cases heq; exact absurd rfl hc
  · next heq => cases heq; rfl
  · next hne => exact absurd rfl (hne _ _)

theorem readLevel_operand (h : looksLikeOption argument = false) (level : Level)
    (rest : List String) (g : Given) :
    readLevel level (argument :: rest) g =
      if g.operands.length < level.operands then readLevel level rest (g.addOperand argument)
      else .stopped g argument rest := by
  rw [readLevel.eq_def]
  dsimp only
  unfold looksLikeOption at h
  split
  · next heq => rw [heq] at h; cases h
  · next heq => rw [heq] at h; cases h
  · next heq => rw [heq] at h; cases h
  · rfl

/-- A cluster is read letter by letter. -/
theorem readCluster_of_addAll? {names : List OptionName} {letters : List Char}
    (htakes : ∀ name ∈ names, level.Takes name)
    (hletters : names.map OptionName.short? = letters.map some)
    (hadd : g.addAll? level (names.map (.option · "")) = some g') (next : Given → Outcome) :
    readCluster level next letters g = next g' := by
  induction names generalizing letters g with
  | nil =>
    cases letters with
    | nil =>
      cases hadd
      rfl
    | cons letter letters => cases hletters
  | cons name names ih =>
    cases letters with
    | nil => cases hletters
    | cons letter letters =>
      obtain ⟨hletter, hmore⟩ := List.cons.inj hletters
      have hname := htakes name List.mem_cons_self
      rw [List.map_cons, Given.addAll?_cons] at hadd
      obtain ⟨more, hfirst, hothers⟩ := Option.bind_eq_some_iff.mp hadd
      rw [readCluster, Level.short?_eq_some_iff.mpr ⟨hname.known, hletter⟩]
      dsimp only
      rw [afterOption_of_addOption hname hfirst]
      exact ih (fun other hother => htakes other (List.mem_cons_of_mem _ hother)) hmore hothers

/-- An option with its value after an equals sign. -/
theorem readLevel_attached (hknown : name ∈ level.options) (value : String) (rest : List String)
    (g : Given) :
    readLevel level (("--" ++ name.long ++ "=" ++ value) :: rest) g =
      if name.takesValue then Outcome.afterOption g name value (readLevel level rest)
      else .refused := by
  obtain ⟨hequals, c, cs, hlong⟩ := name.long_spec
  have hlist : ("--" ++ name.long ++ "=" ++ value).toList =
      '-' :: '-' :: c :: (cs ++ '=' :: value.toList) := by simp [hlong]
  rw [readLevel_long hlist, ← List.cons_append, ← hlong, splitLong_append hequals]
  dsimp only
  rw [Level.long?_eq_some_iff.mpr ⟨hknown, rfl⟩]
  dsimp only
  cases name.takesValue <;> rfl

/-- An option by its long name only. -/
theorem readLevel_named (hknown : name ∈ level.options) (rest : List String) (g : Given) :
    readLevel level (("--" ++ name.long) :: rest) g =
      if name.takesValue then
        match rest with
        | [] => .refused
        | value :: more =>
          if looksLikeOption value then .refused
          else Outcome.afterOption g name value (readLevel level more)
      else Outcome.afterOption g name "" (readLevel level rest) := by
  obtain ⟨hequals, c, cs, hlong⟩ := name.long_spec
  have hlist : ("--" ++ name.long).toList = '-' :: '-' :: c :: cs := by simp [hlong]
  rw [readLevel_long hlist, ← hlong, splitLong_of_not_mem hequals]
  dsimp only
  rw [Level.long?_eq_some_iff.mpr ⟨hknown, rfl⟩]
  dsimp only
  cases name.takesValue <;> rfl

/-- **A word is read, and its items are added.** -/
theorem readLevel_word {items : List Item} {word : List String} (hword : level.Word items word)
    (hadd : g.addAll? level items = some g') (rest : List String) :
    readLevel level (word ++ rest) g = readLevel level rest g' := by
  cases hword with
  | @attached name value htakes hvalue =>
    rw [Given.addAll?_singleton] at hadd
    rw [List.singleton_append, readLevel_attached htakes.known, if_pos hvalue]
    exact afterOption_of_addOption htakes hadd _
  | @apart name value htakes hvalue hlooks =>
    rw [Given.addAll?_singleton] at hadd
    rw [List.cons_append, List.singleton_append, readLevel_named htakes.known, if_pos hvalue]
    dsimp only
    rw [hlooks]
    exact afterOption_of_addOption htakes hadd _
  | @flag name htakes hvalue =>
    rw [Given.addAll?_singleton] at hadd
    rw [List.singleton_append, readLevel_named htakes.known, hvalue]
    exact afterOption_of_addOption htakes hadd _
  | @cluster names letters hne htakes hletters =>
    obtain ⟨name, names, rfl⟩ := List.exists_cons_of_ne_nil hne
    cases letters with
    | nil => cases hletters
    | cons letter letters =>
      have hletter := (List.cons.inj hletters).1
      rw [List.singleton_append, readLevel_cluster String.toList_ofList
        (OptionName.short?_ne_hyphen hletter)]
      exact readCluster_of_addAll? htakes hletters hadd _
  | @operand text hlooks =>
    rw [Given.addAll?_singleton, Given.add?] at hadd
    obtain ⟨hlt, heq⟩ := Option.ite_none_right_eq_some.mp hadd
    cases heq
    rw [List.singleton_append, readLevel_operand hlooks, if_pos hlt]

/-- **And so are words one after another.** -/
theorem readLevel_words {items : List Item} (hwords : level.Words items lead)
    (hadd : g.addAll? level items = some g') (rest : List String) :
    readLevel level (lead ++ rest) g = readLevel level rest g' := by
  induction hwords generalizing g with
  | nil =>
    cases hadd
    rfl
  | cons hword _ ih =>
    rw [Given.addAll?_append] at hadd
    obtain ⟨more, hfirst, hothers⟩ := Option.bind_eq_some_iff.mp hadd
    rw [List.append_assoc, readLevel_word hword hfirst]
    exact ih hothers

/-! ## What was read are words -/

/-- The arguments of a level are read as far as it goes, and nothing is wrong
or settled before. -/
def Outcome.Succeeds : Outcome → Prop
  | .finished _ | .stopped _ _ _ => True
  | .refused | .help | .version => False

/-- An option has then been added. -/
theorem addOption_of_afterOption {next : Given → Outcome}
    (h : (Outcome.afterOption g name value next).Succeeds) : name ≠ .help ∧ name ≠ .version ∧
      ∃ g', g.addOption name value = some g' ∧ Outcome.afterOption g name value next = next g' := by
  unfold Outcome.afterOption at h ⊢
  split at h
  · exact h.elim
  · exact h.elim
  · next hhelp hversion =>
    split at h
    · next g' hadd => exact ⟨hhelp, hversion, g', hadd, rfl⟩
    · exact h.elim

/-- And all those of a cluster. -/
theorem addAll?_of_readCluster {next : Given → Outcome} {letters : List Char}
    (h : (readCluster level next letters g).Succeeds) : ∃ (names : List OptionName) (g' : Given),
      (∀ name ∈ names, level.Takes name) ∧ names.map OptionName.short? = letters.map some ∧
        g.addAll? level (names.map (.option · "")) = some g' ∧
          readCluster level next letters g = next g' := by
  induction letters generalizing g with
  | nil => exact ⟨[], g, by simp, rfl, rfl, rfl⟩
  | cons letter letters ih =>
    rw [readCluster] at h ⊢
    cases hshort : level.short? letter with
    | none =>
      rw [hshort] at h
      exact h.elim
    | some name =>
      rw [hshort] at h
      dsimp only at h ⊢
      obtain ⟨hknown, hletter⟩ := Level.short?_eq_some_iff.mp hshort
      obtain ⟨hhelp, hversion, more, hfirst, hafter⟩ := addOption_of_afterOption h
      rw [hafter] at h
      obtain ⟨names, g', htakes, hletters, hothers, hnext⟩ := ih h
      refine ⟨name :: names, g', ?_, by rw [List.map_cons, hletter, hletters, List.map_cons], ?_,
        hafter.trans hnext⟩
      · exact List.forall_mem_cons.mpr ⟨⟨hknown, hhelp, hversion⟩, htakes⟩
      · rw [List.map_cons, Given.addAll?_cons]
        exact Option.bind_eq_some_iff.mpr ⟨more, hfirst, hothers⟩

/-- **Where the reading of a level ends**, and what it comes to there. -/
inductive Level.Ends (level : Level) (g : Given) : List String → Outcome → Prop
  /-- Nothing is left to read. -/
  | done : Ends level g [] (.finished g)
  /-- What is left are operands, after a mark. -/
  | mark {operands : List String} {given : Given} :
      g.addAll? level (operands.map .operand) = some given →
      Ends level g ("--" :: operands) (.finished given)
  /-- There is an operand more than the level takes. -/
  | full {operand : String} {rest : List String} : looksLikeOption operand = false →
      level.operands ≤ g.operands.length → Ends level g (operand :: rest) (.stopped g operand rest)

/-- The operands after the mark are added, as far as the level takes them. -/
theorem readOperands_eq {operands : List String} (hg : g.operands.length ≤ level.operands) :
    readOperands level g operands =
      match g.addAll? level (operands.map .operand) with
      | some given => .finished given
      | none => .refused := by
  induction operands generalizing g with
  | nil => simp [readOperands, hg]
  | cons operand operands ih =>
    rw [List.map_cons, Given.addAll?_cons, Given.add?]
    by_cases hlt : g.operands.length < level.operands
    · have hmore : (g.addOperand operand).operands.length ≤ level.operands := by
        rw [Given.operands_addOperand, List.length_append]
        exact hlt
      rw [if_pos hlt, Option.bind_some, ← ih hmore]
      rfl
    · -- one operand too many, and those after it do not help
      rw [if_neg hlt, readOperands, if_neg ?_]
      · rfl
      · rw [Given.operands_foldl_addOperand, List.length_append, List.length_cons]
        omega

/-- **Reading begins with a word**, and goes on behind it. -/
def Level.ReadsWord (level : Level) (g : Given) (arguments : List String) : Prop :=
  ∃ items word rest g', arguments = word ++ rest ∧ word ≠ [] ∧ level.Word items word ∧
    g.addAll? level items = some g' ∧ readLevel level arguments g = readLevel level rest g'

/-- If it is a word for an option, nothing else can have been read. -/
theorem readsWord_of_afterOption {word : List String}
    (hword : level.Takes name → level.Word [.option name value] word) (hne : word ≠ [])
    (hknown : name ∈ level.options)
    (hread : readLevel level (word ++ rest) g =
      Outcome.afterOption g name value (readLevel level rest))
    (h : (readLevel level (word ++ rest) g).Succeeds) : level.ReadsWord g (word ++ rest) := by
  rw [hread] at h
  obtain ⟨hhelp, hversion, g', hadd, hafter⟩ := addOption_of_afterOption h
  refine ⟨_, word, rest, g', rfl, hne, hword ⟨hknown, hhelp, hversion⟩, ?_, hread.trans hafter⟩
  rwa [Given.addAll?_singleton]

theorem readsWord_of_long {c : Char} {cs : List Char}
    (hlist : argument.toList = '-' :: '-' :: c :: cs)
    (h : (readLevel level (argument :: rest) g).Succeeds) :
    level.ReadsWord g (argument :: rest) := by
  have hread := readLevel_long hlist level rest g
  cases hlong : level.long? (splitLong (c :: cs)).1 with
  | none =>
    rw [hread, hlong] at h
    exact h.elim
  | some name =>
    obtain ⟨hknown, hname⟩ := Level.long?_eq_some_iff.mp hlong
    rcases splitLong_cases (c :: cs) with ⟨-, hsplit⟩ | ⟨front, value, hcs, hsplit⟩
    · -- the name alone: whether the next argument belongs to it depends on the option
      rw [hsplit] at hname
      have hargument : argument = "--" ++ name.long := String.toList_inj.mp (by simp [hlist, hname])
      subst hargument
      have hnamed := readLevel_named hknown rest g
      cases hvalue : name.takesValue with
      | false =>
        rw [hvalue, if_neg Bool.false_ne_true] at hnamed
        exact readsWord_of_afterOption (.flag · hvalue) (by simp) hknown hnamed h
      | true =>
        rw [hvalue, if_pos rfl] at hnamed
        cases rest with
        | nil =>
          rw [hnamed] at h
          exact h.elim
        | cons value more =>
          dsimp only at hnamed
          cases hlooks : looksLikeOption value with
          | true =>
            rw [hnamed, hlooks] at h
            exact h.elim
          | false =>
            rw [hlooks, if_neg Bool.false_ne_true] at hnamed
            have hapart : level.Takes name →
                level.Word [.option name value] ["--" ++ name.long, value] :=
              (.apart · hvalue hlooks)
            exact readsWord_of_afterOption hapart (by simp) hknown hnamed h
    · -- the name and a value, so the option has to take one
      rw [hsplit] at hname
      have hargument : argument = "--" ++ name.long ++ "=" ++ value :=
        String.toList_inj.mp (by simp [hlist, hname, hcs])
      subst hargument
      have hattached := readLevel_attached hknown value rest g
      cases hvalue : name.takesValue with
      | false =>
        rw [hattached, hvalue] at h
        exact h.elim
      | true =>
        rw [hvalue, if_pos rfl] at hattached
        exact readsWord_of_afterOption (.attached · hvalue) (by simp) hknown hattached h

/-- **One step of reading**: it ends, or it reads a word. -/
theorem readLevel_step (hg : g.operands.length ≤ level.operands)
    (h : (readLevel level arguments g).Succeeds) :
    level.Ends g arguments (readLevel level arguments g) ∨ level.ReadsWord g arguments := by
  cases arguments with
  | nil => exact .inl .done
  | cons argument rest =>
    cases shape argument with
    | mark =>
      rw [readLevel_mark, readOperands_eq hg] at h ⊢
      cases hadd : g.addAll? level (rest.map .operand) with
      | none =>
        rw [hadd] at h
        exact h.elim
      | some given => exact .inl (.mark hadd)
    | long hlist => exact .inr (readsWord_of_long hlist h)
    | cluster hlist hc =>
      have hread := readLevel_cluster hlist hc level rest g
      rw [hread] at h
      obtain ⟨names, g', htakes, hletters, hadd, hnext⟩ := addAll?_of_readCluster h
      have hne : names ≠ [] := by
        rintro rfl
        cases hletters
      have hword := Level.Word.cluster hne htakes hletters
      rw [← hlist, String.ofList_toList] at hword
      exact .inr ⟨_, _, rest, g', rfl, by simp, hword, hadd, hread.trans hnext⟩
    | operand hlooks =>
      have hread := readLevel_operand hlooks level rest g
      by_cases hlt : g.operands.length < level.operands
      · rw [if_pos hlt] at hread
        refine .inr ⟨_, _, rest, _, rfl, by simp, .operand hlooks, ?_, hread⟩
        rw [Given.addAll?_singleton, Given.add?, if_pos hlt]
      · rw [hread, if_neg hlt]
        exact .inl (.full hlooks (Nat.le_of_not_lt hlt))

end CommandLine
end Scenario
