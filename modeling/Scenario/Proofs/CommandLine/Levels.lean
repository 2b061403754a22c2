import Mathlib.Data.List.Induction
import Mathlib.Data.List.Nodup
import Scenario.Proofs.CommandLine.Words

/-!
# Levels — what the arguments of a level give

Items can be given one after another exactly if all of them together can
(`Given.addAll?_nothing_eq_some_iff`), which is a condition on options and
operands as a whole (`Given.Valid`). So a level is read to its end exactly if its
arguments are words, and operands after a mark, that give something valid
(`readLevel_eq_finished_iff`), and up to an operand exactly if the words before it
do (`readLevel_eq_stopped_iff`).
-/

namespace Scenario
namespace CommandLine

variable {level : Level} {name : OptionName} {g g' given : Given}
variable {operand value : String} {arguments rest : List String}

/-! ## What is given -/

/-- The option that an item is, with its value. -/
def Item.option? : Item → Option (OptionName × String)
  | .option name value => some (name, value)
  | .operand _ => none

/-- The operand that an item is. -/
def Item.operand? : Item → Option String
  | .option _ _ => none
  | .operand text => some text

namespace Given

/-- What some items give. -/
def ofItems (items : List Item) : Given :=
  ⟨items.filterMap Item.option?, items.filterMap Item.operand?⟩

/-- The options given that may be given only once. -/
def single (g : Given) : List OptionName :=
  (g.options.map Prod.fst).filter fun name => !name.repeatable

/-- **What can be given at a level.** -/
structure Valid (level : Level) (g : Given) : Prop where
  /-- Each option has a value that it admits. -/
  admitted : ∀ o ∈ g.options, o.1.admits o.2 = true
  /-- Only the repeatable one is given twice. -/
  once : g.single.Nodup
  /-- There are no more operands than the level takes. -/
  few : g.operands.length ≤ level.operands

instance : Decidable (g.Valid level) :=
  decidable_of_iff ((∀ o ∈ g.options, o.1.admits o.2 = true) ∧ g.single.Nodup ∧
    g.operands.length ≤ level.operands)
    ⟨fun ⟨hadmitted, honce, hfew⟩ => ⟨hadmitted, honce, hfew⟩, fun h => ⟨h.admitted, h.once, h.few⟩⟩

theorem valid_nothing : nothing.Valid level where
  admitted _ h := nomatch h
  once := List.nodup_nil
  few := Nat.zero_le _

theorem has_eq_true_iff : g.has name = true ↔ name ∈ g.options.map Prod.fst := by
  rw [has]
  induction g.options with
  | nil => simp
  | cons o options ih =>
    rw [List.lookup_cons, List.map_cons, List.mem_cons, ← ih]
    cases heq : name == o.1 with
    | true => simp [eq_of_beq heq]
    | false => simp [ne_of_beq_false heq]

/-- One more option may be given more than once, or was not given before. -/
theorem nodup_single_append : ({ g with options := g.options ++ [(name, value)] }).single.Nodup ↔
    g.single.Nodup ∧ (name.repeatable = true ∨ g.has name = false) := by
  rw [single, List.map_append, List.filter_append, ← single, List.map_singleton]
  cases hrepeatable : name.repeatable with
  | true => simp [hrepeatable]
  | false =>
    have hhas : g.has name = false ↔ name ∉ g.single := by
      rw [← Bool.not_eq_true, has_eq_true_iff, single, List.mem_filter]
      simp [hrepeatable]
    have hnew : [name].filter (fun name => !name.repeatable) = [name] := by simp [hrepeatable]
    rw [hnew, ← List.concat_eq_append, List.nodup_concat, hhas, and_comm]
    simp

/-- One more option keeps to the rules if it does itself. -/
theorem addOption_eq_some_iff (hg : g.Valid level) : g.addOption name value = some g' ↔
    g' = { g with options := g.options ++ [(name, value)] } ∧ g'.Valid level := by
  rw [addOption, Option.ite_none_right_eq_some, Option.some.injEq, Bool.and_eq_true,
    Bool.or_eq_true, Bool.not_eq_true']
  constructor
  · rintro ⟨⟨hadmits, honce⟩, rfl⟩
    refine ⟨rfl, fun o hmem => ?_, nodup_single_append.mpr ⟨hg.once, honce⟩, hg.few⟩
    rcases List.mem_append.mp hmem with hold | hnew
    · exact hg.admitted o hold
    · cases List.mem_singleton.mp hnew
      exact hadmits
  · rintro ⟨rfl, hvalid⟩
    have hadmits := hvalid.admitted (name, value) (by simp)
    exact ⟨⟨hadmits, (nodup_single_append.mp hvalid.once).2⟩, rfl⟩

/-- And so does one more item. -/
theorem add?_ofItems_eq_some_iff {items : List Item} {item : Item}
    (h : (ofItems items).Valid level) : (ofItems items).add? level item = some g' ↔
      g' = ofItems (items ++ [item]) ∧ g'.Valid level := by
  cases item with
  | option name value =>
    have hitems : ofItems (items ++ [.option name value]) =
        { ofItems items with options := (ofItems items).options ++ [(name, value)] } := by
      simp [ofItems, Item.option?, Item.operand?]
    rw [hitems, add?, addOption_eq_some_iff h]
  | operand text =>
    have hitems : ofItems (items ++ [.operand text]) = (ofItems items).addOperand text := by
      simp [ofItems, addOperand, Item.option?, Item.operand?]
    rw [hitems, add?, Option.ite_none_right_eq_some, Option.some.injEq, eq_comm (a := g')]
    constructor
    · rintro ⟨hlt, rfl⟩
      refine ⟨rfl, h.admitted, h.once, ?_⟩
      rw [operands_addOperand, List.length_append]
      exact hlt
    · rintro ⟨rfl, hvalid⟩
      have hle := hvalid.few
      rw [operands_addOperand, List.length_append] at hle
      exact ⟨hle, rfl⟩

/-- What is given of valid items is valid at each step. -/
theorem Valid.of_append {items more : List Item} (h : (ofItems (items ++ more)).Valid level) :
    (ofItems items).Valid level := by
  rw [ofItems, List.filterMap_append, List.filterMap_append] at h
  refine ⟨fun o hmem => h.admitted o (List.mem_append_left _ hmem), ?_, ?_⟩
  · have honce := h.once
    rw [single, List.map_append, List.filter_append] at honce
    exact (List.nodup_append.mp honce).1
  · refine Nat.le_trans ?_ h.few
    rw [List.length_append]
    exact Nat.le_add_right _ _

/-- **Items can be given one after another exactly if all of them can.** -/
theorem addAll?_nothing_eq_some_iff {items : List Item} :
    nothing.addAll? level items = some given ↔ given = ofItems items ∧ given.Valid level := by
  induction items using List.reverseRecOn generalizing given with
  | nil =>
    rw [addAll?_nil, Option.some.injEq, eq_comm]
    exact ⟨fun h => ⟨h, h ▸ valid_nothing⟩, And.left⟩
  | append_singleton items item ih =>
    rw [addAll?_append, Option.bind_eq_some_iff]
    constructor
    · rintro ⟨before, hbefore, hitem⟩
      obtain ⟨rfl, hvalid⟩ := ih.mp hbefore
      rw [addAll?_singleton] at hitem
      exact (add?_ofItems_eq_some_iff hvalid).mp hitem
    · rintro ⟨rfl, hvalid⟩
      have hbefore := hvalid.of_append
      refine ⟨_, ih.mpr ⟨rfl, hbefore⟩, ?_⟩
      rw [addAll?_singleton]
      exact (add?_ofItems_eq_some_iff hbefore).mpr ⟨rfl, hvalid⟩

end Given

/-! ## Reading a level -/

/-- **Reading goes from word to word** until it ends. -/
theorem exists_words_of_readLevel {items : List Item}
    (hg : Given.nothing.addAll? level items = some g) (h : (readLevel level arguments g).Succeeds) :
    ∃ more lead rest g', arguments = lead ++ rest ∧ level.Words more lead ∧
      Given.nothing.addAll? level (items ++ more) = some g' ∧
        level.Ends g' rest (readLevel level arguments g) := by
  -- on the number of arguments left, of which each word takes some
  induction hlen : arguments.length using Nat.strong_induction_on
    generalizing items g arguments with
  | _ n ih =>
    have hfew := (Given.addAll?_nothing_eq_some_iff.mp hg).2.few
    rcases readLevel_step hfew h with hends | ⟨first, word, rest, g', rfl, hne, hword, hadd, hread⟩
    · exact ⟨[], [], arguments, g, rfl, .nil, by rwa [List.append_nil], hends⟩
    · have hshorter : rest.length < n := by
        have hpos := List.length_pos_iff.mpr hne
        rw [List.length_append] at hlen
        omega
      have hg' : Given.nothing.addAll? level (items ++ first) = some g' := by
        rw [Given.addAll?_append, hg, Option.bind_some, hadd]
      rw [hread] at h
      obtain ⟨more, lead, last, g'', rfl, hwords, hall, hends⟩ := ih _ hshorter hg' h rfl
      refine ⟨first ++ more, word ++ lead, last, g'', (List.append_assoc ..).symm,
        .cons hword hwords, ?_, hread ▸ hends⟩
      rwa [← List.append_assoc]

/-- Where it ends it comes to what the end says. -/
theorem readLevel_of_ends {outcome : Outcome} (hg : g.operands.length ≤ level.operands)
    (h : level.Ends g rest outcome) : readLevel level rest g = outcome := by
  cases h with
  | done => rfl
  | mark hadd => rw [readLevel_mark, readOperands_eq hg, hadd]
  | full hlooks hle => rw [readLevel_operand hlooks, if_neg (Nat.not_lt_of_le hle)]

/-- **A level is read as far as it goes exactly if its words give something
valid**, and the rest ends it. -/
theorem readLevel_eq_iff {outcome : Outcome} (hsucceeds : outcome.Succeeds) :
    readLevel level arguments .nothing = outcome ↔ ∃ items lead rest, arguments = lead ++ rest ∧
      level.Words items lead ∧ (Given.ofItems items).Valid level ∧
        level.Ends (.ofItems items) rest outcome := by
  constructor
  · rintro rfl
    have hnothing : Given.nothing.addAll? level [] = some .nothing := Given.addAll?_nil
    obtain ⟨items, lead, rest, g', rfl, hwords, hall, hends⟩ :=
      exists_words_of_readLevel hnothing hsucceeds
    obtain ⟨rfl, hvalid⟩ := Given.addAll?_nothing_eq_some_iff.mp hall
    exact ⟨items, lead, rest, rfl, hwords, hvalid, hends⟩
  · rintro ⟨items, lead, rest, rfl, hwords, hvalid, hends⟩
    rw [readLevel_words hwords (Given.addAll?_nothing_eq_some_iff.mpr ⟨rfl, hvalid⟩)]
    exact readLevel_of_ends hvalid.few hends

/-- **What the arguments of a level give**, when they are all words, or words
with a mark and operands after them. -/
inductive Level.Gives (level : Level) : Given → List String → Prop
  /-- No mark. -/
  | words {items : List Item} {arguments : List String} : level.Words items arguments →
      Gives level (.ofItems items) arguments
  /-- Operands after a mark. -/
  | marked {items : List Item} {lead operands : List String} : level.Words items lead →
      Gives level (.ofItems (items ++ operands.map .operand)) (lead ++ "--" :: operands)

/-- **A level is read to its end exactly if its arguments give something
valid.** -/
theorem readLevel_eq_finished_iff : readLevel level arguments .nothing = .finished given ↔
    level.Gives given arguments ∧ given.Valid level := by
  rw [readLevel_eq_iff (show (Outcome.finished given).Succeeds from trivial)]
  constructor
  · rintro ⟨items, lead, rest, rfl, hwords, hvalid, hends⟩
    cases hends with
    | done =>
      rw [List.append_nil]
      exact ⟨.words hwords, hvalid⟩
    | mark hadd =>
      have hall := Given.addAll?_nothing_eq_some_iff.mpr ⟨rfl, hvalid⟩
      obtain ⟨rfl, hvalid'⟩ : given = .ofItems (items ++ _) ∧ given.Valid level := by
        rw [← Given.addAll?_nothing_eq_some_iff, Given.addAll?_append, hall]
        exact hadd
      exact ⟨.marked hwords, hvalid'⟩
  · rintro ⟨hgives, hvalid⟩
    cases hgives with
    | @words items _ hwords =>
      exact ⟨items, arguments, [], (List.append_nil _).symm, hwords, hvalid, .done⟩
    | @marked items lead operands hwords =>
      refine ⟨items, lead, _, rfl, hwords, hvalid.of_append, .mark ?_⟩
      have hall := Given.addAll?_nothing_eq_some_iff.mpr ⟨rfl, hvalid⟩
      rw [Given.addAll?_append,
        Given.addAll?_nothing_eq_some_iff.mpr ⟨rfl, hvalid.of_append⟩] at hall
      exact hall

/-- **And up to an operand exactly if the words before it do**, and as many
operands as the level takes are among them. -/
theorem readLevel_eq_stopped_iff :
    readLevel level arguments .nothing = .stopped given operand rest ↔
      ∃ items lead, arguments = lead ++ operand :: rest ∧ level.Words items lead ∧
        given = .ofItems items ∧ given.Valid level ∧ looksLikeOption operand = false ∧
          level.operands ≤ given.operands.length := by
  rw [readLevel_eq_iff (show (Outcome.stopped given operand rest).Succeeds from trivial)]
  constructor
  · rintro ⟨items, lead, last, rfl, hwords, hvalid, hends⟩
    cases hends with
    | full hlooks hle => exact ⟨items, lead, rfl, hwords, rfl, hvalid, hlooks, hle⟩
  · rintro ⟨items, lead, rfl, hwords, rfl, hvalid, hlooks, hle⟩
    exact ⟨items, lead, _, rfl, hwords, hvalid, .full hlooks hle⟩

end CommandLine
end Scenario
