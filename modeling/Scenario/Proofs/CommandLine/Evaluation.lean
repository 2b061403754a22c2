import Scenario.CommandLine.Run
import Scenario.Pattern.Search
import Scenario.Proofs.CommandLine.Levels
import Scenario.Proofs.Matcher.Resumption
import Scenario.Proofs.Scope.Bindings

/-!
# Evaluation — asking for a verdict on the command line

A question is what an evaluation is asked with: an expression, a value or null,
variables, and a configuration file. `Question.Asked` says how it is written, and
the program takes these command lines, and no others, for a request to evaluate
(`ofArguments?_eq_evaluate_iff`).

A variable is a text that defines a name. The name ends at the first equals sign,
its last definition counts (`find?_ofList_bindings`), and it can be used as a
placeholder. The answer is the verdict of the matcher in the scope of these names,
or shows where the mistake is in an expression that cannot be read
(`answers_performEvaluate`).
-/

namespace Scenario
namespace CommandLine

variable {g : Given} {name value text expression : String} {given : Option String} {null : Bool}
variable {arguments : List String}

/-! ## Variables -/

/-- **A text defines a name**: up to the first equals sign it is the name, with
or without blank ends, which is not empty, and after it the value. -/
def Defines (text name value : String) : Prop :=
  ∃ raw : String, text = raw ++ "=" ++ value ∧ '=' ∉ raw.toList ∧ Text.trim raw = name ∧ name ≠ ""

/-- **The last definition of a name** among some texts. -/
def DefinesLast (definitions : List String) (name value : String) : Prop :=
  ∃ before text after, definitions = before ++ text :: after ∧ Defines text name value ∧
    ∀ later ∈ after, ∀ other, ¬ Defines later name other

theorem binding?_append {raw : String} (h : '=' ∉ raw.toList) (value : String) :
    binding? (raw ++ "=" ++ value) =
      if Text.trim raw = "" then none else some (Text.trim raw, value) := by
  have hlist : (raw ++ "=" ++ value).toList = raw.toList ++ '=' :: value.toList := by simp
  obtain ⟨htake, hdrop⟩ := span_equals h value.toList
  rw [binding?]
  dsimp only
  rw [hlist, hdrop]
  dsimp only
  rw [htake, String.ofList_toList, ← Text.trim]
  have hempty : (Text.trimmed raw.toList).isEmpty = true ↔ Text.trim raw = "" := by
    rw [List.isEmpty_iff, Text.trim, ← String.toList_inj, String.toList_ofList]
    rfl
  simp only [hempty]

theorem binding?_of_not_mem (h : '=' ∉ text.toList) : binding? text = none := by
  rw [binding?]
  dsimp only
  rw [dropWhile_equals_eq_nil h]

/-- **A variable is read as what it defines.** -/
theorem binding?_eq_some_iff : binding? text = some (name, value) ↔ Defines text name value := by
  constructor
  · intro h
    by_cases hmem : '=' ∈ text.toList
    · obtain ⟨front, back, heq, hfront⟩ := List.eq_append_cons_of_mem hmem
      have htext : text = .ofList front ++ "=" ++ .ofList back :=
        String.toList_inj.mp (by simp [heq])
      have hraw : '=' ∉ (String.ofList front).toList := by rwa [String.toList_ofList]
      rw [htext, binding?_append hraw] at h
      obtain ⟨hname, hsome⟩ := Option.ite_none_left_eq_some.mp h
      cases hsome
      exact ⟨_, htext, hraw, rfl, hname⟩
    · rw [binding?_of_not_mem hmem] at h
      cases h
  · rintro ⟨raw, rfl, hraw, rfl, hname⟩
    rw [binding?_append hraw, if_neg hname]

/-- **In the scope of some variables a name has the value that is defined last.** -/
theorem find?_ofList_bindings {definitions : List String} :
    (Scope.ofList (definitions.filterMap binding?)).find? name = some value ↔
      DefinesLast definitions name value := by
  rw [Scope.find?_ofList_eq_some_iff]
  have hnone : ∀ texts : List String, name ∉ (texts.filterMap binding?).map Prod.fst ↔
      ∀ later ∈ texts, ∀ other, ¬ Defines later name other := by
    intro texts
    simp only [List.mem_map, List.mem_filterMap, Prod.exists, ← binding?_eq_some_iff]
    constructor
    · exact fun h later hlater other hother => h ⟨name, other, ⟨later, hlater, hother⟩, rfl⟩
    · rintro h ⟨_, other, ⟨later, hlater, hother⟩, rfl⟩
      exact h later hlater other hother
  constructor
  · rintro ⟨before, after, heq, hnot⟩
    obtain ⟨front, back, rfl, -, hback⟩ := List.filterMap_eq_append_iff.mp heq
    obtain ⟨skipped, text, later, rfl, -, htext, rfl⟩ := List.filterMap_eq_cons_iff.mp hback
    exact ⟨front ++ skipped, text, later, by rw [List.append_assoc],
      binding?_eq_some_iff.mp htext, (hnone later).mp hnot⟩
  · rintro ⟨before, text, after, rfl, hdefines, hlater⟩
    refine ⟨before.filterMap binding?, after.filterMap binding?, ?_, (hnone after).mpr hlater⟩
    rw [List.filterMap_append, List.filterMap_cons_some (binding?_eq_some_iff.mpr hdefines)]

/-- **What some texts define has a last definition.** -/
theorem exists_definesLast {definitions : List String} (hmem : text ∈ definitions)
    (h : Defines text name value) : ∃ last, DefinesLast definitions name last := by
  induction definitions using List.reverseRecOn with
  | nil => cases hmem
  | append_singleton definitions final ih =>
    by_cases hfinal : ∃ last, Defines final name last
    · obtain ⟨last, hlast⟩ := hfinal
      exact ⟨last, definitions, final, [], rfl, hlast, fun _ hlater => nomatch hlater⟩
    · have hne : text ≠ final := fun heq => hfinal ⟨value, heq ▸ h⟩
      have hbefore : text ∈ definitions := by simpa [hne] using hmem
      obtain ⟨last, before, earlier, after, rfl, hearlier, hlater⟩ := ih hbefore
      refine ⟨last, before, earlier, after ++ [final], by simp, hearlier, fun later hmem' => ?_⟩
      rcases List.mem_append.mp hmem' with hold | hnew
      · exact hlater later hold
      · cases List.mem_singleton.mp hnew
        exact fun other hother => hfinal ⟨other, hother⟩

/-! ## Questions -/

/-- What is given at the level of the command poses an expression, and the value
it is asked about or that it is asked about null. -/
inductive Given.Poses (g : Given) : String → Option String → Bool → Prop
  /-- No value, but perhaps the option for null. -/
  | alone {expression : String} : g.operands = [expression] → Poses g expression none (g.has .null)
  /-- A value, by a second operand, and then not the option. -/
  | onValue {expression value : String} : g.operands = [expression, value] →
      g.has .null = false → Poses g expression (some value) false

/-- What an evaluation is asked with. -/
structure Question where
  /-- The name of the configuration file. -/
  config : Option String
  /-- The matcher expression. -/
  expression : String
  /-- The value it is evaluated on, if one is given. -/
  value : Option String
  /-- Whether it is evaluated on null. -/
  null : Bool
  /-- The variables, as their definitions are written. -/
  definitions : List String

/-- **The arguments ask a question**, and not for details: first valid options for
all commands, then the name of the command, and then what is valid for it. A
configuration file after the name counts more than one before it. -/
inductive Question.Asked : Question → List String → Prop
  | intro {items : List Item} {inner : Given} {lead rest : List String} {expression : String}
      {given : Option String} {null : Bool} :
      Level.outer.Words items lead → (Given.ofItems items).Valid .outer →
      (Level.ofCommand .evaluate).Gives inner rest → inner.Valid (.ofCommand .evaluate) →
      (Given.ofItems items).has .verbose = false → inner.has .verbose = false →
      inner.Poses expression given null →
      Asked ⟨(inner.value? .config).or ((Given.ofItems items).value? .config), expression, given,
        null, inner.values .binding⟩ (lead ++ CommandName.evaluate.text :: rest)

/-- The command is an evaluation exactly if one is posed. -/
theorem ofGiven?_eq_evaluate_iff {command : CommandName} {bindings : List (String × String)} :
    Command.ofGiven? command g = some (.evaluate expression given null bindings) ↔
      command = .evaluate ∧ g.Poses expression given null ∧
        bindings = (g.values .binding).filterMap binding? := by
  constructor
  · intro h
    unfold Command.ofGiven? at h
    split at h
    · cases h
    · next e hoperands =>
      cases h
      exact ⟨rfl, .alone hoperands, rfl⟩
    · next e v hoperands =>
      obtain ⟨hnull, hsome⟩ := Option.ite_none_left_eq_some.mp h
      cases hsome
      exact ⟨rfl, .onValue hoperands (Bool.eq_false_iff.mpr hnull), rfl⟩
    · split at h <;> cases h
    · cases h
  · rintro ⟨rfl, hposes, rfl⟩
    unfold Command.ofGiven?
    rcases hposes with hoperands | ⟨hoperands, hnull⟩
    · rw [hoperands]
    · rw [hoperands]
      dsimp only
      rw [hnull]
      rfl

/-- And a request for one is without details exactly if none are asked for at
either level. -/
theorem request_ofGiven?_eq_evaluate_iff {outer inner : Given} {command : CommandName}
    {config : Option String} {bindings : List (String × String)} :
    Request.ofGiven? outer command inner =
        some ⟨config, false, .evaluate expression given null bindings⟩ ↔
      command = .evaluate ∧ inner.Poses expression given null ∧
        bindings = (inner.values .binding).filterMap binding? ∧
          outer.has .verbose = false ∧ inner.has .verbose = false ∧
            config = (inner.value? .config).or (outer.value? .config) := by
  rw [Request.ofGiven?, Option.map_eq_some_iff]
  constructor
  · rintro ⟨c, hcommand, heq⟩
    obtain ⟨hconfig, hverbose, rfl⟩ := Request.mk.inj heq
    obtain ⟨rfl, hposes, hbindings⟩ := ofGiven?_eq_evaluate_iff.mp hcommand
    obtain ⟨houter, hinner⟩ := Bool.or_eq_false_iff.mp hverbose
    exact ⟨rfl, hposes, hbindings, houter, hinner, hconfig.symm⟩
  · rintro ⟨rfl, hposes, hbindings, houter, hinner, rfl⟩
    refine ⟨_, ofGiven?_eq_evaluate_iff.mpr ⟨rfl, hposes, hbindings⟩, ?_⟩
    rw [houter, hinner]
    rfl

/-- **The program takes exactly the command lines that ask a question for one.** -/
theorem ofArguments?_eq_evaluate_iff {config : Option String} {bindings : List (String × String)} :
    Invocation.ofArguments? arguments =
        some (.request ⟨config, false, .evaluate expression given null bindings⟩) ↔
      ∃ definitions, Question.Asked ⟨config, expression, given, null, definitions⟩ arguments ∧
        bindings = definitions.filterMap binding? := by
  constructor
  · intro h
    unfold Invocation.ofArguments? at h
    split at h
    · next outer operand rest houter =>
      obtain ⟨items, lead, rfl, hwords, rfl, hvalid, -, -⟩ := readLevel_eq_stopped_iff.mp houter
      split at h
      · -- help never makes a request
        unfold Invocation.ofHelpTopics? at h
        split at h
        · cases h
        · split at h <;> cases h
        · cases h
      · obtain ⟨command, hcommand, harguments⟩ := Option.bind_eq_some_iff.mp h
        unfold Invocation.ofCommandArguments? at harguments
        split at harguments
        · next inner hinner =>
          obtain ⟨r, hrequest, heq⟩ := Option.map_eq_some_iff.mp harguments
          cases heq
          obtain ⟨rfl, hposes, hbindings, hquiet, hquiet', rfl⟩ :=
            request_ofGiven?_eq_evaluate_iff.mp hrequest
          obtain ⟨hgives, hvalid'⟩ := readLevel_eq_finished_iff.mp hinner
          rw [CommandName.ofText?_eq_some_iff] at hcommand
          subst hcommand
          exact ⟨_, .intro hwords hvalid hgives hvalid' hquiet hquiet' hposes, hbindings⟩
        · cases harguments
        · cases harguments
        · cases harguments
        · cases harguments
    · cases h
    · cases h
    · cases h
    · cases h
  · rintro ⟨definitions, hasked, rfl⟩
    cases hasked with
    | @intro items inner lead rest _ _ _ hwords hvalid hgives hvalid' hquiet hquiet' hposes =>
      have houter : readLevel .outer (lead ++ CommandName.evaluate.text :: rest) .nothing =
          .stopped (.ofItems items) CommandName.evaluate.text rest :=
        readLevel_eq_stopped_iff.mpr
          ⟨items, lead, rfl, hwords, rfl, hvalid, by decide, Nat.zero_le _⟩
      have hinner := readLevel_eq_finished_iff.mpr ⟨hgives, hvalid'⟩
      have hrequest := request_ofGiven?_eq_evaluate_iff.mpr
        ⟨rfl, hposes, rfl, hquiet, hquiet', rfl⟩
      rw [Invocation.ofArguments?, houter]
      dsimp only
      rw [if_neg (by decide), CommandName.ofText?_eq_some_iff.mpr rfl, Option.bind_some,
        Invocation.ofCommandArguments?, hinner]
      dsimp only
      rw [hrequest, Option.map_some]

/-- Each variable of a question defines a name. -/
theorem Question.Asked.defines {q : Question} (h : q.Asked arguments) :
    ∀ text ∈ q.definitions, ∃ name value, Defines text name value := by
  intro text hmem
  cases h with
  | @intro _ inner _ _ _ _ _ _ _ _ hvalid _ _ _ =>
    obtain ⟨⟨option, definition⟩, hoption, rfl⟩ := List.mem_map.mp hmem
    obtain ⟨hgiven, hname⟩ := List.mem_filter.mp hoption
    cases eq_of_beq hname
    have hadmits := hvalid.admitted _ hgiven
    obtain ⟨⟨name, value⟩, hbinding⟩ := Option.isSome_iff_exists.mp hadmits
    exact ⟨name, value, binding?_eq_some_iff.mp hbinding⟩

/-- So a question that is asked makes a request, with what each of its variables
defines. -/
theorem Question.Asked.request {q : Question} (h : q.Asked arguments) :
    ∃ bindings, Invocation.ofArguments? arguments =
        some (.request ⟨q.config, false, .evaluate q.expression q.value q.null bindings⟩) ∧
      q.definitions.map binding? = bindings.map some := by
  have hdefined : ∀ text ∈ q.definitions, (binding? text).isSome = true := by
    intro text hmem
    obtain ⟨name, value, hdefines⟩ := h.defines text hmem
    rw [binding?_eq_some_iff.mpr hdefines]
    rfl
  refine ⟨_, ofArguments?_eq_evaluate_iff.mpr ⟨q.definitions, h, rfl⟩, ?_⟩
  rw [List.map_filterMap_some_eq_filter_map_isSome, List.filter_eq_self.mpr]
  simpa using hdefined

/-! ## Answers -/

/-- **The column of a place is the number of characters before it.** -/
theorem column_append (lead rest : String) :
    Report.column (lead ++ rest) lead.utf8ByteSize = lead.length := by
  have hle : lead.utf8ByteSize ≤ (lead ++ rest).utf8ByteSize := by
    rw [String.utf8ByteSize_append]
    exact Nat.le_add_right _ _
  rw [Report.column, Text.byteSize_toList, Nat.min_eq_left hle,
    Text.dropBytes_toList_eq_some_iff.mpr ⟨lead, by rw [String.ofList_toList], rfl⟩]
  dsimp only
  rw [String.toList_append, List.length_append, Nat.add_sub_cancel, String.length_toList]

section

variable [PatternLibrary]

theorem ofSource_eq_error_iff {e : Matcher.ParseError} :
    Matcher.ofSource expression = .error e ↔ Matcher.parse expression = .error e := by
  rw [Matcher.ofSource]
  cases Matcher.parse expression with
  | ok root => simp
  | error e' => simp

/-- **The answer to a question**, with the variables in a scope. -/
structure Output.Answers (output : Output) (q : Question) (scope : Scope) : Prop where
  /-- Nothing is written to standard output. -/
  out_eq : output.out = ""
  /-- The exit code is two exactly if the expression cannot be read. -/
  exit_eq_two_iff : output.exit = 2 ↔ ∃ e, Matcher.ofSource q.expression = .error e
  /-- Then there is an error, the expression, and under it a mark that has as many
  characters of the expression to the left as the place of the mistake. -/
  err_of_error : ∀ e, Matcher.ofSource q.expression = .error e → ∃ lead rest : String,
    q.expression = lead ++ rest ∧ lead.utf8ByteSize = e.position ∧
      output.err = Report.error e.message ++ ("    " ++ q.expression ++ "\n") ++
        ("    " ++ Report.blanks lead.length ++ Report.painted Report.boldRed "^" ++ "\n")
  /-- Otherwise it is the verdict of the matcher on null, if that is asked for, or on the
  value, which is the empty text if none is given. -/
  exit_of_ok : ∀ m, Matcher.ofSource q.expression = .ok m → output.exit =
    if m.accepts scope (if q.null then none else some (q.value.getD "")) then 0 else 1

/-- **An evaluation answers the question it is asked with.** -/
theorem answers_performEvaluate (q : Question) (bindings : List (String × String)) :
    (performEvaluate q.expression q.value q.null bindings).Answers q (Scope.ofList bindings) := by
  unfold performEvaluate
  cases hsource : Matcher.ofSource q.expression with
  | error e =>
    refine ⟨rfl, ⟨fun _ => ⟨e, hsource⟩, fun _ => rfl⟩, fun e' he' => ?_, fun m hm => ?_⟩
    · rw [hsource] at he'
      cases he'
      obtain ⟨lead, rest, hexpression, hposition⟩ :=
        Matcher.exists_append_of_parse_eq_error (ofSource_eq_error_iff.mp hsource)
      refine ⟨lead, rest, hexpression, hposition, ?_⟩
      have hmargin : Report.margin = "    " := by decide
      have hcolumn := column_append lead rest
      rw [← hexpression, hposition] at hcolumn
      dsimp only
      rw [Report.caret, hcolumn, hmargin]
      simp only [String.append_assoc]
      rfl
    · rw [hsource] at hm
      cases hm
  | ok m =>
    dsimp only
    refine ⟨rfl, ⟨fun hexit => ?_, fun ⟨e, he⟩ => ?_⟩, fun e he => ?_, fun m' hm' => ?_⟩
    · generalize m.accepts (Scope.ofList bindings) _ = passed at hexit
      cases passed <;> cases hexit
    · rw [hsource] at he
      cases he
    · rw [hsource] at he
      cases he
    · rw [hsource] at hm'
      cases hm'
      rfl

/-- **The program answers the questions that it is asked.** Let the arguments be a
request to evaluate, without details, an expression on a value or null, with the
variables that some texts define; and let the configuration be one that can be used,
or none. Then a run on the arguments answers the question, in the scope of the last
definitions of the variables. What a variable defines can be used there as a
placeholder, unless there is a closing brace in the name. -/
theorem run_answers (files : String → Option ByteArray) (q : Question)
    {bindings : List (String × String)}
    (hrequest : Invocation.ofArguments? arguments =
      some (.request ⟨q.config, false, .evaluate q.expression q.value q.null bindings⟩))
    (hbindings : q.definitions.map binding? = bindings.map some)
    (hconfig : ∀ file, q.config = some file →
      ∃ settings, Config.loadFile (files file) = .ok settings) :
    ∃ output scope, run files arguments = .finished output ∧ output.Answers q scope ∧
      (∀ name value, scope.get name = .ok value ↔ DefinesLast q.definitions name value) ∧
      ∀ text ∈ q.definitions, ∃ name value, Defines text name value ∧
        ∃ last, scope.get name = .ok last ∧
          ('}' ∉ name.toList → scope.fill ("$\x7b" ++ name ++ "\x7d") = last) := by
  have hfiltered : q.definitions.filterMap binding? = bindings := by
    have hsome := congrArg (List.filterMap id) hbindings
    simpa [List.filterMap_map] using hsome
  have hget : ∀ name value, (Scope.ofList bindings).get name = .ok value ↔
      DefinesLast q.definitions name value := by
    rw [← hfiltered]
    exact fun _ _ => Scope.get_eq_ok_iff.trans find?_ofList_bindings
  refine ⟨_, _, ?run, answers_performEvaluate q bindings, hget, ?reach⟩
  case run =>
    rw [run, hrequest]
    dsimp only
    cases hfile : q.config with
    | none => rfl
    | some file =>
      obtain ⟨settings, hload⟩ := hconfig file hfile
      rw [settingsOf]
      dsimp only
      rw [hload]
      rfl
  case reach =>
    intro text hmem
    have hbound : binding? text ∈ bindings.map some := by
      rw [← hbindings]
      exact List.mem_map_of_mem hmem
    obtain ⟨⟨name, value⟩, -, hbinding⟩ := List.mem_map.mp hbound
    have hdefines : Defines text name value := binding?_eq_some_iff.mp hbinding.symm
    obtain ⟨last, hlast⟩ := exists_definesLast hmem hdefines
    have hlookup := (hget name last).mpr hlast
    refine ⟨name, value, hdefines, last, hlookup, fun hbrace => ?_⟩
    obtain ⟨-, -, -, -, ⟨raw, -, -, htrim, -⟩, -⟩ := hlast
    have htrimmed : Text.trim name = name := by
      rw [← htrim, Text.trim, Text.trim, String.toList_ofList, Text.trimmed_trimmed]
    exact Scope.fill_reference hbrace (htrimmed.symm ▸ Scope.get_eq_ok_iff.mp hlookup)

end

/-! ## A question with a variable that is defined twice -/

/-- A configuration file is named before the command, and the value comes after a
mark. -/
def twiceDefined : List String :=
  ["--config", "empty", "match", "--var= x =1", "EqualTo(${x})", "--var", "x=2=3", "--", "2=3"]

/-- What is asked. -/
def twiceDefinedQuestion : Question :=
  ⟨some "empty", "EqualTo(${x})", some "2=3", false, [" x =1", "x=2=3"]⟩

theorem asked_twiceDefined : twiceDefinedQuestion.Asked twiceDefined := by
  have houter : Level.outer.Words [.option .config "empty"] ["--config", "empty"] :=
    .cons (.apart ⟨by decide, by decide, by decide⟩ rfl rfl) .nil
  have hinner : (Level.ofCommand .evaluate).Words
      [.option .binding " x =1", .operand "EqualTo(${x})", .option .binding "x=2=3"]
      ["--var= x =1", "EqualTo(${x})", "--var", "x=2=3"] :=
    .cons (.attached ⟨by decide, by decide, by decide⟩ rfl)
      (.cons (.operand rfl) (.cons (.apart ⟨by decide, by decide, by decide⟩ rfl rfl) .nil))
  have hgives : (Level.ofCommand .evaluate).Gives _
      (["--var= x =1", "EqualTo(${x})", "--var", "x=2=3"] ++ "--" :: ["2=3"]) := .marked hinner
  exact .intro houter (by decide) hgives (by decide) rfl rfl (.onValue rfl rfl)

/-- The value is that of the second definition, equals sign and all. -/
theorem run_answers_twiceDefined :
    Invocation.ofArguments? twiceDefined = some (.request ⟨some "empty", false,
        .evaluate "EqualTo(${x})" (some "2=3") false [("x", "1"), ("x", "2=3")]⟩) ∧
      Config.loadFile (some ByteArray.empty) = .ok .default ∧
      ∃ output, run (fun _ => some ByteArray.empty) twiceDefined = .finished output ∧
        output.out = "" ∧ output.exit = 0 := by
  have hload : Config.loadFile (some ByteArray.empty) = .ok .default := rfl
  have hbindings : twiceDefinedQuestion.definitions.filterMap binding? =
      [("x", "1"), ("x", "2=3")] := by decide
  have hrequest := ofArguments?_eq_evaluate_iff.mpr ⟨_, asked_twiceDefined, hbindings.symm⟩
  obtain ⟨output, scope, hrun, hanswers, hget, hdefined⟩ :=
    run_answers (fun _ => some ByteArray.empty) twiceDefinedQuestion hrequest (by decide)
      fun _ _ => ⟨_, hload⟩
  have hsource : Matcher.ofSource twiceDefinedQuestion.expression =
      .ok ⟨"EqualTo(${x})", .check .equalTo ["${x}"]⟩ := rfl
  have hvalue : scope.get "x" = .ok "2=3" := by
    refine (hget "x" "2=3").mpr ⟨[" x =1"], "x=2=3", [], rfl, ?_, nofun⟩
    exact binding?_eq_some_iff.mp (by decide)
  -- the name that the second text defines is the one with this value
  obtain ⟨name, value, hdefines, last, hlast, hfill⟩ := hdefined "x=2=3" (by decide)
  have hbinding : some ("x", "2=3") = some (name, value) := binding?_eq_some_iff.mpr hdefines
  obtain ⟨rfl, rfl⟩ := Prod.mk.inj (Option.some.inj hbinding)
  rw [hvalue] at hlast
  obtain rfl := Except.ok.inj hlast
  have hfilled : scope.fill "${x}" = "2=3" := hfill (by decide)
  have haccepts : (Matcher.mk "EqualTo(${x})" (.check .equalTo ["${x}"])).accepts scope
      (some "2=3") = true := by
    rw [Matcher.accepts, Matcher.Predicate.holds, List.map_singleton, hfilled]
    decide
  refine ⟨hrequest, hload, output, hrun, hanswers.out_eq, ?_⟩
  rw [hanswers.exit_of_ok _ hsource]
  exact if_pos haccepts

end CommandLine
end Scenario
