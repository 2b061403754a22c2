import Scenario.Proofs.Matcher.Acceptance

/-!
# Reading the canonical text back

The canonical text of a tree can be written whatever the tree is, so reading
it back shows what the reader checks: it returns the tree if every node is
sound, and otherwise objects to the first node that is not, where its name
begins.

`placed` lists the nodes in the order the reader finishes them, each with
the text before it. A reading *reports* some placed nodes (`Reports`) if it
fails at the first faulty one and is done if there is none; reports compose
as readings do (`Reports.andThen`), so the recursion over the tree only has
to say which nodes each reader stands for (`reports_readCall`).
-/

namespace Scenario
namespace Matcher

open Text (Blanks)

namespace Predicate

mutual

/-- The nodes of a tree with the text before each, children left to right
before their parent. The canonical text of the tree stands after `before`.
-/
def placed (before : List Char) : Predicate → List (List Char × Predicate)
  | check kind args => [(before, check kind args)]
  | combine kind parts =>
    placedAll (before ++ (kind.name.toList ++ ['('])) parts ++ [(before, combine kind parts)]

/-- The same for trees with commas between them. -/
def placedAll (before : List Char) : List Predicate → List (List Char × Predicate)
  | [] => []
  | p :: ps => p.placed before ++ placedAll (before ++ (p.written ++ [',', ' '])) ps

end

mutual

/-- Leaving the places out, these are the nodes in their order. -/
theorem map_snd_placed (before : List Char) :
    ∀ t : Predicate, (t.placed before).map Prod.snd = t.nodes
  | check kind args => rfl
  | combine kind parts => by
    rw [placed, List.map_append, map_snd_placedAll, nodes]
    rfl

theorem map_snd_placedAll (before : List Char) :
    ∀ ps : List Predicate, (placedAll before ps).map Prod.snd = nodesAll ps
  | [] => rfl
  | p :: ps => by
    rw [placedAll, List.map_append, map_snd_placed before p, map_snd_placedAll, nodesAll]

end

/-- A canonical text begins with the name at the root. -/
theorem exists_written_eq (t : Predicate) :
    ∃ (m : MatcherName) (items : List (List Char)), t.name = m.name ∧
      t.written = m.name.toList ++ '(' :: ([',', ' '].intercalate items ++ [')']) := by
  cases t with
  | check kind args =>
    exact ⟨.check kind, args.map fun arg => quoted arg.toList, rfl, by rw [written, call]; rfl⟩
  | combine kind parts =>
    exact ⟨.combinator kind, writtenAll parts, rfl, by rw [written, call]; rfl⟩

mutual

/-- **Where a node is placed, its canonical text stands.** -/
theorem written_of_mem_placed (before : List Char) : ∀ (t : Predicate) {lead : List Char}
    {node : Predicate}, (lead, node) ∈ t.placed before →
    ∃ behind, before ++ t.written = lead ++ (node.written ++ behind)
  | check kind args, lead, node, h => by
    obtain ⟨rfl, rfl⟩ := Prod.mk.inj (List.mem_singleton.mp h)
    exact ⟨[], by rw [List.append_nil]⟩
  | combine kind parts, lead, node, h => by
    rw [placed] at h
    rcases List.mem_append.mp h with h | h
    · -- among the parts, with the name and the parenthesis before them
      obtain ⟨behind, heq⟩ := written_of_mem_placedAll _ parts h
      refine ⟨behind ++ [')'], ?_⟩
      rw [← List.append_assoc node.written, ← List.append_assoc lead, ← heq, written, call]
      simp
    · obtain ⟨rfl, rfl⟩ := Prod.mk.inj (List.mem_singleton.mp h)
      exact ⟨[], by rw [List.append_nil]⟩

theorem written_of_mem_placedAll (before : List Char) : ∀ (ps : List Predicate)
    {lead : List Char} {node : Predicate}, (lead, node) ∈ placedAll before ps →
    ∃ behind, before ++ [',', ' '].intercalate (writtenAll ps) = lead ++ (node.written ++ behind)
  | [], _, _, h => nomatch h
  | [p], lead, node, h => by
    rw [placedAll, placedAll, List.append_nil] at h
    obtain ⟨behind, heq⟩ := written_of_mem_placed before p h
    exact ⟨behind, by rw [writtenAll, writtenAll, List.intercalate_singleton, heq]⟩
  | p :: q :: ps, lead, node, h => by
    rw [placedAll] at h
    have hsplit : before ++ [',', ' '].intercalate (writtenAll (p :: q :: ps)) =
        (before ++ (p.written ++ [',', ' '])) ++ [',', ' '].intercalate (writtenAll (q :: ps)) := by
      rw [writtenAll, writtenAll, List.intercalate_cons_cons, ← List.append_assoc]
    rcases List.mem_append.mp h with h | h
    · obtain ⟨behind, heq⟩ := written_of_mem_placed before p h
      refine ⟨behind ++ ([',', ' '] ++ [',', ' '].intercalate (writtenAll (q :: ps))), ?_⟩
      rw [hsplit, ← List.append_assoc before, heq]
      simp only [List.append_assoc]
    · rw [hsplit]
      exact written_of_mem_placedAll _ (q :: ps) h

end

end Predicate

namespace Grammar

theorem blanks_space : Blanks [' '] := by
  intro c hc
  rw [List.mem_singleton.mp hc]
  decide

/-- A written call is a head with its items in parentheses. -/
theorem call_append (name : String) (items : List (List Char)) (rest : List Char) :
    Predicate.call name items ++ rest =
      name.toList ++ ([] ++ '(' :: ([',', ' '].intercalate items ++ ')' :: rest)) := by
  rw [Predicate.call]
  simp

/-! ## Quoted arguments are derived -/

/-- What escaping writes is the inside of a quoted literal. -/
theorem quotedText_escaped (value : List Char) :
    QuotedText (value.flatMap Predicate.escaped) value := by
  induction value with
  | nil => exact .nil
  | cons c value ih =>
    rw [List.flatMap_cons, Predicate.escaped]
    split
    · next hc => exact .escaped hc ih
    · next hc =>
      obtain ⟨hq, he⟩ := not_or.mp hc
      exact .plain hq he ih

theorem literal_quoted (arg : String) (rest : List Char) :
    Literal (Predicate.quoted arg.toList ++ rest) arg rest := by
  rw [Predicate.quoted, List.cons_append, List.append_assoc]
  have h : Literal ('\'' :: (arg.toList.flatMap Predicate.escaped ++ '\'' :: rest))
      (.ofList arg.toList) rest := .quoted (quotedText_escaped arg.toList)
  rwa [String.ofList_toList] at h

/-- Quoted arguments with commas between them are a list of literals. -/
theorem separated_quoted (arg : String) (args : List String) (rest : List Char)
    {lead : List Char} (hl : Blanks lead) :
    Separated Literal (lead ++ ([',', ' '].intercalate ((arg :: args).map fun a =>
      Predicate.quoted a.toList) ++ ')' :: rest)) (arg :: args) rest := by
  induction args generalizing arg lead with
  | nil =>
    rw [List.map_cons, List.map_nil, List.intercalate_singleton]
    have hitem : Literal (Predicate.quoted arg.toList ++ ')' :: rest) arg ([] ++ ')' :: rest) :=
      literal_quoted arg _
    exact .last hl hitem Blanks.nil
  | cons next args ih =>
    have hnext := ih next blanks_space
    rw [List.map_cons, List.map_cons, List.intercalate_cons_cons, List.append_assoc,
      List.append_assoc]
    have hitem : ∀ more, Literal (Predicate.quoted arg.toList ++ ([',', ' '] ++ more)) arg
        ([] ++ ',' :: ([' '] ++ more)) := fun _ => literal_quoted arg _
    exact .more hl (hitem _) Blanks.nil hnext

/-- Written arguments are what stands between the parentheses of a call. -/
theorem bracketed_quoted (args : List String) (rest : List Char) :
    Bracketed Literal ([',', ' '].intercalate (args.map fun a => Predicate.quoted a.toList) ++
      ')' :: rest) args rest := by
  cases args with
  | nil => exact .none Blanks.nil
  | cons arg args =>
    refine .some (separated_quoted arg args rest Blanks.nil) fun blank more hb heq => ?_
    -- the list begins with a quote, which is neither blank nor a parenthesis
    obtain ⟨cs, hcs⟩ : ∃ cs, [',', ' '].intercalate ((arg :: args).map fun a =>
        Predicate.quoted a.toList) ++ ')' :: rest = '\'' :: cs := by
      cases args with
      | nil => exact ⟨_, by rw [List.map_cons, List.map_nil, List.intercalate_singleton]; rfl⟩
      | cons => exact ⟨_, by rw [List.map_cons, List.map_cons, List.intercalate_cons_cons]; rfl⟩
    have hskip := congrArg Text.skipBlank (hcs.symm.trans heq)
    rw [hb.skipBlank_append, Text.skipBlank_cons (by decide), Text.skipBlank_cons (by decide)]
      at hskip
    cases hskip

/-- No blanks stand before a canonical text. -/
theorem skipBlank_written (t : Predicate) (more : List Char) :
    Text.skipBlank (t.written ++ more) = t.written ++ more := by
  obtain ⟨m, items, -, ht⟩ := t.exists_written_eq
  rw [ht, List.append_assoc, skipBlank_name]

/-- Written predicates with commas between them: the first, and what follows
it up to the parenthesis and beyond. -/
theorem exists_intercalate_written (p : Predicate) (ps : List Predicate) (rest : List Char) :
    ∃ more, [',', ' '].intercalate (Predicate.writtenAll (p :: ps)) ++ ')' :: rest =
      p.written ++ more := by
  rw [Predicate.writtenAll]
  cases ps with
  | nil => exact ⟨_, by rw [Predicate.writtenAll, List.intercalate_singleton]⟩
  | cons q ps =>
    exact ⟨_, by
      rw [Predicate.writtenAll, List.intercalate_cons_cons, List.append_assoc, List.append_assoc]⟩

/-- A list of written predicates is not closed at once, so its reader reads
it. -/
theorem readItems_written {read : List Char → Reading (List Predicate)} (p : Predicate)
    (more : List Char) : readItems read (p.written ++ more) = read (p.written ++ more) := by
  rw [readItems_of_ne_blanks, skipBlank_written]
  intro blank behind hb h
  have hskip := congrArg Text.skipBlank h
  rw [skipBlank_written, hb.skipBlank_append, Text.skipBlank_cons (by decide)] at hskip
  obtain ⟨m, items, -, hp⟩ := p.exists_written_eq
  obtain ⟨c, name, hname⟩ := List.exists_cons_of_ne_nil (name_ne_nil m)
  have hc : isNameChar c = true := isNameChar_of_mem_name (m := m) (by rw [hname]; simp)
  rw [hp, hname, List.append_assoc, List.cons_append] at hskip
  obtain ⟨rfl, -⟩ := List.cons.inj hskip
  cases hc

end Grammar

/-! ## Readings that report nodes -/

variable [PatternLibrary]

/-- The first mistake at some placed nodes, with the text before the node.
-/
def firstMistake? (nodes : List (List Char × Predicate)) : Option (List Char × Mistake) :=
  nodes.findSome? fun e => e.2.mistake?.map fun mistake => (e.1, mistake)

theorem firstMistake?_append (ps qs : List (List Char × Predicate)) :
    firstMistake? (ps ++ qs) = (firstMistake? ps).or (firstMistake? qs) :=
  List.findSome?_append

/-- There is none exactly if all the nodes are sound. -/
theorem firstMistake?_eq_none_iff {nodes : List (List Char × Predicate)} :
    firstMistake? nodes = none ↔ ∀ e ∈ nodes, e.2.Sound := by
  rw [firstMistake?, List.findSome?_eq_none_iff]
  simp only [Option.map_eq_none_iff, Predicate.mistake?_eq_none_iff]

/-- And if there is one, it is the fault of a node after sound ones. -/
theorem exists_of_firstMistake? {nodes : List (List Char × Predicate)} {before : List Char}
    {mistake : Mistake} (h : firstMistake? nodes = some (before, mistake)) :
    ∃ sound node after, nodes = sound ++ (before, node) :: after ∧
      (∀ e ∈ sound, e.2.Sound) ∧ node.Fault mistake := by
  obtain ⟨sound, ⟨lead, node⟩, after, rfl, hsome, hnone⟩ := List.findSome?_eq_some_iff.mp h
  obtain ⟨m, hm, heq⟩ := Option.map_eq_some_iff.mp hsome
  cases heq
  refine ⟨sound, node, after, rfl, fun e he => ?_, Predicate.fault_of_mistake? hm⟩
  exact Predicate.mistake?_eq_none_iff.mp (Option.map_eq_none_iff.mp (hnone e he))

/-- **A reading of `text` reports some placed nodes** if it fails with the
first mistake at one of them, at the place of that node in the text, and if
without mistakes it is done. -/
def Reading.Reports {α : Type} (reading : Reading α) (text : List Char)
    (nodes : List (List Char × Predicate)) (value : α) (rest : List Char) : Prop :=
  match firstMistake? nodes with
  | none => reading = .done value rest
  | some (before, mistake) =>
    ∃ place unread, before ++ place = text ∧ reading = .failed mistake place unread

namespace Reading

variable {α β : Type} {text mid rest : List Char} {ps qs : List (List Char × Predicate)}

/-- **Reports compose as readings do.** -/
theorem Reports.andThen {r : Reading α} {next : α → List Char → Reading β} {a : α} {b : β}
    (h : r.Reports text ps a mid) (hnext : (next a mid).Reports text qs b rest) :
    (r.andThen next).Reports text (ps ++ qs) b rest := by
  unfold Reports at h ⊢
  rw [firstMistake?_append]
  cases hp : firstMistake? ps with
  | none =>
    rw [hp] at h
    rw [h, andThen_done, Option.none_or]
    exact hnext
  | some found =>
    rw [hp] at h
    obtain ⟨place, unread, hplace, rfl⟩ := h
    exact ⟨place, unread, hplace, rfl⟩

/-- What is made of the value does not matter. -/
theorem Reports.made {r : Reading α} {a : α} (h : r.Reports text ps a rest) (make : α → β) :
    (r.andThen fun value rest => done (make value) rest).Reports text ps (make a) rest := by
  rw [← List.append_nil ps]
  exact h.andThen rfl

/-- The check at the end of a call reports the node it makes. -/
theorem reports_checked {mistake? : α → Option Mistake} (make : α → Predicate) {value : α}
    (h : (make value).mistake? = mistake? value) (before place rest : List Char) :
    (checked mistake? place make value rest).Reports (before ++ place) [(before, make value)]
      (make value) rest := by
  unfold Reports firstMistake? checked
  rw [List.findSome?_singleton, h]
  cases mistake? value with
  | none => rfl
  | some mistake => exact ⟨place, rest, rfl, rfl⟩

end Reading

namespace Grammar

mutual

/-- **Reading a canonical text reports the nodes of its tree**, in whatever
text it stands, given as much fuel as there is text. -/
theorem reports_readCall : ∀ (t : Predicate) (before rest : List Char) (fuel : Nat),
    (t.written ++ rest).length < fuel →
    (readCall fuel (t.written ++ rest)).Reports (before ++ (t.written ++ rest)) (t.placed before)
      t rest
  | .check kind args, before, rest, fuel + 1, _ => by
    have hhead : (Predicate.check kind args).written ++ rest =
        (MatcherName.check kind).name.toList ++ ([] ++ '(' :: ([',', ' '].intercalate
          (args.map fun a => Predicate.quoted a.toList) ++ ')' :: rest)) := by
      rw [Predicate.written, call_append, MatcherName.name]
    rw [readCall, readHead_eq_done_iff.mpr ⟨[], Blanks.nil, hhead⟩, Reading.andThen_done]
    dsimp only
    rw [readItems_of_bracketed (bracketed_quoted args rest), Reading.andThen_done]
    exact Reading.reports_checked (.check kind) rfl before _ rest
  | .combine kind parts, before, rest, fuel + 1, hf => by
    have hhead : (Predicate.combine kind parts).written ++ rest =
        (MatcherName.combinator kind).name.toList ++ ([] ++ '(' :: ([',', ' '].intercalate
          (Predicate.writtenAll parts) ++ ')' :: rest)) := by
      rw [Predicate.written, call_append, MatcherName.name]
    rw [hhead] at hf
    have hlen := length_lt_of_head (.combinator kind) [] ([',', ' '].intercalate
      (Predicate.writtenAll parts) ++ ')' :: rest)
    rw [readCall, readHead_eq_done_iff.mpr ⟨[], Blanks.nil, hhead⟩, Reading.andThen_done]
    dsimp only
    -- the items report the parts, and the check at the end the node itself
    rw [Predicate.placed]
    refine Reading.Reports.andThen ?_ (Reading.reports_checked (.combine kind) rfl before _ rest)
    cases parts with
    | nil => exact readItems_of_blanks Blanks.nil rest
    | cons p ps =>
      have hitems := reports_readCalls (p :: ps) (List.cons_ne_nil p ps)
        (before ++ (kind.name.toList ++ ['('])) rest Blanks.nil fuel
        (by rw [List.nil_append]; omega)
      rw [List.nil_append, List.append_nil] at hitems
      obtain ⟨more, hmore⟩ := exists_intercalate_written p ps rest
      rw [hhead, hmore, readItems_written, ← hmore]
      simpa [MatcherName.name] using hitems

/-- And reading trees with commas between them, up to the parenthesis,
those of all of them. -/
theorem reports_readCalls : ∀ (ps : List Predicate), ps ≠ [] → ∀ (before rest : List Char)
    {lead : List Char}, Blanks lead → ∀ (fuel : Nat),
    (lead ++ ([',', ' '].intercalate (Predicate.writtenAll ps) ++ ')' :: rest)).length + 1 <
      fuel →
    (readCalls fuel (lead ++ ([',', ' '].intercalate (Predicate.writtenAll ps) ++
      ')' :: rest))).Reports
      (before ++ (lead ++ ([',', ' '].intercalate (Predicate.writtenAll ps) ++ ')' :: rest)))
      (Predicate.placedAll (before ++ lead) ps) ps rest
  | [], hne, _, _, _, _, _, _ => absurd rfl hne
  | [p], _, before, rest, lead, hl, fuel + 1, hf => by
    rw [Predicate.writtenAll, Predicate.writtenAll, List.intercalate_singleton] at hf ⊢
    rw [List.length_append] at hf
    have hpart := reports_readCall p (before ++ lead) (')' :: rest) fuel (by omega)
    rw [readCalls, hl.skipBlank_append, skipBlank_written, Predicate.placedAll,
      ← List.append_assoc before]
    refine hpart.andThen ?_
    have hsep : readSeparator (')' :: rest) = .done true rest :=
      readSeparator_closing Blanks.nil rest
    rw [hsep]
    rfl
  | p :: q :: ps, _, before, rest, lead, hl, fuel + 1, hf => by
    obtain ⟨next, hnext⟩ : ∃ next, next = [' '] ++ ([',', ' '].intercalate
      (Predicate.writtenAll (q :: ps)) ++ ')' :: rest) := ⟨_, rfl⟩
    have hsplit : [',', ' '].intercalate (Predicate.writtenAll (p :: q :: ps)) ++ ')' :: rest =
        p.written ++ ',' :: next := by
      rw [hnext, Predicate.writtenAll, Predicate.writtenAll, List.intercalate_cons_cons]
      simp
    rw [hsplit] at hf ⊢
    simp only [List.length_append, List.length_cons] at hf
    -- the first tree up to its comma, then the others from the space on
    have hpart := reports_readCall p (before ++ lead) (',' :: next) fuel
      (by simp only [List.length_append, List.length_cons]; omega)
    have hparts := reports_readCalls (q :: ps) (List.cons_ne_nil q ps)
      (before ++ lead ++ (p.written ++ [','])) rest blanks_space fuel
      (by rw [← hnext]; omega)
    rw [← hnext] at hparts
    rw [readCalls, hl.skipBlank_append, skipBlank_written, Predicate.placedAll,
      ← List.append_assoc before]
    refine hpart.andThen ?_
    have hsep : readSeparator (',' :: next) = .done false next :=
      readSeparator_comma Blanks.nil next
    rw [hsep, Reading.andThen_done, if_neg Bool.false_ne_true]
    have hmade := hparts.made (p :: ·)
    simpa using hmade

end

/-- **So does reading it as an expression.** -/
theorem reports_readExpression (t : Predicate) :
    (readExpression t.written).Reports t.written (t.placed []) t [] := by
  have hcall := reports_readCall t [] [] (t.written.length + 1)
    (by rw [List.append_nil]; exact Nat.lt_succ_self _)
  have hskip : Text.skipBlank t.written = t.written := by
    simpa using skipBlank_written t []
  rw [List.append_nil, List.nil_append] at hcall
  rw [readExpression, hskip, ← List.append_nil (t.placed [])]
  exact hcall.andThen rfl

end Grammar

namespace Predicate

/-- A tree is well-formed if its placed nodes are sound. -/
theorem wellFormed_iff_placed {t : Predicate} :
    t.WellFormed ↔ ∀ e ∈ t.placed [], e.2.Sound := by
  rw [WellFormed, ← map_snd_placed []]
  simp only [List.mem_map, forall_exists_index, and_imp, forall_apply_eq_imp_iff₂]

/-- **The first node that is not sound**, children before their parent, with
what is wrong with it and the part of the canonical text before it. -/
structure FirstFault (t : Predicate) (before : List Char) (node : Predicate)
    (mistake : Mistake) : Prop where
  /-- The nodes before it are sound. -/
  first : ∃ sound after, t.placed [] = sound ++ (before, node) :: after ∧
    ∀ e ∈ sound, e.2.Sound
  /-- The node itself is not. -/
  fault : node.Fault mistake
  /-- Its own canonical text stands after the part. -/
  stands : ∃ behind, t.text.toList = before ++ (node.written ++ behind)

theorem firstFault_of_firstMistake? {t : Predicate} {before : List Char} {mistake : Mistake}
    (h : firstMistake? (t.placed []) = some (before, mistake)) :
    ∃ node, t.FirstFault before node mistake := by
  obtain ⟨sound, node, after, hplaced, hsound, hfault⟩ := exists_of_firstMistake? h
  have hmem : (before, node) ∈ t.placed [] := by
    rw [hplaced]
    exact List.mem_append_right _ List.mem_cons_self
  obtain ⟨behind, hstands⟩ := t.written_of_mem_placed [] hmem
  refine ⟨node, ⟨sound, after, hplaced, hsound⟩, hfault, behind, ?_⟩
  rw [text, String.toList_ofList, ← hstands, List.nil_append]

end Predicate

/-- **The canonical text is parsed back exactly to well-formed trees.** Of
any other tree it is rejected for the first node that is not sound: for the
number of its arguments or for its pattern, at the byte where the text of
that node begins. -/
theorem parse_text (t : Predicate) :
    (parse t.text = .ok t ↔ t.WellFormed) ∧
      (¬ t.WellFormed → ∃ before node mistake, t.FirstFault before node mistake ∧
        (mistake.kind = .invalidArity ∨ mistake.kind = .invalidPattern) ∧
        parse t.text = .error ⟨mistake, Text.byteSize before⟩) := by
  have hreport := Grammar.reports_readExpression t
  rw [Predicate.wellFormed_iff_placed, ← firstMistake?_eq_none_iff]
  unfold Reading.Reports at hreport
  have hparse : parse t.text = (Parser.start t.text).next.1 := rfl
  rw [Parser.next, Parser.start, Predicate.text, String.toList_ofList] at hparse
  cases hfirst : firstMistake? (t.placed []) with
  | none =>
    rw [hfirst] at hreport
    rw [hreport] at hparse
    exact ⟨iff_of_true hparse rfl, fun h => absurd rfl h⟩
  | some found =>
    obtain ⟨before, mistake⟩ := found
    rw [hfirst] at hreport
    obtain ⟨place, unread, hplace, hread⟩ := hreport
    obtain ⟨node, hfault⟩ := Predicate.firstFault_of_firstMistake? hfirst
    have herror : parse t.text = .error ⟨mistake, Text.byteSize before⟩ := by
      have hoffset : Text.byteSize t.written - Text.byteSize place = Text.byteSize before := by
        rw [← hplace, Text.byteSize_append, Nat.add_sub_cancel]
      rw [hread] at hparse
      dsimp only [Parser.offsetOf] at hparse
      rw [Predicate.text, hparse, hoffset]
    refine ⟨iff_of_false ?_ (Option.some_ne_none _), fun _ => ?_⟩
    · rw [herror]
      simp only [reduceCtorEq, not_false_eq_true]
    · exact ⟨before, node, mistake, hfault, hfault.fault.kind, herror⟩

end Matcher
end Scenario
