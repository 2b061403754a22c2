import Mathlib.Data.List.Forall2
import Scenario.Proofs.Path.Suffix
import Scenario.Proofs.Path.Walk

/-!
# Pieces — an expression cut at its dots

The dots of an expression cut it into pieces. The first piece that begins
with the head of a call takes the rest of the expression with it; the pieces
before it are ordinary ones. `Splits` says so about the whole expression, and
`segments_eq_iff_splits` that this is what reading one segment after another
comes to.

The proofs go through a `Cut`, the ordinary pieces and what comes after
them. Every text has one (`exists_cut`), and the scanner follows it
(`Cut.scanAll_eq`): it passes over each ordinary piece with the dot behind
it, and stops at the call or after the last piece.
-/

namespace Scenario
namespace Path

/-! ## Calls -/

/-- A text begins with the head of a call in a language. -/
def Opens (language : Embedded) (cs : List Char) : Prop :=
  language.name.toList ++ ['('] <+: cs

/-- A text begins with the head of a call in some language. -/
def OpensCall (cs : List Char) : Prop := ∃ language, Opens language cs

variable {language : Embedded} {cs body rest piece : List Char} {before : List (List Char)}

theorem opens_iff : Opens language cs ↔ ∃ body, cs = language.name.toList ++ '(' :: body := by
  constructor
  · rintro ⟨body, rfl⟩
    exact ⟨body, by simp⟩
  · rintro ⟨body, rfl⟩
    exact ⟨body, by simp⟩

/-- The heads of two languages are never mistaken for each other. -/
theorem call_inj {language' : Embedded} {body' : List Char}
    (h : language.name.toList ++ '(' :: body = language'.name.toList ++ '(' :: body') :
    language = language' ∧ body = body' := by
  cases language <;> cases language' <;> simp_all [Embedded.name]

/-- **The reader finds the head of a call exactly where there is one.** -/
theorem opening?_eq_some_iff :
    Embedded.opening? cs = some (language, body) ↔ cs = language.name.toList ++ '(' :: body := by
  have hafter : ∀ (l : Embedded) (more : List Char),
      Text.after? (l.name.toList ++ ['(']) cs = some more ↔ cs = l.name.toList ++ '(' :: more := by
    intro l more
    rw [Text.after?_eq_some_iff, List.append_assoc, List.singleton_append]
  constructor
  · intro h
    obtain ⟨l, -, hl⟩ := List.exists_of_findSome?_eq_some h
    obtain ⟨more, hmore, heq⟩ := Option.map_eq_some_iff.mp hl
    cases heq
    exact (hafter language body).mp hmore
  · intro h
    rw [Embedded.opening?]
    cases hopen : Embedded.all.findSome? fun l =>
        (Text.after? (l.name.toList ++ ['(']) cs).map (l, ·) with
    | none =>
      have hall : language ∈ Embedded.all := by cases language <;> simp [Embedded.all]
      have hnone := List.findSome?_eq_none_iff.mp hopen language hall
      rw [(hafter language body).mpr h] at hnone
      cases hnone
    | some found =>
      obtain ⟨l, -, hl⟩ := List.exists_of_findSome?_eq_some hopen
      obtain ⟨more, hmore, rfl⟩ := Option.map_eq_some_iff.mp hl
      -- whatever language is tried first, only one of them can be found
      obtain ⟨hl, hbody⟩ := call_inj (h.symm.trans ((hafter l more).mp hmore))
      rw [hl, hbody]

theorem opening?_eq_none_iff : Embedded.opening? cs = none ↔ ¬ OpensCall cs := by
  constructor
  · rintro h ⟨language, hopens⟩
    obtain ⟨body, hcs⟩ := opens_iff.mp hopens
    rw [opening?_eq_some_iff.mpr hcs] at h
    cases h
  · intro h
    cases hopen : Embedded.opening? cs with
    | none => rfl
    | some found =>
      have hcs := opening?_eq_some_iff.mp hopen
      exact absurd ⟨found.1, opens_iff.mpr ⟨found.2, hcs⟩⟩ h

instance : DecidablePred OpensCall := fun cs =>
  decidable_of_iff (Embedded.opening? cs ≠ none) (by rw [Ne, opening?_eq_none_iff, not_not])

/-- **The text of a call**, from what follows the opening parenthesis: up to
the last closing one. -/
inductive CallText (body : List Char) : List Char → Prop
  /-- What stands after the last closing parenthesis is left out. -/
  | closed {content tail : List Char} : body = content ++ ')' :: tail → ')' ∉ tail →
      CallText body content
  /-- If there is none, the text goes on to the end. -/
  | unclosed : ')' ∉ body → CallText body body

theorem callText_eq_iff {content : List Char} :
    callText body = content ↔ CallText body content := by
  have hread : CallText body (callText body) := by
    rw [callText]
    split
    · next content tail hsplit =>
      obtain ⟨hbody, htail⟩ := Text.splitLast?_eq_some_iff.mp hsplit
      exact .closed hbody htail
    · next hsplit => exact .unclosed (Text.splitLast?_eq_none_iff.mp hsplit)
  refine ⟨fun h => h ▸ hread, fun h => ?_⟩
  cases h with
  | closed hbody htail => rw [callText, hbody, Text.splitLast?_append htail]
  | unclosed hbody => rw [callText, Text.splitLast?_eq_none_iff.mpr hbody]

/-! ## Pieces -/

/-- The texts between the dots of an expression. -/
def pieces (expression : String) : List (List Char) := expression.toList.splitOn '.'

/-- A piece that is read by itself: it has no dots and opens no call. -/
def Plain (piece : List Char) : Prop := '.' ∉ piece ∧ ¬ OpensCall piece

/-- Between two dots there is none. -/
theorem not_mem_of_mem_splitOn (cs : List Char) : ∀ p ∈ cs.splitOn '.', '.' ∉ p := by
  induction cs with
  | nil => simp
  | cons c cs ih =>
    rw [List.splitOn_cons_eq_if_modifyHead]
    split
    · intro p hp
      rcases List.mem_cons.mp hp with rfl | hp
      · exact List.not_mem_nil
      · exact ih p hp
    · next hc =>
      obtain ⟨first, more, hsplit⟩ := List.exists_cons_of_ne_nil (List.splitOn_ne_nil '.' cs)
      rw [hsplit] at ih ⊢
      intro p hp
      rcases List.mem_cons.mp hp with rfl | hp
      · rw [List.mem_cons, not_or]
        exact ⟨fun h => hc (by rw [← h]; rfl), ih first (by simp)⟩
      · exact ih p (by simp [hp])

/-- Joined texts have the separator behind them, up to any of them. -/
theorem intercalate_append_cons (d : Char) (before after : List (List Char)) (p : List Char) :
    [d].intercalate (before ++ p :: after) =
      before.flatMap (· ++ [d]) ++ [d].intercalate (p :: after) := by
  induction before with
  | nil => rfl
  | cons q before ih =>
    rw [List.cons_append, List.intercalate_cons_of_ne_nil (by simp), ih, List.flatMap_cons]
    simp only [List.append_assoc]

/-- And the first of them at the beginning. -/
theorem prefix_intercalate (d : Char) (p : List Char) (after : List (List Char)) :
    p <+: [d].intercalate (p :: after) := by
  cases after with
  | nil => exact ⟨[], by rw [List.append_nil, List.intercalate_singleton]⟩
  | cons q after =>
    rw [List.intercalate_cons_cons, List.append_assoc]
    exact List.prefix_append _ _

/-- Pieces with dots behind them are cut off one by one. -/
theorem splitOn_flatMap_append (h : ∀ p ∈ before, '.' ∉ p) (rest : List Char) :
    (before.flatMap (· ++ ['.']) ++ rest).splitOn '.' = before ++ rest.splitOn '.' := by
  induction before with
  | nil => rfl
  | cons p before ih =>
    have hp : '.' ∉ p := h p (by simp)
    rw [List.flatMap_cons, List.append_assoc, List.append_assoc, List.singleton_append,
      List.splitOn_append_cons_self_of_not_mem hp, ih fun q hq => h q (by simp [hq]),
      List.cons_append]

/-- Neither a dot nor an opening bracket is in the head of a call. -/
theorem not_mem_head (language : Embedded) :
    '.' ∉ language.name.toList ++ ['('] ∧ '[' ∉ language.name.toList ++ ['('] := by
  cases language <;> decide

/-- What follows a character that is in no head does not matter to the calls
that a text opens. -/
theorem opens_append_cons {d : Char} (hd : d ∉ language.name.toList ++ ['('])
    (piece rest : List Char) : Opens language (piece ++ d :: rest) ↔ Opens language piece := by
  refine ⟨fun hopens => ?_, fun hopens => hopens.trans (List.prefix_append _ _)⟩
  rcases List.prefix_or_prefix_of_prefix hopens (List.prefix_append piece _) with hp | ⟨more, hmore⟩
  · exact hp
  · cases more with
    | nil =>
      rw [List.append_nil] at hmore
      exact hmore ▸ List.prefix_rfl
    | cons c more =>
      -- otherwise the head goes on beyond the character
      rw [Opens, ← hmore, List.prefix_append_right_inj] at hopens
      obtain ⟨rfl, -⟩ := List.cons_prefix_cons.mp hopens
      exact absurd (by rw [← hmore]; simp) hd

/-- The first piece of a text that opens a call opens it. -/
theorem exists_splitOn_call (language : Embedded) (body : List Char) :
    ∃ p after, (language.name.toList ++ '(' :: body).splitOn '.' = p :: after ∧
      Opens language p := by
  obtain ⟨p, after, hsplit⟩ := List.exists_cons_of_ne_nil
    (List.splitOn_ne_nil '.' (language.name.toList ++ '(' :: body))
  refine ⟨p, after, hsplit, ?_⟩
  have hjoin : ['.'].intercalate ((language.name.toList ++ '(' :: body).splitOn '.') =
      language.name.toList ++ '(' :: body := List.intercalate_splitOn '.'
  rw [hsplit] at hjoin
  have hopens := opens_iff.mpr ⟨body, hjoin⟩
  cases after with
  | nil => rwa [List.intercalate_singleton] at hopens
  | cons q after =>
    rw [List.intercalate_cons_cons, List.append_assoc, List.singleton_append] at hopens
    exact (opens_append_cons (not_mem_head language).1 p _).mp hopens

/-! ## Cuts -/

/-- **The cut of a text at its first call**: the pieces before the call, and
the call, if there is one. Without a call the text is all its pieces. -/
inductive Cut (cs : List Char) (before : List (List Char)) : Option (Embedded × List Char) → Prop
  /-- There is no call. -/
  | whole : (∀ p ∈ before, Plain p) → before ≠ [] → cs = ['.'].intercalate before →
      Cut cs before none
  /-- There is one, and what follows its head is the rest of the text. -/
  | call {language : Embedded} {body : List Char} : (∀ p ∈ before, Plain p) →
      cs = before.flatMap (· ++ ['.']) ++ (language.name.toList ++ '(' :: body) →
      Cut cs before (some (language, body))

/-- **Every text has a cut.** -/
theorem exists_cut (cs : List Char) : ∃ before call, Cut cs before call := by
  have hdots := not_mem_of_mem_splitOn cs
  have hjoin : ['.'].intercalate (cs.splitOn '.') = cs := List.intercalate_splitOn '.'
  cases hfind : (cs.splitOn '.').find? fun p => decide (OpensCall p) with
  | none =>
    have hnone := List.find?_eq_none.mp hfind
    refine ⟨cs.splitOn '.', none, .whole (fun p hp => ⟨hdots p hp, ?_⟩)
      (List.splitOn_ne_nil _ _) hjoin.symm⟩
    simpa using hnone p hp
  | some p =>
    obtain ⟨hp, before, after, hsplit, hbefore⟩ := List.find?_eq_some_iff_append.mp hfind
    obtain ⟨language, hopens⟩ := of_decide_eq_true hp
    -- the call goes on beyond its piece, over all that comes after it
    rw [hsplit, intercalate_append_cons] at hjoin
    obtain ⟨body, hbody⟩ := opens_iff.mp (hopens.trans (prefix_intercalate '.' p after))
    refine ⟨before, some (language, body), .call (fun q hq => ⟨hdots q ?_, ?_⟩) ?_⟩
    · rw [hsplit]
      exact List.mem_append_left _ hq
    · simpa using hbefore q hq
    · rw [← hjoin, hbody]

/-- The pieces before the call are plain. -/
theorem Cut.plain {call : Option (Embedded × List Char)} (h : Cut cs before call) :
    ∀ p ∈ before, Plain p := by
  cases h with
  | whole hplain _ _ => exact hplain
  | call hplain _ => exact hplain

/-- Without a call the pieces of a text are those of its cut. -/
theorem Cut.splitOn_eq (h : Cut cs before none) : cs.splitOn '.' = before := by
  cases h with
  | whole hplain hne hcs =>
    rw [hcs, List.splitOn_intercalate '.' (fun p hp => (hplain p hp).1) hne]

/-- With one they go on with a piece that opens it. -/
theorem Cut.exists_splitOn_eq (h : Cut cs before (some (language, body))) :
    ∃ p after, cs.splitOn '.' = before ++ p :: after ∧ Opens language p := by
  cases h with
  | call hplain hcs =>
    obtain ⟨p, after, hsplit, hopens⟩ := exists_splitOn_call language body
    refine ⟨p, after, ?_, hopens⟩
    rw [hcs, splitOn_flatMap_append fun q hq => (hplain q hq).1, hsplit]

/-! ## Scanning along a cut -/

/-- A dot is passed over. -/
theorem scan_dot (cs : List Char) : scan ('.' :: cs) = scan cs := by
  rw [scan, if_pos rfl]

theorem scanAll_dot (cs : List Char) : scanAll ('.' :: cs) = scanAll cs := by
  cases h : scan cs with
  | none =>
    rw [scanAll_of_scan_eq_none h, scanAll_of_scan_eq_none (by rw [scan_dot, h])]
  | some found =>
    obtain ⟨s, rest⟩ := found
    rw [scanAll_of_scan_eq_some h, scanAll_of_scan_eq_some (by rw [scan_dot, h])]

/-- The segment of a call. -/
def callSegment (call : Embedded × List Char) : Segment :=
  ⟨.ofList (callText call.2), -1, some call.1⟩

/-- **A call is the last segment.** -/
theorem scanAll_call (language : Embedded) (body : List Char) :
    scanAll (language.name.toList ++ '(' :: body) = [callSegment (language, body)] := by
  have hscan : scan (language.name.toList ++ '(' :: body) =
      some (callSegment (language, body), []) := by
    have hopen := opening?_eq_some_iff.mpr (Eq.refl (language.name.toList ++ '(' :: body))
    obtain ⟨c, name, hname⟩ : ∃ c name, language.name.toList = c :: name ∧ c ≠ '.' := by
      cases language <;> simp [Embedded.name]
    rw [hname.1, List.cons_append] at hopen ⊢
    rw [scan, if_neg hname.2, hopen]
    rfl
  rw [scanAll_of_scan_eq_some hscan, scanAll_nil]

/-- A piece is scanned as far as it goes: to the end of the text, or to a
dot, which is passed over. -/
theorem scan_piece (hp : Plain piece) (hne : piece ≠ [])
    (hrest : rest = [] ∨ ∃ more, rest = '.' :: more) :
    scan (piece ++ rest) = some (.ofPiece piece, rest.drop 1) := by
  obtain ⟨hdots, hcall⟩ := hp
  have hopen : ¬ OpensCall (piece ++ rest) := by
    rintro ⟨language, hopens⟩
    refine hcall ⟨language, ?_⟩
    rcases hrest with rfl | ⟨more, rfl⟩
    · rwa [List.append_nil] at hopens
    · exact (opens_append_cons (not_mem_head language).1 piece more).mp hopens
  have hstop : rest.takeWhile (· ≠ '.') = [] ∧ rest.dropWhile (· ≠ '.') = rest := by
    rcases hrest with rfl | ⟨more, rfl⟩ <;> simp
  cases piece with
  | nil => exact absurd rfl hne
  | cons c cs =>
    rw [List.mem_cons, not_or] at hdots
    have hrun : ∀ a ∈ cs, decide (a ≠ '.') = true := fun a ha =>
      decide_eq_true fun heq => hdots.2 (heq ▸ ha)
    rw [List.cons_append] at hopen ⊢
    rw [scan, if_neg (Ne.symm hdots.1), opening?_eq_none_iff.mpr hopen]
    simp only [List.takeWhile_append_of_pos hrun, List.dropWhile_append_of_pos hrun, hstop,
      List.append_nil]

/-- **Pieces before dots give their segments**, the empty ones none. -/
theorem scanAll_flatMap_append (h : ∀ p ∈ before, Plain p) (rest : List Char) :
    scanAll (before.flatMap (· ++ ['.']) ++ rest) =
      (before.filter (· ≠ [])).map .ofPiece ++ scanAll rest := by
  induction before with
  | nil => rfl
  | cons p before ih =>
    have hbefore := ih fun q hq => h q (by simp [hq])
    rw [List.flatMap_cons, List.append_assoc, List.append_assoc, List.singleton_append]
    by_cases hne : p = []
    · rw [hne, List.nil_append, scanAll_dot, hbefore, List.filter_cons_of_neg (by simp)]
    · have hscan := scan_piece (h p (by simp)) hne (.inr ⟨before.flatMap (· ++ ['.']) ++ rest, rfl⟩)
      rw [scanAll_of_scan_eq_some hscan, List.drop_one, List.tail_cons, hbefore,
        List.filter_cons_of_pos (by simpa using hne)]
      rfl

/-- And so does the last piece. -/
theorem scanAll_piece (hp : Plain piece) :
    scanAll piece = ([piece].filter (· ≠ [])).map .ofPiece := by
  by_cases hne : piece = []
  · rw [hne, scanAll_nil]
    rfl
  · have hscan := scan_piece hp hne (.inl rfl)
    rw [List.append_nil] at hscan
    rw [scanAll_of_scan_eq_some hscan, List.drop_nil, scanAll_nil,
      List.filter_cons_of_pos (by simpa using hne)]
    rfl

/-- **The scanner follows the cut**: the segments of the pieces before the
call, and that of the call. -/
theorem Cut.scanAll_eq {call : Option (Embedded × List Char)} (h : Cut cs before call) :
    scanAll cs = (before.filter (· ≠ [])).map .ofPiece ++ (call.map callSegment).toList := by
  cases h with
  | whole hplain hne hcs =>
    -- all but the last piece have a dot behind them
    have hlast := List.dropLast_append_getLast hne
    rw [hcs, ← hlast, intercalate_append_cons, List.intercalate_singleton,
      scanAll_flatMap_append fun p hp => hplain p ((List.dropLast_subset before) hp),
      scanAll_piece (hplain _ (List.getLast_mem hne)), ← List.map_append, ← List.filter_append,
      hlast]
    simp
  | call hplain hcs =>
    rw [hcs, scanAll_flatMap_append hplain, scanAll_call]
    rfl

/-! ## What an expression splits into -/

/-- **What an expression splits into.** -/
inductive Splits (expression : String) : List Segment → Prop
  /-- No piece opens a call: each piece that is not empty is a segment. -/
  | plain {ss : List Segment} : (∀ p ∈ pieces expression, ¬ OpensCall p) →
      List.Forall₂ Segment.Ordinary ((pieces expression).filter (· ≠ [])) ss →
      Splits expression ss
  /-- The first piece that opens a call is the last segment, with the text of
  the call as it stands in the expression. -/
  | call {before : List (List Char)} {p : List Char} {after : List (List Char)}
      {language : Embedded} {body content : List Char} {ss : List Segment} :
      pieces expression = before ++ p :: after → (∀ q ∈ before, ¬ OpensCall q) →
      Opens language p →
      expression.toList = before.flatMap (· ++ ['.']) ++ (language.name.toList ++ '(' :: body) →
      CallText body content →
      List.Forall₂ Segment.Ordinary (before.filter (· ≠ [])) ss →
      Splits expression (ss ++ [⟨.ofList content, -1, some language⟩])

theorem forall₂_ordinary_iff {ps : List (List Char)} {ss : List Segment} :
    List.Forall₂ Segment.Ordinary ps ss ↔ ps.map .ofPiece = ss := by
  have hread : Segment.Ordinary = fun p s => Segment.ofPiece p = s := by
    funext p s
    exact propext Segment.ofPiece_eq_iff.symm
  rw [hread, ← List.forall₂_map_left_iff, List.forall₂_eq_eq_eq]

variable {expression : String} {ss : List Segment}

/-- A cut of an expression says what it splits into. -/
theorem Cut.splits {call : Option (Embedded × List Char)} (h : Cut expression.toList before call) :
    Splits expression ((before.filter (· ≠ [])).map .ofPiece ++ (call.map callSegment).toList) := by
  cases call with
  | none =>
    have hpieces : pieces expression = before := h.splitOn_eq
    cases h with
    | whole hplain hne hcs =>
      rw [← hpieces] at hplain ⊢
      rw [Option.map_none, Option.toList_none, List.append_nil]
      exact .plain (fun p hp => (hplain p hp).2) (forall₂_ordinary_iff.mpr rfl)
  | some call =>
    obtain ⟨p, after, hpieces, hopens⟩ := h.exists_splitOn_eq
    cases h with
    | call hplain hcs =>
      exact .call hpieces (fun q hq => (hplain q hq).2) hopens hcs (callText_eq_iff.mp rfl)
        (forall₂_ordinary_iff.mpr rfl)

/-- And what an expression splits into is cut so. -/
theorem Splits.exists_cut (h : Splits expression ss) :
    ∃ before call, Cut expression.toList before call ∧
      ss = (before.filter (· ≠ [])).map .ofPiece ++ (call.map callSegment).toList := by
  have hdots : ∀ p ∈ pieces expression, '.' ∉ p := not_mem_of_mem_splitOn _
  cases h with
  | plain hnone hss =>
    refine ⟨pieces expression, none, .whole (fun p hp => ⟨hdots p hp, hnone p hp⟩)
      (List.splitOn_ne_nil _ _) (List.intercalate_splitOn '.').symm, ?_⟩
    rw [← forall₂_ordinary_iff.mp hss]
    simp
  | @call before p after language body content ss hpieces hbefore _ hcs hcontent hss =>
    have hplain : ∀ q ∈ before, Plain q := fun q hq =>
      ⟨hdots q (by rw [hpieces]; exact List.mem_append_left _ hq), hbefore q hq⟩
    refine ⟨before, some (language, body), .call hplain hcs, ?_⟩
    rw [← forall₂_ordinary_iff.mp hss, ← callText_eq_iff.mpr hcontent]
    rfl

/-- **Reading one segment after another splits the expression.** There is one
list of segments that an expression splits into. It is what is listed, and
what a cursor yields that starts at the beginning. -/
theorem segments_eq_iff_splits (expression : String) (ss : List Segment) :
    (segments expression = ss ↔ Splits expression ss) ∧
      ((Cursor.start expression).Yields ss ↔ Splits expression ss) := by
  have hsplits : segments expression = ss ↔ Splits expression ss := by
    constructor
    · rintro rfl
      obtain ⟨before, call, hcut⟩ := exists_cut expression.toList
      rw [segments, hcut.scanAll_eq]
      exact hcut.splits
    · intro h
      obtain ⟨before, call, hcut, rfl⟩ := h.exists_cut
      exact hcut.scanAll_eq
  have hyields : (Cursor.start expression).Yields ss ↔ segments expression = ss := by
    constructor
    · exact fun h => (Cursor.yields_start expression).unique h
    · exact fun h => h ▸ Cursor.yields_start expression
  exact ⟨hsplits, hyields.trans hsplits⟩

end Path
end Scenario
