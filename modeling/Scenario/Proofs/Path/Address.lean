import Scenario.Proofs.Path.Descent

/-!
# Addresses — the steps to a value, and how they are written

A `Hop` takes the value of a key and perhaps an item of the array found
there. Hops are looked up in a document one after another (`Reaches`), and
the first that fails has its own reason (`Hop.Fails`). Written with dots
between them they are an address, and `navigate_address` says that
navigating along an address is looking its hops up: it ends where they lead,
or with the reason of the one that fails.

The hops that can be written are those that are read back as segments
(`Hop.Valid.segment`), whatever brackets, digits and parentheses are in a
key. All segments but calls come from such hops (`Segment.Valid.exists_hop`),
so there is no value that a navigation finds without calls and an address
does not.
-/

namespace Scenario
namespace Path

/-- **One step of an address**: the value of a key, or an item of the array
that is its value. -/
structure Hop where
  /-- The key. -/
  key : String
  /-- The position of the item. -/
  index : Option Nat
  deriving DecidableEq

/-! ## How hops are written -/

/-- A hop as an address has it. -/
def Hop.text (h : Hop) : String :=
  match h.index with
  | none => h.key
  | some i => h.key ++ "[" ++ Nat.repr i ++ "]"

/-- Hops with dots between them. -/
def address (hops : List Hop) : String := ".".intercalate (hops.map Hop.text)

/-- **A hop that can be written**: the key is not empty, has no dots and opens
no call, and the index is one that can be read. A key alone must not look as
if it had an index. -/
structure Hop.Valid (h : Hop) : Prop where
  /-- There is a key. -/
  key_ne_empty : h.key ≠ ""
  /-- It has no dots and opens no call. -/
  plain : Plain h.key.toList
  /-- The index is at most the largest that an index can be. -/
  le_maxIndex : ∀ i, h.index = some i → i ≤ maxIndex
  /-- A key alone does not end like an index. -/
  not_indexed : h.index = none → ∀ front digits, ¬ Segment.Indexed h.key.toList front digits

/-- The segment that stands for a hop. -/
def Hop.segment (h : Hop) : Segment := ⟨h.key, h.index.elim (-1) Int.ofNat, none⟩

namespace Hop

variable {h : Hop}

theorem text_segment (h : Hop) : h.segment.text = h.text := by
  obtain ⟨key, index⟩ := h
  cases index <;> rfl

/-- The index of the segment is that of the hop. -/
theorem arrayIndex_segment (h : Hop) : h.segment.arrayIndex = h.index := by
  obtain ⟨key, index⟩ := h
  cases index with
  | none => rfl
  | some i => exact if_pos (Int.natCast_nonneg i)

/-- **What can be written is a segment of an expression.** -/
theorem Valid.segment (hv : h.Valid) : h.segment.Valid := by
  obtain ⟨key, index⟩ := h
  cases index with
  | none => exact .property hv.key_ne_empty hv.plain (hv.not_indexed rfl)
  | some i =>
    exact .item hv.key_ne_empty hv.plain (Int.natCast_nonneg i)
      (Int.ofNat_le.mpr (hv.le_maxIndex i rfl))

end Hop

/-- **And all segments that are no calls can be written as hops.** -/
theorem Segment.Valid.exists_hop {s : Segment} (hv : s.Valid) (hs : s.escape = none) :
    ∃ h : Hop, h.Valid ∧ h.segment = s := by
  cases hv with
  | call => cases hs
  | @item name index hname hplain hindex hle =>
    obtain ⟨i, rfl⟩ := Int.eq_ofNat_of_zero_le hindex
    refine ⟨⟨name, some i⟩, ⟨hname, hplain, ?_, nofun⟩, rfl⟩
    rintro j hj
    cases hj
    exact Int.ofNat_le.mp hle
  | @property name hname hplain hnone =>
    exact ⟨⟨name, none⟩, ⟨hname, hplain, nofun, fun _ => hnone⟩, rfl⟩

/-- So do lists of them. -/
theorem exists_hops {ss : List Segment} (hv : ∀ s ∈ ss, s.Valid ∧ s.escape = none) :
    ∃ hops : List Hop, (∀ h ∈ hops, h.Valid) ∧ hops.map Hop.segment = ss := by
  induction ss with
  | nil => exact ⟨[], nofun, rfl⟩
  | cons s ss ih =>
    obtain ⟨h, hh, rfl⟩ := (hv s (by simp)).1.exists_hop (hv s (by simp)).2
    obtain ⟨hops, hhops, rfl⟩ := ih fun t ht => hv t (by simp [ht])
    exact ⟨h :: hops, List.forall_mem_cons.mpr ⟨hh, hhops⟩, rfl⟩

section Writing

variable {hops before : List Hop}

theorem address_eq_joined (hops : List Hop) : address hops = joined (hops.map Hop.segment) := by
  rw [address, joined, List.map_map]
  exact congrArg _ (List.map_congr_left fun h _ => h.text_segment.symm)

theorem valid_segments (hv : ∀ h ∈ hops, h.Valid) : ∀ s ∈ hops.map Hop.segment, s.Valid := by
  intro s hs
  obtain ⟨h, hh, rfl⟩ := List.mem_map.mp hs
  exact (hv h hh).segment

theorem escape_eq_none : ∀ s ∈ hops.map Hop.segment, s.escape = none := by
  intro s hs
  obtain ⟨h, -, rfl⟩ := List.mem_map.mp hs
  rfl

/-- **An address is read as the segments of its hops.** -/
theorem segments_address (hv : ∀ h ∈ hops, h.Valid) :
    segments (address hops) = hops.map Hop.segment := by
  have hread := segments_joined_append
    (fun s hs => ⟨valid_segments hv s hs, escape_eq_none s hs⟩) none
  rw [Option.map_none, Option.toList_none, List.append_nil] at hread
  rw [address_eq_joined, hread]

theorem address_eq_empty_iff (hv : ∀ h ∈ hops, h.Valid) : address hops = "" ↔ hops = [] := by
  constructor
  · intro hempty
    by_contra hne
    rw [address_eq_joined] at hempty
    exact joined_ne_empty (by simpa using hne) (valid_segments hv) hempty
  · rintro rfl
    rfl

/-- One more hop extends the path. -/
theorem address_concat (hv : ∀ h ∈ before, h.Valid) (h : Hop) :
    address (before ++ [h]) = extend (address before) h.text := by
  have hsingle : joined [h.segment] = h.text := (joined_singleton _).trans h.text_segment
  by_cases hne : before = []
  · rw [hne, List.nil_append, address_eq_joined, List.map_singleton, hsingle]
    rfl
  · have hpath : address before ≠ "" := fun hempty => hne ((address_eq_empty_iff hv).mp hempty)
    rw [extend_of_ne_empty hpath, address_eq_joined, List.map_append,
      joined_append (by simpa using hne) (by simp), List.map_singleton, hsingle,
      ← address_eq_joined]

end Writing

/-! ## Looking hops up -/

/-- **Where a hop leads**, from a value. -/
inductive Hop.Leads : Document → Hop → Document → Prop
  /-- The value of the key. -/
  | property {fields : List (String × Document)} {key : String} {next : Document} :
      fields.lookup key = some next → Leads (.object fields) ⟨key, none⟩ next
  /-- An item of the array that is the value of the key. -/
  | item {fields : List (String × Document)} {key : String} {items : List Document} {i : Nat}
      {next : Document} :
      fields.lookup key = some (.array items) → items[i]? = some next →
      Leads (.object fields) ⟨key, some i⟩ next

/-- **Why a hop leads nowhere**, after those before it. -/
inductive Hop.Fails (before : List Hop) : Document → Hop → NavigationError → Prop
  /-- The value is no object that has the key. -/
  | missing {value : Document} {key : String} {index : Option Nat} :
      (∀ fields, value = .object fields → fields.lookup key = none) →
      Fails before value ⟨key, index⟩
        (.noSuchProperty key (if before = [] then "$" else address before))
  /-- What is found there is no array. -/
  | notArray {fields : List (String × Document)} {key : String} {i : Nat} {found : Document} :
      fields.lookup key = some found → (∀ items, found ≠ .array items) →
      Fails before (.object fields) ⟨key, some i⟩ (.notAnArray (address (before ++ [⟨key, none⟩])))
  /-- The array has no such item. -/
  | outside {fields : List (String × Document)} {key : String} {i : Nat} {items : List Document} :
      fields.lookup key = some (.array items) → items.length ≤ i →
      Fails before (.object fields) ⟨key, some i⟩
        (.indexOutOfBounds i (address (before ++ [⟨key, none⟩])) items.length)

/-- **Where hops lead**, one after another. -/
inductive Reaches : Document → List Hop → Document → Prop
  | here (value : Document) : Reaches value [] value
  | further {value next last : Document} {h : Hop} {hops : List Hop} :
      h.Leads value next → Reaches next hops last → Reaches value (h :: hops) last

/-- **Where they fail**: the first of them that leads nowhere, and why. -/
def FailsAlong (root : Document) (hops : List Hop) (e : NavigationError) : Prop :=
  ∃ before h after value, hops = before ++ h :: after ∧ Reaches root before value ∧
    h.Fails before value e

section Steps

variable {h : Hop} {hops before : List Hop} {value next last : Document} {path : String}
variable {e : NavigationError}

/-- A hop leads somewhere or fails. -/
theorem Hop.leads_or_fails (before : List Hop) (value : Document) (h : Hop) :
    (∃ next, h.Leads value next) ∨ ∃ e, h.Fails before value e := by
  obtain ⟨key, index⟩ := h
  by_cases hfields : ∃ fields found, value = .object fields ∧ fields.lookup key = some found
  · obtain ⟨fields, found, rfl, hfound⟩ := hfields
    cases index with
    | none => exact .inl ⟨found, .property hfound⟩
    | some i =>
      by_cases hitems : ∃ items, found = .array items
      · obtain ⟨items, rfl⟩ := hitems
        rcases Nat.lt_or_ge i items.length with hi | hi
        · exact .inl ⟨items[i], .item hfound (List.getElem?_eq_getElem hi)⟩
        · exact .inr ⟨_, .outside hfound hi⟩
      · exact .inr ⟨_, .notArray hfound fun items heq => hitems ⟨items, heq⟩⟩
  · refine .inr ⟨_, .missing fun fields heq => ?_⟩
    cases hlookup : fields.lookup key with
    | none => rfl
    | some found => exact absurd ⟨fields, found, heq, hlookup⟩ hfields

theorem Reaches.concat {root : Document} (hr : Reaches root hops value)
    (hl : h.Leads value next) : Reaches root (hops ++ [h]) next := by
  induction hr with
  | here value => exact .further hl (.here next)
  | further hfirst _ ih => exact .further hfirst (ih hl)

/-- **So do several.** -/
theorem reaches_or_failsAlong (root : Document) (hops : List Hop) :
    (∃ v, Reaches root hops v) ∨ ∃ e, FailsAlong root hops e := by
  -- on the hops from the last one: those before it lead somewhere, or fail already
  induction hops using List.reverseRecOn with
  | nil => exact .inl ⟨root, .here root⟩
  | append_singleton before h ih =>
    rcases ih with ⟨v, hv⟩ | ⟨e, front, g, after, value, rfl, hreach, hfails⟩
    · rcases h.leads_or_fails before v with ⟨next, hnext⟩ | ⟨e, he⟩
      · exact .inl ⟨next, hv.concat hnext⟩
      · exact .inr ⟨e, before, h, [], v, rfl, hv, he⟩
    · exact .inr ⟨e, front, g, after ++ [h], value, by simp, hreach, hfails⟩

/-- Where a hop leads a step goes. -/
theorem Hop.Leads.step_eq (hl : h.Leads value next) (path : String) :
    step value h.segment path = .ok next := by
  unfold step
  rw [h.arrayIndex_segment]
  cases hl with
  | property hprop => simp only [Hop.segment, Document.property?, hprop]
  | item hprop hitem =>
    simp only [Hop.segment, Document.property?, hprop, Document.items?, hitem]

/-- Where it fails a step fails as well, with the path that was walked. -/
theorem Hop.Fails.step_eq (hf : h.Fails before value e) (hv : ∀ h ∈ before, h.Valid) :
    step value h.segment (address before) = .error e := by
  have hhere : ∀ key, extend (address before) key = address (before ++ [⟨key, none⟩]) :=
    fun key => (address_concat hv ⟨key, none⟩).symm
  unfold step
  rw [h.arrayIndex_segment]
  cases hf with
  | @missing _ key index hmissing =>
    have hprop : value.property? key = none := by
      cases value with
      | object fields => exact hmissing fields rfl
      | _ => rfl
    simp only [Hop.segment, hprop, placeOf, String.isEmpty_iff, address_eq_empty_iff hv]
  | @notArray fields key i found hprop hfound =>
    have hitems : found.items? = none := by
      cases found with
      | array items => exact absurd rfl (hfound items)
      | _ => rfl
    simp only [Hop.segment, Document.property?, hprop, hitems, hhere]
  | outside hprop hlen =>
    simp only [Hop.segment, Document.property?, hprop, Document.items?,
      List.getElem?_eq_none hlen, hhere]
    rfl

/-- **A descent goes where the hops lead.** -/
theorem Reaches.descend_eq (hr : Reaches value hops last) (path : String) :
    descend (hops.map Hop.segment) value path = .ok last := by
  induction hr generalizing path with
  | here => rfl
  | further hfirst _ ih =>
    rw [List.map_cons, descend, hfirst.step_eq]
    exact ih _

/-- **And fails where they do.** -/
theorem FailsAlong.descend_eq (hf : FailsAlong value hops e) (hv : ∀ h ∈ hops, h.Valid) :
    descend (hops.map Hop.segment) value "" = .error e := by
  obtain ⟨before, h, after, next, rfl, hreach, hfails⟩ := hf
  have hbefore : ∀ g ∈ before, g.Valid := fun g hg => hv g (List.mem_append_left _ hg)
  rw [List.map_append, descend_append, hreach.descend_eq, walked_eq_joined (valid_segments hbefore),
    ← address_eq_joined, List.map_cons]
  dsimp only
  rw [descend, hfails.step_eq hbefore]

/-- Hops come to something, so a descent that goes somewhere goes where they
lead. -/
theorem descend_eq_ok_iff (hv : ∀ h ∈ hops, h.Valid) :
    descend (hops.map Hop.segment) value "" = .ok last ↔ Reaches value hops last := by
  refine ⟨fun hdescend => ?_, fun hr => hr.descend_eq ""⟩
  rcases reaches_or_failsAlong value hops with ⟨v, hr⟩ | ⟨e, hf⟩
  · rw [hr.descend_eq] at hdescend
    cases hdescend
    exact hr
  · rw [hf.descend_eq hv] at hdescend
    cases hdescend

/-- And one that fails fails as they do. -/
theorem descend_eq_error_iff (hv : ∀ h ∈ hops, h.Valid) :
    descend (hops.map Hop.segment) value "" = .error e ↔ FailsAlong value hops e := by
  refine ⟨fun hdescend => ?_, fun hf => hf.descend_eq hv⟩
  rcases reaches_or_failsAlong value hops with ⟨v, hr⟩ | ⟨e, hf⟩
  · rw [hr.descend_eq] at hdescend
    cases hdescend
  · rw [hf.descend_eq hv] at hdescend
    cases hdescend
    exact hf

end Steps

theorem navigate_address_eq_descend {hops : List Hop} (hne : hops ≠ [])
    (hv : ∀ h ∈ hops, h.Valid) (engine : Option Engine) (root : Document) :
    navigate engine root (address hops) = descend (hops.map Hop.segment) root "" := by
  have hsegs := segments_address hv
  rw [navigate_of_escape_eq_none (by simpa [hsegs] using hne)
    (by rw [hsegs]; exact escape_eq_none), hsegs]

/-- An expression without segments names nothing. -/
theorem segments_ne_nil_of_navigate {engine : Option Engine} {root v : Document}
    {expression : String} (h : navigate engine root expression = .ok v) :
    segments expression ≠ [] := by
  intro hnil
  rw [navigate, navigateM, hnil] at h
  cases h

/-- **Navigating along an address is looking its hops up.** It finds the value
that they lead to, or fails as the first of them that leads nowhere. And what
is found along any expression without calls is found along an address, which
is the expression as its segments are written. -/
theorem navigate_address (engine : Option Engine) (root : Document) :
    (∀ hops, hops ≠ [] → (∀ h ∈ hops, h.Valid) →
      (∀ v, navigate engine root (address hops) = .ok v ↔ Reaches root hops v) ∧
      ∀ e, navigate engine root (address hops) = .error e ↔ FailsAlong root hops e) ∧
    ∀ expression v, (∀ s ∈ segments expression, s.escape = none) →
      navigate engine root expression = .ok v →
      ∃ hops, hops ≠ [] ∧ (∀ h ∈ hops, h.Valid) ∧
        address hops = joined (segments expression) ∧ Reaches root hops v := by
  constructor
  · intro hops hne hv
    rw [navigate_address_eq_descend hne hv]
    exact ⟨fun v => descend_eq_ok_iff hv, fun e => descend_eq_error_iff hv⟩
  · intro expression v hplain hnav
    have hne := segments_ne_nil_of_navigate hnav
    obtain ⟨hops, hv, hsegs⟩ := exists_hops fun s hs =>
      ⟨(wellFormed_segments expression).valid s hs, hplain s hs⟩
    rw [navigate_of_escape_eq_none hne hplain, ← hsegs] at hnav
    refine ⟨hops, ?_, hv, by rw [address_eq_joined, hsegs], (descend_eq_ok_iff hv).mp hnav⟩
    rintro rfl
    exact hne hsegs.symm

end Path
end Scenario
