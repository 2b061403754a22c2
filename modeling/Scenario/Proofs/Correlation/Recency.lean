import Scenario.Proofs.Correlation.Entries

/-!
# Recency — a store as a list in the order of additions

What a store answers does not depend on times or numbers: it is what a list
of keys and values answers that keeps the pair added last at its end
(`Recency.access`). Such a list drops its first pair for a new key when it is
full, and replaces a pair by moving it to the end.

A store does not keep its entries in any order, and looks for the oldest one
by time and number. `Aged` lists the entries in the order of their additions,
whatever order the store has them in. Times do not go back, and where they
are equal the numbers decide, so the oldest entry is the first of the list
(`Aged.oldestOf_eq`). The pairs of the entries are the list that the store
holds: it answers as the list does, and holds the next list after each access
(`Holds.access`) and so after every run (`Run.holds`).
-/

namespace Scenario
namespace Correlation

variable {α : Type}

/-! ## The list -/

/-- Keys with their values, in the order in which they were last added. -/
abbrev Recency (α : Type) := List (String × α)

namespace Recency

/-- Whether there are as many pairs as a limit lets there be. A limit of
zero is one of one. -/
def isFull (limit : Option Nat) (l : Recency α) : Bool := limit.any fun n => max n 1 ≤ l.length

/-- **One access to the list**: the answer and the list after it. -/
def access (limit : Option Nat) (l : Recency α) : Access α → Answer α × Recency α
  | .add key value =>
    if key ∈ l.map Prod.fst then (.done, l.filter (·.1 != key) ++ [(key, value)])
    else if isFull limit l then (.done, l.tail ++ [(key, value)])
    else (.done, l ++ [(key, value)])
  | .remove key => (.taken (l.lookup key), l.filter (·.1 != key))
  | .contains key => (.flag (decide (key ∈ l.map Prod.fst)), l)
  | .size => (.count l.length, l)
  | .isEmpty => (.flag l.isEmpty, l)
  | .clear => (.done, [])

/-- Several accesses: the answers and the list after them. -/
def run (limit : Option Nat) : Recency α → List (Access α) → List (Answer α) × Recency α
  | l, [] => ([], l)
  | l, a :: rest =>
    let (answer, after) := access limit l a
    let (answers, last) := run limit after rest
    (answer :: answers, last)

variable {limit : Option Nat} {l : Recency α} {key : String}

theorem isFull_some_iff {n : Nat} : isFull (some n) l = true ↔ max n 1 ≤ l.length :=
  decide_eq_true_iff

/-- A key that is there is the key of one pair at least. -/
theorem length_filter_lt (h : key ∈ l.map Prod.fst) :
    (l.filter (·.1 != key)).length < l.length := by
  obtain ⟨p, hp, rfl⟩ := List.mem_map.mp h
  exact List.length_filter_lt_length_iff_exists.mpr ⟨p, hp, by simp⟩

/-- The list keeps to its limit. -/
theorem length_access_le {n : Nat} (hn : limit = some n) (hl : l.length ≤ max n 1) (a : Access α) :
    (access limit l a).2.length ≤ max n 1 := by
  subst hn
  cases a with
  | add key value =>
    rw [access]
    split
    · next hkey =>
      have hlt := length_filter_lt hkey
      rw [List.length_append, List.length_singleton]
      omega
    · split
      · next hfull =>
        -- the list is as long as it may be, so there is a pair to drop
        have hlen : max n 1 ≤ l.length := isFull_some_iff.mp hfull
        rw [List.length_append, List.length_singleton, List.length_tail]
        omega
      · next hfull =>
        have hlen : ¬ max n 1 ≤ l.length := fun hle => hfull (isFull_some_iff.mpr hle)
        rw [List.length_append, List.length_singleton]
        omega
  | remove key => exact Nat.le_trans (List.length_filter_le _ l) hl
  | contains key => exact hl
  | size => exact hl
  | isEmpty => exact hl
  | clear => exact Nat.zero_le _

/-- And so it does in every run. -/
theorem length_run_le {n : Nat} (hn : limit = some n) (hl : l.length ≤ max n 1)
    (accesses : List (Access α)) : (run limit l accesses).2.length ≤ max n 1 := by
  induction accesses generalizing l with
  | nil => exact hl
  | cons a rest ih => exact ih (length_access_le hn hl a)

end Recency

/-! ## Runs of a store -/

namespace Store

/-- The same store, with its entries in any order. -/
structure Rearranged (s t : Store α) : Prop where
  /-- The entries are the same. -/
  perm : t.entries.Perm s.entries
  /-- And so is the number that the next one gets. -/
  nextSequence : t.nextSequence = s.nextSequence
  /-- And the limit. -/
  capacity : t.capacity = s.capacity

/-- **A run of a store** from some time on: accesses at times that do not go
back, their answers, and the store after them. Before each access the
entries may be rearranged. -/
inductive Run : Nat → Store α → List (Nat × Access α) → List (Answer α) → Store α → Prop
  /-- Nothing is done. -/
  | done (clock : Nat) (s : Store α) : Run clock s [] [] s
  /-- An access, and a run after it. -/
  | access {clock now : Nat} {s t u : Store α} {a : Access α} {steps : List (Nat × Access α)}
      {answers : List (Answer α)} : s.Rearranged t → clock ≤ now →
      Run now (t.access now a).2 steps answers u →
      Run clock s ((now, a) :: steps) ((t.access now a).1 :: answers) u

/-- The run that leaves the entries as they are: the answers and the store
after it. -/
def run (s : Store α) : List (Nat × Access α) → List (Answer α) × Store α
  | [] => ([], s)
  | (now, a) :: steps =>
    let (answer, after) := s.access now a
    let (answers, last) := after.run steps
    (answer :: answers, last)

/-- It is one of the runs if times do not go back. -/
theorem run_run {clock : Nat} (s : Store α) {steps : List (Nat × Access α)}
    (hclock : (clock :: steps.map Prod.fst).Pairwise (· ≤ ·)) :
    Run clock s steps (s.run steps).1 (s.run steps).2 := by
  induction steps generalizing clock s with
  | nil => exact .done clock s
  | cons step steps ih =>
    rw [List.map_cons, List.pairwise_cons] at hclock
    obtain ⟨hle, hrest⟩ := hclock
    exact .access ⟨.refl _, rfl, rfl⟩ (hle step.1 (by simp)) (ih _ hrest)

end Store

/-! ## Entries in the order of their additions -/

/-- The key of an entry with its value. -/
def Entry.pair (e : Entry α) : String × α := (e.key, e.value)

theorem Entry.olderThan_iff {e f : Entry α} : e.olderThan f = true ↔
    e.createdAt < f.createdAt ∨ e.createdAt = f.createdAt ∧ e.sequence < f.sequence := by
  simp [Entry.olderThan]

/-- Of two entries one at most is the older. -/
theorem Entry.olderThan_asymm {e f : Entry α} (h : e.olderThan f = true) :
    f.olderThan e = false := by
  rw [← Bool.not_eq_true, Entry.olderThan_iff]
  rw [Entry.olderThan_iff] at h
  omega

namespace Store

/-- **Entries in the order of their additions**: all those of the store, one
for each key, with times and numbers that grow. -/
structure Aged (s : Store α) (clock : Nat) (es : List (Entry α)) : Prop where
  /-- They are the entries of the store. -/
  perm : es.Perm s.entries
  /-- No two have the same key. -/
  keys : (es.map (·.key)).Nodup
  /-- Each is found under its own key. -/
  own : ∀ e ∈ es, e.ownKey = e.key
  /-- A later one has a larger number, and no earlier time. -/
  grows : es.Pairwise fun e f => e.createdAt ≤ f.createdAt ∧ e.sequence < f.sequence
  /-- All of them are from the past. -/
  past : ∀ e ∈ es, e.createdAt ≤ clock ∧ e.sequence < s.nextSequence

variable {s t : Store α} {clock now : Nat} {es : List (Entry α)} {e : Entry α} {key : String}
variable {limit : Option Nat}

/-! ### What the store tells of them -/

theorem Aged.keysDistinct (h : s.Aged clock es) : s.KeysDistinct := by
  rw [KeysDistinct]
  exact (h.perm.map _).nodup_iff.mp h.keys

theorem Aged.size_eq (h : s.Aged clock es) : s.size = es.length := h.perm.length_eq.symm

/-- A key is there if an entry has it. -/
theorem Aged.contains_eq (h : s.Aged clock es) (key : String) :
    s.contains key = decide (key ∈ (es.map Entry.pair).map Prod.fst) := by
  rw [Bool.eq_iff_iff, contains, Option.isSome_iff_exists, decide_eq_true_iff]
  simp only [entry?_eq_some_iff h.keysDistinct, ← h.perm.mem_iff, List.map_map, List.mem_map]
  rfl

/-- Looking a key up among pairs is finding an entry with it. -/
theorem lookup_map_pair (es : List (Entry α)) (key : String) :
    (es.map Entry.pair).lookup key = (es.find? fun e => e.key == key).map (·.value) := by
  induction es with
  | nil => rfl
  | cons e es ih =>
    rw [List.map_cons, Entry.pair, List.lookup_cons, List.find?_cons, BEq.comm (a := key), ih]
    cases e.key == key <;> rfl

/-- The value under a key is that of the pair with it. -/
theorem Aged.remove_eq (h : s.Aged clock es) (key : String) :
    (s.remove key).1 = (es.map Entry.pair).lookup key := by
  -- the entries in the order of their additions are those of a store as well
  have hes : KeysDistinct { s with entries := es } := h.keys
  rw [lookup_map_pair]
  refine Option.ext fun value => ?_
  rw [remove_eq_some_iff h.keysDistinct]
  simp only [← h.perm.mem_iff]
  exact (remove_eq_some_iff hes).symm

theorem Aged.isFull_eq (h : s.Aged clock es) (hcap : s.capacity = limit.map (max 1)) :
    s.isFull = Recency.isFull limit (es.map Entry.pair) := by
  rw [isFull, hcap, Recency.isFull, h.size_eq, List.length_map, Option.any_map]
  simp only [Nat.max_comm]

theorem mem_of_oldestOf (h : oldestOf es = some e) : e ∈ es := by
  induction es generalizing e with
  | nil => exact nomatch h
  | cons f es ih =>
    rw [oldestOf] at h
    split at h
    · next g hg =>
      rw [Option.some.injEq] at h
      split at h
      · exact List.mem_cons_of_mem _ (ih (h ▸ hg))
      · exact h ▸ List.mem_cons_self
    · rw [Option.some.injEq] at h
      exact h ▸ List.mem_cons_self

/-- **The oldest entry is the one that is older than all others**, wherever
it stands. -/
theorem oldestOf_eq (he : e ∈ es) (hold : ∀ f ∈ es, f ≠ e → e.olderThan f = true) :
    oldestOf es = some e := by
  induction es with
  | nil => exact nomatch he
  | cons f es ih =>
    rw [oldestOf]
    by_cases hmem : e ∈ es
    · -- the rest has it as its oldest, and what comes before is not older
      rw [ih hmem fun g hg => hold g (List.mem_cons_of_mem _ hg)]
      by_cases hfe : f = e
      · simp [hfe]
      · simp [hold f List.mem_cons_self hfe]
    · obtain rfl : e = f := (List.mem_cons.mp he).resolve_right hmem
      split
      · next g hg =>
        have hg : g ∈ es := mem_of_oldestOf hg
        have hlt := hold g (List.mem_cons_of_mem _ hg) fun heq => hmem (heq ▸ hg)
        simp [Entry.olderThan_asymm hlt]
      · rfl

/-- So it is the first in the order of the additions. -/
theorem Aged.oldestOf_eq (h : s.Aged clock (e :: es)) : oldestOf s.entries = some e := by
  -- the entries of the store are those of the list in some other order
  refine Store.oldestOf_eq (h.perm.mem_iff.mp List.mem_cons_self) fun f hf hne => ?_
  have hmem : f ∈ es := (List.mem_cons.mp (h.perm.mem_iff.mpr hf)).resolve_left hne
  have hlater := (List.pairwise_cons.mp h.grows).1 f hmem
  rw [Entry.olderThan_iff]
  omega

/-! ### What each access does to them -/

theorem aged_empty (limit : Option Nat) : (empty (α := α) limit).Aged 0 [] :=
  ⟨.nil, .nil, nofun, .nil, nofun⟩

/-- Their order is not that of the store. -/
theorem Aged.rearranged (h : s.Aged clock es) (ht : s.Rearranged t) : t.Aged clock es where
  perm := h.perm.trans ht.perm.symm
  keys := h.keys
  own := h.own
  grows := h.grows
  past := by rw [ht.nextSequence]; exact h.past

/-- What was in the past still is. -/
theorem Aged.later (h : s.Aged clock es) (hle : clock ≤ now) : s.Aged now es where
  perm := h.perm
  keys := h.keys
  own := h.own
  grows := h.grows
  past e he := ⟨Nat.le_trans (h.past e he).1 hle, (h.past e he).2⟩

theorem Aged.erase (h : s.Aged clock es) (key : String) :
    (s.erase key).Aged clock (es.filter fun e => e.key != key) where
  perm := h.perm.filter _
  keys := h.keys.sublist (List.filter_sublist.map _)
  own e he := h.own e (List.mem_filter.mp he).1
  grows := h.grows.sublist List.filter_sublist
  past e he := h.past e (List.mem_filter.mp he).1

theorem aged_clear (s : Store α) (clock : Nat) : s.clear.Aged clock [] :=
  ⟨.nil, .nil, nofun, .nil, nofun⟩

/-- Nothing is left out if nothing has the key. -/
theorem filter_ne_eq_self {β : Type} {f : β → String} {l : List β} (h : key ∉ l.map f) :
    (l.filter fun x => f x != key) = l :=
  List.filter_eq_self.mpr fun x hx => bne_iff_ne.mpr fun heq => h (List.mem_map.mpr ⟨x, hx, heq⟩)

/-- There is nothing to make room for if the key is present or the store is
not full. -/
theorem makeRoom_eq_self (h : s.contains key = true ∨ s.isFull = false) : s.makeRoom key = s := by
  rw [makeRoom, if_neg]
  rcases h with h | h <;> simp [h]

/-- **Room is made by dropping the first entry**: a full store drops it for a
new key. -/
theorem Aged.makeRoom (h : s.Aged clock es) (hfull : s.isFull = true)
    (hkey : s.contains key = false) : (s.makeRoom key).Aged clock es.tail := by
  rw [Store.makeRoom, if_pos (by simp [hfull, hkey])]
  cases es with
  | nil =>
    -- a store without entries is never full, but there would be nothing to drop
    have hnil : s.entries = [] := h.perm.nil_eq.symm
    rw [hnil]
    exact h
  | cons e es =>
    -- the oldest entry is dropped by its own key, under which no other is found
    have hes : e.key ∉ es.map (·.key) := (List.nodup_cons.mp h.keys).1
    have herase := h.erase e.key
    rw [List.filter_cons_of_neg (by simp), filter_ne_eq_self hes] at herase
    rw [h.oldestOf_eq]
    dsimp only
    rw [h.own e List.mem_cons_self]
    exact herase

/-- **A new entry is the last one**, and the one before it under its key is
gone. -/
theorem Aged.add (h : (s.makeRoom key).Aged clock es) (hle : clock ≤ now) (value : α) :
    (s.add now key value).Aged now
      ((es.filter fun e => e.key != key) ++ [⟨key, key, value, now, s.nextSequence⟩]) := by
  have hrest := (h.erase key).later hle
  have hpast : ∀ e ∈ es.filter fun e => e.key != key,
      e.createdAt ≤ now ∧ e.sequence < s.nextSequence := by
    rw [← nextSequence_makeRoom s key]
    exact hrest.past
  constructor
  case perm =>
    rw [Store.add, nextSequence_makeRoom]
    exact hrest.perm.append_right _
  case keys =>
    rw [List.map_append, List.map_singleton, List.nodup_append]
    refine ⟨hrest.keys, by simp, fun a ha b hb => ?_⟩
    obtain ⟨e, he, rfl⟩ := List.mem_map.mp ha
    rw [List.mem_singleton.mp hb]
    exact bne_iff_ne.mp (List.mem_filter.mp he).2
  case own =>
    intro e he
    rcases List.mem_append.mp he with he | he
    · exact hrest.own e he
    · rw [List.mem_singleton.mp he]
  case grows =>
    refine List.pairwise_append.mpr ⟨hrest.grows, List.pairwise_singleton _ _, fun e he f hf => ?_⟩
    rw [List.mem_singleton.mp hf]
    exact hpast e he
  case past =>
    intro e he
    rw [nextSequence_add]
    rcases List.mem_append.mp he with he | he
    · have := hpast e he
      omega
    · rw [List.mem_singleton.mp he]
      exact ⟨Nat.le_refl _, Nat.lt_succ_self _⟩

/-! ## The store and the list -/

/-- **A store holds a list**: the pairs of its entries in the order of their
additions. -/
structure Holds (limit : Option Nat) (clock : Nat) (s : Store α) (l : Recency α) : Prop where
  /-- The store has the limit. -/
  capacity : s.capacity = limit.map (max 1)
  /-- The pairs are those of the entries. -/
  aged : ∃ es, s.Aged clock es ∧ es.map Entry.pair = l

variable {l : Recency α}

theorem holds_empty (limit : Option Nat) : Holds limit 0 (empty (α := α) limit) [] :=
  ⟨rfl, [], aged_empty limit, rfl⟩

theorem Holds.rearranged (h : Holds limit clock s l) (ht : s.Rearranged t) :
    Holds limit clock t l := by
  obtain ⟨hcap, es, haged, hes⟩ := h
  exact ⟨ht.capacity.trans hcap, es, haged.rearranged ht, hes⟩

theorem Holds.erase (h : Holds limit clock s l) (hle : clock ≤ now) (key : String) :
    Holds limit now (s.erase key) (l.filter (·.1 != key)) := by
  obtain ⟨hcap, es, haged, rfl⟩ := h
  refine ⟨hcap, _, (haged.erase key).later hle, ?_⟩
  rw [List.filter_map]
  rfl

theorem capacity_makeRoom (s : Store α) (key : String) :
    (s.makeRoom key).capacity = s.capacity := by
  unfold makeRoom
  split
  · split <;> rfl
  · rfl

/-- An entry is added to what there is after making room. -/
theorem Holds.add_of_makeRoom (h : Holds limit clock (s.makeRoom key) l) (hle : clock ≤ now)
    (value : α) :
    Holds limit now (s.add now key value) (l.filter (·.1 != key) ++ [(key, value)]) := by
  obtain ⟨hcap, es, haged, rfl⟩ := h
  refine ⟨hcap, _, haged.add hle value, ?_⟩
  rw [List.map_append, List.filter_map]
  rfl

/-- **An addition to the store is one to the list.** -/
theorem Holds.add (h : Holds limit clock s l) (hle : clock ≤ now) (key : String) (value : α) :
    Holds limit now (s.add now key value) (Recency.access limit l (.add key value)).2 := by
  have hcap := h.capacity
  obtain ⟨es, haged, rfl⟩ := h.aged
  have hcontains := haged.contains_eq key
  have hfull := haged.isFull_eq hcap
  rw [Recency.access]
  split
  · next hkey =>
    rw [decide_eq_true hkey] at hcontains
    rw [← makeRoom_eq_self (.inl hcontains)] at h
    exact h.add_of_makeRoom hle value
  · next hkey =>
    rw [decide_eq_false hkey] at hcontains
    split
    · next hlimit =>
      -- the key is new, so leaving out its pair changes nothing
      have hroom : Holds limit clock (s.makeRoom key) (es.map Entry.pair).tail := by
        refine ⟨(capacity_makeRoom s key).trans hcap, es.tail, ?_, List.map_tail⟩
        exact haged.makeRoom (hfull.trans hlimit) hcontains
      have htail : key ∉ (es.map Entry.pair).tail.map Prod.fst := by
        rw [List.map_tail]
        exact fun hmem => hkey (List.mem_of_mem_tail hmem)
      have hadd := hroom.add_of_makeRoom hle value
      rwa [filter_ne_eq_self htail] at hadd
    · next hlimit =>
      rw [← hfull, Bool.not_eq_true] at hlimit
      have hself : s.makeRoom key = s := makeRoom_eq_self (.inr hlimit)
      rw [← hself] at h
      have hadd := h.add_of_makeRoom hle value
      rwa [filter_ne_eq_self hkey] at hadd

/-- **One access**: the store answers what the list answers, and holds the
list after it. -/
theorem Holds.access (h : Holds limit clock s l) (hle : clock ≤ now) (a : Access α) :
    (s.access now a).1 = (Recency.access limit l a).1 ∧
      Holds limit now (s.access now a).2 (Recency.access limit l a).2 := by
  have hlater : Holds limit now s l := by
    obtain ⟨hcap, es, haged, hes⟩ := h
    exact ⟨hcap, es, haged.later hle, hes⟩
  obtain ⟨es, haged, rfl⟩ := h.aged
  cases a with
  | add key value =>
    refine ⟨?_, h.add hle key value⟩
    rw [Recency.access]
    split
    · rfl
    · split <;> rfl
  | remove key => exact ⟨congrArg _ (haged.remove_eq key), h.erase hle key⟩
  | contains key => exact ⟨congrArg _ (haged.contains_eq key), hlater⟩
  | size => exact ⟨congrArg _ (haged.size_eq.trans (List.length_map _).symm), hlater⟩
  | isEmpty =>
    have hempty : s.isEmpty = (es.map Entry.pair).isEmpty := by
      rw [isEmpty, haged.size_eq]
      cases es <;> rfl
    exact ⟨congrArg _ hempty, hlater⟩
  | clear => exact ⟨rfl, h.capacity, [], aged_clear s now, rfl⟩

/-- **And so in every run.** -/
theorem Run.holds {steps : List (Nat × Access α)} {answers : List (Answer α)}
    (hrun : Run clock s steps answers t) (h : Holds limit clock s l) :
    answers = (Recency.run limit l (steps.map Prod.snd)).1 ∧
      ∃ last, Holds limit last t (Recency.run limit l (steps.map Prod.snd)).2 := by
  induction hrun generalizing l with
  | done clock s => exact ⟨rfl, clock, h⟩
  | access ht hle _ ih =>
    -- what answers is the store after it is rearranged, which holds the same list
    obtain ⟨hanswer, hafter⟩ := (h.rearranged ht).access hle _
    obtain ⟨hanswers, hlast⟩ := ih hafter
    exact ⟨List.cons_eq_cons.mpr ⟨hanswer, hanswers⟩, hlast⟩

/-- **A store in order.** -/
structure Consistent (limit : Option Nat) (s : Store α) : Prop where
  /-- No two entries have the same key. -/
  keys : s.KeysDistinct
  /-- What is found under a key is the entry that has it. -/
  found : ∀ key e, s.entry? key = some e ↔ e ∈ s.entries ∧ e.key = key
  /-- Each entry is found under its own key. -/
  own : ∀ e ∈ s.entries, e.ownKey = e.key
  /-- No two entries have the same number. -/
  numbers : (s.entries.map (·.sequence)).Nodup
  /-- The next number is larger than theirs. -/
  below : ∀ e ∈ s.entries, e.sequence < s.nextSequence
  /-- There are no more entries than the limit lets there be. -/
  size : ∀ n, limit = some n → s.size ≤ max n 1

/-- A store that holds a list within the limit is in order. -/
theorem Holds.consistent (h : Holds limit clock s l)
    (hl : ∀ n, limit = some n → l.length ≤ max n 1) : s.Consistent limit := by
  obtain ⟨-, es, haged, rfl⟩ := h
  constructor
  case keys => exact haged.keysDistinct
  case found => exact fun _ _ => entry?_eq_some_iff haged.keysDistinct
  case own => exact fun e he => haged.own e (haged.perm.mem_iff.mpr he)
  case numbers =>
    rw [← (haged.perm.map _).nodup_iff, List.Nodup, List.pairwise_map]
    exact haged.grows.imp fun hlt => Nat.ne_of_lt hlt.2
  case below => exact fun e he => (haged.past e (haged.perm.mem_iff.mpr he)).2
  case size =>
    intro n hn
    rw [haged.size_eq, ← List.length_map Entry.pair]
    exact hl n hn

/-- **A store is a list that keeps the latest additions at its end.** Where
times do not go back, there are runs of the store; in each of them it gives
the answers of the list, holds its pairs, and is in order. -/
theorem run_refines_recency (limit : Option Nat) (steps : List (Nat × Access α))
    (hclock : (steps.map Prod.fst).Pairwise (· ≤ ·)) :
    Run 0 (empty limit) steps ((empty limit).run steps).1 ((empty limit).run steps).2 ∧
      ∀ answers s, Run 0 (empty limit) steps answers s →
        answers = (Recency.run limit [] (steps.map Prod.snd)).1 ∧
        (s.entries.map Entry.pair).Perm (Recency.run limit [] (steps.map Prod.snd)).2 ∧
        s.Consistent limit := by
  refine ⟨run_run _ (List.pairwise_cons.mpr ⟨fun _ _ => Nat.zero_le _, hclock⟩), ?_⟩
  intro answers s hrun
  obtain ⟨hanswers, last, hlast⟩ := hrun.holds (holds_empty limit)
  have hlen : ∀ n, limit = some n →
      (Recency.run limit [] (steps.map Prod.snd)).2.length ≤ max n 1 := fun n hn =>
    Recency.length_run_le hn (by simp) _
  refine ⟨hanswers, ?_, hlast.consistent hlen⟩
  obtain ⟨-, es, haged, hes⟩ := hlast
  rw [← hes]
  exact haged.perm.symm.map _

/-- A store for two values, at one time throughout: the value added again is
the later of the two, so the third one drops the other. -/
theorem run_refines_recency_overwritten :
    Run 0 (empty (some 2))
      [(5, .add "a" 1), (5, .add "b" 2), (5, .add "a" 3), (5, .add "c" 4), (5, .contains "b"),
        (7, .remove "a"), (7, .size)]
      [.done, .done, .done, .done, .flag false, .taken (some 3), .count 1]
      (⟨[⟨"c", "c", 4, 5, 3⟩], 4, some 2⟩ : Store Nat) ∧
    [.done, .done, .done, .done, .flag false, .taken (some 3), .count 1] =
      (Recency.run (some 2) [] [.add "a" 1, .add "b" 2, .add "a" 3, .add "c" 4, .contains "b",
        .remove "a", .size]).1 ∧
    Consistent (some 2) (⟨[⟨"c", "c", 4, 5, 3⟩], 4, some 2⟩ : Store Nat) := by
  obtain ⟨hrun, hall⟩ := run_refines_recency (some 2)
    [(5, .add "a" 1), (5, .add "b" 2), (5, .add "a" 3), (5, .add "c" 4), (5, .contains "b"),
      (7, .remove "a"), (7, .size)] (by decide)
  obtain ⟨hanswers, -, hconsistent⟩ := hall _ _ hrun
  exact ⟨hrun, hanswers, hconsistent⟩

end Store

end Correlation
end Scenario
