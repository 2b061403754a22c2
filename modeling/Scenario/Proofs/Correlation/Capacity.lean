import Mathlib.Data.Finset.Card
import Scenario.Proofs.Correlation.Recency

/-!
# Capacity — what a larger limit keeps

Two stores of different limits go through the same accesses. They drop
entries at different moments, and a removal can leave room in one of them
only, so that the smaller one holds some of the entries of the larger one
says too little to be kept by the next access. What is kept is more: as a list
in the order of the additions, the smaller one is the end of the larger one
(`Recency.access_suffix`, `Recency.run_suffix`).

The order of a list is that of the additions (`Recency.InOrder.run`), so the
end of it holds whatever was added since one of its keys. And a limit no
smaller than the number of keys is none (`Recency.run_eq_of_card_le`).
-/

namespace Scenario
namespace Correlation

variable {α : Type}

/-- A limit is at least another one; none is at least any. -/
def AtLeast (large small : Option Nat) : Prop :=
  ∀ n, large = some n → ∃ m, small = some m ∧ max m 1 ≤ max n 1

/-- The key that an access names. -/
def Access.key? : Access α → Option String
  | .add key _ | .remove key | .contains key => some key
  | .size | .isEmpty | .clear => none

/-- The keys that some accesses name. -/
def namedKeys (accesses : List (Access α)) : Finset String :=
  (accesses.filterMap Access.key?).toFinset

/-- A key was added after the last addition of another one. -/
def AddedSince (accesses : List (Access α)) (key other : String) : Prop :=
  ∃ front value back, accesses = front ++ .add key value :: back ∧ ∀ v, .add other v ∉ back

section
variable {accesses : List (Access α)} {a : Access α} {key other : String}

theorem addedSince_add (accesses : List (Access α)) (key other : String) (value : α) :
    AddedSince (accesses ++ [.add key value]) key other :=
  ⟨accesses, value, [], rfl, fun _ => List.not_mem_nil⟩

/-- It still was if the other one is not added again. -/
theorem AddedSince.snoc (h : AddedSince accesses key other) (ha : ∀ v, a ≠ .add other v) :
    AddedSince (accesses ++ [a]) key other := by
  obtain ⟨front, value, back, rfl, hback⟩ := h
  refine ⟨front, value, back ++ [a], by simp, fun v hmem => ?_⟩
  rcases List.mem_append.mp hmem with hmem | hmem
  · exact hback v hmem
  · exact ha v (List.mem_singleton.mp hmem).symm

/-- **Of two keys one was added last.** -/
theorem AddedSince.antisymm (h : AddedSince accesses key other)
    (h' : AddedSince accesses other key) : key = other := by
  obtain ⟨front, value, back, rfl, hback⟩ := h
  obtain ⟨front', value', back', heq, hback'⟩ := h'
  -- one of the two additions stands no later than the other
  rcases List.append_eq_append_iff.mp heq with ⟨mid, -, hmid⟩ | ⟨mid, -, hmid⟩
  · cases mid with
    | nil => cases hmid; rfl
    | cons b mid =>
      obtain ⟨-, rfl⟩ := List.cons_eq_cons.mp hmid
      exact absurd (List.mem_append_right _ List.mem_cons_self) (hback value')
  · cases mid with
    | nil => cases hmid; rfl
    | cons b mid =>
      obtain ⟨-, rfl⟩ := List.cons_eq_cons.mp hmid
      exact absurd (List.mem_append_right _ List.mem_cons_self) (hback' value)

end

namespace Recency

variable {limit small large : Option Nat} {l l' : Recency α} {key : String}

/-! ## What an addition leaves -/

/-- What is left of the list when a key is added, before its new pair. -/
def kept (limit : Option Nat) (l : Recency α) (key : String) : Recency α :=
  if key ∈ l.map Prod.fst then l.filter (·.1 != key)
  else if isFull limit l then l.tail
  else l

theorem access_add (limit : Option Nat) (l : Recency α) (key : String) (value : α) :
    access limit l (.add key value) = (.done, kept limit l key ++ [(key, value)]) := by
  rw [access, kept]
  split
  · rfl
  · split <;> rfl

theorem kept_sublist (limit : Option Nat) (l : Recency α) (key : String) :
    (kept limit l key).Sublist l := by
  rw [kept]
  split
  · exact List.filter_sublist
  · split
    · exact List.tail_sublist l
    · exact List.Sublist.refl l

/-- The pair before under the key is not among it. -/
theorem ne_of_mem_kept {p : String × α} (hp : p ∈ kept limit l key) : p.1 ≠ key := by
  rw [kept] at hp
  split at hp
  · exact bne_iff_ne.mp (List.mem_filter.mp hp).2
  · next hkey =>
    have hl : p ∈ l := by
      split at hp
      · exact List.mem_of_mem_tail hp
      · exact hp
    exact fun heq => hkey (List.mem_map.mpr ⟨p, hl, heq⟩)

/-- An access is an addition, or only takes pairs away. -/
theorem access_cases (limit : Option Nat) (l : Recency α) (a : Access α) :
    (∃ key value, a = .add key value) ∨
      (∀ key value, a ≠ .add key value) ∧ (access limit l a).2.Sublist l := by
  cases a with
  | add key value => exact .inl ⟨key, value, rfl⟩
  | remove key => exact .inr ⟨fun _ _ heq => (nomatch heq), List.filter_sublist⟩
  | contains _ | size | isEmpty => exact .inr ⟨fun _ _ heq => (nomatch heq), List.Sublist.refl l⟩
  | clear => exact .inr ⟨fun _ _ heq => (nomatch heq), List.nil_sublist l⟩

/-! ## Distinct keys -/

/-- No two pairs of the list have the same key. -/
def Distinct (l : Recency α) : Prop := (l.map Prod.fst).Nodup

theorem Distinct.of_sublist (h : Distinct l') (hsub : l.Sublist l') : Distinct l :=
  List.Nodup.sublist (hsub.map _) h

theorem Distinct.access (h : Distinct l) (limit : Option Nat) (a : Access α) :
    Distinct (access limit l a).2 := by
  obtain ⟨key, value, rfl⟩ | ⟨-, hsub⟩ := access_cases limit l a
  · rw [access_add, Distinct, List.map_append, List.nodup_append]
    refine ⟨h.of_sublist (kept_sublist limit l key), by simp, fun k hk k' hk' => ?_⟩
    obtain ⟨p, hp, rfl⟩ := List.mem_map.mp hk
    obtain rfl : k' = key := by simpa using hk'
    exact ne_of_mem_kept hp
  · exact h.of_sublist hsub

/-- The end of a list tells the same of its keys as the list does. -/
theorem lookup_of_suffix (hsuf : l <:+ l') (h : Distinct l') {value : α}
    (hvalue : l.lookup key = some value) : l'.lookup key = some value := by
  obtain ⟨front, rfl⟩ := hsuf
  rw [Distinct, List.map_append, List.nodup_append] at h
  obtain ⟨-, -, hne⟩ := h
  have hmem : (key, value) ∈ l := by
    obtain ⟨_, _, rfl, -⟩ := List.lookup_eq_some_iff.mp hvalue
    exact List.mem_append_right _ List.mem_cons_self
  have hfront : front.lookup key = none := by
    refine List.lookup_eq_none_iff.mpr fun p hp => bne_iff_ne.mpr fun heq => ?_
    exact hne p.1 (List.mem_map_of_mem hp) key (List.mem_map_of_mem hmem) heq.symm
  rw [List.lookup_append, hfront, hvalue]
  rfl

/-! ## The end of the larger list -/

/-- What an addition leaves of the end of a list is the end of what it leaves
of the list. -/
theorem kept_suffix (hlimit : AtLeast large small) (hsuf : l <:+ l') (key : String) :
    kept small l key <:+ kept large l' key := by
  have hkeys : key ∈ l.map Prod.fst → key ∈ l'.map Prod.fst := fun h => (hsuf.map _).subset h
  by_cases hl' : key ∈ l'.map Prod.fst
  · have hfilter : kept large l' key = l'.filter (·.1 != key) := if_pos hl'
    rw [hfilter]
    by_cases hl : key ∈ l.map Prod.fst
    · rw [kept, if_pos hl]
      exact hsuf.filter _
    · -- the key is new to the smaller list only, which may drop a pair for it
      have hend : l <:+ l'.filter (·.1 != key) := by
        have := hsuf.filter (·.1 != key)
        rwa [Store.filter_ne_eq_self hl] at this
      rw [kept, if_neg hl]
      split
      · exact (List.tail_suffix l).trans hend
      · exact hend
  · have hl : key ∉ l.map Prod.fst := fun h => hl' (hkeys h)
    rw [kept, kept, if_neg hl, if_neg hl']
    by_cases hfull' : isFull large l' = true
    · rw [if_pos hfull']
      cases large with
      | none => exact nomatch hfull'
      | some n =>
        obtain ⟨m, rfl, hmn⟩ := hlimit n rfl
        have hlen' : max n 1 ≤ l'.length := isFull_some_iff.mp hfull'
        refine List.suffix_of_suffix_length_le (show _ <:+ l' from ?_) (List.tail_suffix l') ?_
        · split
          · exact (List.tail_suffix l).trans hsuf
          · exact hsuf
        · -- a list that keeps all its pairs is shorter than its limit
          have hle := hsuf.length_le
          split
          · rw [List.length_tail, List.length_tail]
            omega
          · next hfull =>
            have hlen : ¬ max m 1 ≤ l.length := fun h => hfull (isFull_some_iff.mpr h)
            rw [List.length_tail]
            omega
    · rw [if_neg hfull']
      split
      · exact (List.tail_suffix l).trans hsuf
      · exact hsuf

/-- **The end of a list stays the end of it**: one access to both. -/
theorem access_suffix (hlimit : AtLeast large small) (hsuf : l <:+ l') (a : Access α) :
    (access small l a).2 <:+ (access large l' a).2 := by
  cases a with
  | add key value =>
    rw [access_add, access_add]
    exact List.suffix_append_self_iff.mpr (kept_suffix hlimit hsuf key)
  | remove key => exact hsuf.filter _
  | contains _ | size | isEmpty => exact hsuf
  | clear => exact List.suffix_rfl

/-- And what is taken from the end is taken from the list. -/
theorem taken_of_suffix (hsuf : l <:+ l') (h : Distinct l') {a : Access α} {value : α}
    (htaken : (access small l a).1 = .taken (some value)) :
    (access large l' a).1 = .taken (some value) := by
  cases a with
  | add key v =>
    rw [access_add] at htaken
    exact nomatch htaken
  | remove key => exact congrArg _ (lookup_of_suffix hsuf h (Answer.taken.inj htaken))
  | contains _ | size | isEmpty | clear => exact nomatch htaken

/-- **And so in every run**: the list after it is the end of the one with the
larger limit, and what is taken is taken in both. -/
theorem run_suffix (hlimit : AtLeast large small) (hsuf : l <:+ l') (h : Distinct l')
    (accesses : List (Access α)) :
    (run small l accesses).2 <:+ (run large l' accesses).2 ∧
      Distinct (run large l' accesses).2 ∧
      ∀ (i : Nat) (value : α), (run small l accesses).1[i]? = some (.taken (some value)) →
        (run large l' accesses).1[i]? = some (.taken (some value)) := by
  induction accesses generalizing l l' with
  | nil => exact ⟨hsuf, h, fun _ _ htaken => htaken⟩
  | cons a rest ih =>
    obtain ⟨hlast, hdistinct, hanswers⟩ := ih (access_suffix hlimit hsuf a) (h.access large a)
    refine ⟨hlast, hdistinct, fun i value htaken => ?_⟩
    cases i with
    | zero => exact congrArg some (taken_of_suffix hsuf h (Option.some.inj htaken))
    | succ i => exact hanswers i value htaken

/-! ## The order of the additions -/

/-- A later key of the list was added since the one before it. -/
def InOrder (before : List (Access α)) (l : Recency α) : Prop :=
  l.Pairwise fun p q => AddedSince before q.1 p.1

theorem InOrder.access {before : List (Access α)} (h : InOrder before l) (limit : Option Nat)
    (a : Access α) : InOrder (before ++ [a]) (access limit l a).2 := by
  obtain ⟨key, value, rfl⟩ | ⟨ha, hsub⟩ := access_cases limit l a
  · rw [access_add]
    refine List.pairwise_append.mpr ⟨?_, List.pairwise_singleton _ _, fun p _ q hq => ?_⟩
    · refine (h.sublist (kept_sublist limit l key)).imp_of_mem fun hp _ hsince => ?_
      exact hsince.snoc fun v heq => ne_of_mem_kept hp (Access.add.inj heq).1.symm
    · rw [List.mem_singleton.mp hq]
      exact addedSince_add before key _ value
  · exact (h.sublist hsub).imp fun hsince => hsince.snoc (ha _)

/-- **The order of a list is that of the additions.** -/
theorem InOrder.run {before : List (Access α)} (h : InOrder before l) (limit : Option Nat)
    (accesses : List (Access α)) : InOrder (before ++ accesses) (run limit l accesses).2 := by
  induction accesses generalizing before l with
  | nil => rwa [List.append_nil]
  | cons a rest ih =>
    have := ih (h.access limit a)
    rwa [List.append_assoc] at this

/-- So the end of a list holds what was added since one of its keys. -/
theorem InOrder.mem_suffix {before : List (Access α)} (h : InOrder before l') (hsuf : l <:+ l')
    {key other : String} (hkey : key ∈ l'.map Prod.fst) (hother : other ∈ l.map Prod.fst)
    (hsince : AddedSince before key other) : key ∈ l.map Prod.fst := by
  obtain ⟨front, rfl⟩ := hsuf
  rw [List.map_append] at hkey
  refine (List.mem_append.mp hkey).elim (fun hfront => ?_) id
  -- before the end there are only keys that the other one was added since
  obtain ⟨p, hp, rfl⟩ := List.mem_map.mp hfront
  obtain ⟨q, hq, rfl⟩ := List.mem_map.mp hother
  have hback : AddedSince before q.1 p.1 := (List.pairwise_append.mp h).2.2 p hp q hq
  rw [hsince.antisymm hback]
  exact hother

/-! ## Few keys -/

/-- A list with keys out of a set is shorter than the set while one of them
is missing. -/
theorem length_lt_card {keys : Finset String} (h : Distinct l) (hl : ∀ k ∈ l.map Prod.fst, k ∈ keys)
    (hkey : key ∈ keys) (hnew : key ∉ l.map Prod.fst) : l.length < keys.card := by
  have hnodup : (key :: l.map Prod.fst).Nodup := List.nodup_cons.mpr ⟨hnew, h⟩
  have hsub : (key :: l.map Prod.fst).toFinset ⊆ keys := by
    intro k hk
    rcases List.mem_cons.mp (List.mem_toFinset.mp hk) with rfl | hk
    · exact hkey
    · exact hl k hk
  have hcard := Finset.card_le_card hsub
  rw [List.toFinset_card_of_nodup hnodup, List.length_cons, List.length_map] at hcard
  omega

/-- **A limit that is no smaller than the number of keys is none.** -/
theorem run_eq_of_card_le {keys : Finset String} (h : Distinct l)
    (hl : ∀ k ∈ l.map Prod.fst, k ∈ keys) (hcard : ∀ n, limit = some n → keys.card ≤ max n 1)
    {accesses : List (Access α)} (hnamed : ∀ a ∈ accesses, ∀ k, a.key? = some k → k ∈ keys) :
    run limit l accesses = run none l accesses := by
  induction accesses generalizing l with
  | nil => rfl
  | cons a rest ih =>
    obtain ⟨ha, hrest⟩ := List.forall_mem_cons.mp hnamed
    have hsame : access limit l a = access none l a := by
      cases a with
      | add key value =>
        have hfull : key ∉ l.map Prod.fst → isFull limit l = false := by
          intro hnew
          have hlt := length_lt_card h hl (ha key rfl) hnew
          cases limit with
          | none => rfl
          | some n =>
            have hle := hcard n rfl
            rw [← Bool.not_eq_true, isFull_some_iff]
            omega
        rw [access, access]
        split
        · rfl
        · next hnew => rw [hfull hnew]; rfl
      | remove _ | contains _ | size | isEmpty | clear => rfl
    have hkeys : ∀ k ∈ (access none l a).2.map Prod.fst, k ∈ keys := by
      intro k hk
      obtain ⟨key, value, rfl⟩ | ⟨-, hsub⟩ := access_cases none l a
      · rw [access_add, List.map_append, List.mem_append] at hk
        rcases hk with hk | hk
        · exact hl k (((kept_sublist none l key).map _).subset hk)
        · obtain rfl : k = key := by simpa using hk
          exact ha k rfl
      · exact hl k ((hsub.map _).subset hk)
    have hnext : run limit (access none l a).2 rest = run none (access none l a).2 rest :=
      ih (h.access none a) hkeys hrest
    simp only [run, hsame, hnext]

end Recency

namespace Store

variable {limit small large : Option Nat} {clock : Nat} {s s' : Store α} {l : Recency α}

theorem Holds.contains_eq (h : Holds limit clock s l) (key : String) :
    s.contains key = decide (key ∈ l.map Prod.fst) := by
  obtain ⟨-, es, haged, rfl⟩ := h
  exact haged.contains_eq key

theorem Holds.value?_eq (h : Holds limit clock s l) (key : String) :
    s.value? key = l.lookup key := by
  obtain ⟨-, es, haged, rfl⟩ := h
  exact haged.remove_eq key

/-- **A larger limit loses nothing.** Two stores go through the same accesses,
each at its own times. After them every value of the one with the smaller
limit is in the other as well, under the same key; every key of the other one
that was added since some key of the smaller one is in the smaller one too;
and whatever the smaller one gave out, the other one gave out at the same
access. If the accesses name no more keys than the smaller limit, the two have
answered alike throughout. -/
theorem run_atLeast (hlimit : AtLeast large small) {steps steps' : List (Nat × Access α)}
    {answers answers' : List (Answer α)} (hsmall : Run 0 (empty small) steps answers s)
    (hlarge : Run 0 (empty large) steps' answers' s')
    (hsame : steps.map Prod.snd = steps'.map Prod.snd) :
    (∀ key value, s.value? key = some value → s'.value? key = some value) ∧
      (∀ key other, s'.contains key = true → s.contains other = true →
        AddedSince (steps.map Prod.snd) key other → s.contains key = true) ∧
      (∀ (i : Nat) (value : α), answers[i]? = some (.taken (some value)) →
        answers'[i]? = some (.taken (some value))) ∧
      ((∀ m, small = some m → (namedKeys (steps.map Prod.snd)).card ≤ max m 1) →
        answers = answers') := by
  obtain ⟨rfl, last, hholds⟩ := hsmall.holds (holds_empty small)
  obtain ⟨rfl, last', hholds'⟩ := hlarge.holds (holds_empty large)
  rw [← hsame] at hholds' ⊢
  have hempty : Recency.Distinct ([] : Recency α) := List.nodup_nil
  obtain ⟨hsuf, hdistinct, htaken⟩ :=
    Recency.run_suffix hlimit (List.suffix_refl []) hempty (steps.map Prod.snd)
  refine ⟨fun key value hvalue => ?_, fun key other hkey hother hsince => ?_, htaken, fun hfew => ?_⟩
  · rw [hholds.value?_eq] at hvalue
    rw [hholds'.value?_eq]
    exact Recency.lookup_of_suffix hsuf hdistinct hvalue
  · rw [hholds'.contains_eq, decide_eq_true_iff] at hkey
    rw [hholds.contains_eq, decide_eq_true_iff] at hother ⊢
    have horder : Recency.InOrder ([] ++ steps.map Prod.snd) _ :=
      Recency.InOrder.run List.Pairwise.nil large _
    exact horder.mem_suffix hsuf hkey hother hsince
  · have hnamed : ∀ a ∈ steps.map Prod.snd, ∀ k, a.key? = some k →
        k ∈ namedKeys (steps.map Prod.snd) := fun a ha k hk =>
      List.mem_toFinset.mpr (List.mem_filterMap.mpr ⟨a, ha, hk⟩)
    have hfew' : ∀ n, large = some n → (namedKeys (steps.map Prod.snd)).card ≤ max n 1 := by
      intro n hn
      obtain ⟨m, hm, hmn⟩ := hlimit n hn
      exact (hfew m hm).trans hmn
    rw [Recency.run_eq_of_card_le hempty (by simp) hfew hnamed,
      Recency.run_eq_of_card_le hempty (by simp) hfew' hnamed]

/-- Room for two and room for three: the first store has dropped `a` when it
is asked for, the second one gives it out; all else they have in common. -/
theorem run_atLeast_two_three :
    AtLeast (some 3) (some 2) ∧
    Run 0 (empty (some 2))
      [(1, .add "a" 1), (1, .add "b" 2), (1, .add "c" 3), (4, .remove "b"), (6, .add "b" 5),
        (7, .remove "a")]
      [.done, .done, .done, .taken (some 2), .done, .taken none]
      (⟨[⟨"c", "c", 3, 1, 2⟩, ⟨"b", "b", 5, 6, 3⟩], 4, some 2⟩ : Store Nat) ∧
    Run 0 (empty (some 3))
      [(0, .add "a" 1), (2, .add "b" 2), (2, .add "c" 3), (2, .remove "b"), (3, .add "b" 5),
        (9, .remove "a")]
      [.done, .done, .done, .taken (some 2), .done, .taken (some 1)]
      (⟨[⟨"c", "c", 3, 2, 2⟩, ⟨"b", "b", 5, 3, 3⟩], 4, some 3⟩ : Store Nat) ∧
    (⟨[⟨"c", "c", 3, 2, 2⟩, ⟨"b", "b", 5, 3, 3⟩], 4, some 3⟩ : Store Nat).value? "b" = some 5 ∧
    (⟨[⟨"c", "c", 3, 1, 2⟩, ⟨"b", "b", 5, 6, 3⟩], 4, some 2⟩ : Store Nat).contains "b" = true := by
  have hlimit : AtLeast (some 3) (some 2) := fun n hn => ⟨2, rfl, by cases hn; decide⟩
  refine ⟨hlimit, ?small, ?large, (run_atLeast hlimit ?small ?large rfl).1 "b" 5 ?value,
    (run_atLeast hlimit ?small ?large rfl).2.1 "b" "c" ?key ?other ?since⟩
  case small => exact run_run _ (by decide)
  case large => exact run_run _ (by decide)
  case since =>
    exact ⟨[.add "a" 1, .add "b" 2, .add "c" 3, .remove "b"], 5, [.remove "a"], rfl, by simp⟩
  all_goals decide

end Store

end Correlation
end Scenario
