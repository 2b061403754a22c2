import Scenario.Proofs.Pattern.Progress

/-!
# Locality — reading before a closing parenthesis

A pattern is read the same way at the end of a text and before a closing
parenthesis with anything after it (`Input.closed`). Two runs of a reader
on the two inputs stay `Together`: either both have the same outcome, with
the parenthesis still to come in one of them, or the longer run has passed
the parenthesis, while the shorter one has failed. Only a comment can end
the shorter run well there, by taking the parenthesis with it
(`Input.OpenComment`).

Readers that only look ahead may stop at the parenthesis where the shorter
run fails; the second argument of `Together` is whether they must not.
-/

namespace Scenario
namespace Pattern

/-- An input with a closing parenthesis and more text after it. -/
def Input.closed (i : Input) (back : List Char) : Input := { i with rest := i.rest ++ ')' :: back }

/-- A comment may be open at the end of an input: a number sign comes without
a line end after it, where layout is skipped or a flag before it may say so. -/
def Input.OpenComment (i : Input) : Prop :=
  ∃ front comment, i.rest = front ++ '#' :: comment ∧ '\n' ∉ comment ∧
    (i.spaced = true ∨ SetsLayout front)

theorem Input.After.openComment {i j : Input} (h : i.After j) (hj : j.OpenComment) :
    i.OpenComment := by
  obtain ⟨front, comment, hrest, hline, hset⟩ := hj
  obtain ⟨read, hread⟩ := h.suffix
  refine ⟨read ++ front, comment, by rw [← hread, hrest, List.append_assoc], hline, ?_⟩
  rcases hset with hspaced | hset
  · refine (h.spaced hspaced).imp_right ?_
    rintro ⟨read', hread', hset⟩
    obtain rfl := List.append_cancel_right (hread.trans hread')
    exact hset.append [] front
  · have hlater := hset.append read []
    rw [List.append_nil] at hlater
    exact .inr hlater

namespace Reader

variable {α β : Type} {back : List Char} {i j : Input} {k l : Bool}

/-- A run has come past a parenthesis with `back` after it, or at least to it
if `beyond` is not asked. -/
def Past (back : List Char) (beyond : Bool) (outcome : Option (α × Input)) : Prop :=
  ∀ a j, outcome = some (a, j) → j.rest.length + beyond.toNat ≤ (')' :: back).length

/-- A run fails, or it has read everything and a comment may be open. -/
def Spent (i : Input) (outcome : Option (α × Input)) : Prop :=
  ∀ a j, outcome = some (a, j) → j.rest = [] ∧ i.OpenComment

/-- **Two runs stay together** on an input and on the one with a parenthesis
after it, or the second one comes past the parenthesis. -/
def Together (back : List Char) (beyond : Bool) (i : Input)
    (short long : Option (α × Input)) : Prop :=
  (∃ a j, short = some (a, j) ∧ long = some (a, j.closed back)) ∨
    (Spent i short ∧ Past back beyond long)

/-- Other characters begin no layout. -/
theorem bumpSpace_of_none {c : Char} {cs : List Char} (hi : i.rest = c :: cs)
    (hblank : ¬ Text.isBlank c = true) (hsign : c ≠ '#') :
    Reader.bumpSpace i = some ((), i) := by
  have hskip : skipLayout false (c :: cs) = c :: cs := by
    rw [skipLayout, if_neg hblank, if_neg hsign]
  obtain ⟨rest, spaced, names⟩ := i
  obtain rfl : rest = c :: cs := hi
  cases spaced
  · rfl
  · rw [Reader.bumpSpace, if_pos rfl, hskip]

/-! ## Runs past the parenthesis -/

theorem Past.none : Past back k (none : Option (α × Input)) := fun _ _ h => nomatch h

/-- What a reader leaves is past the parenthesis if its input is. -/
theorem Past.of_lt {m : Reader α} (hm : Leaves m) (hj : j.rest.length < (')' :: back).length) :
    Past back k (m j) := by
  intro a j' h
  have hle := (hm j a j' h).suffix.length_le
  have hk := Bool.toNat_le k
  omega

/-- From the parenthesis a reader comes to it at least. -/
theorem Past.of_stop {m : Reader α} (hm : Leaves m) (hj : j.rest = ')' :: back) :
    Past back false (m j) :=
  fun a j' h => hj ▸ (hm j a j' h).suffix.length_le

/-- What comes after a run past the parenthesis is past it. -/
theorem Past.bind {m : Reader α} {f : α → Reader β} (h : Past back true (m j))
    (hf : ∀ a, Leaves (f a)) : Past back k ((m >>= f) j) := by
  intro b j' hb
  obtain ⟨a, j₁, hfirst, hrest⟩ := bind_eq_some_iff.mp hb
  exact Past.of_lt (hf a) (h a j₁ hfirst) b j' hrest

/-- A look at the parenthesis shows it. -/
theorem Past.peek {f : Char → Reader β} (hj : j.rest = ')' :: back)
    (h : Past back k (f ')' j)) : Past back k ((Reader.peek >>= f) j) := by
  have hpeek : Reader.peek j = some (')', j) := peek_eq_some_iff.mpr ⟨back, hj, rfl⟩
  rwa [bind_apply, hpeek]

/-- Passing over the parenthesis comes past it. -/
theorem Past.bump {f : Unit → Reader β} (hj : j.rest = ')' :: back)
    (hf : Leaves (f ())) : Past back k ((Reader.bump >>= f) j) := by
  refine Past.of_lt (j := { j with rest := j.rest.drop 1 }) hf ?_
  simp [hj]

theorem Past.next {f : Unit → Reader β} (hj : j.rest = ')' :: back)
    (hf : Leaves (f ())) : Past back k ((Reader.next >>= f) j) := by
  have hnext : Reader.next =
      Reader.bump >>= fun _ => Reader.bumpSpace >>= fun _ => discard Reader.peek := rfl
  rw [hnext, bind_assoc]
  exact Past.bump hj
    ((leaves_bumpSpace.bind fun _ => leaves_peek.discard).bind fun _ => hf)

/-- There is no layout at the parenthesis. -/
theorem Past.bumpSpace {f : Unit → Reader β} (hj : j.rest = ')' :: back)
    (h : Past back k (f () j)) : Past back k ((Reader.bumpSpace >>= f) j) := by
  rwa [bind_apply, bumpSpace_of_none hj (by decide) (by decide)]

theorem Past.require {f : Unit → Reader β} (condition : Bool) (h : Past back k (f () j)) :
    Past back k ((Reader.require condition >>= f) j) := by
  cases condition with
  | false => exact .none
  | true => exact h

/-! ## Runs that stay together -/

/-- Both runs fail. -/
theorem Together.none : Together back k i (none : Option (α × Input)) none :=
  .inr ⟨fun _ _ h => (nomatch h), Past.none⟩

/-- Neither reads anything. -/
theorem Together.pure (a : α) :
    Together back k i ((Pure.pure a : Reader α) i) ((Pure.pure a : Reader α) (i.closed back)) :=
  .inl ⟨a, i, rfl, rfl⟩

theorem Together.failure : Together back k i ((Alternative.failure : Reader α) i)
    ((Alternative.failure : Reader α) (i.closed back)) := .none

/-- Only the longer run goes on. -/
theorem Together.of_past {long : Option (α × Input)} (h : Past back k long) :
    Together back k i Option.none long :=
  .inr ⟨fun _ _ h => (nomatch h), h⟩

/-- A comment open later is open before. -/
theorem Together.of_after {short long : Option (α × Input)} (hij : i.After j)
    (h : Together back k j short long) : Together back k i short long :=
  h.imp_right fun ⟨hspent, hpast⟩ =>
    ⟨fun a j' hj' => ⟨(hspent a j' hj').1, hij.openComment (hspent a j' hj').2⟩, hpast⟩

/-- A run that is past the parenthesis has come to it. -/
theorem Together.look {short long : Option (α × Input)} (h : Together back true i short long) :
    Together back false i short long :=
  h.imp_right fun ⟨hspent, hpast⟩ => ⟨hspent, fun a j hj => Nat.le_of_succ_le (hpast a j hj)⟩

/-- **Runs that are together go on together**, if the second part is together
where the first one is, and comes past the parenthesis where that has. -/
theorem Together.bind_of {m m' : Reader α} {f f' : α → Reader β}
    (h : Together back k i (m i) (m' (i.closed back)))
    (hf : ∀ a j b j', f a j = some (b, j') → j'.rest <:+ j.rest)
    (hstep : ∀ a j, m i = some (a, j) → Together back l i (f a j) (f' a (j.closed back)))
    (hpast : ∀ a j, m' (i.closed back) = some (a, j) →
      j.rest.length + k.toNat ≤ (')' :: back).length → Past back l (f' a j)) :
    Together back l i ((m >>= f) i) ((m' >>= f') (i.closed back)) := by
  rw [bind_apply, bind_apply]
  rcases h with ⟨a, j, hshort, hlong⟩ | ⟨hspent, hlong⟩
  · rw [hshort, hlong]
    exact hstep a j hshort
  · -- the shorter run has nothing left to read, if it has not failed
    refine .inr ⟨fun b j' hb => ?_, fun b j' hb => ?_⟩
    · obtain ⟨a, j, hshort, hrest⟩ := bind_eq_some_iff.mp hb
      obtain ⟨hnil, hopen⟩ := hspent a j hshort
      have hsuffix := hf a j b j' hrest
      rw [hnil, List.suffix_nil] at hsuffix
      exact ⟨hsuffix, hopen⟩
    · obtain ⟨a, j, hfirst, hrest⟩ := bind_eq_some_iff.mp hb
      exact hpast a j hfirst (hlong a j hfirst) b j' hrest

/-- A run that has come to the parenthesis stops there or is past it. -/
theorem stop_or_past {m : Reader α} (hm : Leaves m) {a : α}
    (h : m (i.closed back) = some (a, j)) (hlength : j.rest.length ≤ (')' :: back).length) :
    j.rest = ')' :: back ∨ j.rest.length < (')' :: back).length := by
  have hsuffix : j.rest <:+ ')' :: back :=
    List.suffix_of_suffix_length_le (hm _ a j h).suffix (List.suffix_append _ _) hlength
  rcases Nat.lt_or_eq_of_le hlength with hlt | heq
  · exact .inr hlt
  · exact .inl (hsuffix.eq_of_length heq)

/-- So they do after a reader that cannot stop at the parenthesis. -/
theorem Together.bind {m m' : Reader α} {f f' : α → Reader β}
    (h : Together back true i (m i) (m' (i.closed back))) (hm : Leaves m) (hf : ∀ a, Leaves (f a))
    (hf' : ∀ a, Leaves (f' a))
    (hstep : ∀ a j, m i = some (a, j) → Together back l j (f a j) (f' a (j.closed back))) :
    Together back l i ((m >>= f) i) ((m' >>= f') (i.closed back)) :=
  h.bind_of (fun a j b j' hb => (hf a j b j' hb).suffix)
    (fun a j hj => (hstep a j hj).of_after (hm i a j hj)) fun a _ _ hj => .of_lt (hf' a) hj

/-- What is made of the results stays together. -/
theorem Together.map {m m' : Reader α} {g : α → β}
    (h : Together back true i (m i) (m' (i.closed back))) (hm : Leaves m) :
    Together back l i ((m >>= fun a => Pure.pure (g a)) i)
      ((m' >>= fun a => Pure.pure (g a)) (i.closed back)) :=
  h.bind hm (fun _ => .pure _) (fun _ => .pure _) fun _ _ _ => .pure _

theorem Together.discard {m m' : Reader α} (h : Together back true i (m i) (m' (i.closed back)))
    (hm : Leaves m) :
    Together back l i (Functor.discard m i) (Functor.discard m' (i.closed back)) := h.map hm

/-- And after one that can, if the rest takes it from there. -/
theorem Together.bindLook {m m' : Reader α} {f f' : α → Reader β}
    (h : Together back false i (m i) (m' (i.closed back))) (hm : Leaves m) (hm' : Leaves m')
    (hf : ∀ a, Leaves (f a)) (hf' : ∀ a, Leaves (f' a))
    (hstep : ∀ a j, m i = some (a, j) → Together back l j (f a j) (f' a (j.closed back)))
    (hstop : ∀ a j, j.rest = ')' :: back → Past back l (f' a j)) :
    Together back l i ((m >>= f) i) ((m' >>= f') (i.closed back)) := by
  refine h.bind_of (fun a j b j' hb => (hf a j b j' hb).suffix)
    (fun a j hj => (hstep a j hj).of_after (hm i a j hj)) fun a j hj hlength => ?_
  rcases stop_or_past hm' hj hlength with hstopped | hlt
  · exact hstop a j hstopped
  · exact .of_lt (hf' a) hlt

/-! ## Single steps -/

section Steps

variable {f f' : Unit → Reader β}

theorem peek_bind {f : Char → Reader β} {c : Char} {cs : List Char} (hi : i.rest = c :: cs) :
    (Reader.peek >>= f) i = f c i := by
  rw [bind_apply, peek_eq_some_iff.mpr ⟨cs, hi, rfl⟩]
  rfl

theorem peek_bind_closed {f : Char → Reader β} {c : Char} {cs : List Char} (hi : i.rest = c :: cs) :
    (Reader.peek >>= f) (i.closed back) = f c (i.closed back) :=
  peek_bind (by rw [Input.closed, hi]; rfl)

/-- A look at the next character shows both runs the same, or the shorter one
fails where the longer one sees the parenthesis. -/
theorem peek_cases (back : List Char) (i : Input) (f g : Char → Reader β) :
    (∃ c cs, i.rest = c :: cs ∧ (Reader.peek >>= f) i = f c i ∧
      (Reader.peek >>= g) (i.closed back) = g c (i.closed back)) ∨
    ((Reader.peek >>= f) i = Option.none ∧ (i.closed back).rest = ')' :: back ∧
      (Reader.peek >>= g) (i.closed back) = g ')' (i.closed back)) := by
  cases hrest : i.rest with
  | nil =>
    have hshort : Reader.peek i = Option.none := by rw [Reader.peek, hrest]
    have hclosed : (i.closed back).rest = ')' :: back := by rw [Input.closed, hrest]; rfl
    exact .inr ⟨by rw [bind_apply, hshort]; rfl, hclosed, peek_bind hclosed⟩
  | cons c cs => exact .inl ⟨c, cs, rfl, peek_bind hrest, peek_bind_closed hrest⟩

theorem Together.peek {f g : Char → Reader β}
    (h : ∀ c cs, i.rest = c :: cs → Together back k i (f c i) (g c (i.closed back)))
    (hend : ∀ j, j.rest = ')' :: back → Past back k (g ')' j)) :
    Together back k i ((Reader.peek >>= f) i) ((Reader.peek >>= g) (i.closed back)) := by
  rcases peek_cases back i f g with ⟨c, cs, hrest, hshort, hlong⟩ | ⟨hshort, hrest, hlong⟩
  · rw [hshort, hlong]
    exact h c cs hrest
  · rw [hshort, hlong]
    exact .of_past (hend _ hrest)

theorem bump_bind {c : Char} {cs : List Char} (hi : i.rest = c :: cs) :
    (Reader.bump >>= f) i = f () { i with rest := cs } := by
  rw [bind_apply, Reader.bump, hi]
  rfl

theorem bump_bind_closed {c : Char} {cs : List Char} (hi : i.rest = c :: cs) :
    (Reader.bump >>= f) (i.closed back) = f () (Input.closed { i with rest := cs } back) :=
  bump_bind (by rw [Input.closed, hi]; rfl)

/-- Passing over a character that is there. -/
theorem Together.bump (hi : i.rest ≠ [])
    (h : ∀ j, i.After j → j.rest.length < i.rest.length →
      Together back k j (f () j) (f' () (j.closed back))) :
    Together back k i ((Reader.bump >>= f) i) ((Reader.bump >>= f') (i.closed back)) := by
  obtain ⟨c, cs, hrest⟩ := List.exists_cons_of_ne_nil hi
  have hj := Input.after_cons hrest
  rw [bump_bind hrest, bump_bind_closed hrest]
  exact (h _ hj (by simp [hrest])).of_after hj

/-- Skipping layout stops at the same place, unless an open comment takes the
parenthesis. -/
theorem skipLayout_append (back : List Char) (comment : Bool) (cs : List Char) :
    skipLayout comment (cs ++ ')' :: back) = skipLayout comment cs ++ ')' :: back ∨
      skipLayout comment cs = [] ∧
        (skipLayout comment (cs ++ ')' :: back)).length ≤ back.length ∧
        (comment = true ∧ '\n' ∉ cs ∨
          ∃ front text, cs = front ++ '#' :: text ∧ '\n' ∉ text) := by
  induction cs generalizing comment with
  | nil =>
    cases comment with
    | true =>
      -- the comment goes on, and takes the parenthesis
      exact .inr ⟨rfl, (skipLayout_suffix true back).length_le, .inl ⟨rfl, List.not_mem_nil⟩⟩
    | false => exact .inl rfl
  | cons c cs ih =>
    have hlater : (∃ front text, cs = front ++ '#' :: text ∧ '\n' ∉ text) →
        ∃ front text, c :: cs = front ++ '#' :: text ∧ '\n' ∉ text := by
      rintro ⟨front, text, rfl, hline⟩
      exact ⟨c :: front, text, rfl, hline⟩
    cases comment with
    | true =>
      rw [List.cons_append, skipLayout, skipLayout]
      refine (ih _).imp_right ?_
      rintro ⟨hnil, hlength, hopen⟩
      refine ⟨hnil, hlength, ?_⟩
      rcases hopen with ⟨hcomment, hline⟩ | hopen
      · refine .inl ⟨rfl, ?_⟩
        rw [List.mem_cons, not_or]
        exact ⟨Ne.symm (bne_iff_ne.mp hcomment), hline⟩
      · exact .inr (hlater hopen)
    | false =>
      rw [List.cons_append, skipLayout, skipLayout]
      split
      · refine (ih false).imp_right ?_
        rintro ⟨hnil, hlength, hopen⟩
        refine ⟨hnil, hlength, ?_⟩
        rcases hopen with ⟨hcomment, -⟩ | hopen
        · cases hcomment
        · exact .inr (hlater hopen)
      · split
        · next hsign =>
          refine (ih true).imp_right ?_
          rintro ⟨hnil, hlength, hopen⟩
          refine ⟨hnil, hlength, .inr ?_⟩
          rcases hopen with ⟨-, hline⟩ | hopen
          · exact ⟨[], cs, by rw [hsign, List.nil_append], hline⟩
          · exact hlater hopen
        · exact .inl rfl

/-- So both runs pass over the same layout. -/
theorem together_bumpSpace (i : Input) :
    Together back true i (Reader.bumpSpace i) (Reader.bumpSpace (i.closed back)) := by
  cases hspaced : i.spaced with
  | false =>
    have hshort : Reader.bumpSpace i = some ((), i) := by rw [Reader.bumpSpace, hspaced]; rfl
    have hlong : Reader.bumpSpace (i.closed back) = some ((), i.closed back) := by
      rw [Reader.bumpSpace, Input.closed, hspaced]; rfl
    exact .inl ⟨(), i, hshort, hlong⟩
  | true =>
    have hshort : Reader.bumpSpace i = some ((), { i with rest := skipLayout false i.rest }) := by
      rw [Reader.bumpSpace, hspaced]; rfl
    have hlong : Reader.bumpSpace (i.closed back) =
        some ((), { i with rest := skipLayout false (i.rest ++ ')' :: back) }) := by
      rw [Reader.bumpSpace, Input.closed, hspaced]; rfl
    rcases skipLayout_append back false i.rest with heq | ⟨hnil, hlength, hopen⟩
    · exact .inl ⟨(), _, hshort, by rw [hlong, heq]; rfl⟩
    · refine .inr ⟨fun _ j hj => ?_, fun _ j hj => ?_⟩
      · rw [hshort, hnil] at hj
        cases hj
        obtain ⟨front, comment, hrest, hline⟩ := hopen.resolve_left fun h => Bool.false_ne_true h.1
        exact ⟨rfl, front, comment, hrest, hline, .inl hspaced⟩
      · rw [hlong] at hj
        cases hj
        exact Nat.succ_le_succ hlength

/-- Passing over layout. -/
theorem Together.bumpSpace (hf : Leaves (f ())) (hf' : Leaves (f' ()))
    (h : ∀ j, i.After j → Together back k j (f () j) (f' () (j.closed back))) :
    Together back k i ((Reader.bumpSpace >>= f) i) ((Reader.bumpSpace >>= f') (i.closed back)) :=
  (together_bumpSpace i).bind leaves_bumpSpace (fun _ => hf) (fun _ => hf')
    fun _ j hj => h j (leaves_bumpSpace i _ j hj)

/-- Passing over a character and layout to another character. -/
theorem Together.next (hi : i.rest ≠ []) (hf : Leaves (f ())) (hf' : Leaves (f' ()))
    (h : ∀ j, i.After j → j.rest.length < i.rest.length → j.rest ≠ [] →
      Together back k j (f () j) (f' () (j.closed back)))
    (hstop : ∀ j, j.rest = ')' :: back → Past back k (f' () j)) :
    Together back k i ((Reader.next >>= f) i) ((Reader.next >>= f') (i.closed back)) := by
  have hnext : Reader.next = Reader.bump >>= fun _ => Reader.bumpSpace >>= fun _ =>
      Reader.peek >>= fun _ => Pure.pure () := rfl
  simp only [hnext, bind_assoc, pure_bind]
  refine .bump hi fun j hj hlt => .bumpSpace (leaves_peek.bind fun _ => hf)
    (leaves_peek.bind fun _ => hf') fun j' hj' => .peek (fun c cs hrest => ?_) hstop
  exact h j' (hj.trans hj') (Nat.lt_of_le_of_lt hj'.suffix.length_le hlt) (by simp [hrest])

/-- A test of what is known. -/
theorem Together.require (condition : Bool)
    (h : condition = true → Together back k i (f () i) (f' () (i.closed back))) :
    Together back k i ((Reader.require condition >>= f) i)
      ((Reader.require condition >>= f') (i.closed back)) := by
  cases condition with
  | false => exact .none
  | true => exact h rfl

end Steps

/-- What comes before a parenthesis is not changed by the text after it. -/
theorem append_eq_append_closed {lead rest cs : List Char} (hlead : ')' ∉ lead)
    (h : lead ++ rest = cs ++ ')' :: back) :
    ∃ more, cs = lead ++ more ∧ rest = more ++ ')' :: back := by
  rcases List.append_eq_append_iff.mp h with ⟨more, hcs, hrest⟩ | ⟨more, hlead', hrest⟩
  · exact ⟨more, hcs, hrest⟩
  · cases more with
    | nil => exact ⟨[], by rw [hlead', List.append_nil, List.append_nil], hrest.symm⟩
    | cons c more =>
      cases hrest
      rw [hlead'] at hlead
      exact absurd (List.mem_append_right _ List.mem_cons_self) hlead

/-- A text without a parenthesis comes next in both runs or in none. -/
theorem isPrefixOf_closed (back : List Char) {lead : List Char} (hlead : ')' ∉ lead)
    (cs : List Char) : lead.isPrefixOf (cs ++ ')' :: back) = lead.isPrefixOf cs := by
  rw [Bool.eq_iff_iff, List.isPrefixOf_iff_prefix, List.isPrefixOf_iff_prefix]
  constructor
  · rintro ⟨rest, hrest⟩
    obtain ⟨more, rfl, -⟩ := append_eq_append_closed hlead hrest
    exact List.prefix_append _ _
  · exact fun h => h.trans (List.prefix_append _ _)

section Texts

variable {f f' : Bool → Reader β}

theorem Together.sees {text : String} (htext : ')' ∉ text.toList)
    (h : ∀ seen, Together back k i (f seen i) (f' seen (i.closed back))) :
    Together back k i ((Reader.sees text >>= f) i) ((Reader.sees text >>= f') (i.closed back)) := by
  have hlong : Reader.sees text (i.closed back) =
      some (text.toList.isPrefixOf i.rest, i.closed back) := by
    rw [Reader.sees, Input.closed, isPrefixOf_closed back htext]
  rw [bind_apply, bind_apply, hlong]
  exact h _

theorem Together.accept {text : String} (htext : ')' ∉ text.toList)
    (h : ∀ seen j, i.After j → Together back k j (f seen j) (f' seen (j.closed back))) :
    Together back k i ((Reader.accept text >>= f) i)
      ((Reader.accept text >>= f') (i.closed back)) := by
  have hcloses := isPrefixOf_closed back htext i.rest
  rw [bind_apply, bind_apply]
  cases hseen : text.toList.isPrefixOf i.rest with
  | true =>
    obtain ⟨more, hmore⟩ := List.isPrefixOf_iff_prefix.mp hseen
    have hj : i.After { i with rest := more } := ⟨hmore ▸ List.suffix_append _ _, .inl⟩
    have hgo := (h true { i with rest := more } hj).of_after hj
    rw [hseen] at hcloses
    simpa [Reader.accept, Input.closed, hcloses, ← hmore] using hgo
  | false =>
    have hgo := h false i (.refl i)
    rw [hseen] at hcloses
    simpa [Reader.accept, Input.closed, hseen, hcloses] using hgo

end Texts

/-- Fuel for both runs. -/
theorem Together.fuelHere {f f' : Nat → Reader β}
    (h : ∀ fuel fuel', i.rest.length < fuel → i.rest.length < fuel' →
      Together back k i (f fuel i) (f' fuel' (i.closed back))) :
    Together back k i ((Reader.fuelHere >>= f) i) ((Reader.fuelHere >>= f') (i.closed back)) :=
  h (i.rest.length + 1) ((i.closed back).rest.length + 1) (Nat.lt_succ_self _) (by
    simp only [Input.closed, List.length_append]
    omega)

end Reader

end Pattern
end Scenario
