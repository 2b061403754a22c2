/-!
# Variable scopes — named values shared by the steps of a scenario

A scope binds distinct names to texts. Setting a name replaces what it was
bound to, so the last value wins; looking up a name that is not bound is an
error that carries the name.
-/

namespace Scenario

/-- A lookup of a name that the scope does not bind. -/
structure UnknownVariable where
  /-- The name looked up. -/
  name : String
  deriving DecidableEq

/-- The text shown for an unknown variable. -/
def UnknownVariable.message (e : UnknownVariable) : String :=
  s!"Unknown variable '{e.name}'"

/-- Named values; no name is bound twice. -/
structure Scope where
  /-- The bindings, the most recent one first. -/
  bindings : List (String × String)
  /-- No name is bound twice. -/
  distinct : (bindings.map Prod.fst).Nodup

namespace Scope

/-- The scope without variables. -/
def empty : Scope := ⟨[], by simp⟩

/-- The bindings of other names than the given one. -/
def others (s : Scope) (name : String) : List (String × String) :=
  s.bindings.filter fun b => b.1 ≠ name

/-- The names of the other bindings are still distinct. -/
theorem others_distinct (s : Scope) (name : String) : ((s.others name).map Prod.fst).Nodup :=
  s.distinct.sublist (List.filter_sublist.map Prod.fst)

/-- The name itself is not bound by the others. -/
theorem not_mem_others (s : Scope) (name : String) : name ∉ (s.others name).map Prod.fst := by
  simp [others]

/-- The value bound to a name, if any. -/
def find? (s : Scope) (name : String) : Option String :=
  s.bindings.lookup name

/-- The value bound to a name. -/
def get (s : Scope) (name : String) : Except UnknownVariable String :=
  match s.find? name with
  | some value => .ok value
  | none => .error ⟨name⟩

/-- Bind a name, replacing what it was bound to. -/
def set (s : Scope) (name value : String) : Scope :=
  ⟨(name, value) :: s.others name, by
    simpa using ⟨by simpa using s.not_mem_others name, s.others_distinct name⟩⟩

/-- Whether a name is bound. -/
def has (s : Scope) (name : String) : Bool :=
  s.bindings.any fun b => b.1 == name

/-- Whether looking a name up succeeds. -/
def hasByLookup (s : Scope) (name : String) : Bool :=
  match s.get name with
  | .ok _ => true
  | .error _ => false

/-- The scope without a name. -/
def remove (s : Scope) (name : String) : Scope :=
  ⟨s.others name, s.others_distinct name⟩

/-- The number of variables. -/
def size (s : Scope) : Nat := s.bindings.length

/-- Whether there are no variables. -/
def isEmpty (s : Scope) : Bool := s.size == 0

/-- The scope that binds the given names in order, the last value of a name
winning. -/
def ofList (bindings : List (String × String)) : Scope :=
  bindings.foldl (fun s b => s.set b.1 b.2) empty

/-- The two ways to ask for a name agree. -/
theorem has_eq_hasByLookup (s : Scope) (name : String) : s.has name = s.hasByLookup name := by
  unfold has hasByLookup get find?
  induction s.bindings with
  | nil => rfl
  | cons b bs ih =>
    obtain ⟨key, value⟩ := b
    have swap : (key == name) = (name == key) := Bool.beq_comm
    rw [List.any_cons, List.lookup_cons, swap]
    cases name == key with
    | true => rfl
    | false => exact ih

end Scope
end Scenario
