/-!
# Documents — the JSON values a path walks over

A document is a value of JSON. Numbers keep their decimal form, a mantissa
and a number of decimal places, because paths hand them on without looking
at them. The fields of an object have distinct names; `property?` finds one.
-/

namespace Scenario

/-- A JSON value. -/
inductive Document where
  | null
  | bool (value : Bool)
  /-- The number `mantissa / 10 ^ places`. -/
  | number (mantissa : Int) (places : Nat)
  | string (value : String)
  | array (items : List Document)
  | object (fields : List (String × Document))

namespace Document

/-- The value of a named field; nothing for values that are no objects. -/
def property? (name : String) : Document → Option Document
  | object fields => fields.lookup name
  | _ => none

/-- The items of an array; nothing for other values. -/
def items? : Document → Option (List Document)
  | array items => some items
  | _ => none

end Document
end Scenario
