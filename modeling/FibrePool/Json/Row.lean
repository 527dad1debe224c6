import FibrePool.Json.Basic
import FibrePool.Data.OrderedMap
import FibrePool.Text.Numeral

/-!
# Typed values in JSON

A record is written as an object with one member for each field, and it may also be given as an
array of its fields in their order.  Reading one first makes a `Row`: the members that belong to
fields, each already known to have the right shape.

Faults are found in the order of the text, and there are two of them: a place where the text is no
JSON, and a value that does not have the shape asked for.  A field that is missing is noticed at the
end of an object, and so is one that an array lacks; an array with too many items is broken.
-/

namespace FibrePool.Json

set_option autoImplicit false

/-- Why a value could not be read as a certain type. -/
inductive Fault where
  | /-- The text is no JSON. -/
    broken
  | /-- The value has another shape. -/
    unfit
  deriving DecidableEq, Repr, Inhabited

/-- The outcome of reading a typed value. -/
abbrev Reading (α : Type) := Except Fault α

/-- The fault of a value that stands where another shape is asked for. -/
def mismatch : Json → Fault
  | cut => .broken
  | illFormed => .broken
  | natural value => if (Numeral.mk false value 0).isOverlarge then .broken else .unfit
  | number value => if value.isOverlarge then .broken else .unfit
  | _ => .unfit

/-! ## Plain values -/

/-- A text. -/
def asText : Json → Reading String
  | text value => .ok value
  | other => .error other.mismatch

/-- A truth value. -/
def asBool : Json → Reading Bool
  | bool value => .ok value
  | other => .error other.mismatch

/-- A number below `bound`, written with digits alone. -/
def asBelow (bound : Nat) : Json → Reading Nat
  | natural value => if value < bound then .ok value else .error (mismatch (natural value))
  | other => .error other.mismatch

/-- A number of 32 bits. -/
def asWord : Json → Reading Nat := asBelow 4294967296

/-- A counter of 32 bits as a number. -/
def counter (count : UInt32) : Json := natural count.toNat

/-- The counter of 32 bits in a value. -/
def asCounter (value : Json) : Reading UInt32 := UInt32.ofNat <$> asWord value

/-- A number of 64 bits. -/
def asSize : Json → Reading Nat := asBelow 18446744073709551616

/-- A list of values that `read` reads. -/
def asList {α : Type} (read : Json → Reading α) : Json → Reading (List α)
  | array items => items.mapM read
  | other => .error other.mismatch

/-- A value that `read` reads, or `null` for none. -/
def asOption {α : Type} (read : Json → Reading α) : Json → Reading (Option α)
  | null => .ok none
  | other => some <$> read other

/-- A map whose keys and values are read by `key?` and `read`; of equal keys the last one stays. -/
def asMap {K V : Type} [Ord K] [Std.TransOrd K] (key? : String → Option K)
    (read : Json → Reading V) : Json → Reading (OrderedMap K V)
  | object members => do
    let entries ← members.mapM fun (name, value) =>
      match key? name with
      | some key => return (key, ← read value)
      | none => throw value.mismatch
    return OrderedMap.ofList entries
  | other => .error other.mismatch

/-- A value that nobody asks for; it only has to be read to its end. -/
def skip (value : Json) : Reading Unit := if value.isWhole then .ok () else .error .broken

/-! ## Records -/

/-- A field of a record. -/
structure Field where
  name : String
  /-- Whether a value has the shape of the field. -/
  check : Json → Reading Unit
  /-- Whether an array may end before the field. -/
  omissible : Bool := false

/-- The members of a record that belong to its fields. -/
abbrev Row := List (String × Json)

namespace Field

/-- A field whose values `read` reads. -/
def of {α : Type} (name : String) (read : Json → Reading α) : Field where
  name := name
  check value := (fun _ => ()) <$> read value

/-- The same field, where an array may end before it. -/
def omitted (field : Field) : Field := { field with omissible := true }

end Field

namespace Row

/-- Checks the members of an object in their order, `seen` being the fields met before. -/
def checkMembers (fields : List Field) (seen : List String) :
    List (String × Json) → Reading Row
  | [] => .ok []
  | (name, value) :: rest =>
    match fields.find? fun field => field.name == name with
    | some field => do
      if seen.contains name then throw .unfit
      field.check value
      return (name, value) :: (← checkMembers fields (name :: seen) rest)
    | none => do
      value.skip
      checkMembers fields seen rest

/-- A value that nobody asks for, kept until the whole record is known: every part of it must be a
value that a program can hold, and it must not be nested too deep. -/
def keep (value : Json) : Reading Unit :=
  if value.everyLeaf isHeld ∧ value.depth < 127 then .ok () else .error .broken

/-- Checks the items of an array against the fields in their order. -/
def checkItems : List Field → List Json → Reading Row
  | [], [] => .ok []
  | [], _ :: _ => .error .broken
  | field :: fields, [] => if field.omissible then checkItems fields [] else .error .unfit
  | field :: fields, value :: rest => do
    field.check value
    return (field.name, value) :: (← checkItems fields rest)

/-- The row of a record that is given as an object or as an array. -/
def read (fields : List Field) : Json → Reading Row
  | object members => checkMembers fields [] members
  | array items => checkItems fields items
  | other => .error other.mismatch

/-- The row of a record that must be given as an object, and whose unknown members are kept. -/
def readObject (fields : List Field) : Json → Reading Row
  | object members => do
    (members.filter fun member => fields.all (·.name != member.1)).forM (keep ·.2)
    checkMembers fields [] members
  | other => .error other.mismatch

/-- The value of a field that must be there. -/
def required {α : Type} (row : Row) (name : String) (read : Json → Reading α) : Reading α :=
  match row.lookup name with
  | some value => read value
  | none => .error .unfit

/-- The value of a field, or its default. -/
def withDefault {α : Type} (row : Row) (name : String) (read : Json → Reading α) (value : α) :
    Reading α :=
  match row.lookup name with
  | some given => read given
  | none => .ok value

/-- The value of a field that may be missing or `null`. -/
def optional {α : Type} (row : Row) (name : String) (read : Json → Reading α) :
    Reading (Option α) :=
  row.withDefault name (asOption read) none

end Row

/-! ## Writing -/

/-- A type whose values are exchanged as JSON. -/
class Codec (α : Type) where
  encode : α → Json
  decode : Json → Reading α

/-- A value or `null`. -/
def ofOption {α : Type} (write : α → Json) : Option α → Json
  | some value => write value
  | none => null

/-- A list of written values. -/
def ofList {α : Type} (write : α → Json) (values : List α) : Json := array (values.map write)

/-- A list of texts. -/
def ofTexts (values : List String) : Json := ofList text values

/-- A map as an object with its keys in order. -/
def ofMap {K V : Type} [Ord K] (key : K → String) (write : V → Json) (map : OrderedMap K V) :
    Json :=
  object (map.entries.map fun entry => (key entry.1, write entry.2))

/-- The member of a value that is left out when there is none. -/
def ofPresent {α : Type} (name : String) (write : α → Json) : Option α → List (String × Json)
  | some value => [(name, write value)]
  | none => []

end FibrePool.Json
