import FibrePool.Http.Percent
import FibrePool.Text.Blank

/-!
# Query parameters

The query of an address is a form: pairs of a name and a value joined by `&`, where a plus sign is a
blank and all else is escaped.  A reader asks for parameters by name.  It is told when one that it
knows is given twice or is no truth value; names that it does not know do not matter.
-/

namespace FibrePool

set_option autoImplicit false

/-- The parameters of a query in their order. -/
abbrev QueryParameters := List (String × String)

namespace QueryParameters

/-- The text that a part of a form stands for. -/
def formText (chars : List Char) : String :=
  Text.Utf8.decodeLossy (Percent.decode (chars.map fun c => if c = '+' then ' ' else c))

/-- The name and the value of a part; a part without a sign of equality has an empty value. -/
def ofPart (part : List Char) : String × String :=
  match Text.splitOnce? '=' part with
  | some (name, value) => (formText name, formText value)
  | none => (formText part, "")

/-- The parameters of a query. -/
def ofQuery (query : List Char) : QueryParameters :=
  ((Text.splitAt '&' query).filter fun part => !part.isEmpty).map ofPart

/-- The value of a parameter, which must not be given twice. -/
def text? (parameters : QueryParameters) (name : String) : Except Unit (Option String) :=
  match parameters.filter fun parameter => parameter.1 == name with
  | [] => .ok none
  | [(_, value)] => .ok (some value)
  | _ => .error ()

/-- The truth value of a parameter, false when it is not given. -/
def flag (parameters : QueryParameters) (name : String) : Except Unit Bool := do
  match ← parameters.text? name with
  | none => return false
  | some "true" => return true
  | some "false" => return false
  | some _ => throw ()

/-- The items of a parameter that are not blank, separated by commas. -/
def list? (parameters : QueryParameters) (name : String) : Except Unit (Option (List String)) := do
  return (← parameters.text? name).map fun value =>
    ((Text.splitAt ',' value.toList).map fun item => String.ofList (Text.trim item)).filter (· ≠ "")

end QueryParameters

end FibrePool
