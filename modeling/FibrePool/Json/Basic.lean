/-!
# JSON values

A value as it stands in a text: the members of an object keep their order and may repeat a name.

Reading a text goes on as far as the text is JSON, and `cut` marks the place where it stops being
so.  A reader that only wants the first part of a text can then do without the rest, and one that
wants a value of a certain shape learns which of two faults comes first.
-/

namespace FibrePool

set_option autoImplicit false

/-- A number with a sign, a fraction or an exponent: `digits · 10 ^ exponent`. -/
structure Json.Numeral where
  negative : Bool
  digits : Nat
  exponent : Int
  deriving DecidableEq, Repr, Inhabited

/-- A JSON value. -/
inductive Json where
  | null
  | bool (value : Bool)
  | /-- A number written with digits alone. -/
    natural (value : Nat)
  | number (value : Json.Numeral)
  | text (value : String)
  | array (items : List Json)
  | object (members : List (String × Json))
  | /-- A text with half of a surrogate pair, or with bytes that are no character. -/
    illFormed
  | /-- The place where a text stops being JSON. -/
    cut
  deriving Repr, BEq, Inhabited

namespace Json

/-- Whether a number is too large for a floating-point number of 64 bits. -/
def Numeral.isOverlarge (n : Numeral) : Bool :=
  let places : Int := (toString n.digits).length + n.exponent
  if n.digits = 0 then false
  else if places = 309 then
    if 0 ≤ n.exponent then Nat.pow 2 1024 - Nat.pow 2 970 ≤ n.digits * Nat.pow 10 n.exponent.toNat
    else (Nat.pow 2 1024 - Nat.pow 2 970) * Nat.pow 10 (-n.exponent).toNat ≤ n.digits
  else 309 < places

/-- The value of the first member with a name. -/
def get? (json : Json) (name : String) : Option Json :=
  match json with
  | object members => (members.find? fun member => member.1 == name).map (·.2)
  | _ => none

mutual

/-- Whether a condition holds of every part of the value that has no parts itself. -/
def everyLeaf (condition : Json → Bool) : Json → Bool
  | array items => everyLeafOfAll condition items
  | object members => everyLeafOfMembers condition members
  | leaf => condition leaf

/-- Whether a condition holds of every leaf of every item. -/
def everyLeafOfAll (condition : Json → Bool) : List Json → Bool
  | [] => true
  | item :: rest => item.everyLeaf condition && everyLeafOfAll condition rest

/-- Whether a condition holds of every leaf of every member. -/
def everyLeafOfMembers (condition : Json → Bool) : List (String × Json) → Bool
  | [] => true
  | (_, value) :: rest => value.everyLeaf condition && everyLeafOfMembers condition rest

end

/-- Whether a leaf is read to its end. -/
def isRead : Json → Bool
  | cut => false
  | _ => true

/-- Whether a leaf is a value that a program can hold. -/
def isHeld : Json → Bool
  | cut => false
  | illFormed => false
  | natural value => !(Numeral.mk false value 0).isOverlarge
  | number value => !value.isOverlarge
  | _ => true

/-- Whether the value is read to its end. -/
def isWhole (value : Json) : Bool := value.everyLeaf isRead

mutual

/-- How deep arrays and objects are nested. -/
def depth : Json → Nat
  | array items => 1 + depthOfAll items
  | object members => 1 + depthOfMembers members
  | _ => 0

/-- How deep the deepest item is nested. -/
def depthOfAll : List Json → Nat
  | [] => 0
  | item :: rest => max item.depth (depthOfAll rest)

/-- How deep the deepest member is nested. -/
def depthOfMembers : List (String × Json) → Nat
  | [] => 0
  | (_, value) :: rest => max value.depth (depthOfMembers rest)

end

end Json

end FibrePool
