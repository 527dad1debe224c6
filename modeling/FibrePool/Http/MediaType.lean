import FibrePool.Text.Blank

/-!
# Media types

The content type of a request names a type and a subtype, in any case, with parameters behind them.
Only what can tell JSON from other content is kept.
-/

namespace FibrePool

set_option autoImplicit false

/-- A media type in lower case: `type/subtype+suffix`. -/
structure MediaType where
  type : String
  subtype : String
  suffix : Option String
  deriving DecidableEq, Repr

namespace MediaType

/-- Whether a character may stand in a word of a media type. -/
def isTokenChar (c : Char) : Bool :=
  c.isAlphanum || "!#$%&'+-.^_`|~".toList.contains c

/-- Whether a character may stand between the quotes of a parameter. -/
def isQuotedChar (c : Char) : Bool := 0x1f < c.toNat && c.toNat < 0x7f

/-- Whether a text consists of one or more characters of a word. -/
def isToken (chars : List Char) : Bool := !chars.isEmpty && chars.all isTokenChar

mutual

/-- Whether a text is a list of parameters, `named` being whether a name has begun. -/
def areParameters (named : Bool) : List Char → Bool
  | [] => !named
  | ' ' :: rest => !named && areParameters false rest
  | '=' :: '"' :: rest => named && isQuotedValue true rest
  | '=' :: rest => named && isPlainValue true rest
  | c :: rest => isTokenChar c && areParameters true rest

/-- Whether a text is the rest of a plain value and more parameters. -/
def isPlainValue (isFirst : Bool) : List Char → Bool
  | [] => true
  | ';' :: rest => !isFirst && areParameters false rest
  | c :: rest => isTokenChar c && isPlainValue false rest

/-- Whether a text is the rest of a quoted value and more parameters.  The first character is part
of the value even when it is a quote. -/
def isQuotedValue (isFirst : Bool) : List Char → Bool
  | [] => false
  | c :: rest =>
    if c = '"' ∧ isFirst = false then isAfterQuote rest
    else isQuotedChar c && isQuotedValue false rest

/-- Whether a text may follow a quoted value. -/
def isAfterQuote : List Char → Bool
  | [] => true
  | ';' :: rest => areParameters false rest
  | ' ' :: rest => isAfterQuote rest
  | _ => false

end

/-- The subtype and the suffix behind its last plus sign. -/
def splitSuffix (chars : List Char) : List Char × Option (List Char) :=
  match (Text.splitAt '+' chars).reverse with
  | suffix :: piece :: pieces =>
    let subtype := ['+'].intercalate (piece :: pieces).reverse
    if subtype.isEmpty then (chars, none) else (subtype, some suffix)
  | _ => (chars, none)

/-- The media type that a text names. -/
def parse? (text : String) : Option MediaType := do
  let (type, rest) ← Text.splitOnce? '/' text.toList
  let (subtype, parameters) := (Text.splitOnce? ';' rest).getD (rest, [])
  if !isToken type || !subtype.all isTokenChar then failure
  if subtype.isEmpty && rest.contains ';' then failure
  if !areParameters false parameters then failure
  let (name, suffix) := splitSuffix subtype
  let lower (chars : List Char) : String := String.ofList (chars.map Char.toLower)
  return { type := lower type, subtype := lower name, suffix := suffix.map lower }

/-- Whether content of the type is JSON. -/
def isJson (media : MediaType) : Bool :=
  media.type == "application" && (media.subtype == "json" || media.suffix == some "json")

end MediaType

end FibrePool
