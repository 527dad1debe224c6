import FibrePool.Yaml.Scalar

/-!
# YAML tokens

The lexical part of YAML.  Indentation opens and closes blocks, so the reader keeps the columns of
the open blocks; and a key is recognised only at the colon behind it, so it keeps the place of what
may turn out to be a key, one for each level of brackets and braces.  The tokens `key` and `openMap`
are then put in front of it.
-/

namespace FibrePool.Yaml

set_option autoImplicit false

/-- A lexical unit. -/
inductive Token where
  | version (major minor : Nat)
  | tagHandle (handle : String) (tagPrefix : String)
  | startDocument
  | endDocument
  | openSequence
  | openMap
  | /-- The end of a block of either kind. -/
    closeBlock
  | openBracket
  | closeBracket
  | openBrace
  | closeBrace
  | /-- The dash of an item. -/
    item
  | comma
  | key
  | value
  | alias (name : String)
  | anchor (name : String)
  | tag (handle suffix : String)
  | scalar (text : String) (isPlain : Bool)
  deriving DecidableEq, Repr, Inhabited

/-- What may turn out to be a key. -/
structure KeyPlace where
  /-- Whether it must turn out to be one. -/
  isRequired : Bool
  /-- The number of tokens before it. -/
  place : Nat
  line : Nat
  column : Nat
  index : Nat
  deriving Repr

/-- The state of the reader. -/
structure Scanner where
  cursor : Cursor
  /-- The tokens so far, the last one first. -/
  tokens : List Token := []
  /-- The columns of the open blocks, the innermost first. -/
  indents : List Nat := []
  /-- Whether a key may begin at the next token. -/
  keyAllowed : Bool := true
  /-- The possible key outside of brackets and braces, or of the innermost of them. -/
  possible : Option KeyPlace := none
  /-- The possible keys of the levels around, the next one first. -/
  around : List (Option KeyPlace) := []

namespace Scanner

/-- Whether the place is between brackets or braces. -/
def inFlow (scanner : Scanner) : Bool := !scanner.around.isEmpty

/-- Adds a token. -/
def push (scanner : Scanner) (token : Token) : Scanner :=
  { scanner with tokens := token :: scanner.tokens }

/-- Puts a token behind the first `place` tokens. -/
def pushAt (scanner : Scanner) (place : Nat) (token : Token) : Scanner :=
  let (later, earlier) := scanner.tokens.splitAt (scanner.tokens.length - place)
  { scanner with tokens := later ++ token :: earlier }

/-- Goes on to a place. -/
def moveTo (scanner : Scanner) (cursor : Cursor) : Scanner := { scanner with cursor }

/-- Goes on by so many characters. -/
def skip (scanner : Scanner) (count : Nat) : Scanner := scanner.moveTo (scanner.cursor.skip count)

/-- Lets a key begin at the next token, or not. -/
def allowKey (scanner : Scanner) (allowed : Bool) : Scanner :=
  { scanner with keyAllowed := allowed }

/-! ## Keys and blocks -/

/-- Gives a possible key up, which must not be a required one. -/
def dropKey (scanner : Scanner) : Option Scanner :=
  if scanner.possible.any (·.isRequired) then none else some { scanner with possible := none }

/-- Whether a possible key can no longer become one: a key ends on its line, and soon. -/
def isStale (cursor : Cursor) (key : KeyPlace) : Bool :=
  key.line < cursor.line || key.index + 1024 < cursor.index

/-- Gives possible keys up that can no longer become one. -/
def dropStale (scanner : Scanner) : Option Scanner := do
  let check (possible : Option KeyPlace) : Option (Option KeyPlace) :=
    match possible with
    | some key =>
      if isStale scanner.cursor key then if key.isRequired then none else some none
      else some (some key)
    | none => some none
  return { scanner with
    possible := ← check scanner.possible
    around := ← scanner.around.mapM check }

/-- Remembers the place as that of a possible key. -/
def noteKey (scanner : Scanner) : Option Scanner :=
  if scanner.keyAllowed then do
    let dropped ← scanner.dropKey
    let cursor := scanner.cursor
    return { dropped with
      possible := some {
        isRequired := !scanner.inFlow && scanner.indents.head? == some cursor.column
        place := scanner.tokens.length
        line := cursor.line
        column := cursor.column
        index := cursor.index } }
  else some scanner

/-- Whether a block opens at a column that is deeper than those of the open blocks. -/
def opensBlock (scanner : Scanner) (column : Nat) : Bool :=
  !scanner.inFlow && scanner.indents.head?.all (· < column)

/-- Opens a block at the present place, where its column asks for one. -/
def openBlock (scanner : Scanner) (token : Token) : Scanner :=
  let column := scanner.cursor.column
  if scanner.opensBlock column then
    { scanner.push token with indents := column :: scanner.indents }
  else scanner

/-- Closes the blocks that are deeper than a column, or all of them. -/
def closeBlocks (scanner : Scanner) (column : Option Nat) : Scanner :=
  if scanner.inFlow then scanner
  else
    let isClosed (indent : Nat) : Bool := column.all (· < indent)
    let closed := scanner.indents.takeWhile isClosed
    { scanner with
      tokens := List.replicate closed.length Token.closeBlock ++ scanner.tokens
      indents := scanner.indents.dropWhile isClosed }

/-! ## Blanks and comments -/

/-- Goes on to the next token, over at most `limit` blanks, comments and line breaks. -/
def skipBlanks (scanner : Scanner) : Nat → Scanner
  | 0 => scanner
  | limit + 1 =>
    match scanner.cursor.peek? with
    | none => scanner
    | some c =>
      if c = ' ' ∨ (c = '\t' ∧ (scanner.inFlow = true ∨ scanner.keyAllowed = false)) then
        (scanner.skip 1).skipBlanks limit
      else if c = '#' then (scanner.moveTo scanner.cursor.skipLine).skipBlanks limit
      else if isBreak c then
        let next := scanner.moveTo scanner.cursor.skipBreak
        (if scanner.inFlow then next else next.allowKey true).skipBlanks limit
      else scanner

/-! ## Tokens -/

/-- A mark between documents. -/
def readMark (scanner : Scanner) (token : Token) : Option Scanner := do
  let closed ← (scanner.closeBlocks none).dropKey
  return ((closed.allowKey false).skip 3).push token

/-- An opening bracket or brace. -/
def readOpening (scanner : Scanner) (token : Token) : Option Scanner := do
  let noted ← scanner.noteKey
  let inner := { noted with possible := none, around := noted.possible :: noted.around }
  return ((inner.allowKey true).skip 1).push token

/-- A closing bracket or brace. -/
def readClosing (scanner : Scanner) (token : Token) : Option Scanner := do
  let dropped ← scanner.dropKey
  let outer := match dropped.around with
    | possible :: around => { dropped with possible, around }
    | [] => dropped
  return ((outer.allowKey false).skip 1).push token

/-- A comma. -/
def readComma (scanner : Scanner) : Option Scanner := do
  let dropped ← scanner.dropKey
  return ((dropped.allowKey true).skip 1).push .comma

/-- The dash of an item. -/
def readItem (scanner : Scanner) : Option Scanner := do
  if !scanner.inFlow && !scanner.keyAllowed then failure
  let dropped ← (scanner.openBlock .openSequence).dropKey
  return ((dropped.allowKey true).skip 1).push .item

/-- The question mark of a key. -/
def readKey (scanner : Scanner) : Option Scanner := do
  if !scanner.inFlow && !scanner.keyAllowed then failure
  let dropped ← (scanner.openBlock .openMap).dropKey
  return ((dropped.allowKey (!scanner.inFlow)).skip 1).push .key

/-- The colon behind a key. -/
def readValue (scanner : Scanner) : Option Scanner :=
  match scanner.possible with
  | some key =>
    let keyed := scanner.pushAt key.place .key
    let opened :=
      if scanner.opensBlock key.column then
        let block := keyed.pushAt key.place .openMap
        { block with indents := key.column :: block.indents }
      else keyed
    let used := { opened with possible := none, keyAllowed := false }
    some ((used.skip 1).push .value)
  | none =>
    if !scanner.inFlow && !scanner.keyAllowed then none
    else
      let opened := scanner.openBlock .openMap
      some (((opened.allowKey (!scanner.inFlow)).skip 1).push .value)

/-- The name of an anchor or an alias. -/
def readName (scanner : Scanner) (token : String → Token) : Option Scanner := do
  let noted ← scanner.noteKey
  let behind := scanner.cursor.rest.drop 1
  let name := behind.takeWhile isNameChar
  let rest := behind.drop name.length
  if name.isEmpty then failure
  if !endsWord rest && !(rest.head?.any fun c => "?:,]\x7d%@\x60".toList.contains c) then failure
  return ((noted.allowKey false).skip (1 + name.length)).push (token (String.ofList name))

/-- Whether a character may stand in a tag. -/
def isTagChar (c : Char) : Bool :=
  isNameChar c || ";/?:@&=+$.%!~*'()".toList.contains c

/-- A tag: its handle, which ends with the second exclamation mark if there is one, and the rest. -/
def tagParts (mark : List Char) : List Char × List Char :=
  match mark with
  | '!' :: behind =>
    let name := behind.takeWhile isNameChar
    match behind.drop name.length with
    | '!' :: rest => ('!' :: name ++ ['!'], rest)
    | _ => (['!'], behind)
  | mark => ([], mark)

/-- A tag. -/
def readTag (scanner : Scanner) : Option Scanner := do
  let noted ← scanner.noteKey
  let chars := scanner.cursor.rest
  let ends (rest : List Char) : Bool :=
    endsWord rest || (scanner.inFlow && rest.head? == some ',')
  let done (length : Nat) (handle suffix : List Char) : Option Scanner :=
    if ends (chars.drop length) then
      some (((noted.allowKey false).skip length).push
        (.tag (String.ofList handle) (String.ofList suffix)))
    else none
  match chars with
  | '!' :: '<' :: behind =>
    let name := behind.takeWhile fun c => isTagChar c || c == ',' || c == '[' || c == ']'
    if name.isEmpty || (behind.drop name.length).head? != some '>' then failure
    done (name.length + 3) [] name
  | chars =>
    let mark := chars.takeWhile isTagChar
    let (handle, suffix) := tagParts mark
    if suffix.isEmpty && handle != ['!'] then failure
    done mark.length handle suffix

/-- A quoted scalar. -/
def readQuotedScalar (scanner : Scanner) (quote : Char) : Option Scanner := do
  let noted ← scanner.noteKey
  let (text, next) ← readQuoted quote scanner.cursor
  return ((noted.allowKey false).moveTo next).push (.scalar (String.ofList text) false)

/-- A plain scalar. -/
def readPlainScalar (scanner : Scanner) : Option Scanner := do
  let noted ← scanner.noteKey
  let least := match scanner.indents with
    | indent :: _ => indent + 1
    | [] => 0
  let plain ← readPlain scanner.inFlow least scanner.cursor
  return ((noted.allowKey plain.endsLine).moveTo plain.after).push
    (.scalar (String.ofList plain.text) true)

/-- A block scalar. -/
def readBlockScalar (scanner : Scanner) (isFolded : Bool) : Option Scanner := do
  let dropped ← scanner.dropKey
  let (text, next) ← readBlock isFolded scanner.indents.head? scanner.cursor
  return ((dropped.allowKey true).moveTo next).push (.scalar (String.ofList text) false)

/-- The decimal digits at the front of a text, with what follows them. -/
def readDigits (chars : List Char) : Option (Nat × List Char) := do
  let digits := chars.takeWhile Char.isDigit
  if 9 < digits.length then failure
  return (← Text.number? digits, chars.drop digits.length)

/-- What follows one blank or more. -/
def afterBlanks (chars : List Char) : Option (List Char) :=
  match chars with
  | c :: _ => if isBlank c then some (chars.dropWhile isBlank) else none
  | [] => none

/-- The token of the line behind a percent sign, and what follows its words. -/
def directive (line : List Char) : Option (Token × List Char) := do
  let name := line.takeWhile isNameChar
  let rest ← afterBlanks (line.drop name.length)
  match String.ofList name with
  | "YAML" =>
    let (major, rest) ← readDigits rest
    match rest with
    | '.' :: rest =>
      let (minor, rest) ← readDigits rest
      return (.version major minor, rest)
    | _ => failure
  | "TAG" =>
    let handle := rest.takeWhile fun c => !isBlank c
    let behind ← afterBlanks (rest.drop handle.length)
    let start := behind.takeWhile isTagChar
    if start.isEmpty || handle.head? != some '!' then failure
    if 1 < handle.length && handle.getLast? != some '!' then failure
    if !(handle.drop 1).dropLast.all isNameChar then failure
    return (.tagHandle (String.ofList handle) (String.ofList start), behind.drop start.length)
  | _ => failure

/-- A directive, alone on its line. -/
def readDirective (scanner : Scanner) : Option Scanner := do
  let closed ← (scanner.closeBlocks none).dropKey
  let line := (scanner.cursor.rest.drop 1).takeWhile fun c => !isBreak c
  let (token, rest) ← directive line
  match rest.dropWhile isBlank with
  | [] => pure ()
  | '#' :: _ => pure ()
  | _ => failure
  return ((closed.allowKey false).skip (1 + line.length)).push token

/-- Whether a character begins no plain scalar. -/
def isIndicator (c : Char) : Bool :=
  "-?:,[]\x7b\x7d#&*!|>'\"%@\x60".toList.contains c

/-- Whether a plain scalar begins at the front of a text. -/
def beginsPlain (inFlow : Bool) : List Char → Bool
  | [] => false
  | c :: rest =>
    (!isBlank c && !isBreak c && !isIndicator c) ||
      (c == '-' && !(rest.head?.any isBlank)) ||
      (!inFlow && (c == '?' || c == ':') && !endsWord rest)

/-- Reads the token at a place that is neither blank nor the end. -/
def readToken (scanner : Scanner) : Option Scanner :=
  let inFlow := scanner.inFlow
  match scanner.cursor.rest with
  | [] => none
  | c :: rest =>
    if scanner.cursor.column = 0 ∧ c = '%' then scanner.readDirective
    else if scanner.cursor.isAtMark then
      scanner.readMark (if c = '-' then .startDocument else .endDocument)
    else if c = '[' then scanner.readOpening .openBracket
    else if c = '\x7b' then scanner.readOpening .openBrace
    else if c = ']' then scanner.readClosing .closeBracket
    else if c = '\x7d' then scanner.readClosing .closeBrace
    else if c = ',' then scanner.readComma
    else if c = '-' ∧ endsWord rest = true then scanner.readItem
    else if c = '?' ∧ (inFlow = true ∨ endsWord rest = true) then scanner.readKey
    else if c = ':' ∧ (inFlow = true ∨ endsWord rest = true) then scanner.readValue
    else if c = '*' then scanner.readName .alias
    else if c = '&' then scanner.readName .anchor
    else if c = '!' then scanner.readTag
    else if c = '|' ∧ inFlow = false then scanner.readBlockScalar false
    else if c = '>' ∧ inFlow = false then scanner.readBlockScalar true
    else if c = '\'' ∨ c = '"' then scanner.readQuotedScalar c
    else if beginsPlain inFlow scanner.cursor.rest then scanner.readPlainScalar
    else none

/-- Reads tokens to the end of the text, at most `limit` of them. -/
def readAll (scanner : Scanner) : Nat → Option (List Token)
  | 0 => none
  | limit + 1 => do
    let next ← (scanner.skipBlanks (scanner.cursor.rest.length + 1)).dropStale
    if next.cursor.rest.isEmpty then
      let ended ← (next.closeBlocks none).dropKey
      return ended.tokens.reverse
    else
      let next ← (next.closeBlocks (some next.cursor.column)).readToken
      next.readAll limit

end Scanner

/-- The tokens of a text, or nothing when it is no YAML.  A mark of byte order in front is ignored.
-/
def Token.scan? (text : String) : Option (List Token) :=
  let chars := match text.toList with
    | '\ufeff' :: rest => rest
    | chars => chars
  if chars.all isAllowed then
    let scanner : Scanner := { cursor := { rest := chars } }
    scanner.readAll (chars.length + 1)
  else none

end FibrePool.Yaml
