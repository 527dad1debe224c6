import FibrePool.Yaml.Cursor

/-!
# Scalars

The three ways to write a text in YAML: plain words, which end where another construct begins; a
text between quotes, single or double; and a block of indented lines, kept as they are or folded.
Each reader gives the text and the place behind it.
-/

namespace FibrePool.Yaml

set_option autoImplicit false

/-! ## Plain words -/

/-- The length of the word at the front of a text.  Inside brackets or braces a colon in front of
another bracket, brace or comma is refused. -/
def wordLength (inFlow : Bool) : List Char → Option Nat
  | [] => some 0
  | c :: rest =>
    if isBlank c || isBreak c then some 0
    else if inFlow && ",[]\x7b\x7d".toList.contains c then some 0
    else if c == ':' && endsWord rest then some 0
    else if inFlow && c == ':' &&
        (rest.head?.any fun next => ",?[]\x7b\x7d".toList.contains next) then
      none
    else (wordLength inFlow rest).map (· + 1)

/-- A plain scalar with the place behind it. -/
structure PlainScalar where
  text : List Char
  after : Cursor
  /-- Whether a line break lies between the last word and the place behind it. -/
  endsLine : Bool

/-- Reads the words from a place, at most `limit` of them, where `gap` lies before the next. -/
def readWords (inFlow : Bool) (least : Nat) (text : List Char) (gap : Gap) (cursor : Cursor) :
    Nat → Option PlainScalar
  | 0 => none
  | limit + 1 =>
    let ended : PlainScalar := ⟨text, cursor, gap.hasBreak⟩
    if cursor.isAtMark || cursor.peek? == some '#' then some ended
    else do
      let length ← wordLength inFlow cursor.rest
      if length = 0 then return ended
      let text := text ++ gap.folded ++ cursor.rest.take length
      let cursor := cursor.skip length
      let (gap, next) ← Gap.read (some least) cursor
      if gap.blanks.isEmpty && gap.breaks.isEmpty then return ⟨text, cursor, false⟩
      if !inFlow && next.column < least then return ⟨text, next, gap.hasBreak⟩
      readWords inFlow least text gap next limit

/-- Reads a plain scalar whose lines begin at column `least` or behind it. -/
def readPlain (inFlow : Bool) (least : Nat) (cursor : Cursor) : Option PlainScalar :=
  readWords inFlow least [] {} cursor (cursor.rest.length + 1)

/-! ## Quoted texts -/

/-- The character that a letter stands for behind a backslash. -/
def escape? : Char → Option Nat
  | '0' => some 0
  | 'a' => some 7
  | 'b' => some 8
  | 't' => some 9
  | '\t' => some 9
  | 'n' => some 10
  | 'v' => some 11
  | 'f' => some 12
  | 'r' => some 13
  | 'e' => some 27
  | ' ' => some 0x20
  | '"' => some 0x22
  | '/' => some 0x2f
  | '\\' => some 0x5c
  | 'N' => some 0x85
  | '_' => some 0xa0
  | 'L' => some 0x2028
  | 'P' => some 0x2029
  | _ => none

/-- How many hexadecimal digits follow a letter behind a backslash. -/
def escapeWidth? : Char → Option Nat
  | 'x' => some 2
  | 'u' => some 4
  | 'U' => some 8
  | _ => none

/-- The character with a number, if there is one. -/
def character? (code : Nat) : Option Char :=
  if code.isValidChar then some (Char.ofNat code) else none

/-- The character that stands behind a backslash, and the length of its escape. -/
def readEscape (c : Char) (rest : List Char) : Option (Char × Nat) :=
  match escapeWidth? c with
  | some width => do
    let digits := rest.take width
    if digits.length < width then failure
    let code ← Text.hexNumber? digits
    return (← character? code, width + 2)
  | none => (escape? c).map fun code => (Char.ofNat code, 2)

/-- Reads a quoted text from behind its first quote, at most `limit` parts of it. -/
def readQuotedFrom (quote : Char) (text : List Char) (cursor : Cursor) :
    Nat → Option (List Char × Cursor)
  | 0 => none
  | limit + 1 =>
    if cursor.isAtMark then none
    else
      match cursor.rest with
      | [] => none
      | c :: rest =>
        if c = quote then
          if quote = '\'' ∧ rest.head? = some '\'' then
            readQuotedFrom quote (text ++ [c]) (cursor.skip 2) limit
          else some (text, cursor.skip 1)
        else if isBlank c || isBreak c then
          match Gap.read none cursor with
          | some (gap, next) => readQuotedFrom quote (text ++ gap.folded) next limit
          | none => none
        else if c = '\\' ∧ quote = '"' then
          match rest with
          | [] => none
          | next :: more =>
            if isBreak next then
              let (breaks, behind) := Gap.readAfterBreak (cursor.skip 1).skipBreak
              readQuotedFrom quote (text ++ breaks) behind limit
            else
              match readEscape next more with
              | some (value, length) =>
                readQuotedFrom quote (text ++ [value]) (cursor.skip length) limit
              | none => none
        else readQuotedFrom quote (text ++ [c]) (cursor.skip 1) limit

/-- Reads a quoted text from its first quote. -/
def readQuoted (quote : Char) (cursor : Cursor) : Option (List Char × Cursor) :=
  readQuotedFrom quote [] (cursor.skip 1) (cursor.rest.length + 1)

/-! ## Blocks -/

/-- What becomes of the line breaks at the end of a block. -/
inductive Chomping where
  | /-- None stays. -/
    strip
  | /-- One stays. -/
    clip
  | /-- All stay. -/
    keep
  deriving DecidableEq, Repr

/-- The head of a block. -/
structure BlockHead where
  chomping : Chomping := .clip
  /-- The indentation that is asked for. -/
  increment : Option Nat := none
  deriving Repr

/-- The chomping that a sign asks for. -/
def chomping? : Char → Option Chomping
  | '+' => some .keep
  | '-' => some .strip
  | _ => none

/-- The indentation that a digit asks for; zero is none. -/
def increment? (c : Char) : Option Nat :=
  (Text.digitValue? c).filter (0 < ·)

/-- Reads the marks behind the sign of a block. -/
def readBlockHead (cursor : Cursor) : Option (BlockHead × Cursor) :=
  match cursor.rest with
  | first :: second :: _ =>
    match chomping? first, increment? first with
    | some chomping, _ =>
      match increment? second with
      | some increment => some (⟨chomping, some increment⟩, cursor.skip 2)
      | none => if second = '0' then none else some (⟨chomping, none⟩, cursor.skip 1)
    | none, some increment =>
      match chomping? second with
      | some chomping => some (⟨chomping, some increment⟩, cursor.skip 2)
      | none => some (⟨.clip, some increment⟩, cursor.skip 1)
    | none, none => if first = '0' then none else some ({}, cursor)
  | [first] =>
    match chomping? first, increment? first with
    | some chomping, _ => some (⟨chomping, none⟩, cursor.skip 1)
    | none, some increment => some (⟨.clip, some increment⟩, cursor.skip 1)
    | none, none => if first = '0' then none else some ({}, cursor)
  | [] => some ({}, cursor)

/-- Empty lines before a line of a block. -/
structure BlockBreaks where
  breaks : List Char
  after : Cursor
  /-- The deepest indentation among them. -/
  deepest : Nat

/-- Reads empty lines, at most `limit` of them, where the block is indented by `indent` if that is
known. -/
def readBlockBreaks (indent : Option Nat) (found : BlockBreaks) : Nat → Option BlockBreaks
  | 0 => some found
  | limit + 1 =>
    let inside (column : Nat) : Bool := indent.all (column < ·)
    let blanks := (found.after.rest.takeWhile (· == ' ')).length
    let width := match indent with
      | some indent => min blanks (indent - found.after.column)
      | none => blanks
    let cursor := found.after.skip width
    let deepest := max found.deepest cursor.column
    match cursor.peek? with
    | none => some { found with after := cursor, deepest }
    | some c =>
      if c = '\t' ∧ inside cursor.column then none
      else if isBreak c then
        readBlockBreaks indent
          ⟨found.breaks ++ [Cursor.breakChar c], cursor.skipBreak, deepest⟩ limit
      else some { found with after := cursor, deepest }

/-- Reads the empty lines at a place. -/
def readEmptyLines (indent : Option Nat) (cursor : Cursor) : Option BlockBreaks :=
  readBlockBreaks indent ⟨[], cursor, 0⟩ (cursor.rest.length + 1)

/-- What a block has come to between two of its lines. -/
structure BlockState where
  text : List Char := []
  /-- The break behind the last line. -/
  leading : List Char := []
  /-- The empty lines behind that. -/
  trailing : List Char := []
  /-- Whether the last line began with a blank. -/
  wasBlank : Bool := false

/-- The text of a block up to its next line. -/
def BlockState.joined (state : BlockState) (isFolded isBlankNext : Bool) : List Char :=
  if isFolded && state.leading == ['\n'] && !state.wasBlank && !isBlankNext then
    state.text ++ (if state.trailing.isEmpty then [' '] else []) ++ state.trailing
  else state.text ++ state.leading ++ state.trailing

/-- Reads the lines of a block, at most `limit` of them. -/
def readBlockLines (isFolded : Bool) (indent : Nat) (state : BlockState) (cursor : Cursor) :
    Nat → Option (BlockState × Cursor)
  | 0 => none
  | limit + 1 =>
    if cursor.column ≠ indent ∨ cursor.rest.isEmpty then some (state, cursor)
    else do
      let startsBlank := cursor.peek?.any isBlank
      let line := cursor.rest.takeWhile fun c => !isBreak c
      let text := state.joined isFolded startsBlank ++ line
      let ended := cursor.skip line.length
      let leading := (ended.peek?.map Cursor.breakChar).toList
      let next := if leading.isEmpty then ended else ended.skipBreak
      let empty ← readEmptyLines (some indent) next
      readBlockLines isFolded indent
        { text, leading, trailing := empty.breaks, wasBlank := startsBlank } empty.after limit

/-- Reads a block from its sign, where the block around it is indented by `outer`, or by nothing at
the outermost level. -/
def readBlock (isFolded : Bool) (outer : Option Nat) (cursor : Cursor) :
    Option (List Char × Cursor) := do
  let (head, cursor) ← readBlockHead (cursor.skip 1)
  let cursor := cursor.skipWhile isBlank
  let cursor := if cursor.peek? = some '#' then cursor.skipLine else cursor
  let cursor ← match cursor.peek? with
    | none => pure cursor
    | some c => if isBreak c then pure cursor.skipBreak else failure
  let least := match outer with
    | some indent => indent + 1
    | none => 0
  let asked := head.increment.map fun increment => outer.getD 0 + increment
  let empty ← readEmptyLines asked cursor
  let indent := asked.getD (max (max empty.deepest least) 1)
  let (state, after) ← readBlockLines isFolded indent { trailing := empty.breaks } empty.after
    (cursor.rest.length + 1)
  let tail := match head.chomping with
    | .strip => []
    | .clip => state.leading
    | .keep => state.leading ++ state.trailing
  return (state.text ++ tail, after)

end FibrePool.Yaml
