import FibrePool.Text.Numeral

/-!
# Places in a text

Indentation matters in YAML, so a reader knows the line and the column of the place it has come to.
This module holds such places, the classes of characters that YAML tells apart, and the gaps of
blanks and line breaks between words, which fold into a single blank or into the breaks after the
first.
-/

namespace FibrePool.Yaml

set_option autoImplicit false

/-! ## Characters -/

/-- A blank or a tabulator. -/
def isBlank (c : Char) : Bool := c == ' ' || c == '\t'

/-- A line break. -/
def isBreak (c : Char) : Bool :=
  c == '\n' || c == '\r' || c.toNat == 0x85 || c.toNat == 0x2028 || c.toNat == 0x2029

/-- Whether a word ends at the front of a text. -/
def endsWord : List Char → Bool
  | [] => true
  | c :: _ => isBlank c || isBreak c

/-- Whether a character may stand in a document. -/
def isAllowed (c : Char) : Bool :=
  let code := c.toNat
  c == '\t' || c == '\n' || c == '\r' || code == 0x85 || (0x20 ≤ code && code ≤ 0x7e) ||
    (0xa0 ≤ code && code ≤ 0xfffd && code != 0xfeff) || 0x10000 ≤ code

/-- Whether a character may stand in the name of an anchor. -/
def isNameChar (c : Char) : Bool := c.isAlphanum || c == '-' || c == '_'

/-! ## Cursors -/

/-- A place in a text with what follows it. -/
structure Cursor where
  rest : List Char
  line : Nat := 0
  column : Nat := 0
  /-- The number of characters before the place. -/
  index : Nat := 0
  deriving Repr, Inhabited

namespace Cursor

/-- The next character. -/
def peek? (cursor : Cursor) : Option Char := cursor.rest.head?

/-- The place after so many characters of the same line. -/
def skip (cursor : Cursor) (count : Nat) : Cursor :=
  { cursor with
    rest := cursor.rest.drop count
    column := cursor.column + count
    index := cursor.index + count }

/-- The place after a line break, which a return and a line feed are together. -/
def skipBreak (cursor : Cursor) : Cursor :=
  let width := match cursor.rest with
    | '\r' :: '\n' :: _ => 2
    | _ => 1
  { rest := cursor.rest.drop width
    line := cursor.line + 1
    column := 0
    index := cursor.index + width }

/-- The character that a line break is read as. -/
def breakChar (c : Char) : Char := if c == '\r' || c.toNat == 0x85 then '\n' else c

/-- The place of the first character that does not have a property, on the same line. -/
def skipWhile (cursor : Cursor) (property : Char → Bool) : Cursor :=
  cursor.skip (cursor.rest.takeWhile property).length

/-- The place of the end of the line. -/
def skipLine (cursor : Cursor) : Cursor := cursor.skipWhile fun c => !isBreak c

/-- Whether a document begins or ends at the place. -/
def isAtMark (cursor : Cursor) : Bool :=
  cursor.column == 0 &&
    match cursor.rest with
    | '-' :: '-' :: '-' :: rest => endsWord rest
    | '.' :: '.' :: '.' :: rest => endsWord rest
    | _ => false

end Cursor

/-! ## Gaps -/

/-- Blanks up to a line break, and the breaks. -/
structure Gap where
  blanks : List Char := []
  breaks : List Char := []
  deriving Repr, Inhabited

namespace Gap

/-- Whether there is a line break in the gap. -/
def hasBreak (gap : Gap) : Bool := !gap.breaks.isEmpty

/-- What stands between the words instead of the gap. -/
def folded (gap : Gap) : List Char :=
  match gap.breaks with
  | [] => gap.blanks
  | ['\n'] => [' ']
  | '\n' :: more => more
  | breaks => breaks

/-- Reads a gap of at most `limit` characters.  Where `least` is given, a tabulator before that
column of a new line is refused. -/
def readWithin (least : Option Nat) (gap : Gap) (cursor : Cursor) : Nat → Option (Gap × Cursor)
  | 0 => some (gap, cursor)
  | limit + 1 =>
    match cursor.peek? with
    | none => some (gap, cursor)
    | some c =>
      if isBlank c then
        if gap.hasBreak then
          if c == '\t' && least.any (cursor.column < ·) then none
          else readWithin least gap (cursor.skip 1) limit
        else readWithin least { gap with blanks := gap.blanks ++ [c] } (cursor.skip 1) limit
      else if isBreak c then
        let breaks := gap.breaks ++ [Cursor.breakChar c]
        readWithin least { gap with breaks } cursor.skipBreak limit
      else some (gap, cursor)

/-- Reads the gap at a place. -/
def read (least : Option Nat) (cursor : Cursor) : Option (Gap × Cursor) :=
  readWithin least {} cursor cursor.rest.length

/-- Reads the gap after an escaped line break; says which breaks follow that one. -/
def readAfterBreak (cursor : Cursor) : List Char × Cursor :=
  match readWithin none { breaks := ['\n'] } cursor cursor.rest.length with
  | some (gap, next) => (gap.breaks.drop 1, next)
  | none => ([], cursor)

end Gap

end FibrePool.Yaml
