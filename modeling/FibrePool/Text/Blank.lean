/-!
# Blanks, pieces and lines

White space is the Unicode property of that name.  Texts are handled as lists of characters here:
trimming, cutting at a separator, looking for a phrase and splitting into lines are all one walk
over the list.
-/

namespace FibrePool.Text

set_option autoImplicit false

/-- The white space of Unicode. -/
def isBlank (c : Char) : Bool :=
  let code := c.toNat
  (9 ≤ code && code ≤ 13) || code == 0x20 || code == 0x85 || code == 0xa0 || code == 0x1680 ||
    (0x2000 ≤ code && code ≤ 0x200a) || code == 0x2028 || code == 0x2029 || code == 0x202f ||
    code == 0x205f || code == 0x3000

/-- The characters from the first that is no blank. -/
def trimStart (chars : List Char) : List Char := chars.dropWhile isBlank

/-- The characters up to the last that is no blank. -/
def trimEnd (chars : List Char) : List Char := (chars.reverse.dropWhile isBlank).reverse

/-- The characters without the blanks at either end. -/
def trim (chars : List Char) : List Char := trimEnd (trimStart chars)

/-- A text without the blanks at either end. -/
def trimmed (text : String) : String := String.ofList (trim text.toList)

/-- The pieces between the separators; there is one more than there are separators. -/
def splitAt (separator : Char) : List Char → List (List Char)
  | [] => [[]]
  | c :: rest =>
    if c = separator then [] :: splitAt separator rest
    else
      match splitAt separator rest with
      | [] => [[c]]
      | piece :: pieces => (c :: piece) :: pieces

theorem splitAt_ne_nil (separator : Char) (chars : List Char) : splitAt separator chars ≠ [] := by
  induction chars with
  | nil => simp [splitAt]
  | cons c rest ih =>
    rw [splitAt]
    split
    · simp
    · split <;> simp

/-- What stands before and after the first separator. -/
def splitOnce? (separator : Char) : List Char → Option (List Char × List Char)
  | [] => none
  | c :: rest =>
    if c = separator then some ([], rest)
    else (splitOnce? separator rest).map fun parts => (c :: parts.1, parts.2)

/-- What follows the first occurrence of a phrase. -/
def after? (phrase : List Char) : List Char → Option (List Char)
  | [] => if phrase.isEmpty then some [] else none
  | c :: rest =>
    if phrase.isPrefixOf (c :: rest) then some ((c :: rest).drop phrase.length)
    else after? phrase rest

/-- A line without the carriage return before its line feed. -/
def dropReturn (line : List Char) : List Char :=
  match line.reverse with
  | '\r' :: rest => rest.reverse
  | _ => line

/-- The lines of a text.  A line feed, alone or after a carriage return, ends a line; nothing after
the last line feed is no line. -/
def lines (chars : List Char) : List (List Char) :=
  let pieces := splitAt '\n' chars
  let ended := pieces.dropLast.map dropReturn
  match pieces.getLast? with
  | some [] | none => ended
  | some unended => ended ++ [unended]

/-- The pieces joined, with the separator between them. -/
def join (separator : String) (pieces : List String) : String := separator.intercalate pieces

end FibrePool.Text
