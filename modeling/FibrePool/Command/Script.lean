import FibrePool.Text.Numeral

/-!
# Shell scripts

The grammar of the small scripts that list devices: commands made of words, where quotes keep blanks
together and parameters begin with a dollar sign; pipes between commands, lists joined by `;`, `&&`
and `||`, and redirections of what a command prints.
-/

namespace FibrePool.Script

set_option autoImplicit false

/-- A part of a word.  What is quoted is never split. -/
inductive Part where
  | literal (text : String) (isQuoted : Bool)
  | parameter (name : String) (isQuoted : Bool)
  deriving DecidableEq, Repr, Inhabited

/-- A word as its parts. -/
abbrev Word := List Part

/-- Where the output of a command may go. -/
inductive Target where
  | /-- Where another output goes. -/
    output (number : Nat)
  | file (name : Word)
  deriving DecidableEq, Repr

/-- A lexical unit. -/
inductive Token where
  | word (word : Word)
  | redirect (number : Nat) (target : Target)
  | pipe
  | next
  | whenGood
  | whenBad
  deriving DecidableEq, Repr

/-- A simple command. -/
structure Command where
  words : List Word := []
  /-- The redirections in their order, the last one first. -/
  redirects : List (Nat × Target) := []
  deriving DecidableEq, Repr

/-- When a pipeline of a list is run. -/
inductive Condition where
  | always
  | whenGood
  | whenBad
  deriving DecidableEq, Repr

/-! ## Words -/

/-- Whether a character separates words. -/
def isBlank (c : Char) : Bool := c == ' ' || c == '\t'

/-- Whether a character ends a word. -/
def endsWord (c : Char) : Bool := isBlank c || "\n;&|<>()".toList.contains c

/-- Whether a character may stand in the name of a parameter. -/
def isNameChar (c : Char) : Bool := c.isAlphanum || c == '_'

/-- The name of a parameter behind its dollar sign, and what follows it. -/
def readParameter : List Char → Option (String × List Char)
  | '\x7b' :: rest =>
    let name := rest.takeWhile (· != '\x7d')
    match rest.drop name.length with
    | '\x7d' :: rest => some (String.ofList name, rest)
    | _ => none
  | c :: rest =>
    if "@*#?$!".toList.contains c || c.isDigit then some (String.singleton c, rest)
    else
      let name := (c :: rest).takeWhile isNameChar
      if name.isEmpty then none else some (String.ofList name, (c :: rest).drop name.length)
  | [] => none

/-- The part of characters read so far, or none when there are none. -/
def literalOf (isQuoted : Bool) (read : List Char) : List Part :=
  if read.isEmpty then [] else [.literal (String.ofList read.reverse) isQuoted]

/-- Reads the parts of a word, or of a text between double quotes, at most `limit` characters. -/
def readParts (isQuoted : Bool) (read : List Char) : Nat → List Char → Option (Word × List Char)
  | 0, _ => none
  | _ + 1, [] => if isQuoted then none else some (literalOf false read, [])
  | limit + 1, c :: rest =>
    if isQuoted && c == '"' then some (literalOf true read, rest)
    else if !isQuoted && endsWord c then some (literalOf false read, c :: rest)
    else if !isQuoted && c == '\'' then
      let inside := rest.takeWhile (· != '\'')
      match rest.drop inside.length with
      | _ :: rest => do
        let (parts, rest) ← readParts false [] limit rest
        return (literalOf false read ++ .literal (String.ofList inside) true :: parts, rest)
      | [] => none
    else if !isQuoted && c == '"' then do
      let (inside, rest) ← readParts true [] limit rest
      let inside := if inside.isEmpty then [.literal "" true] else inside
      let (parts, rest) ← readParts false [] limit rest
      return (literalOf false read ++ inside ++ parts, rest)
    else if c == '\\' then
      match rest with
      | [] => readParts isQuoted ('\\' :: read) limit []
      | '\n' :: rest => readParts isQuoted read limit rest
      | next :: rest =>
        if isQuoted then
          if "$\x60\"\\".toList.contains next then readParts true (next :: read) limit rest
          else readParts true (next :: '\\' :: read) limit rest
        else do
          let (parts, rest) ← readParts false [] limit rest
          return (literalOf false read ++ .literal (String.singleton next) true :: parts, rest)
    else if c == '$' then
      match readParameter rest with
      | some (name, rest) => do
        let (parts, rest) ← readParts isQuoted [] limit rest
        return (literalOf isQuoted read ++ .parameter name isQuoted :: parts, rest)
      | none => readParts isQuoted ('$' :: read) limit rest
    else readParts isQuoted (c :: read) limit rest

/-- Reads a word. -/
def readWord (chars : List Char) : Option (Word × List Char) :=
  readParts false [] (chars.length + 1) chars

/-! ## Tokens -/

/-- A redirection behind its sign, and what follows it. -/
def readRedirect (number : Nat) (chars : List Char) : Option (Token × List Char) :=
  match chars with
  | '&' :: c :: rest =>
    (Text.digitValue? c).map fun other => (.redirect number (.output other), rest)
  | chars => do
    let chars := match chars with
      | '>' :: rest => rest
      | rest => rest
    let (name, rest) ← readWord (chars.dropWhile isBlank)
    if name.isEmpty then failure
    return (.redirect number (.file name), rest)

/-- The tokens of a script, at most `limit` of them. -/
def scanWithin : Nat → List Char → Option (List Token)
  | 0, _ => none
  | limit + 1, chars =>
    match chars.dropWhile isBlank with
    | [] => some []
    | '#' :: rest => scanWithin limit (rest.dropWhile (· != '\n'))
    | '\n' :: rest => (scanWithin limit rest).map (.next :: ·)
    | ';' :: rest => (scanWithin limit rest).map (.next :: ·)
    | '&' :: '&' :: rest => (scanWithin limit rest).map (.whenGood :: ·)
    | '|' :: '|' :: rest => (scanWithin limit rest).map (.whenBad :: ·)
    | '|' :: rest => (scanWithin limit rest).map (.pipe :: ·)
    | '1' :: '>' :: rest => do
      let (token, rest) ← readRedirect 1 rest
      return token :: (← scanWithin limit rest)
    | '2' :: '>' :: rest => do
      let (token, rest) ← readRedirect 2 rest
      return token :: (← scanWithin limit rest)
    | '>' :: rest => do
      let (token, rest) ← readRedirect 1 rest
      return token :: (← scanWithin limit rest)
    | chars => do
      let (word, rest) ← readWord chars
      if word.isEmpty then failure
      return .word word :: (← scanWithin limit rest)

/-- The tokens of a script. -/
def scan (script : String) : Option (List Token) :=
  scanWithin (script.length + 1) script.toList

/-! ## Lists -/

/-- The pipelines of a script, each with the condition under which it is run. -/
abbrev Pipelines := List (Condition × List Command)

/-- Collects tokens into pipelines: the command being read, the commands before it in the same
pipeline, and the condition of that pipeline. -/
def collect (condition : Condition) (before : List Command) (command : Command) :
    List Token → Pipelines
  | [] => [(condition, (command :: before).reverse)]
  | .word word :: rest =>
    collect condition before { command with words := command.words ++ [word] } rest
  | .redirect number target :: rest =>
    let redirects := (number, target) :: command.redirects
    collect condition before { command with redirects } rest
  | .pipe :: rest => collect condition (command :: before) {} rest
  | .next :: rest => (condition, (command :: before).reverse) :: collect .always [] {} rest
  | .whenGood :: rest => (condition, (command :: before).reverse) :: collect .whenGood [] {} rest
  | .whenBad :: rest => (condition, (command :: before).reverse) :: collect .whenBad [] {} rest

/-- Whether a pipeline has something to run. -/
def isWritten (pipeline : Condition × List Command) : Bool :=
  pipeline.2.any fun command => !command.words.isEmpty || !command.redirects.isEmpty

/-- The pipelines of a script, or nothing when a quote is left open. -/
def read? (script : String) : Option Pipelines :=
  (scan script).map fun tokens => (collect .always [] {} tokens).filter isWritten

end FibrePool.Script
