import FibrePool.Yaml.Token

/-!
# YAML documents

A document is a node: a scalar, a sequence or a mapping.  Nodes are read off the tokens, and an
alias stands for the node that was given its name before.  A text must hold one document; a text
without any is an empty scalar.
-/

namespace FibrePool.Yaml

set_option autoImplicit false

/-- A node of a document.  A scalar knows whether it was written plainly, without quotes and not as
a block, and its tag. -/
inductive Node where
  | scalar (text : String) (isPlain : Bool) (tag : Option String)
  | sequence (items : List Node)
  | mapping (entries : List (Node × Node))
  deriving Repr, Inhabited

namespace Node

/-- The node that stands where nothing is written. -/
def empty : Node := scalar "" true none

/-- The nodes that have names. -/
abbrev Names := List (String × Node)

/-- The prefixes of tags by their handles. -/
abbrev Handles := List (String × String)

/-- The handles that every document knows. -/
def standardHandles : Handles := [("!", "!"), ("!!", "tag:yaml.org,2002:")]

/-- What is read before a node: a name and a tag. -/
structure Properties where
  name : Option String := none
  tag : Option String := none

/-- A tag in full; without a handle it is in full already. -/
def fullTag (handles : Handles) (handle suffix : String) : Option String :=
  if handle = "" then some suffix else (handles.lookup handle).map (· ++ suffix)

/-- The name and the tag before a node, in either order. -/
def readProperties (handles : Handles) : List Token → Option (Properties × List Token)
  | .anchor name :: .tag handle suffix :: rest => do
    return ({ name := some name, tag := some (← fullTag handles handle suffix) }, rest)
  | .tag handle suffix :: .anchor name :: rest => do
    return ({ name := some name, tag := some (← fullTag handles handle suffix) }, rest)
  | .anchor name :: rest => some ({ name := some name }, rest)
  | .tag handle suffix :: rest => do
    return ({ tag := some (← fullTag handles handle suffix) }, rest)
  | rest => some ({}, rest)

/-- Where a node stands: it may be written as a block, or only between brackets and braces; and the
items of a sequence may begin at the column of the key before them. -/
inductive Context where
  | block
  | blockOrItems
  | flow
  deriving DecidableEq, Repr

/-- The state of a reader between two nodes. -/
abbrev State := List Token × Names

/-- Whether a node is left out in front of a token. -/
def isAbsentBefore (enders : List Token) : List Token → Bool
  | [] => true
  | token :: _ => enders.contains token

mutual

/-- Reads a node, or the empty node where one of `enders` comes first. -/
def readOptional (handles : Handles) (context : Context) (enders : List Token) (state : State) :
    Nat → Option (Node × State)
  | 0 => none
  | fuel + 1 =>
    if isAbsentBefore enders state.1 then some (empty, state)
    else readNode handles context state fuel

/-- Reads a node. -/
def readNode (handles : Handles) (context : Context) (state : State) :
    Nat → Option (Node × State)
  | 0 => none
  | fuel + 1 =>
    match state.1 with
    | .alias name :: rest => (state.2.lookup name).map fun node => (node, (rest, state.2))
    | tokens => do
      let (properties, rest) ← readProperties handles tokens
      let (node, (rest, names)) ← readContent handles context properties (rest, state.2) fuel
      match properties.name with
      | some name => return (node, (rest, (name, node) :: names))
      | none => return (node, (rest, names))

/-- Reads what stands behind the name and the tag of a node. -/
def readContent (handles : Handles) (context : Context) (properties : Properties) (state : State) :
    Nat → Option (Node × State)
  | 0 => none
  | fuel + 1 =>
    let names := state.2
    let isBlock := context != .flow
    match state.1 with
    | .scalar text isPlain :: rest => some (scalar text isPlain properties.tag, (rest, names))
    | .openBracket :: rest => readFlowItems handles [] (rest, names) fuel
    | .openBrace :: rest => readFlowEntries handles [] (rest, names) fuel
    | tokens =>
      match tokens, isBlock, context == .blockOrItems with
      | .item :: _, _, true => readItems handles false [] (tokens, names) fuel
      | .openSequence :: rest, true, _ => readItems handles true [] (rest, names) fuel
      | .openMap :: rest, true, _ => readEntries handles [] (rest, names) fuel
      | _, _, _ =>
        if properties.name.isSome || properties.tag.isSome then
          some (scalar "" true properties.tag, (tokens, names))
        else none

/-- Reads the items of a block, which a token of its own closes unless they begin at the column of
their key. -/
def readItems (handles : Handles) (isClosed : Bool) (items : List Node) (state : State) :
    Nat → Option (Node × State)
  | 0 => none
  | fuel + 1 =>
    match state.1, isClosed with
    | .item :: rest, true => do
      let (item, state) ← readOptional handles .block [.item, .closeBlock] (rest, state.2) fuel
      readItems handles isClosed (item :: items) state fuel
    | .item :: rest, false => do
      let (item, state) ← readOptional handles .block [.item, .key, .value, .closeBlock]
        (rest, state.2) fuel
      readItems handles isClosed (item :: items) state fuel
    | .closeBlock :: rest, true => some (sequence items.reverse, (rest, state.2))
    | _, true => none
    | _, false => some (sequence items.reverse, state)

/-- Reads the entries of a block. -/
def readEntries (handles : Handles) (entries : List (Node × Node)) (state : State) :
    Nat → Option (Node × State)
  | 0 => none
  | fuel + 1 =>
    match state.1 with
    | .key :: rest => do
      let enders : List Token := [.key, .value, .closeBlock]
      let (key, state) ← readOptional handles .blockOrItems enders (rest, state.2) fuel
      let (value, state) ← match state.1 with
        | .value :: rest => readOptional handles .blockOrItems enders (rest, state.2) fuel
        | _ => some (empty, state)
      readEntries handles ((key, value) :: entries) state fuel
    | .closeBlock :: rest => some (mapping entries.reverse, (rest, state.2))
    | _ => none

/-- Reads the items between brackets. -/
def readFlowItems (handles : Handles) (items : List Node) (state : State) :
    Nat → Option (Node × State)
  | 0 => none
  | fuel + 1 =>
    match state.1 with
    | .closeBracket :: rest => some (sequence items.reverse, (rest, state.2))
    | tokens => do
      let (item, (rest, names)) ← match tokens with
        | .key :: rest => do
          let enders : List Token := [.comma, .closeBracket]
          let (key, state) ← readOptional handles .flow (.value :: enders) (rest, state.2) fuel
          let (value, state) ← match state.1 with
            | .value :: rest => readOptional handles .flow enders (rest, state.2) fuel
            | _ => some (empty, state)
          pure (mapping [(key, value)], state)
        | tokens => readNode handles .flow (tokens, state.2) fuel
      match rest with
      | .comma :: rest => readFlowItems handles (item :: items) (rest, names) fuel
      | .closeBracket :: rest => return (sequence (item :: items).reverse, (rest, names))
      | _ => failure

/-- Reads the entries between braces. -/
def readFlowEntries (handles : Handles) (entries : List (Node × Node)) (state : State) :
    Nat → Option (Node × State)
  | 0 => none
  | fuel + 1 =>
    match state.1 with
    | .closeBrace :: rest => some (mapping entries.reverse, (rest, state.2))
    | tokens => do
      let (entry, (rest, names)) ← match tokens with
        | .key :: rest => do
          let enders : List Token := [.comma, .closeBrace]
          let (key, state) ← readOptional handles .flow (.value :: enders) (rest, state.2) fuel
          let (value, state) ← match state.1 with
            | .value :: rest => readOptional handles .flow enders (rest, state.2) fuel
            | _ => some (empty, state)
          pure ((key, value), state)
        | tokens => do
          let (key, state) ← readNode handles .flow (tokens, state.2) fuel
          pure ((key, empty), state)
      match rest with
      | .comma :: rest => readFlowEntries handles (entry :: entries) (rest, names) fuel
      | .closeBrace :: rest => return (mapping (entry :: entries).reverse, (rest, names))
      | _ => failure

end

/-- Reads the directives before a document: the handles of tags, and the version, which must be one
that is known.  None of them may be given twice. -/
def readDirectives (hasVersion : Bool) (handles : Handles) :
    List Token → Option (Handles × List Token)
  | .version major minor :: rest =>
    if !hasVersion && major == 1 && (minor == 1 || minor == 2) then
      readDirectives true handles rest
    else none
  | .tagHandle handle start :: rest =>
    if (handles.lookup handle).isSome then none
    else readDirectives hasVersion ((handle, start) :: handles) rest
  | .startDocument :: rest => some (handles ++ standardHandles, rest)
  | _ => none

/-- Whether the tokens begin with a directive or with the mark of a document. -/
def beginsExplicitly : List Token → Bool
  | .version _ _ :: _ => true
  | .tagHandle _ _ :: _ => true
  | .startDocument :: _ => true
  | _ => false

/-- Whether a document has no node. -/
def isWithoutNode : List Token → Bool
  | [] => true
  | .endDocument :: _ => true
  | tokens => beginsExplicitly tokens

/-- The node of the only document in a list of tokens.  Only a document that begins with a mark may
be without a node. -/
def ofTokens? (tokens : List Token) : Option Node :=
  match tokens with
  | [] => some empty
  | begun => do
    let isExplicit := beginsExplicitly begun
    let (handles, rest) ←
      if isExplicit then readDirectives false [] begun else some (standardHandles, begun)
    let (node, (rest, _)) ←
      if isExplicit && isWithoutNode rest then some (empty, (rest, []))
      else readNode handles .block (rest, []) (6 * tokens.length + 6)
    if (rest.dropWhile (· == .endDocument)).isEmpty then return node else failure

/-- The only document in a text. -/
def ofText? (text : String) : Option Node := (Token.scan? text).bind ofTokens?

end Node

end FibrePool.Yaml
