import FibrePool.Text.Numeral

/-!
# Bytes of texts

Texts travel as bytes in UTF-8.  Bytes are natural numbers here.  A sequence that is no UTF-8 can be
refused, with the place and the length of what is wrong, or read with a replacement character for
every maximal part that begins like a character and is none.
-/

namespace FibrePool.Text.Utf8

set_option autoImplicit false

/-! ## Writing -/

/-- The bytes of a character. -/
def encodeChar (c : Char) : List Nat :=
  let code := c.toNat
  if code < 0x80 then [code]
  else if code < 0x800 then [0xc0 + code / 64, 0x80 + code % 64]
  else if code < 0x10000 then [0xe0 + code / 4096, 0x80 + code / 64 % 64, 0x80 + code % 64]
  else
    [0xf0 + code / 262144, 0x80 + code / 4096 % 64, 0x80 + code / 64 % 64, 0x80 + code % 64]

/-- The bytes of a text. -/
def encode (chars : List Char) : List Nat := chars.flatMap encodeChar

/-! ## Reading -/

/-- What a first byte of several announces. -/
structure Lead where
  /-- The bits of the character in the first byte. -/
  bits : Nat
  /-- How many bytes follow. -/
  following : Nat
  /-- The least second byte. -/
  least : Nat := 0x80
  /-- The greatest second byte. -/
  greatest : Nat := 0xbf
  deriving DecidableEq, Repr

/-- The announcement of a first byte.  The bounds of the second byte exclude forms that are too
long, surrogates, and numbers above the last character. -/
def lead? (byte : Nat) : Option Lead :=
  if 0xc2 ≤ byte ∧ byte ≤ 0xdf then some ⟨byte - 0xc0, 1, 0x80, 0xbf⟩
  else if byte = 0xe0 then some ⟨0, 2, 0xa0, 0xbf⟩
  else if byte = 0xed then some ⟨0xd, 2, 0x80, 0x9f⟩
  else if 0xe1 ≤ byte ∧ byte ≤ 0xef then some ⟨byte - 0xe0, 2, 0x80, 0xbf⟩
  else if byte = 0xf0 then some ⟨0, 3, 0x90, 0xbf⟩
  else if byte = 0xf4 then some ⟨4, 3, 0x80, 0x8f⟩
  else if 0xf1 ≤ byte ∧ byte ≤ 0xf3 then some ⟨byte - 0xf0, 3, 0x80, 0xbf⟩
  else none

/-- What stands at the front of a sequence of bytes. -/
inductive Front where
  | character (c : Char)
  | /-- So many bytes that are no character. -/
    broken (length : Nat)
  | /-- The first bytes of a character, and then the end. -/
    cutOff
  deriving DecidableEq, Repr

/-- Reads the bytes that follow a first byte, `taken` of the character being read already. -/
def following (value taken : Nat) : Nat → Nat → Nat → List Nat → Front × List Nat
  | 0, _, _, rest => (.character (Char.ofNat value), rest)
  | _ + 1, _, _, [] => (.cutOff, [])
  | count + 1, least, greatest, byte :: rest =>
    if least ≤ byte ∧ byte ≤ greatest then
      following (value * 64 + byte % 64) (taken + 1) count 0x80 0xbf rest
    else (.broken taken, byte :: rest)

/-- What stands at the front, and what follows it. -/
def front (byte : Nat) (rest : List Nat) : Front × List Nat :=
  if byte < 0x80 then (.character (Char.ofNat byte), rest)
  else
    match lead? byte with
    | some lead => following lead.bits 1 lead.following lead.least lead.greatest rest
    | none => (.broken 1, rest)

/-- The parts of a sequence of at most `limit` bytes. -/
def partsWithin : Nat → List Nat → List Front
  | 0, _ => []
  | _ + 1, [] => []
  | limit + 1, byte :: rest =>
    let (part, rest) := front byte rest
    part :: partsWithin limit rest

/-- The parts of a sequence of bytes. -/
def parts (bytes : List Nat) : List Front := partsWithin bytes.length bytes

/-- Where a sequence of bytes stops being a text, and for how many bytes, unless it ends there. -/
structure Fault where
  place : Nat
  length : Option Nat
  deriving DecidableEq, Repr

/-- What people are told about a fault. -/
def Fault.message (fault : Fault) : String :=
  match fault.length with
  | some length => s!"invalid utf-8 sequence of {length} bytes from index {fault.place}"
  | none => s!"incomplete utf-8 byte sequence from index {fault.place}"

/-- The characters of the parts that begin at a place. -/
def charactersFrom (place : Nat) : List Front → Except Fault (List Char)
  | [] => .ok []
  | .character c :: rest => do
    return c :: (← charactersFrom (place + (encodeChar c).length) rest)
  | .broken length :: _ => .error ⟨place, some length⟩
  | .cutOff :: _ => .error ⟨place, none⟩

/-- The text of a sequence of bytes. -/
def decode (bytes : List Nat) : Except Fault String :=
  String.ofList <$> charactersFrom 0 (parts bytes)

/-- The character that a part is read as, `mark` where it is none. -/
def Front.marked (mark : Char) : Front → Char
  | .character c => c
  | .broken _ => mark
  | .cutOff => mark

/-- The characters of a sequence of bytes, with `mark` for every part that is none. -/
def decodeMarked (mark : Char) (bytes : List Nat) : List Char :=
  (parts bytes).map (Front.marked mark)

/-- The text of a sequence of bytes, whatever they are. -/
def decodeLossy (bytes : List Nat) : String := String.ofList (decodeMarked '\ufffd' bytes)

end FibrePool.Text.Utf8
