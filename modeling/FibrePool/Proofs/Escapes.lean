import FibrePool.Http.Percent
import FibrePool.Proofs.Pieces

/-!
# Escapes read back

What is written with percent escapes is read as the bytes of the text (`decode_encode`), and the
bytes of a text in UTF-8 are those of no other text (`Utf8.encode_injective`), so different texts
are written differently (`encode_injective`).

What is written consists of plain characters and percent signs (`mem_encode`): none of them is a
separator of an address, and none is escaped once more.  But the point is plain, so a text of one or
two points is written as itself.
-/

namespace FibrePool

set_option autoImplicit false

/-! ## Bytes of texts -/

namespace Text.Utf8

theorem toNat_lt (c : Char) : c.toNat < 0x110000 := by
  have valid := c.valid
  unfold UInt32.isValidChar Nat.isValidChar at valid
  unfold Char.toNat
  omega

/-- The four lengths of a character. -/
theorem encodeChar_cases (c : Char) :
    (c.toNat < 0x80 ∧ encodeChar c = [c.toNat]) ∨
    (0x80 ≤ c.toNat ∧ c.toNat < 0x800 ∧
      encodeChar c = [0xc0 + c.toNat / 64, 0x80 + c.toNat % 64]) ∨
    (0x800 ≤ c.toNat ∧ c.toNat < 0x10000 ∧
      encodeChar c = [0xe0 + c.toNat / 4096, 0x80 + c.toNat / 64 % 64, 0x80 + c.toNat % 64]) ∨
    (0x10000 ≤ c.toNat ∧ encodeChar c = [0xf0 + c.toNat / 262144,
      0x80 + c.toNat / 4096 % 64, 0x80 + c.toNat / 64 % 64, 0x80 + c.toNat % 64]) := by
  unfold encodeChar
  dsimp only
  split
  · next one => exact .inl ⟨one, rfl⟩
  · next more =>
    split
    · next two => exact .inr (.inl ⟨Nat.le_of_not_lt more, two, rfl⟩)
    · next more =>
      split
      · next three => exact .inr (.inr (.inl ⟨Nat.le_of_not_lt more, three, rfl⟩))
      · next more => exact .inr (.inr (.inr ⟨Nat.le_of_not_lt more, rfl⟩))

theorem encodeChar_lt (c : Char) : ∀ byte ∈ encodeChar c, byte < 256 := by
  have bound := toNat_lt c
  rcases encodeChar_cases c with ⟨_, bytes⟩ | ⟨_, _, bytes⟩ | ⟨_, _, bytes⟩ | ⟨_, bytes⟩ <;>
    rw [bytes] <;> simp <;> omega

/-- No character begins like another one. -/
theorem encodeChar_append_inj {c other : Char} {rest rest' : List Nat}
    (same : encodeChar c ++ rest = encodeChar other ++ rest') : c = other ∧ rest = rest' := by
  have bound := toNat_lt c
  have bound' := toNat_lt other
  have codes : c.toNat = other.toNat ∧ rest = rest' := by
    rcases encodeChar_cases c with ⟨_, bytes⟩ | ⟨_, _, bytes⟩ | ⟨_, _, bytes⟩ | ⟨_, bytes⟩ <;>
      rcases encodeChar_cases other with
        ⟨_, bytes'⟩ | ⟨_, _, bytes'⟩ | ⟨_, _, bytes'⟩ | ⟨_, bytes'⟩ <;>
      simp only [bytes, bytes', List.cons_append, List.nil_append, List.cons.injEq] at same
    all_goals first | (exfalso; omega) | skip
    · exact same
    · exact ⟨by omega, same.2.2⟩
    · exact ⟨by omega, same.2.2.2⟩
    · exact ⟨by omega, same.2.2.2.2⟩
  exact ⟨Char.toNat_inj.1 codes.1, codes.2⟩

/-- **The bytes of a text are those of no other text.** -/
theorem encode_injective {chars others : List Char} (same : encode chars = encode others) :
    chars = others := by
  have filled (c : Char) : encodeChar c ≠ [] := by
    rcases encodeChar_cases c with ⟨_, bytes⟩ | ⟨_, _, bytes⟩ | ⟨_, _, bytes⟩ | ⟨_, bytes⟩ <;>
      simp [bytes]
  induction chars generalizing others with
  | nil =>
    cases others with
    | nil => rfl
    | cons c others =>
      exact absurd (List.append_eq_nil_iff.1 same.symm).1 (filled c)
  | cons c chars ih =>
    cases others with
    | nil => exact absurd (List.append_eq_nil_iff.1 same).1 (filled c)
    | cons c' others =>
      obtain ⟨rfl, rest⟩ := encodeChar_append_inj same
      rw [ih rest]

end Text.Utf8

/-! ## Escapes -/

namespace Percent

theorem decode_escapeByte {byte : Nat} (below : byte < 256) (rest : List Char) :
    decode (escapeByte byte ++ rest) = byte :: decode rest := by
  have high := Text.hexValue?_upperDigit (byte / 16) (by omega)
  have low := Text.hexValue?_upperDigit (byte % 16) (by omega)
  rw [escapeByte, List.cons_append, List.cons_append, List.cons_append, List.nil_append, decode,
    upperDigit, upperDigit, high, low]
  dsimp only
  rw [Nat.div_add_mod' byte 16]

theorem decode_escapeBytes {bytes : List Nat} (below : ∀ byte ∈ bytes, byte < 256)
    (rest : List Char) : decode (bytes.flatMap escapeByte ++ rest) = bytes ++ decode rest := by
  induction bytes with
  | nil => rfl
  | cons byte bytes ih =>
    obtain ⟨here, later⟩ := List.forall_mem_cons.1 below
    rw [List.flatMap_cons, List.append_assoc, decode_escapeByte here, ih later, List.cons_append]

theorem decode_plain {c : Char} (plain : c ≠ '%') (rest : List Char) :
    decode (c :: rest) = Text.Utf8.encodeChar c ++ decode rest := by
  rw [decode]
  exact fun _ _ _ same => absurd same plain

/-- **What is written with escapes is read as the bytes of the text.** -/
theorem decode_encode (chars : List Char) : decode (encode chars) = Text.Utf8.encode chars := by
  induction chars with
  | nil => simp [encode, decode, Text.Utf8.encode]
  | cons c chars ih =>
    rw [encode, List.flatMap_cons, Text.Utf8.encode, List.flatMap_cons]
    split
    · next plain =>
      have other : c ≠ '%' := by
        rintro rfl
        exact absurd plain (by decide)
      rw [List.singleton_append, decode_plain other]
      exact congrArg (Text.Utf8.encodeChar c ++ ·) ih
    · rw [escapeChar, decode_escapeBytes (Text.Utf8.encodeChar_lt c)]
      exact congrArg (Text.Utf8.encodeChar c ++ ·) ih

/-- **Different texts are written differently.** -/
theorem encode_injective {chars others : List Char} (same : encode chars = encode others) :
    chars = others := by
  apply Text.Utf8.encode_injective
  rw [← decode_encode, ← decode_encode, same]

/-- What is written consists of plain characters and percent signs. -/
theorem mem_encode {c : Char} {chars : List Char} (member : c ∈ encode chars) :
    isPlain c = true ∨ c = '%' := by
  obtain ⟨origin, _, written⟩ := List.mem_flatMap.1 member
  split at written
  · next plain =>
    rw [List.mem_singleton.1 written]
    exact .inl plain
  · obtain ⟨byte, listed, digit⟩ := List.mem_flatMap.1 written
    have below := Text.Utf8.encodeChar_lt origin byte listed
    have plain : ∀ value < 16, isPlain (upperDigit value) = true := by decide
    rcases List.mem_cons.1 digit with rfl | digit
    · exact .inr rfl
    · rcases List.mem_cons.1 digit with rfl | digit
      · exact .inl (plain _ (by omega))
      · rw [List.mem_singleton.1 digit]
        exact .inl (plain _ (by omega))

end Percent

end FibrePool
