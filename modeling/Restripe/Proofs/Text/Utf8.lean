import Mathlib.Data.List.Basic
import Restripe.Proofs.Text.Numeral

/-!
# Text in and out of bytes

A byte string reads as text exactly where it is the encoding of that text.  One character is encoded
by a lead byte and the continuation bytes that it owes, so both directions go character by
character: the bytes of a character read back as that character, and bytes that read as a character
are the ones that encode it.
-/

namespace Restripe.Utf8

/-! ## One character -/

/-- Owed bytes are read from the front, the next one within its own bounds. -/
theorem continuation_eq_some (owed : Nat) {bits code : Nat} {low high : UInt8}
    {bytes tail : Bytes} :
    continuation (owed + 1) low high bits bytes = (some code, tail) ↔
      ∃ byte rest, bytes = byte :: rest ∧ low ≤ byte ∧ byte ≤ high ∧
        continuation owed 0x80 0xBF (bits * 64 + (byte.toNat - 0x80)) rest = (some code, tail) := by
  cases bytes with
  | nil => simp [continuation]
  | cons byte rest =>
      simp only [continuation]
      constructor
      · intro read
        split at read
        · rename_i within
          exact ⟨byte, rest, rfl, within.1, within.2, read⟩
        · simp at read
      · intro taken
        obtain ⟨other, others, same, above, below, read⟩ := taken
        cases same
        rw [if_pos ⟨above, below⟩, read]

theorem toNat_ofNat_of_isValidChar {code : Nat} (valid : code.isValidChar) :
    (Char.ofNat code).val.toNat = code := by
  rw [Char.ofNat, dif_pos valid]
  rfl

theorem ofNat_eq_of_eq_toNat (byte : UInt8) {value : Nat} (same : value = byte.toNat) :
    UInt8.ofNat value = byte := by
  rw [same, UInt8.ofNat_toNat]

/-! ## The bytes of a character -/

section Bytes

variable {first second third fourth : UInt8} {code : Nat}

theorem encodeChar_one (bound : first.toNat < 0x80) (value : code = first.toNat) :
    String.utf8EncodeChar (Char.ofNat code) = [first] := by
  have single : code ≤ 127 := by omega
  have valid : code.isValidChar := .inl (by omega)
  simp only [String.utf8EncodeChar, toNat_ofNat_of_isValidChar valid, if_pos single]
  rw [ofNat_eq_of_eq_toNat first value]

theorem encodeChar_two (least : 0xC2 ≤ first.toNat) (bound : first.toNat < 0xE0)
    (secondRange : 0x80 ≤ second.toNat ∧ second.toNat ≤ 0xBF)
    (value : code = (first.toNat - 0xC0) * 64 + (second.toNat - 0x80)) :
    String.utf8EncodeChar (Char.ofNat code) = [first, second] := by
  have several : ¬code ≤ 127 := by omega
  have double : code ≤ 2047 := by omega
  have valid : code.isValidChar := .inl (by omega)
  simp only [String.utf8EncodeChar, toNat_ofNat_of_isValidChar valid, if_neg several,
    if_pos double]
  rw [ofNat_eq_of_eq_toNat first (by omega),
    ofNat_eq_of_eq_toNat second (by omega)]

theorem encodeChar_three (least : 0xE0 ≤ first.toNat) (bound : first.toNat < 0xF0)
    (secondRange : 0x80 ≤ second.toNat ∧ second.toNat ≤ 0xBF)
    (thirdRange : 0x80 ≤ third.toNat ∧ third.toNat ≤ 0xBF)
    (value : code =
      ((first.toNat - 0xE0) * 64 + (second.toNat - 0x80)) * 64 + (third.toNat - 0x80))
    (shortest : 0x800 ≤ code) (plain : code < 0xD800 ∨ 0xDFFF < code) :
    String.utf8EncodeChar (Char.ofNat code) = [first, second, third] := by
  have several : ¬code ≤ 127 := by omega
  have notDouble : ¬code ≤ 2047 := by omega
  have triple : code ≤ 65535 := by omega
  have valid : code.isValidChar := by
    unfold Nat.isValidChar
    omega
  simp only [String.utf8EncodeChar, toNat_ofNat_of_isValidChar valid, if_neg several,
    if_neg notDouble, if_pos triple]
  rw [ofNat_eq_of_eq_toNat first (by omega),
    ofNat_eq_of_eq_toNat second (by omega),
    ofNat_eq_of_eq_toNat third (by omega)]

theorem encodeChar_four (least : 0xF0 ≤ first.toNat) (bound : first.toNat < 0xF5)
    (secondRange : 0x80 ≤ second.toNat ∧ second.toNat ≤ 0xBF)
    (thirdRange : 0x80 ≤ third.toNat ∧ third.toNat ≤ 0xBF)
    (fourthRange : 0x80 ≤ fourth.toNat ∧ fourth.toNat ≤ 0xBF)
    (value : code = (((first.toNat - 0xF0) * 64 + (second.toNat - 0x80)) * 64
      + (third.toNat - 0x80)) * 64 + (fourth.toNat - 0x80))
    (shortest : 0x10000 ≤ code) (assigned : code ≤ 0x10FFFF) :
    String.utf8EncodeChar (Char.ofNat code) = [first, second, third, fourth] := by
  have several : ¬code ≤ 127 := by omega
  have notDouble : ¬code ≤ 2047 := by omega
  have notTriple : ¬code ≤ 65535 := by omega
  have valid : code.isValidChar := by
    unfold Nat.isValidChar
    omega
  simp only [String.utf8EncodeChar, toNat_ofNat_of_isValidChar valid, if_neg several,
    if_neg notDouble, if_neg notTriple]
  rw [ofNat_eq_of_eq_toNat first (by omega),
    ofNat_eq_of_eq_toNat second (by omega),
    ofNat_eq_of_eq_toNat third (by omega),
    ofNat_eq_of_eq_toNat fourth (by omega)]

end Bytes

/-! ## Reading one character -/

section Continuation

variable {bits code : Nat} {low high : UInt8} {bytes tail : Bytes}

theorem continuation_one : continuation 1 low high bits bytes = (some code, tail) ↔
    ∃ second, bytes = second :: tail ∧ (low.toNat ≤ second.toNat ∧ second.toNat ≤ high.toNat) ∧
      code = bits * 64 + (second.toNat - 0x80) := by
  simp only [continuation_eq_some, continuation, UInt8.le_iff_toNat_le, Prod.mk.injEq,
    Option.some.injEq]
  constructor
  · intro read
    obtain ⟨second, rest, same, above, below, value, last⟩ := read
    subst last
    exact ⟨second, same, ⟨above, below⟩, value.symm⟩
  · intro read
    obtain ⟨second, same, within, value⟩ := read
    exact ⟨second, tail, same, within.1, within.2, value.symm, rfl⟩

theorem continuation_two : continuation 2 low high bits bytes = (some code, tail) ↔
    ∃ second third, bytes = second :: third :: tail ∧
      (low.toNat ≤ second.toNat ∧ second.toNat ≤ high.toNat) ∧
      (0x80 ≤ third.toNat ∧ third.toNat ≤ 0xBF) ∧
      code = (bits * 64 + (second.toNat - 0x80)) * 64 + (third.toNat - 0x80) := by
  simp only [continuation_eq_some 1, continuation_one, UInt8.le_iff_toNat_le,
    UInt8.reduceToNat]
  constructor
  · intro read
    obtain ⟨second, rest, same, above, below, third, last, within, value⟩ := read
    subst last
    exact ⟨second, third, same, ⟨above, below⟩, within, value⟩
  · intro read
    obtain ⟨second, third, same, within, others⟩ := read
    exact ⟨second, third :: tail, same, within.1, within.2, third, rfl, others⟩

theorem continuation_three : continuation 3 low high bits bytes = (some code, tail) ↔
    ∃ second third fourth, bytes = second :: third :: fourth :: tail ∧
      (low.toNat ≤ second.toNat ∧ second.toNat ≤ high.toNat) ∧
      (0x80 ≤ third.toNat ∧ third.toNat ≤ 0xBF) ∧ (0x80 ≤ fourth.toNat ∧ fourth.toNat ≤ 0xBF) ∧
      code = ((bits * 64 + (second.toNat - 0x80)) * 64 + (third.toNat - 0x80)) * 64
        + (fourth.toNat - 0x80) := by
  simp only [continuation_eq_some 2, continuation_two, UInt8.le_iff_toNat_le,
    UInt8.reduceToNat]
  constructor
  · intro read
    obtain ⟨second, rest, same, above, below, third, fourth, last, others⟩ := read
    subst last
    exact ⟨second, third, fourth, same, ⟨above, below⟩, others⟩
  · intro read
    obtain ⟨second, third, fourth, same, within, others⟩ := read
    exact ⟨second, third :: fourth :: tail, same, within.1, within.2, third, fourth, rfl, others⟩

end Continuation

/-- A lead byte of three bytes: the bounds of the second byte rule out overlong forms and
surrogates. -/
theorem encodeChar_of_continuation_two {first low high : UInt8} {bits code : Nat}
    {rest tail : Bytes} (read : continuation 2 low high bits rest = (some code, tail))
    (lead : first.toNat = 0xE0 + bits) (bound : bits < 0x10)
    (within : 0x80 ≤ low.toNat ∧ high.toNat ≤ 0xBF) (shortest : bits = 0 → 0xA0 ≤ low.toNat)
    (plain : bits = 0xD → high.toNat ≤ 0x9F) :
    first :: rest = String.utf8EncodeChar (Char.ofNat code) ++ tail := by
  obtain ⟨second, third, same, secondWithin, thirdWithin, value⟩ := continuation_two.mp read
  have encoded : String.utf8EncodeChar (Char.ofNat code) = [first, second, third] :=
    encodeChar_three (by omega) (by omega) (by omega) (by omega) (by omega) (by omega) (by omega)
  rw [same, encoded]
  rfl

/-- A lead byte of four bytes: the bounds of the second byte rule out overlong forms and code points
that are too large. -/
theorem encodeChar_of_continuation_three {first low high : UInt8} {bits code : Nat}
    {rest tail : Bytes} (read : continuation 3 low high bits rest = (some code, tail))
    (lead : first.toNat = 0xF0 + bits) (bound : bits < 5)
    (within : 0x80 ≤ low.toNat ∧ high.toNat ≤ 0xBF) (shortest : bits = 0 → 0x90 ≤ low.toNat)
    (assigned : bits = 4 → high.toNat ≤ 0x8F) :
    first :: rest = String.utf8EncodeChar (Char.ofNat code) ++ tail := by
  obtain ⟨second, third, fourth, same, secondWithin, thirdWithin, fourthWithin, value⟩ :=
    continuation_three.mp read
  have encoded : String.utf8EncodeChar (Char.ofNat code) = [first, second, third, fourth] :=
    encodeChar_four (by omega) (by omega) (by omega) (by omega) (by omega) (by omega) (by omega)
      (by omega)
  rw [same, encoded]
  rfl

/-- Bytes that read as a character are the ones that encode it. -/
theorem encodeChar_of_read {first : UInt8} {rest tail : Bytes} {lead : Lead} {code : Nat}
    (begins : lead? first = some lead)
    (read : continuation lead.owed lead.low lead.high lead.bits rest = (some code, tail)) :
    first :: rest = String.utf8EncodeChar (Char.ofNat code) ++ tail := by
  simp only [lead?, UInt8.lt_iff_toNat_lt, ← UInt8.toNat_inj, UInt8.reduceToNat] at begins
  -- one case for each kind of lead byte, in the order of `lead?`
  split at begins
  · cases begins
    simp only [continuation] at read
    cases read
    rw [encodeChar_one (by omega) rfl]
    rfl
  split at begins
  · cases begins
  split at begins
  · cases begins
    obtain ⟨second, same, within, value⟩ := continuation_one.mp read
    rw [same, encodeChar_two (by omega) (by omega) within value]
    rfl
  split at begins
  · cases begins
    exact encodeChar_of_continuation_two read (by omega) (by decide) (by decide) (by decide)
      (by decide)
  split at begins
  · cases begins
    exact encodeChar_of_continuation_two read (by omega) (by decide) (by decide) (by decide)
      (by decide)
  split at begins
  · cases begins
    have continued : continuation 2 0x80 0xBF (first.toNat - 0xE0) rest = (some code, tail) := read
    exact encodeChar_of_continuation_two continued (by omega) (by omega) (by decide) (by omega)
      (by omega)
  split at begins
  · cases begins
    exact encodeChar_of_continuation_three read (by omega) (by decide) (by decide) (by decide)
      (by decide)
  split at begins
  · cases begins
    have continued : continuation 3 0x80 0xBF (first.toNat - 0xF0) rest = (some code, tail) := read
    exact encodeChar_of_continuation_three continued (by omega) (by omega) (by decide) (by omega)
      (by omega)
  split at begins
  · cases begins
    exact encodeChar_of_continuation_three read (by omega) (by decide) (by decide) (by decide)
      (by decide)
  · cases begins

/-! ## Reading the bytes of a character -/

/-- A lead byte of three bytes leaves the second byte every value that a character needs. -/
theorem lead?_three (byte : UInt8) (least : 0xE0 ≤ byte.toNat) (bound : byte.toNat < 0xF0) :
    ∃ low high, lead? byte = some ⟨2, low, high, byte.toNat - 0xE0⟩ ∧
      (low.toNat = 0x80 ∨ byte.toNat = 0xE0 ∧ low.toNat = 0xA0) ∧
      (high.toNat = 0xBF ∨ byte.toNat = 0xED ∧ high.toNat = 0x9F) := by
  simp only [lead?, UInt8.lt_iff_toNat_lt, ← UInt8.toNat_inj, UInt8.reduceToNat]
  rw [if_neg (by omega), if_neg (by omega), if_neg (by omega)]
  split
  · rename_i overlong
    exact ⟨0xA0, 0xBF, by simp [overlong], .inr ⟨overlong, rfl⟩, .inl rfl⟩
  split
  · rename_i surrogate
    exact ⟨0x80, 0x9F, by simp [surrogate], .inl rfl, .inr ⟨surrogate, rfl⟩⟩
  · exact ⟨0x80, 0xBF, rfl, .inl rfl, .inl rfl⟩

theorem lead?_four (byte : UInt8) (least : 0xF0 ≤ byte.toNat) (bound : byte.toNat < 0xF5) :
    ∃ low high, lead? byte = some ⟨3, low, high, byte.toNat - 0xF0⟩ ∧
      (low.toNat = 0x80 ∨ byte.toNat = 0xF0 ∧ low.toNat = 0x90) ∧
      (high.toNat = 0xBF ∨ byte.toNat = 0xF4 ∧ high.toNat = 0x8F) := by
  simp only [lead?, UInt8.lt_iff_toNat_lt, ← UInt8.toNat_inj, UInt8.reduceToNat]
  rw [if_neg (by omega), if_neg (by omega), if_neg (by omega), if_neg (by omega),
    if_neg (by omega), if_neg (by omega)]
  split
  · rename_i overlong
    exact ⟨0x90, 0xBF, by simp [overlong], .inr ⟨overlong, rfl⟩, .inl rfl⟩
  split
  · exact ⟨0x80, 0xBF, rfl, .inl rfl, .inl rfl⟩
  · rename_i less
    have last : byte.toNat = 0xF4 := by omega
    rw [if_pos last]
    exact ⟨0x80, 0x8F, by simp [last], .inl rfl, .inr ⟨last, rfl⟩⟩

theorem exists_byte (value : Nat) (bound : value < 256) :
    ∃ byte, UInt8.ofNat value = byte ∧ byte.toNat = value :=
  ⟨_, rfl, UInt8.toNat_ofNat_of_lt' bound⟩

/-- The bytes that encode a character read as that character, whatever follows them. -/
theorem read_encodeChar (char : Char) (tail : Bytes) :
    ∃ first rest lead, String.utf8EncodeChar char ++ tail = first :: rest ∧
      lead? first = some lead ∧
      continuation lead.owed lead.low lead.high lead.bits rest = (some char.toNat, tail) := by
  have valid : char.toNat < 0xD800 ∨ 0xDFFF < char.toNat ∧ char.toNat < 0x110000 := char.valid
  have value : char.val.toNat = char.toNat := rfl
  simp only [String.utf8EncodeChar, value]
  split
  · obtain ⟨first, named, firstValue⟩ := exists_byte char.toNat (by omega)
    have begins : lead? first = some ⟨0, 0x80, 0xBF, first.toNat⟩ := by
      simp only [lead?, UInt8.lt_iff_toNat_lt, UInt8.reduceToNat]
      rw [if_pos (by omega)]
    rw [named, ← firstValue]
    exact ⟨first, tail, _, rfl, begins, rfl⟩
  split
  · obtain ⟨first, named, firstValue⟩ :=
      exists_byte (char.toNat / 64 % 32 + 192) (by omega)
    obtain ⟨second, secondNamed, secondValue⟩ :=
      exists_byte (char.toNat % 64 + 128) (by omega)
    have begins : lead? first = some ⟨1, 0x80, 0xBF, first.toNat - 0xC0⟩ := by
      simp only [lead?, UInt8.lt_iff_toNat_lt, UInt8.reduceToNat]
      rw [if_neg (by omega), if_neg (by omega), if_pos (by omega)]
    have continued : continuation 1 0x80 0xBF (first.toNat - 0xC0) (second :: tail)
        = (some char.toNat, tail) := by
      refine continuation_one.mpr ⟨second, rfl, ?_, by omega⟩
      simp only [UInt8.reduceToNat]
      omega
    rw [named, secondNamed]
    exact ⟨first, _, _, rfl, begins, continued⟩
  split
  · obtain ⟨first, named, firstValue⟩ :=
      exists_byte (char.toNat / 4096 % 16 + 224) (by omega)
    obtain ⟨second, secondNamed, secondValue⟩ :=
      exists_byte (char.toNat / 64 % 64 + 128) (by omega)
    obtain ⟨third, thirdNamed, thirdValue⟩ :=
      exists_byte (char.toNat % 64 + 128) (by omega)
    obtain ⟨low, high, begins, above, below⟩ := lead?_three first (by omega) (by omega)
    have continued : continuation 2 low high (first.toNat - 0xE0) (second :: third :: tail)
        = (some char.toNat, tail) :=
      continuation_two.mpr ⟨second, third, rfl, by omega, by omega, by omega⟩
    rw [named, secondNamed, thirdNamed]
    exact ⟨first, _, _, rfl, begins, continued⟩
  · obtain ⟨first, named, firstValue⟩ :=
      exists_byte (char.toNat / 262144 % 8 + 240) (by omega)
    obtain ⟨second, secondNamed, secondValue⟩ :=
      exists_byte (char.toNat / 4096 % 64 + 128) (by omega)
    obtain ⟨third, thirdNamed, thirdValue⟩ :=
      exists_byte (char.toNat / 64 % 64 + 128) (by omega)
    obtain ⟨fourth, fourthNamed, fourthValue⟩ :=
      exists_byte (char.toNat % 64 + 128) (by omega)
    obtain ⟨low, high, begins, above, below⟩ := lead?_four first (by omega) (by omega)
    have continued : continuation 3 low high (first.toNat - 0xF0)
        (second :: third :: fourth :: tail) = (some char.toNat, tail) :=
      continuation_three.mpr
        ⟨second, third, fourth, rfl, by omega, by omega, by omega, by omega⟩
    rw [named, secondNamed, thirdNamed, fourthNamed]
    exact ⟨first, _, _, rfl, begins, continued⟩

/-! ## Whole texts -/

theorem pieces_of_read {first : UInt8} {rest tail : Bytes} {lead : Lead} {code : Nat}
    (begins : lead? first = some lead)
    (read : continuation lead.owed lead.low lead.high lead.bits rest = (some code, tail)) :
    pieces (first :: rest) = .char (Char.ofNat code) :: pieces tail := by
  rw [pieces]
  simp only [begins]
  split
  · rename_i other otherTail same
    rw [read] at same
    cases same
    rfl
  · rename_i otherTail same
    rw [read] at same
    cases same

theorem pieces_of_broken {first : UInt8} {rest tail : Bytes} {lead : Lead}
    (begins : lead? first = some lead)
    (read : continuation lead.owed lead.low lead.high lead.bits rest = (none, tail)) :
    pieces (first :: rest)
      = .broken (first :: rest.take (rest.length - tail.length)) :: pieces tail := by
  rw [pieces]
  simp only [begins]
  split
  · rename_i other otherTail same
    rw [read] at same
    cases same
  · rename_i otherTail same
    rw [read] at same
    cases same
    rfl

theorem pieces_encode_append (text : Text) (rest : Bytes) :
    pieces (encode text ++ rest) = text.map Piece.char ++ pieces rest := by
  induction text with
  | nil => rfl
  | cons char text ih =>
      obtain ⟨first, others, lead, same, begins, read⟩ :=
        read_encodeChar char (encode text ++ rest)
      have bytes : encode (char :: text) ++ rest = first :: others := by
        rw [← same, ← List.append_assoc]
        rfl
      rw [bytes, pieces_of_read begins read, ih, Char.ofNat_toNat, List.map_cons, List.cons_append]

theorem pieces_encode (text : Text) : pieces (encode text) = text.map Piece.char := by
  have whole := pieces_encode_append text []
  rwa [List.append_nil, pieces, List.append_nil] at whole

theorem decode?_encode (text : Text) : decode? (encode text) = some text := by
  rw [decode?, pieces_encode]
  induction text with
  | nil => rfl
  | cons char text ih => simp [Piece.char?, ih]

theorem encode_of_pieces (bytes : Bytes) :
    ∀ text, (pieces bytes).mapM Piece.char? = some text → encode text = bytes := by
  induction bytes using pieces.induct with
  | case1 =>
      intro text read
      simp only [pieces, List.mapM_nil, Option.pure_def, Option.some.injEq] at read
      rw [← read]
      rfl
  | case2 first rest none ih =>
      intro text read
      simp [pieces, none, Piece.char?] at read
  | case3 first rest lead begins code tail continued shorter ih =>
      intro text read
      rw [pieces_of_read begins continued, List.mapM_cons] at read
      simp only [Piece.char?, Option.bind_eq_bind, Option.bind_some, Option.bind_eq_some_iff,
        Option.pure_def, Option.some.injEq] at read
      obtain ⟨others, readOthers, same⟩ := read
      rw [← same, encodeChar_of_read begins continued, ← ih others readOthers]
      rfl
  | case4 first rest lead begins tail continued shorter ih =>
      intro text read
      rw [pieces_of_broken begins continued] at read
      simp [Piece.char?] at read

theorem decode?_eq_some {bytes : Bytes} {text : Text} :
    decode? bytes = some text ↔ bytes = encode text := by
  constructor
  · intro read
    exact (encode_of_pieces bytes text read).symm
  · intro same
    rw [same, decode?_encode]

/-! ## Bytes that are no text -/

/-- There are bytes, and those at their front encode no character. -/
structure Stray (bytes : Bytes) : Prop where
  notEmpty : bytes ≠ []
  noChar : ∀ char, ¬String.utf8EncodeChar char <+: bytes

/-- Bytes that read as no character encode none. -/
theorem stray_of_not_read {first : UInt8} {rest : Bytes}
    (notRead : ∀ lead, lead? first = some lead → ∀ code tail,
      continuation lead.owed lead.low lead.high lead.bits rest ≠ (some code, tail)) :
    Stray (first :: rest) where
  notEmpty := List.cons_ne_nil first rest
  noChar char encoded := by
    obtain ⟨tail, same⟩ := encoded
    obtain ⟨other, others, lead, split, begins, read⟩ := read_encodeChar char tail
    obtain ⟨rfl, rfl⟩ := List.cons.inj (same.symm.trans split)
    exact notRead lead begins char.toNat tail read

theorem exists_front (bytes : Bytes) :
    ∃ front rest, bytes = encode front ++ rest ∧ (rest = [] ∨ Stray rest) := by
  induction bytes using pieces.induct with
  | case1 => exact ⟨[], [], rfl, .inl rfl⟩
  | case2 first rest noLead _ =>
      refine ⟨[], first :: rest, rfl, .inr (stray_of_not_read ?_)⟩
      intro lead begins
      rw [noLead] at begins
      cases begins
  | case3 first rest lead begins code tail continued _ ih =>
      obtain ⟨front, left, same, ending⟩ := ih
      refine ⟨Char.ofNat code :: front, left, ?_, ending⟩
      rw [encodeChar_of_read begins continued, same, ← List.append_assoc]
      rfl
  | case4 first rest lead begins tail continued _ _ =>
      refine ⟨[], first :: rest, rfl, .inr (stray_of_not_read ?_)⟩
      intro other otherBegins code otherTail
      obtain rfl := Option.some.inj (begins.symm.trans otherBegins)
      rw [continued]
      simp

/-- Bytes that encode no character are read as a broken run first. -/
theorem Stray.pieces_eq {bytes : Bytes} (stray : Stray bytes) :
    ∃ broken others, pieces bytes = .broken broken :: others := by
  cases bytes using pieces.fun_cases with
  | case1 => exact absurd rfl stray.notEmpty
  | case2 first rest noLead => exact ⟨[first], pieces rest, by simp only [pieces, noLead]⟩
  | case3 first rest lead begins code tail continued _ =>
      exact absurd ⟨tail, (encodeChar_of_read begins continued).symm⟩ (stray.noChar _)
  | case4 first rest lead begins tail continued _ =>
      exact ⟨_, _, pieces_of_broken begins continued⟩

/-- Bytes that encode no character come right after the text that can be read. -/
theorem validPrefix_of_stray (front : Text) {rest : Bytes} (stray : Stray rest) :
    validPrefix (encode front ++ rest) = front := by
  obtain ⟨broken, others, pieces_eq⟩ := stray.pieces_eq
  have whole : ∀ piece ∈ front.map some, piece.isSome = true := by simp
  rw [validPrefix, pieces_encode_append, pieces_eq, List.map_append, List.map_map,
    show Piece.char? ∘ Piece.char = some from rfl, List.takeWhile_append_of_pos whole]
  simp [Piece.char?]

/-- Bytes are no text exactly where some of them encode no character. -/
theorem decode?_eq_none {bytes : Bytes} :
    decode? bytes = none ↔ ∃ front rest, bytes = encode front ++ rest ∧ Stray rest := by
  constructor
  · intro undecoded
    obtain ⟨front, rest, same, nothing | stray⟩ := exists_front bytes
    · rw [nothing, List.append_nil] at same
      rw [decode?_eq_some.mpr same] at undecoded
      cases undecoded
    · exact ⟨front, rest, same, stray⟩
  · rintro ⟨front, rest, rfl, stray⟩
    obtain ⟨broken, others, pieces_eq⟩ := stray.pieces_eq
    rw [decode?, pieces_encode_append, pieces_eq, List.mapM_append]
    simp [Piece.char?]

end Restripe.Utf8
