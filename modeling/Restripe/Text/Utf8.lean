/-!
# UTF-8

File contents and paths are byte strings; what is read from them is text.  `Utf8.pieces` reads a
byte string as a sequence of characters and of byte runs that begin no character.  A broken run is
as long as it could still have become a character, so every other reading of a byte string
(`decode?`, `validPrefix`, `lossy`) is a map over the pieces.
-/

namespace Restripe

/-- Raw bytes of a file or a path. -/
abbrev Bytes := List UInt8

/-- Decoded characters of a file or a token. -/
abbrev Text := List Char

namespace Utf8

/-- What a lead byte promises: how many continuation bytes follow, the bounds of the next one,
and the bits of the code point read so far. -/
structure Lead where
  owed : Nat
  low : UInt8
  high : UInt8
  bits : Nat
  deriving DecidableEq, Repr

/-- The promise of a lead byte; a byte that starts no character has none.  The bounds of the second
byte rule out overlong forms, surrogates and code points above `0x10FFFF`. -/
def lead? (byte : UInt8) : Option Lead :=
  if byte < 0x80 then some ⟨0, 0x80, 0xBF, byte.toNat⟩
  else if byte < 0xC2 then none
  else if byte < 0xE0 then some ⟨1, 0x80, 0xBF, byte.toNat - 0xC0⟩
  else if byte = 0xE0 then some ⟨2, 0xA0, 0xBF, 0x0⟩
  else if byte = 0xED then some ⟨2, 0x80, 0x9F, 0xD⟩
  else if byte < 0xF0 then some ⟨2, 0x80, 0xBF, byte.toNat - 0xE0⟩
  else if byte = 0xF0 then some ⟨3, 0x90, 0xBF, 0x0⟩
  else if byte < 0xF4 then some ⟨3, 0x80, 0xBF, byte.toNat - 0xF0⟩
  else if byte = 0xF4 then some ⟨3, 0x80, 0x8F, 0x4⟩
  else none

/-- Read the owed continuation bytes.  The code point is missing when a byte is out of its bounds
or the input ends; the remaining bytes then start at that point. -/
def continuation : (owed : Nat) → (low high : UInt8) → (bits : Nat) → Bytes → Option Nat × Bytes
  | 0, _, _, bits, rest => (some bits, rest)
  | _ + 1, _, _, _, [] => (none, [])
  | owed + 1, low, high, bits, byte :: rest =>
      if low ≤ byte ∧ byte ≤ high then
        continuation owed 0x80 0xBF (bits * 64 + (byte.toNat - 0x80)) rest
      else
        (none, byte :: rest)

theorem length_continuation_le (owed : Nat) (low high : UInt8) (bits : Nat) (bytes : Bytes) :
    (continuation owed low high bits bytes).2.length ≤ bytes.length := by
  induction bytes generalizing owed low high bits with
  | nil => cases owed <;> simp [continuation]
  | cons byte rest ih =>
      cases owed with
      | zero => simp [continuation]
      | succ owed =>
          simp only [continuation]
          split
          · exact Nat.le_succ_of_le (ih ..)
          · exact Nat.le_refl _

/-- One unit of a byte string: a character, or a maximal run of bytes that begins none. -/
inductive Piece where
  | char (value : Char)
  | broken (bytes : Bytes)
  deriving DecidableEq, Repr

/-- The character of a piece, if it is one. -/
def Piece.char? : Piece → Option Char
  | .char value => some value
  | .broken _ => none

/-- Read a byte string as characters and broken runs. -/
def pieces : Bytes → List Piece
  | [] => []
  | byte :: rest =>
      match lead? byte with
      | none => .broken [byte] :: pieces rest
      | some lead =>
          match h : continuation lead.owed lead.low lead.high lead.bits rest with
          | (some code, tail) =>
              have : tail.length ≤ rest.length := by
                have := length_continuation_le lead.owed lead.low lead.high lead.bits rest
                simpa [h] using this
              .char (Char.ofNat code) :: pieces tail
          | (none, tail) =>
              have : tail.length ≤ rest.length := by
                have := length_continuation_le lead.owed lead.low lead.high lead.bits rest
                simpa [h] using this
              .broken (byte :: rest.take (rest.length - tail.length)) :: pieces tail
  termination_by bytes => bytes.length
  decreasing_by all_goals (simp_wf <;> omega)

/-- The characters of a byte string that holds nothing else. -/
def decode? (bytes : Bytes) : Option Text :=
  (pieces bytes).mapM Piece.char?

/-- The characters before the first broken run. -/
def validPrefix (bytes : Bytes) : Text :=
  ((pieces bytes).map Piece.char?).takeWhile Option.isSome |>.filterMap id

/-- The characters of a byte string, each broken run shown as one replacement character. -/
def lossy (bytes : Bytes) : Text :=
  (pieces bytes).map fun piece => piece.char?.getD '\uFFFD'

def encode (text : Text) : Bytes :=
  text.flatMap String.utf8EncodeChar

def byteLength (text : Text) : Nat :=
  (encode text).length

end Utf8

def Bytes.ofString (string : String) : Bytes :=
  Utf8.encode string.toList

end Restripe
