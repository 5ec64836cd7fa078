import Restripe.Proofs.Text.Utf8

/-!
# What is shown of bytes

Where bytes are no text, what is shown of them has the replacement character in the place of what
cannot be read.  Only text is shown as it is.  A byte below 128 belongs to no other character, so
the bytes on both sides of it are shown as they are shown by themselves.
-/

namespace Restripe.Utf8

/-- The bytes of what is shown of a byte string. -/
def shown (bytes : Bytes) : Bytes :=
  encode (lossy bytes)

theorem lossy_encode (text : Text) : lossy (encode text) = text := by
  rw [lossy, pieces_encode, List.map_map]
  exact List.map_id text

theorem shown_encode (text : Text) : shown (encode text) = encode text := by
  rw [shown, lossy_encode]

/-- Just text is shown as it is. -/
theorem shown_eq_self {bytes : Bytes} :
    shown bytes = bytes ↔ ∃ text, decode? bytes = some text := by
  constructor
  · intro same
    exact ⟨lossy bytes, decode?_eq_some.mpr same.symm⟩
  · rintro ⟨text, read⟩
    rw [decode?_eq_some.mp read, shown_encode]

/-- Bytes that are shown without the replacement character are text. -/
theorem decode?_of_lossy {bytes : Bytes} (plain : '\uFFFD' ∉ lossy bytes) :
    decode? bytes = some (lossy bytes) := by
  rw [decode?, lossy]
  unfold lossy at plain
  generalize pieces bytes = read at plain ⊢
  induction read with
  | nil => rfl
  | cons piece others ih =>
      simp only [List.map_cons, List.mem_cons, not_or] at plain
      cases piece with
      | char value => simp [Piece.char?, ih plain.2]
      | broken run => exact absurd rfl plain.1

/-- Bytes that are shown as a text without the replacement character are the bytes of that text. -/
theorem shown_eq_encode (bytes : Bytes) {text : Text} (plain : '\uFFFD' ∉ text) :
    shown bytes = encode text ↔ bytes = encode text := by
  constructor
  · intro same
    obtain rfl := encode_injective same
    exact decode?_eq_some.mp (decode?_of_lossy plain)
  · rintro rfl
    exact shown_encode text

/-! ## Bytes that stand alone -/

/-- The bytes that a lead byte owes are all 128 and above. -/
theorem low_of_lead? {byte : UInt8} {lead : Lead} (begins : lead? byte = some lead) :
    0x80 ≤ lead.low := by
  unfold lead? at begins
  -- one case for each kind of lead byte
  repeat' split at begins
  all_goals cases begins <;> exact UInt8.le_iff_toNat_le.mpr (by simp)

section Ascii

variable {byte : UInt8} (ascii : byte < 0x80)

include ascii

/-- Owed bytes are not looked for beyond a byte below 128. -/
theorem continuation_append (owed : Nat) {low : UInt8} (above : 0x80 ≤ low) (high : UInt8)
    (bits : Nat) (bytes rest : Bytes) :
    continuation owed low high bits (bytes ++ byte :: rest) =
      ((continuation owed low high bits bytes).1,
        (continuation owed low high bits bytes).2 ++ byte :: rest) := by
  induction bytes generalizing owed low high bits with
  | nil =>
      cases owed with
      | zero => rfl
      | succ owed =>
          have outside : ¬(low ≤ byte ∧ byte ≤ high) := by
            rintro ⟨within, -⟩
            exact absurd ascii (UInt8.not_lt.mpr (UInt8.le_trans above within))
          simp [continuation, outside]
  | cons first bytes ih =>
      cases owed with
      | zero => rfl
      | succ owed =>
          simp only [List.cons_append, continuation]
          split
          · exact ih owed (by decide) 0xBF _
          · rfl

theorem lead?_ascii : lead? byte = some ⟨0, 0x80, 0xBF, byte.toNat⟩ :=
  if_pos ascii

/-- A byte below 128 is a character by itself, whatever is around it. -/
theorem pieces_append_ascii (left right : Bytes) :
    pieces (left ++ byte :: right) =
      pieces left ++ .char (Char.ofNat byte.toNat) :: pieces right := by
  induction left using pieces.induct with
  | case1 =>
      rw [List.nil_append, pieces_of_read (lead?_ascii ascii) rfl]
      simp [pieces]
  | case2 first rest noLead ih => simp only [List.cons_append, pieces, noLead, ih]
  | case3 first rest lead begins code tail continued shorter ih =>
      have whole := continuation_append ascii lead.owed (low_of_lead? begins) lead.high lead.bits
        rest right
      rw [continued] at whole
      rw [List.cons_append, pieces_of_read begins whole, pieces_of_read begins continued, ih,
        List.cons_append]
  | case4 first rest lead begins tail continued shorter ih =>
      have whole := continuation_append ascii lead.owed (low_of_lead? begins) lead.high lead.bits
        rest right
      rw [continued] at whole
      have lengths : (rest ++ byte :: right).length - (tail ++ byte :: right).length =
          rest.length - tail.length := by
        simp only [List.length_append]
        omega
      rw [List.cons_append, pieces_of_broken begins whole, pieces_of_broken begins continued, ih,
        List.cons_append, lengths, List.take_append_of_le_length (Nat.sub_le _ _)]

theorem encode_ascii : encode [Char.ofNat byte.toNat] = [byte] := by
  have read := pieces_append_ascii ascii [] []
  rw [List.nil_append, pieces, List.nil_append] at read
  exact encode_of_pieces [byte] [Char.ofNat byte.toNat] (by rw [read]; rfl)

/-- The bytes on both sides of a byte below 128 are shown as by themselves. -/
theorem shown_append_ascii (left right : Bytes) :
    shown (left ++ byte :: right) = shown left ++ byte :: shown right := by
  have single := encode_ascii ascii
  have split : lossy (left ++ byte :: right) =
      lossy left ++ ([Char.ofNat byte.toNat] ++ lossy right) := by
    simp [lossy, pieces_append_ascii ascii, Piece.char?]
  rw [shown, split, encode_append, encode_append, single]
  rfl

end Ascii

/-! ## What is shown is there -/

/-- Reading the bytes that are owed leaves an end of the bytes. -/
theorem suffix_continuation (owed : Nat) (low high : UInt8) (bits : Nat) (bytes : Bytes) :
    (continuation owed low high bits bytes).2 <:+ bytes := by
  induction bytes generalizing owed low high bits with
  | nil => cases owed <;> exact List.suffix_rfl
  | cons first rest ih =>
      cases owed with
      | zero => exact List.suffix_rfl
      | succ owed =>
          simp only [continuation]
          split
          · exact (ih _ _ _ _).trans (List.suffix_cons first rest)
          · exact List.suffix_rfl

/-- A character that is shown is the replacement character, or its bytes are there. -/
theorem subset_of_mem_lossy {bytes : Bytes} {char : Char} (member : char ∈ lossy bytes) :
    char = '\uFFFD' ∨ String.utf8EncodeChar char ⊆ bytes := by
  unfold lossy at member
  induction bytes using pieces.induct with
  | case1 => simp [pieces] at member
  | case2 first rest noLead ih =>
      simp only [pieces, noLead, List.map_cons, List.mem_cons] at member
      rcases member with replaced | inRest
      · exact .inl replaced
      · exact (ih inRest).imp_right fun subset => List.subset_cons_of_subset first subset
  | case3 first rest lead begins code tail continued shorter ih =>
      rw [pieces_of_read begins continued, List.map_cons, List.mem_cons] at member
      rw [encodeChar_of_read begins continued]
      rcases member with rfl | inTail
      · exact .inr (List.subset_append_left _ _)
      · exact (ih inTail).imp_right fun subset => List.subset_append_of_subset_right _ subset
  | case4 first rest lead begins tail continued shorter ih =>
      rw [pieces_of_broken begins continued, List.map_cons, List.mem_cons] at member
      have isEnd := suffix_continuation lead.owed lead.low lead.high lead.bits rest
      rw [continued] at isEnd
      rcases member with replaced | inTail
      · exact .inl replaced
      · exact (ih inTail).imp_right fun subset =>
          List.subset_cons_of_subset first (List.Subset.trans subset isEnd.subset)

/-- A byte below 128 is shown only where it is. -/
theorem mem_of_mem_shown {byte : UInt8} (ascii : byte < 0x80) {bytes : Bytes}
    (member : byte ∈ shown bytes) : byte ∈ bytes := by
  obtain ⟨char, inText, inChar⟩ := List.mem_flatMap.mp member
  rcases subset_of_mem_lossy inText with rfl | subset
  · have code := eq_of_mem_utf8EncodeChar (UInt8.lt_iff_toNat_lt.mp ascii) inChar
    have bound : byte.toNat < 128 := UInt8.lt_iff_toNat_lt.mp ascii
    rw [← code] at bound
    exact absurd bound (by decide)
  · exact subset inChar

end Restripe.Utf8
