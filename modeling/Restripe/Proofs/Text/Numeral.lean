import Mathlib.Data.List.Basic
import Restripe.Text.Numeral

/-!
# Numerals and encoded text

Text is determined by its bytes and a number by its numeral.  A byte below 128 in encoded text is
the character of that number, so looking for a separator in a path is looking for it in the text.
-/

namespace Restripe

namespace Utf8

theorem encode_injective {left right : Text} (same : encode left = encode right) :
    left = right := by
  have bytes : left.utf8Encode = right.utf8Encode := congrArg List.toByteArray same
  exact String.ofList_injective (String.toByteArray_inj.mp bytes)

theorem encode_inj {left right : Text} : encode left = encode right ↔ left = right :=
  ⟨encode_injective, fun same => same ▸ rfl⟩

theorem eq_of_mem_utf8EncodeChar {byte : UInt8} (ascii : byte.toNat < 128) {char : Char}
    (member : byte ∈ String.utf8EncodeChar char) : char.toNat = byte.toNat := by
  have high : ∀ value < 256, 128 ≤ value → byte ≠ UInt8.ofNat value := by
    rintro value bound large rfl
    rw [UInt8.toNat_ofNat'] at ascii
    omega
  simp only [String.utf8EncodeChar] at member
  split at member
  · rename_i single
    rw [List.mem_singleton.mp member, UInt8.toNat_ofNat', Nat.mod_eq_of_lt (by omega)]
    rfl
  · exfalso
    split at member
    · simp only [List.mem_cons, List.not_mem_nil, or_false] at member
      rcases member with same | same <;> exact high _ (by omega) (by omega) same
    · split at member
      · simp only [List.mem_cons, List.not_mem_nil, or_false] at member
        rcases member with same | same | same <;> exact high _ (by omega) (by omega) same
      · simp only [List.mem_cons, List.not_mem_nil, or_false] at member
        rcases member with same | same | same | same <;> exact high _ (by omega) (by omega) same

theorem exists_of_mem_encode {byte : UInt8} (ascii : byte.toNat < 128) {text : Text}
    (member : byte ∈ encode text) : ∃ char ∈ text, char.toNat = byte.toNat := by
  obtain ⟨char, inText, inChar⟩ := List.mem_flatMap.mp member
  exact ⟨char, inText, eq_of_mem_utf8EncodeChar ascii inChar⟩

theorem encode_append (left right : Text) :
    encode (left ++ right) = encode left ++ encode right := by
  simp [encode, List.flatMap_append]

/-- Text whose encoding ends in a byte below 128 ends in the character of that number. -/
theorem exists_of_getLast?_encode {byte : UInt8} (ascii : byte.toNat < 128) {text : Text}
    (last : (encode text).getLast? = some byte) :
    ∃ start char, text = start ++ [char] ∧ char.toNat = byte.toNat := by
  rcases List.eq_nil_or_concat text with empty | ⟨start, char, split⟩
  · simp [empty, encode] at last
  · rw [List.concat_eq_append] at split
    have single : encode [char] = String.utf8EncodeChar char := by simp [encode]
    rw [split, encode_append, single,
      List.getLast?_append_of_ne_nil _ String.utf8EncodeChar_ne_nil] at last
    exact ⟨start, char, split, eq_of_mem_utf8EncodeChar ascii (List.mem_of_getLast? last)⟩

end Utf8

namespace Decimal

theorem digits_injective {left right : Nat} (same : digits left = digits right) : left = right := by
  have values := congrArg (Nat.ofDigitChars 10 · 0) same
  simpa [digits] using values

theorem isDigit_of_mem_digits {char : Char} {value : Nat} (member : char ∈ digits value) :
    char.isDigit :=
  Nat.isDigit_of_mem_toDigits (by decide) (by decide) member

end Decimal

end Restripe

/-!
## Reading back numerals

The digits of a number read as that number, within any bound that admits it.  Conversely a numeral
that carries no sign and no leading zero is made of exactly the digits of its value, so it is
written again as it was read.
-/

namespace Restripe.Decimal

/-! ### Digits read -/

theorem digit?_of_isDigit {char : Char} (digit : char.isDigit) :
    digit? char = some (char.toNat - '0'.toNat) := by
  simp only [Char.isDigit, Bool.and_eq_true, decide_eq_true_eq] at digit
  exact if_pos digit

theorem extend?_eq_ofDigitChars {text : Text} (digits : ∀ char ∈ text, char.isDigit)
    (value : Nat) : extend? value text = some (Nat.ofDigitChars 10 text value) := by
  induction text generalizing value with
  | nil => rfl
  | cons char text ih =>
      have rest : ∀ char ∈ text, char.isDigit := fun other member =>
        digits other (List.mem_cons_of_mem char member)
      rw [extend?, digit?_of_isDigit (digits char List.mem_cons_self), Nat.ofDigitChars_cons]
      simp only
      rw [ih rest, Nat.mul_comm]

theorem not_mem_digits {char : Char} (noDigit : char.isDigit = false) (value : Nat) :
    char ∉ digits value := by
  intro member
  rw [isDigit_of_mem_digits member] at noDigit
  cases noDigit

theorem digits_ne_nil (value : Nat) : digits value ≠ [] :=
  Nat.toDigits_ne_nil

theorem read?_of_head {bound : Nat} {token : Text} (noSign : token.head? ≠ some '+') :
    read? bound token = (unsigned? token).filter (· < bound) := by
  unfold read?
  split
  · exact absurd rfl noSign
  · rfl

theorem lt_of_read? {bound value : Nat} {token : Text} (read : read? bound token = some value) :
    value < bound := by
  simp only [read?, Option.filter_eq_some_iff, decide_eq_true_eq] at read
  exact read.2

theorem isDigit_of_extend? {text : Text} {start value : Nat}
    (read : extend? start text = some value) : ∀ char ∈ text, char.isDigit := by
  induction text generalizing start with
  | nil => simp
  | cons char text ih =>
      rw [extend?] at read
      split at read
      · rename_i digit found
        refine List.forall_mem_cons.mpr ⟨?_, ih read⟩
        have within := (Option.ite_none_right_eq_some.mp found).1
        simp only [Char.isDigit, Bool.and_eq_true, decide_eq_true_eq]
        exact within
      · cases read

theorem unsigned?_digits (value : Nat) : unsigned? (digits value) = some value := by
  have whole : unsigned? (digits value) = extend? 0 (digits value) := by
    cases text : digits value with
    | nil => exact absurd text (digits_ne_nil value)
    | cons char rest => rfl
  rw [whole, extend?_eq_ofDigitChars (fun _ => isDigit_of_mem_digits), digits,
    Nat.ofDigitChars_toDigits (by decide) (by decide)]

theorem read?_digits {bound value : Nat} (within : value < bound) :
    read? bound (digits value) = some value := by
  have noSign : (digits value).head? ≠ some '+' := fun sign =>
    not_mem_digits rfl value (List.mem_of_head? sign)
  rw [read?_of_head noSign, unsigned?_digits]
  simpa using within

@[simp] theorem uint16?_digits (value : UInt16) : uint16? (digits value.toNat) = some value := by
  rw [uint16?, read?_digits value.toNat_lt_size]
  simp

@[simp] theorem uint32?_digits (value : UInt32) : uint32? (digits value.toNat) = some value := by
  rw [uint32?, read?_digits value.toNat_lt_size]
  simp

@[simp] theorem uint8?_digits (value : UInt8) : uint8? (digits value.toNat) = some value := by
  rw [uint8?, read?_digits value.toNat_lt_size]
  simp

/-! ### Numerals without sign and leading zeros -/

/-- A numeral is plain when it carries no sign and no leading zero. -/
structure Plain (token : Text) : Prop where
  noSign : token.head? ≠ some '+'
  noLeadingZero : token.head? = some '0' → token = ['0']

theorem digitChar_of_digit? {char : Char} {value : Nat} (read : digit? char = some value) :
    value < 10 ∧ Nat.digitChar value = char := by
  simp only [digit?, Option.ite_none_right_eq_some, Option.some.injEq] at read
  obtain ⟨⟨above, below⟩, same⟩ := read
  have lower : '0'.toNat ≤ char.toNat := above
  have upper : char.toNat ≤ '9'.toNat := below
  simp only [Char.reduceToNat] at lower upper same
  have small : value < 10 := by omega
  refine ⟨small, Char.toNat_inj.mp ?_⟩
  rw [Nat.toNat_digitChar_of_lt_ten small]
  omega

/-- Digits that are read on after a positive value are appended to its digits. -/
theorem digits_of_extend? {text : Text} {start value : Nat} (positive : 0 < start)
    (read : extend? start text = some value) : digits start ++ text = digits value := by
  induction text generalizing start with
  | nil =>
      simp only [extend?, Option.some.injEq] at read
      rw [read, List.append_nil]
  | cons char text ih =>
      simp only [extend?] at read
      split at read
      · rename_i digit digitRead
        obtain ⟨small, char_eq⟩ := digitChar_of_digit? digitRead
        have appended : digits start ++ [char] = digits (start * 10 + digit) := by
          have joined := Nat.toDigits_append_toDigits (b := 10) (by decide) positive small
          rwa [Nat.toDigits_of_lt_base small, char_eq, Nat.mul_comm] at joined
        calc digits start ++ char :: text
            = (digits start ++ [char]) ++ text := by simp
          _ = digits (start * 10 + digit) ++ text := by rw [appended]
          _ = digits value := ih (by omega) read
      · cases read

theorem head?_digits_ne_zero {value : Nat} (positive : 0 < value) :
    (digits value).head? ≠ some '0' := by
  induction value using Nat.strongRecOn with
  | ind value ih =>
      rcases Nat.lt_or_ge value 10 with small | large
      · rw [digits, Nat.toDigits_of_lt_base small, List.head?_cons, ne_eq, Option.some.injEq]
        intro zero
        have code := congrArg Char.toNat zero
        rw [Nat.toNat_digitChar_of_lt_ten small] at code
        simp only [Char.reduceToNat] at code
        omega
      · have split := Nat.toDigits_append_toDigits (b := 10) (n := value / 10) (d := value % 10)
          (by decide) (by omega) (by omega)
        rw [Nat.div_add_mod] at split
        rw [digits, ← split, List.head?_append_of_ne_nil _ Nat.toDigits_ne_nil]
        exact ih (value / 10) (by omega) (by omega)

theorem plain_digits (value : Nat) : Plain (digits value) where
  noSign sign := not_mem_digits rfl value (List.mem_of_head? sign)
  noLeadingZero zero := by
    rcases Nat.eq_zero_or_pos value with isZero | positive
    · rw [isZero]
      rfl
    · exact absurd zero (head?_digits_ne_zero positive)

theorem Plain.eq_digits {bound value : Nat} {token : Text} (plain : Plain token)
    (read : read? bound token = some value) : token = digits value := by
  rw [read?_of_head plain.noSign] at read
  have unsigned := (Option.filter_eq_some_iff.mp read).1
  cases token with
  | nil => cases unsigned
  | cons char rest =>
      simp only [unsigned?, extend?, Nat.zero_mul, Nat.zero_add] at unsigned
      split at unsigned
      · rename_i digit digitRead
        obtain ⟨small, char_eq⟩ := digitChar_of_digit? digitRead
        have single : digits digit = [char] := by
          rw [digits, Nat.toDigits_of_lt_base small, char_eq]
        rcases Nat.eq_zero_or_pos digit with zero | positive
        · subst zero
          have isZero : char = '0' := char_eq.symm
          subst isZero
          have alone : rest = [] := by simpa using plain.noLeadingZero rfl
          subst alone
          simp only [extend?, Option.some.injEq] at unsigned
          rw [← unsigned]
          exact single.symm
        · rw [← digits_of_extend? positive unsigned, single]
          rfl
      · cases unsigned

theorem Plain.eq_digits_of_uint8? {token : Text} {value : UInt8} (plain : Plain token)
    (read : uint8? token = some value) : token = digits value.toNat := by
  obtain ⟨number, numberRead, same⟩ := Option.map_eq_some_iff.mp read
  rw [plain.eq_digits numberRead, ← same, UInt8.toNat_ofNat_of_lt' (lt_of_read? numberRead)]

theorem Plain.eq_digits_of_uint16? {token : Text} {value : UInt16} (plain : Plain token)
    (read : uint16? token = some value) : token = digits value.toNat := by
  obtain ⟨number, numberRead, same⟩ := Option.map_eq_some_iff.mp read
  rw [plain.eq_digits numberRead, ← same, UInt16.toNat_ofNat_of_lt' (lt_of_read? numberRead)]

theorem Plain.eq_digits_of_uint32? {token : Text} {value : UInt32} (plain : Plain token)
    (read : uint32? token = some value) : token = digits value.toNat := by
  obtain ⟨number, numberRead, same⟩ := Option.map_eq_some_iff.mp read
  rw [plain.eq_digits numberRead, ← same, UInt32.toNat_ofNat_of_lt' (lt_of_read? numberRead)]

/-! ### What numerals denote -/

/-- A numeral denotes the value of its digits, with a plus sign before them or without. -/
inductive Denotes : Text → Nat → Prop where
  | plain {digits : Text} (notEmpty : digits ≠ []) (areDigits : ∀ char ∈ digits, char.isDigit) :
      Denotes digits (Nat.ofDigitChars 10 digits 0)
  | signed {digits : Text} (notEmpty : digits ≠ []) (areDigits : ∀ char ∈ digits, char.isDigit) :
      Denotes ('+' :: digits) (Nat.ofDigitChars 10 digits 0)

/-- A numeral consists of digits and a plus sign. -/
theorem Denotes.notMem {token : Text} {value : Nat} (denotes : Denotes token value) {char : Char}
    (notPlus : char ≠ '+') (notDigit : ¬char.isDigit) : char ∉ token := by
  intro member
  cases denotes with
  | plain _ areDigits => exact notDigit (areDigits char member)
  | signed _ areDigits =>
      rcases List.mem_cons.mp member with isPlus | inDigits
      · exact notPlus isPlus
      · exact notDigit (areDigits char inDigits)

theorem denotes_digits {digits : Text} {value : Nat} (notEmpty : digits ≠ [])
    (areDigits : ∀ char ∈ digits, char.isDigit) :
    Denotes digits value ↔ Nat.ofDigitChars 10 digits 0 = value := by
  constructor
  · intro denotes
    cases denotes with
    | plain _ _ => rfl
    | signed _ _ => exact absurd (areDigits '+' List.mem_cons_self) (by decide)
  · rintro rfl
    exact .plain notEmpty areDigits

theorem denotes_plus {digits : Text} {value : Nat} (notEmpty : digits ≠ [])
    (areDigits : ∀ char ∈ digits, char.isDigit) :
    Denotes ('+' :: digits) value ↔ Nat.ofDigitChars 10 digits 0 = value := by
  constructor
  · intro denotes
    cases denotes with
    | plain _ allDigits => exact absurd (allDigits '+' List.mem_cons_self) (by decide)
    | signed _ _ => rfl
  · rintro rfl
    exact .signed notEmpty areDigits

theorem unsigned?_eq_some {text : Text} {value : Nat} : unsigned? text = some value ↔
    text ≠ [] ∧ (∀ char ∈ text, char.isDigit) ∧ Nat.ofDigitChars 10 text 0 = value := by
  cases text with
  | nil => simp [unsigned?]
  | cons char rest =>
      have whole : unsigned? (char :: rest) = extend? 0 (char :: rest) := rfl
      rw [whole]
      constructor
      · intro read
        have areDigits := isDigit_of_extend? read
        rw [extend?_eq_ofDigitChars areDigits] at read
        exact ⟨List.cons_ne_nil char rest, areDigits, Option.some.inj read⟩
      · intro digits
        rw [extend?_eq_ofDigitChars digits.2.1, digits.2.2]

/-- A numeral is read where the value that it denotes is below the bound. -/
theorem read?_eq_some {bound value : Nat} {token : Text} :
    read? bound token = some value ↔ Denotes token value ∧ value < bound := by
  constructor
  · intro read
    refine ⟨?_, lt_of_read? read⟩
    unfold read? at read
    split at read
    · obtain ⟨notEmpty, areDigits, same⟩ :=
        unsigned?_eq_some.mp (Option.filter_eq_some_iff.mp read).1
      exact same ▸ .signed notEmpty areDigits
    · obtain ⟨notEmpty, areDigits, same⟩ :=
        unsigned?_eq_some.mp (Option.filter_eq_some_iff.mp read).1
      exact same ▸ .plain notEmpty areDigits
  · intro denotes
    obtain ⟨denoted, below⟩ := denotes
    cases denoted with
    | plain notEmpty areDigits =>
        have noSign : token.head? ≠ some '+' := by
          intro sign
          exact absurd (areDigits _ (List.mem_of_head? sign)) (by decide)
        rw [read?_of_head noSign, unsigned?_eq_some.mpr ⟨notEmpty, areDigits, rfl⟩]
        simpa using below
    | signed notEmpty areDigits =>
        simp only [read?, unsigned?_eq_some.mpr ⟨notEmpty, areDigits, rfl⟩]
        simpa using below

theorem uint8?_eq_some {token : Text} {value : UInt8} :
    uint8? token = some value ↔ Denotes token value.toNat := by
  rw [uint8?, Option.map_eq_some_iff]
  constructor
  · rintro ⟨number, read, rfl⟩
    rw [UInt8.toNat_ofNat_of_lt' (lt_of_read? read)]
    exact (read?_eq_some.mp read).1
  · intro denotes
    exact ⟨_, read?_eq_some.mpr ⟨denotes, value.toNat_lt_size⟩, UInt8.ofNat_toNat⟩

theorem uint16?_eq_some {token : Text} {value : UInt16} :
    uint16? token = some value ↔ Denotes token value.toNat := by
  rw [uint16?, Option.map_eq_some_iff]
  constructor
  · rintro ⟨number, read, rfl⟩
    rw [UInt16.toNat_ofNat_of_lt' (lt_of_read? read)]
    exact (read?_eq_some.mp read).1
  · intro denotes
    exact ⟨_, read?_eq_some.mpr ⟨denotes, value.toNat_lt_size⟩, UInt16.ofNat_toNat⟩

theorem uint32?_eq_some {token : Text} {value : UInt32} :
    uint32? token = some value ↔ Denotes token value.toNat := by
  rw [uint32?, Option.map_eq_some_iff]
  constructor
  · rintro ⟨number, read, rfl⟩
    rw [UInt32.toNat_ofNat_of_lt' (lt_of_read? read)]
    exact (read?_eq_some.mp read).1
  · intro denotes
    exact ⟨_, read?_eq_some.mpr ⟨denotes, value.toNat_lt_size⟩, UInt32.ofNat_toNat⟩

theorem uint64?_eq_some {token : Text} {value : UInt64} :
    uint64? token = some value ↔ Denotes token value.toNat := by
  rw [uint64?, Option.map_eq_some_iff]
  constructor
  · rintro ⟨number, read, rfl⟩
    rw [UInt64.toNat_ofNat_of_lt' (lt_of_read? read)]
    exact (read?_eq_some.mp read).1
  · intro denotes
    exact ⟨_, read?_eq_some.mpr ⟨denotes, value.toNat_lt_size⟩, UInt64.ofNat_toNat⟩

end Restripe.Decimal
