import Mathlib.Data.List.TakeWhile
import Restripe.Datum.Toml.Reader
import Restripe.Proofs.Datum.Toml.Quote
import Restripe.Proofs.Text.Numeral

/-!
# Values of written TOML

A number has a written form just if it is below the bound of integers, and the digits of such a
number are a number to the reader as well: a point in time has a dash or a colon, a fraction has a
point or an exponent.  So every value that has a written form is read back as one token with that
value.
-/

namespace Restripe.Toml

/-! ## Words of digits -/

theorem expect?_of_not_mem {char : Char} {text : Text} (absent : char ∉ text) :
    expect? char text = none := by
  cases text with
  | nil => rfl
  | cons head text =>
      have differs : head ≠ char := by
        rintro rfl
        exact absent List.mem_cons_self
      rw [expect?, if_neg differs]

theorem rest_of_fixed? {count value : Nat} {text rest : Text}
    (taken : fixed? count text = some (value, rest)) : rest = text.drop count := by
  simp only [fixed?, Option.bind_eq_bind, Option.bind_eq_some_iff, Option.ite_none_right_eq_some,
    Option.some.injEq, Prod.mk.injEq] at taken
  obtain ⟨digits, -, -, -, same⟩ := taken
  exact same.symm

/-- After digits, only a text that has a certain character can go on with it. -/
theorem expect?_of_fixed? {count value : Nat} {char : Char} {text rest : Text}
    (absent : char ∉ text) (taken : fixed? count text = some (value, rest)) :
    expect? char rest = none :=
  expect?_of_not_mem fun member => absent (List.mem_of_mem_drop (rest_of_fixed? taken ▸ member))

/-- There is no point in time without a dash or a colon. -/
theorem isTime_of_not_mem {text : Text} (noDash : '-' ∉ text) (noColon : ':' ∉ text) :
    isTime text = false := by
  have noDate : takeDate? text = none := by
    cases taken : fixed? 4 text with
    | none => simp [takeDate?, taken]
    | some year => simp [takeDate?, taken, expect?_of_fixed? noDash taken]
  have noTime : takeTime? text = none := by
    cases taken : fixed? 2 text with
    | none => simp [takeTime?, takeMinutes?, taken]
    | some hour => simp [takeTime?, takeMinutes?, taken, expect?_of_fixed? noColon taken]
  rw [isTime, noDate, noTime]
  rfl

theorem ne_of_isDigit {char other : Char} (digit : char.isDigit = true)
    (noDigit : other.isDigit = false) : char ≠ other := by
  rintro rfl
  rw [digit] at noDigit
  cases noDigit

theorem cutSign_of_isDigit {text : Text} (digits : ∀ char ∈ text, char.isDigit = true) :
    cutSign text = (false, text) := by
  unfold cutSign
  split
  · cases digits '+' List.mem_cons_self
  · cases digits '-' List.mem_cons_self
  · rfl

/-- Digits have no fraction and no exponent. -/
theorem fraction?_of_isDigit {text : Text} (digits : ∀ char ∈ text, char.isDigit = true) :
    fraction? text = none := by
  have noWord {char : Char} {rest : Text} (letter : char.isDigit = false) :
      text ≠ char :: rest := by
    rintro rfl
    exact ne_of_isDigit (digits char List.mem_cons_self) letter rfl
  have whole : text.dropWhile (fun char => !isExponentMark char && char != '.') = [] := by
    rw [List.dropWhile_eq_nil_iff]
    intro char member
    have digit := digits char member
    have noMark : isExponentMark char = false := by
      rw [isExponentMark, Bool.or_eq_false_iff, beq_eq_false_iff_ne, beq_eq_false_iff_ne]
      exact ⟨ne_of_isDigit digit rfl, ne_of_isDigit digit rfl⟩
    have noPoint : char ≠ '.' := ne_of_isDigit digit rfl
    simp [noMark, noPoint]
  simp [fraction?, cutSign_of_isDigit digits, noWord, whole]

theorem digits?_of_isDigit {text : Text} (filled : text ≠ [])
    (digits : ∀ char ∈ text, char.isDigit = true) :
    digits? 10 text = some (text.map fun char => char.toNat - '0'.toNat) := by
  have each {char : Char} (digit : char.isDigit = true) :
      digitIn? 10 char = some (char.toNat - '0'.toNat) := by
    simp only [Char.isDigit, Bool.and_eq_true, decide_eq_true_eq] at digit
    have within : '0' ≤ char ∧ char ≤ '9' := digit
    have upper : char.toNat ≤ '9'.toNat := digit.2
    simp only [Char.reduceToNat] at upper
    rw [digitIn?, Hexadecimal.digit?, if_pos within, Option.filter_some, if_pos]
    simp only [Char.reduceToNat, decide_eq_true_eq]
    omega
  induction text with
  | nil => exact absurd rfl filled
  | cons char rest ih =>
      obtain ⟨first, others⟩ := List.forall_mem_cons.mp digits
      cases rest with
      | nil => rw [digits?, each first]; rfl
      | cons next rest =>
          have noScore : next ≠ '_' := ne_of_isDigit (others next List.mem_cons_self) rfl
          rw [digits?, each first, ih (List.cons_ne_nil _ _) others]
          · rfl
          · exact nofun
          · rintro _ same
            exact noScore (List.cons.inj same).1

/-- The digits of a number have no leading zero and spell the number. -/
theorem wholeDigits?_digits (value : Nat) : ∃ places,
    wholeDigits? (Decimal.digits value) = some places ∧ ofDigits 10 places = value := by
  have digits : ∀ char ∈ Decimal.digits value, char.isDigit = true :=
    fun _ => Decimal.isDigit_of_mem_digits
  refine ⟨(Decimal.digits value).map fun char => char.toNat - '0'.toNat, ?_, ?_⟩
  · have noZero : ¬(((Decimal.digits value).map fun char => char.toNat - '0'.toNat).head? = some 0 ∧
        (Decimal.digits value).length ≠ 1) := by
      rintro ⟨zero, long⟩
      rw [List.head?_map, Option.map_eq_some_iff] at zero
      obtain ⟨char, first, isZero⟩ := zero
      have digit := digits char (List.mem_of_head? first)
      simp only [Char.isDigit, Bool.and_eq_true, decide_eq_true_eq] at digit
      have lower : '0'.toNat ≤ char.toNat := digit.1
      have same : char = '0' := Char.toNat_inj.mp (by omega)
      exact long (by rw [(Decimal.plain_digits value).noLeadingZero (same ▸ first)]; rfl)
    rw [wholeDigits?, digits?_of_isDigit (Decimal.digits_ne_nil value) digits, Option.bind_eq_bind,
      Option.bind_some, if_neg noZero]
  · rw [ofDigits, List.foldl_map]
    simp only [Nat.mul_comm _ 10]
    exact Nat.ofDigitChars_toDigits (by decide) (by decide)

/-- The digits of a number are read as the number, if it is below the bound. -/
theorem scalar?_digits {value : Nat} (small : value < integerBound) :
    scalar? (Decimal.digits value) = some (.natural value) := by
  have digits : ∀ char ∈ Decimal.digits value, char.isDigit = true :=
    fun _ => Decimal.isDigit_of_mem_digits
  have absent {char : Char} (noDigit : char.isDigit = false) : char ∉ Decimal.digits value :=
    Decimal.not_mem_digits noDigit value
  have noWord {char : Char} {rest : Text} (noDigit : char.isDigit = false) :
      Decimal.digits value ≠ char :: rest := fun same =>
    absent noDigit (same ▸ List.mem_cons_self)
  have noBase {base : Char} {rest : Text} (noDigit : base.isDigit = false) :
      Decimal.digits value ≠ '0' :: base :: rest := fun same =>
    absent noDigit (same ▸ List.mem_cons_of_mem _ List.mem_cons_self)
  have integer : integer? (Decimal.digits value) = some (.natural value) := by
    obtain ⟨places, whole, sum⟩ := wholeDigits?_digits value
    unfold integer?
    -- one case for each of the other bases
    split
    case h_4 => simp [cutSign_of_isDigit digits, whole, sum, signed?, small]
    all_goals
      rename_i same
      exact absurd same (noBase rfl)
  have noTime := isTime_of_not_mem (absent rfl) (absent rfl)
  rw [scalar?, if_neg (noWord rfl), if_neg (noWord rfl), noTime, fraction?_of_isDigit digits,
    integer]
  rfl

/-! ## Written values -/

/-- Characters of bare names and of digits do not end a word. -/
theorem endsWord_of_isBare {char : Char} (bare : isBare char = true) : endsWord char = false := by
  have differs {other : Char} (noBare : isBare other = false) : char ≠ other := by
    rintro rfl
    rw [bare] at noBare
    cases noBare
  have noToken : punctuation? char = none := by
    unfold punctuation?
    split
    case h_10 => rfl
    all_goals cases bare
  have noReturn : char ≠ '\r' := differs rfl
  have noComment : char ≠ '#' := differs rfl
  have noMark : isMark char = false := by
    rw [isMark, Bool.or_eq_false_iff, beq_eq_false_iff_ne, beq_eq_false_iff_ne]
    exact ⟨differs rfl, differs rfl⟩
  simp [endsWord, noToken, noReturn, noComment, noMark]

theorem reads_bare {word : Text} (filled : word ≠ []) (bare : word.all isBare = true) :
    Reads word (.word word) :=
  reads_word filled fun char member => endsWord_of_isBare (List.all_eq_true.mp bare char member)

theorem isBare_of_isDigit {char : Char} (digit : char.isDigit = true) : isBare char = true := by
  simp [isBare, Char.isAlphanum, digit]

/-- Whether a value has a written form. -/
def IsWritable (datum : Datum) : Prop :=
  ∃ text, writeScalar? datum = some text

@[simp] theorem isWritable_natural {value : Nat} :
    IsWritable (.natural value) ↔ value < integerBound := by
  simp [IsWritable, writeScalar?]

@[simp] theorem isWritable_bool (value : Bool) : IsWritable (.bool value) := by
  cases value <;> exact ⟨_, rfl⟩

@[simp] theorem isWritable_text (value : String) : IsWritable (.text value) :=
  ⟨_, rfl⟩

/-- The value of a token that is a value by itself. -/
def Token.datum? : Token → Option Datum
  | .text _ value => some (.text (String.ofList value))
  | .word letters => scalar? letters
  | _ => none

/-- Where a value is expected, a token that is one is delivered. -/
theorem State.advanceValue_of_datum? {token : Token} {datum : Datum}
    (known : token.datum? = some datum) (state : State) :
    state.advanceValue token = state.deliver datum := by
  cases token with
  | text isBlock value => cases known; rfl
  | word letters => exact congrArg (· >>= state.deliver) known
  | _ => cases known

/-- A value with a written form is read as one token with that value. -/
theorem reads_of_writeScalar? {datum : Datum} {text : Text}
    (written : writeScalar? datum = some text) :
    ∃ token : Token, Reads text token ∧ token.datum? = some datum := by
  cases datum with
  | natural value =>
      obtain ⟨small, digits⟩ := Option.ite_none_right_eq_some.mp written
      obtain rfl := Option.some.inj digits
      have bare : (Decimal.digits value).all isBare = true := List.all_eq_true.mpr
        fun _ member => isBare_of_isDigit (Decimal.isDigit_of_mem_digits member)
      exact ⟨_, reads_bare (Decimal.digits_ne_nil value) bare, scalar?_digits small⟩
  | bool value =>
      cases value with
      | true =>
          obtain rfl := Option.some.inj written
          exact ⟨_, reads_bare (List.cons_ne_nil _ _) rfl, rfl⟩
      | false =>
          obtain rfl := Option.some.inj written
          exact ⟨_, reads_bare (List.cons_ne_nil _ _) rfl, rfl⟩
  | text value =>
      obtain rfl := Option.some.inj written
      obtain ⟨isBlock, reads⟩ := reads_quote value.toList
      exact ⟨_, reads, by rw [Token.datum?, String.ofList_toList]⟩
  | _ => cases written

end Restripe.Toml
