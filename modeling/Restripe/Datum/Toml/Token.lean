import Restripe.Datum
import Restripe.Text.Numeral
import Restripe.Text.Scanner

/-!
# Tokens of TOML

A text is cut into tokens by a machine that reads one character at a time.  Whether a word is part
of a key or a value is not decided here; blanks are tokens, because a few places allow none.  A
comment leaves no token but the end of its line.
-/

namespace Restripe.Toml

inductive Token where
  | openList
  | closeList
  | openRecord
  | closeRecord
  | equals
  | comma
  | lineEnd
  | blank (char : Char)
  | word (letters : Text)
  /-- A string; only one that cannot span lines may stand in a key. -/
  | text (isBlock : Bool) (value : Text)
  deriving DecidableEq

/-- What the token machine is inside of, with what it has read of that, last first.  A string is
known by its quotation mark, and whether a block has just begun matters for a line end there. -/
inductive Mode where
  | between
  | word (letters : Text)
  | comment
  | carriageReturn
  | opening (mark : Char) (isSecond : Bool)
  | line (mark : Char) (read : Text)
  | block (mark : Char) (isFresh : Bool) (marks : Nat) (read : Text)
  | blockReturn (mark : Char) (isFresh : Bool) (read : Text)
  | escape (isBlock : Bool) (read : Text)
  | code (isBlock : Bool) (owed value : Nat) (read : Text)
  | trim (atLine : Bool) (read : Text)
  | trimReturn (read : Text)

/-- The mark of a string with escapes; the other mark starts a string without. -/
def escapingMark : Char := '"'

/-- The mark of a string without escapes. -/
def literalMark : Char := '\''

def isMark (char : Char) : Bool :=
  char == escapingMark || char == literalMark

/-- Whether a character is a blank within a line. -/
def isLineBlank (char : Char) : Bool :=
  char == ' ' || char == '\t'

/-- Whether a character may stand for itself: it is no control character other than a tab. -/
def isPlain (char : Char) : Bool :=
  char == '\t' || (0x20 ≤ char.toNat && char.toNat != 0x7F)

/-- The token of a character that is one by itself. -/
def punctuation? : Char → Option Token
  | '[' => some .openList
  | ']' => some .closeList
  | '\x7b' => some .openRecord
  | '\x7d' => some .closeRecord
  | '=' => some .equals
  | ',' => some .comma
  | '\n' => some .lineEnd
  | ' ' => some (.blank ' ')
  | '\t' => some (.blank '\t')
  | _ => none

def endsWord (char : Char) : Bool :=
  (punctuation? char).isSome || char == '\r' || char == '#' || isMark char

/-- The character that a one-letter escape stands for. -/
def escape? : Char → Option Char
  | '"' => some '"'
  | '\\' => some '\\'
  | 'b' => some '\x08'
  | 'f' => some '\x0c'
  | 'n' => some '\n'
  | 'r' => some '\r'
  | 't' => some '\t'
  | _ => none

def character? (code : Nat) : Option Char :=
  if code < 0xD800 ∨ (0xE000 ≤ code ∧ code < 0x110000) then some (Char.ofNat code) else none

/-- Go on reading a string with escapes. -/
def resume (isBlock : Bool) (read : Text) : Mode :=
  if isBlock then .block escapingMark false 0 read else .line escapingMark read

/-- Read a character between tokens. -/
def start (char : Char) : List Token × Mode :=
  match punctuation? char with
  | some token => ([token], .between)
  | none =>
      if char = '\r' then ([], .carriageReturn)
      else if char = '#' then ([], .comment)
      else if isMark char then ([], .opening char false)
      else ([], .word [char])

/-- End a token before the character that follows it. -/
def startAfter (token : Token) (char : Char) : List Token × Mode :=
  let (tokens, mode) := start char
  (token :: tokens, mode)

def stepLine (mark : Char) (read : Text) (char : Char) : Option (List Token × Mode) :=
  if char = mark then some ([.text false read.reverse], .between)
  else if char = '\\' ∧ mark = escapingMark then some ([], .escape false read)
  else if isPlain char then some ([], .line mark (char :: read))
  else none

/-- Read a character of a block that is neither a mark nor after one. -/
def stepContent (mark : Char) (isFresh : Bool) (read : Text) (char : Char) :
    Option (List Token × Mode) :=
  if char = '\n' then some ([], .block mark false 0 (if isFresh then read else '\n' :: read))
  else if char = '\r' then some ([], .blockReturn mark isFresh read)
  else if char = '\\' ∧ mark = escapingMark then some ([], .escape true read)
  else if isPlain char then some ([], .block mark false 0 (char :: read))
  else none

/-- Read a character of a block after some marks in a row.  The last three of three to five marks
end the block, and one or two stand for themselves. -/
def stepBlock (mark : Char) (isFresh : Bool) (marks : Nat) (read : Text) (char : Char) :
    Option (List Token × Mode) :=
  if char = mark then
    if marks < 5 then some ([], .block mark false (marks + 1) read) else none
  else if 3 ≤ marks then
    some (startAfter (.text true (List.replicate (marks - 3) mark ++ read).reverse) char)
  else
    stepContent mark isFresh (List.replicate marks mark ++ read) char

def stepEscape (isBlock : Bool) (read : Text) (char : Char) : Option (List Token × Mode) :=
  if char = 'u' then some ([], .code isBlock 4 0 read)
  else if char = 'U' then some ([], .code isBlock 8 0 read)
  else if isBlock ∧ isLineBlank char then some ([], .trim false read)
  else if isBlock ∧ char = '\n' then some ([], .trim true read)
  else if isBlock ∧ char = '\r' then some ([], .trimReturn read)
  else (escape? char).map fun char => ([], resume isBlock (char :: read))

def stepCode (isBlock : Bool) (owed value : Nat) (read : Text) (char : Char) :
    Option (List Token × Mode) := do
  let value := value * 16 + (← Hexadecimal.digit? char)
  if owed ≤ 1 then
    return ([], resume isBlock ((← character? value) :: read))
  else
    return ([], .code isBlock (owed - 1) value read)

/-- Read one character: the tokens that it completes, and where it leaves the machine. -/
def step : Mode → Char → Option (List Token × Mode)
  | .between, char => some (start char)
  | .word letters, char =>
      if endsWord char then some (startAfter (.word letters.reverse) char)
      else some ([], .word (char :: letters))
  | .comment, char =>
      if char = '\n' ∨ char = '\r' then some (start char)
      else if isPlain char then some ([], .comment)
      else none
  | .carriageReturn, char => if char = '\n' then some (start char) else none
  | .opening mark false, char =>
      if char = mark then some ([], .opening mark true) else stepLine mark [] char
  | .opening mark true, char =>
      if char = mark then some ([], .block mark true 0 [])
      else some (startAfter (.text false []) char)
  | .line mark read, char => stepLine mark read char
  | .block mark isFresh marks read, char => stepBlock mark isFresh marks read char
  | .blockReturn mark isFresh read, char =>
      if char = '\n' then stepContent mark isFresh read char else none
  | .escape isBlock read, char => stepEscape isBlock read char
  | .code isBlock owed value read, char => stepCode isBlock owed value read char
  | .trim atLine read, char =>
      if isLineBlank char then some ([], .trim atLine read)
      else if char = '\n' then some ([], .trim true read)
      else if char = '\r' then some ([], .trimReturn read)
      else if atLine then stepBlock escapingMark false 0 read char
      else none
  | .trimReturn read, char => if char = '\n' then some ([], .trim true read) else none

/-- End the text: the token that was being read, if it is complete. -/
def finish : Mode → Option (List Token)
  | .between | .comment => some []
  | .word letters => some [.word letters.reverse]
  | .opening _ true => some [.text false []]
  | .block mark _ marks read =>
      if 3 ≤ marks then some [.text true (List.replicate (marks - 3) mark ++ read).reverse]
      else none
  | _ => none

def scanner : Scanner Mode Token := ⟨step, finish⟩

/-- The tokens of a text; a byte order mark before it is ignored. -/
def scan (text : Text) : Option (List Token) :=
  scanner.scanFrom .between (match text with
    | '\uFEFF' :: rest => rest
    | _ => text)

/-!
## Bare values of TOML

A bare value is a truth value, an integer, a fraction or a point in time.  Only natural numbers and
truth values are kept as what they are; the others need only be told from words that mean nothing.
-/

/-- Integers are below this in size. -/
def integerBound : Nat := 0x8000000000000000

def digitIn? (base : Nat) (char : Char) : Option Nat :=
  (Hexadecimal.digit? char).filter (· < base)

/-- The digits of a numeral, which single underscores may part. -/
def digits? (base : Nat) : Text → Option (List Nat)
  | [] => none
  | [char] => (digitIn? base char).map ([·])
  | char :: '_' :: rest => do return (← digitIn? base char) :: (← digits? base rest)
  | char :: rest => do return (← digitIn? base char) :: (← digits? base rest)

def ofDigits (base : Nat) (digits : List Nat) : Nat :=
  digits.foldl (fun value digit => value * base + digit) 0

/-- A sign and what follows it; without a sign a number is positive. -/
def cutSign : Text → Bool × Text
  | '+' :: rest => (false, rest)
  | '-' :: rest => (true, rest)
  | text => (false, text)

/-- The digits of a whole number: without a leading zero, unless it is zero. -/
def wholeDigits? (text : Text) : Option (List Nat) := do
  let digits ← digits? 10 text
  if digits.head? = some 0 ∧ text.length ≠ 1 then none else some digits

/-! ### Integers -/

/-- An integer of a sign and a size. -/
def signed? (negative : Bool) (size : Nat) : Option Datum :=
  if negative ∧ size ≠ 0 then
    if size ≤ integerBound then some .other else none
  else if size < integerBound then some (.natural size)
  else none

/-- An integer in one of four bases. -/
def integer? : Text → Option Datum
  | '0' :: 'x' :: rest => do signed? false (ofDigits 16 (← digits? 16 rest))
  | '0' :: 'o' :: rest => do signed? false (ofDigits 8 (← digits? 8 rest))
  | '0' :: 'b' :: rest => do signed? false (ofDigits 2 (← digits? 2 rest))
  | text => do
      let (negative, rest) := cutSign text
      signed? negative (ofDigits 10 (← wholeDigits? rest))

/-! ### Fractions -/

/-- The least number that no binary fraction of 64 bits is near to. -/
def fractionBound : Nat := (1 <<< 1024) - (1 <<< 970)

/-- Whether `mantissa * 10 ^ exponent` is too large for a fraction.  Exponents beyond all sizes are
told by the number of digits alone. -/
def isTooLarge (mantissa : Nat) (exponent : Int) : Bool :=
  let size := exponent + (Nat.toDigits 10 mantissa).length
  if mantissa = 0 ∨ size < 300 then false
  else if 320 < size then true
  else if 0 ≤ exponent then fractionBound ≤ mantissa * Nat.pow 10 exponent.toNat
  else fractionBound * Nat.pow 10 (-exponent).toNat ≤ mantissa

/-- The exponent that follows a numeral, if one does. -/
def exponent? : Text → Option Int
  | [] => some 0
  | mark :: rest =>
      if mark = 'e' ∨ mark = 'E' then do
        let (negative, rest) := cutSign rest
        let size := ofDigits 10 (← digits? 10 rest)
        return if negative then -Int.ofNat size else Int.ofNat size
      else none

def isExponentMark (char : Char) : Bool :=
  char == 'e' || char == 'E'

/-- The digits after the point of a numeral, and the rest. -/
def places? (text : Text) : Option (List Nat × Text) :=
  match text with
  | '.' :: rest => do
      return (← digits? 10 (rest.takeWhile (!isExponentMark ·)), rest.dropWhile (!isExponentMark ·))
  | _ => some ([], text)

/-- A number with a fraction or an exponent, or one of the words for no number. -/
def fraction? (text : Text) : Option Datum := do
  let (negative, rest) := cutSign text
  if rest = ['i', 'n', 'f'] ∨ rest = ['n', 'a', 'n'] then
    return .other
  let isWhole (char : Char) : Bool := !isExponentMark char && char != '.'
  let tail := rest.dropWhile isWhole
  if tail = [] then
    none
  else
    let whole ← wholeDigits? (rest.takeWhile isWhole)
    let (places, tail) ← places? tail
    let exponent ← exponent? tail
    if !negative && isTooLarge (ofDigits 10 (whole ++ places)) (exponent - places.length) then none
    else some .other

/-! ### Points in time -/

/-- The number that exactly `count` digits at the front of a text spell, and the rest. -/
def fixed? (count : Nat) (text : Text) : Option (Nat × Text) := do
  let digits ← (text.take count).mapM (digitIn? 10)
  if digits.length = count then some (ofDigits 10 digits, text.drop count) else none

def expect? (char : Char) : Text → Option Text
  | head :: rest => if head = char then some rest else none
  | [] => none

def daysIn (year month : Nat) : Nat :=
  if month = 2 then
    if year % 4 = 0 ∧ (year % 100 ≠ 0 ∨ year % 400 = 0) then 29 else 28
  else if month = 4 ∨ month = 6 ∨ month = 9 ∨ month = 11 then 30
  else 31

def takeDate? (text : Text) : Option Text := do
  let (year, rest) ← fixed? 4 text
  let (month, rest) ← fixed? 2 (← expect? '-' rest)
  let (day, rest) ← fixed? 2 (← expect? '-' rest)
  if 1 ≤ month ∧ month ≤ 12 ∧ 1 ≤ day ∧ day ≤ daysIn year month then some rest else none

def takeMinutes? (text : Text) : Option Text := do
  let (hour, rest) ← fixed? 2 text
  let (minute, rest) ← fixed? 2 (← expect? ':' rest)
  if hour < 24 ∧ minute < 60 then some rest else none

/-- Take a fraction of a second off the front of a text, if there is one. -/
def takeSubseconds? : Text → Option Text
  | '.' :: rest =>
      if (rest.takeWhile Char.isDigit).isEmpty then none else some (rest.dropWhile Char.isDigit)
  | text => some text

/-- Take a time of day off the front of a text; a minute may have a leap second. -/
def takeTime? (text : Text) : Option Text := do
  let (second, rest) ← fixed? 2 (← expect? ':' (← takeMinutes? text))
  if 60 < second then none else takeSubseconds? rest

/-- Whether a text is an offset from universal time, or nothing. -/
def isOffset (text : Text) : Bool :=
  match text with
  | [] | ['Z'] | ['z'] => true
  | sign :: rest => (sign == '+' || sign == '-') && takeMinutes? rest == some []

/-- Whether a text is a date, a time of day, or both. -/
def isTime (text : Text) : Bool :=
  match takeDate? text with
  | some [] => true
  | some (mark :: rest) =>
      (mark == 'T' || mark == 't' || mark == ' ') && (takeTime? rest).any isOffset
  | none => takeTime? text == some []

/-- A point in time as data: a record whose one member no field goes by. -/
def time : Datum := .record [("$time", .other)]

/-! ### All bare values -/

/-- The value of a word. -/
def scalar? (word : Text) : Option Datum :=
  if word = ['t', 'r', 'u', 'e'] then some (.bool true)
  else if word = ['f', 'a', 'l', 's', 'e'] then some (.bool false)
  else if isTime word then some time
  else (fraction? word).or (integer? word)

end Restripe.Toml
