import Restripe.Datum
import Restripe.Text.Numeral
import Restripe.Text.Scanner

/-!
# Reading JSON

A text is cut into tokens, and the tokens are put together to a value.
-/

/-!
## Tokens

A text is cut into tokens by a machine that reads one character at a time.  A numeral or a word ends
at the first character that cannot belong to it, and only then is it judged.  Half a surrogate pair
may be escaped in a string; such a string is a token that has no text.
-/

namespace Restripe.Json

/-- A token.  A string that escapes half of a surrogate pair is a token without text. -/
inductive Token where
  | openRecord
  | closeRecord
  | openList
  | closeList
  | colon
  | comma
  | text (value : Option String)
  | value (value : Datum)

/-- What the token machine is inside of, with what it has read of that, last first. -/
inductive Mode where
  | between
  | word (letters : Text)
  | numeral (characters : Text)
  | text (units : List Nat)
  | escape (units : List Nat)
  | code (units : List Nat) (digits value : Nat)

/-- The text of UTF-16 units and characters; half a surrogate pair has none. -/
def joinUnits? : List Nat → Option Text
  | [] => some []
  | [unit] => if 0xD800 ≤ unit ∧ unit < 0xE000 then none else some [Char.ofNat unit]
  | high :: low :: rest =>
      if 0xD800 ≤ high ∧ high < 0xDC00 then
        if 0xDC00 ≤ low ∧ low < 0xE000 then
          (joinUnits? rest).map
            (Char.ofNat (0x10000 + (high - 0xD800) * 0x400 + (low - 0xDC00)) :: ·)
        else
          none
      else if 0xDC00 ≤ high ∧ high < 0xE000 then none
      else (joinUnits? (low :: rest)).map (Char.ofNat high :: ·)

def isDigits (text : Text) : Bool :=
  !text.isEmpty && text.all Char.isDigit

/-- Whether a text is digits without a leading zero. -/
def isWhole (text : Text) : Bool :=
  isDigits text && (text.head? != some '0' || text.length == 1)

/-- Whether a text is an exponent, or nothing. -/
def isExponent : Text → Bool
  | [] => true
  | mark :: rest =>
      (mark == 'e' || mark == 'E') && isDigits (match rest with
        | '+' :: digits => digits
        | '-' :: digits => digits
        | digits => digits)

/-- Whether a text is a fraction and an exponent, either of which may be missing. -/
def isFraction : Text → Bool
  | '.' :: rest =>
      isDigits (rest.takeWhile Char.isDigit) && isExponent (rest.dropWhile Char.isDigit)
  | rest => isExponent rest

/-- The datum of a numeral: plain digits are a natural number, all else is some other value. -/
def numeral? (characters : Text) : Option Datum :=
  let unsigned := match characters with
    | '-' :: rest => rest
    | _ => characters
  let whole := unsigned.takeWhile Char.isDigit
  if isWhole whole && isFraction (unsigned.dropWhile Char.isDigit) then
    if characters.all Char.isDigit then
      some (.natural (characters.foldl (fun value char => value * 10 + (char.toNat - '0'.toNat)) 0))
    else
      some .other
  else
    none

def word? : Text → Option Datum
  | ['n', 'u', 'l', 'l'] => some .null
  | ['t', 'r', 'u', 'e'] => some (.bool true)
  | ['f', 'a', 'l', 's', 'e'] => some (.bool false)
  | _ => none

/-- The character that a one-letter escape stands for. -/
def escape? : Char → Option Char
  | '"' => some '"'
  | '\\' => some '\\'
  | '/' => some '/'
  | 'b' => some '\x08'
  | 'f' => some '\x0c'
  | 'n' => some '\n'
  | 'r' => some '\r'
  | 't' => some '\t'
  | _ => none

def isNumeral (char : Char) : Bool :=
  char.isDigit || char == '-' || char == '+' || char == '.' || char == 'e' || char == 'E'

/-- Read a character that starts a token, or a blank. -/
def start (char : Char) : Option (List Token × Mode) :=
  match char with
  | ' ' | '\t' | '\n' | '\r' => some ([], .between)
  | '\x7b' => some ([.openRecord], .between)
  | '\x7d' => some ([.closeRecord], .between)
  | '[' => some ([.openList], .between)
  | ']' => some ([.closeList], .between)
  | ':' => some ([.colon], .between)
  | ',' => some ([.comma], .between)
  | '"' => some ([], .text [])
  | _ =>
      if char.isDigit || char == '-' then some ([], .numeral [char])
      else if char.isLower then some ([], .word [char])
      else none

/-- End a token before the character that starts the next one. -/
def startAfter (token : Option Datum) (char : Char) : Option (List Token × Mode) := do
  let value ← token
  let (tokens, mode) ← start char
  return (.value value :: tokens, mode)

/-- Read one character: the tokens that it completes, and where it leaves the machine. -/
def step : Mode → Char → Option (List Token × Mode)
  | .between, char => start char
  | .word letters, char =>
      if char.isLower then some ([], .word (char :: letters))
      else startAfter (word? letters.reverse) char
  | .numeral characters, char =>
      if isNumeral char then some ([], .numeral (char :: characters))
      else startAfter (numeral? characters.reverse) char
  | .text units, char =>
      if char = '"' then
        some ([.text ((joinUnits? units.reverse).map String.ofList)], .between)
      else if char = '\\' then some ([], .escape units)
      else if char.toNat < 0x20 then none
      else some ([], .text (char.toNat :: units))
  | .escape units, char =>
      if char = 'u' then some ([], .code units 0 0)
      else (escape? char).map fun char => ([], .text (char.toNat :: units))
  | .code units digits value, char =>
      (Hexadecimal.digit? char).map fun digit =>
        if digits = 3 then ([], .text ((value * 16 + digit) :: units))
        else ([], .code units (digits + 1) (value * 16 + digit))

/-- End the text: the token that was being read, if it is complete. -/
def finish : Mode → Option (List Token)
  | .between => some []
  | .word letters => (word? letters.reverse).map ([.value ·])
  | .numeral characters => (numeral? characters.reverse).map ([.value ·])
  | _ => none

def scanner : Scanner Mode Token := ⟨step, finish⟩

def scan (text : Text) : Option (List Token) :=
  scanner.scanFrom .between text

/-!
## Values

Tokens are put together by a machine that keeps the values around the next token on a stack, so
reading is a fold over the tokens and nests as deep as the text does.
-/

/-- Lists are exactly as long as their records, and the missing payload of an alternative is null.
-/
def dialect : Dialect where
  allowsSurplus := false
  isUnit
    | .null => true
    | _ => false

/-- A value that is being read, with what it holds so far, last first.  A record with a member whose
name has no text is no datum of its own. -/
inductive Frame where
  | list (items : List Datum)
  | record (members : List (Option String × Datum)) (name : Option String)

/-- What the next token may be. -/
inductive Expected where
  | value
  | itemOrEnd
  | afterItem
  | name (members : List (Option String × Datum))
  | nameOrEnd
  | colon (members : List (Option String × Datum)) (name : Option String)
  | afterMember (members : List (Option String × Datum))
  | nothing (value : Datum)

/-- The values around the next token, innermost first, and what it may be. -/
structure State where
  frames : List Frame
  expected : Expected

def record (members : List (Option String × Datum)) : Datum :=
  match members.reverse.mapM fun (name, value) => name.map (·, value) with
  | some members => .record members
  | none => .other

/-- Hand a complete value to the frame around it. -/
def deliver (value : Datum) : List Frame → State
  | [] => ⟨[], .nothing value⟩
  | .list items :: frames => ⟨.list (value :: items) :: frames, .afterItem⟩
  | .record members name :: frames => ⟨frames, .afterMember ((name, value) :: members)⟩

def startValue (frames : List Frame) : Token → Option State
  | .openRecord => some ⟨frames, .nameOrEnd⟩
  | .openList => some ⟨.list [] :: frames, .itemOrEnd⟩
  | .text value => some (deliver (value.elim .other .text) frames)
  | .value value => some (deliver value frames)
  | _ => none

def closeList : List Frame → Option State
  | .list items :: frames => some (deliver (.list items.reverse) frames)
  | _ => none

def advance (state : State) (token : Token) : Option State :=
  match state.expected, token with
  | .itemOrEnd, .closeList => closeList state.frames
  | .itemOrEnd, token => startValue state.frames token
  | .value, token => startValue state.frames token
  | .afterItem, .closeList => closeList state.frames
  | .afterItem, .comma => some ⟨state.frames, .value⟩
  | .nameOrEnd, .closeRecord => some (deliver (record []) state.frames)
  | .nameOrEnd, .text name => some ⟨state.frames, .colon [] name⟩
  | .name members, .text name => some ⟨state.frames, .colon members name⟩
  | .colon members name, .colon => some ⟨.record members name :: state.frames, .value⟩
  | .afterMember members, .closeRecord => some (deliver (record members) state.frames)
  | .afterMember members, .comma => some ⟨state.frames, .name members⟩
  | _, _ => none

/-- The value of a whole text. -/
def parse? (text : Text) : Option Datum := do
  let tokens ← scan text
  match ← tokens.foldlM advance ⟨[], .value⟩ with
  | ⟨_, .nothing value⟩ => some value
  | _ => none

end Restripe.Json
