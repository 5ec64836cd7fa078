import Restripe.Text.Numeral

/-!
# Printing by a format

A format is text with directives in it.  Each directive takes an argument and says how it is shown:
as text or as a number, how wide, and on which side it is padded.  A format is used again as long as
arguments are left; an argument that is missing is empty.
-/

/-!
## Escapes in printed text

Commands that print read escapes in their arguments: letters after a backslash, and codes in up to
three octal digits, which a zero may precede for some commands.
-/

namespace Restripe.Shell

/-- How codes are written. -/
inductive CodeStyle where
  | plain
  /-- A zero goes before the digits of a code. -/
  | afterZero
  deriving DecidableEq

/-- What the reader of escapes is inside of. -/
inductive EscapeMode where
  | plain
  | backslash
  | code (owed value : Nat)

/-- The character that a letter after a backslash stands for. -/
def escaped? : Char → Option Char
  | 'a' => some '\x07'
  | 'b' => some '\x08'
  | 'f' => some '\x0c'
  | 'n' => some '\n'
  | 'r' => some '\r'
  | 't' => some '\t'
  | 'v' => some '\x0b'
  | '\\' => some '\\'
  | _ => none

def isOctal (char : Char) : Bool :=
  '0' ≤ char && char ≤ '7'

/-- The character of a code, of which only the last eight bits count. -/
def codeChar (value : Nat) : Char :=
  Char.ofNat (value % 256)

def stepText (char : Char) : Text × EscapeMode :=
  if char = '\\' then ([], .backslash) else ([char], .plain)

def stepBackslashed (style : CodeStyle) (char : Char) : Text × EscapeMode :=
  match escaped? char with
  | some char => ([char], .plain)
  | none =>
      if style = .afterZero ∧ char = '0' then ([], .code 3 0)
      else if isOctal char then ([], .code 2 (char.toNat - '0'.toNat))
      else if char = '"' ∧ style = .plain then (['"'], .plain)
      else (['\\', char], .plain)

/-- Read one character: what it completes, and where it leaves the reader. -/
def stepEscape (style : CodeStyle) : EscapeMode → Char → Text × EscapeMode
  | .plain, char => stepText char
  | .backslash, char => stepBackslashed style char
  | .code owed value, char =>
      if 0 < owed ∧ isOctal char then
        ([], .code (owed - 1) (value * 8 + (char.toNat - '0'.toNat)))
      else
        let (text, mode) := stepText char
        (codeChar value :: text, mode)

/-- What a text with escapes stands for, read from a mode on. -/
def unescapeFrom (style : CodeStyle) : EscapeMode → Text → Text
  | .plain, [] => []
  | .backslash, [] => ['\\']
  | .code _ value, [] => [codeChar value]
  | mode, char :: rest =>
      let (text, next) := stepEscape style mode char
      text ++ unescapeFrom style next rest

def unescape (style : CodeStyle) (text : Text) : Text :=
  unescapeFrom style .plain text

/-- Cut a text before the escape that ends all printing, if it holds one. -/
def cutAtEnd : Text → Text × Bool
  | '\\' :: 'c' :: _ => ([], true)
  | '\\' :: char :: rest =>
      let (text, ended) := cutAtEnd rest
      ('\\' :: char :: text, ended)
  | char :: rest =>
      let (text, ended) := cutAtEnd rest
      (char :: text, ended)
  | [] => ([], false)

/-! ## Formats -/

/-- How an argument is shown. -/
structure Directive where
  /-- Whether blanks go after the argument. -/
  isLeft : Bool := false
  /-- Whether a number is padded with zeros. -/
  hasZeros : Bool := false
  width : Nat := 0
  /-- The longest text, or the least number of digits. -/
  precision : Option Nat := none

inductive FormatPiece where
  | char (value : Char)
  /-- An argument in the way of a letter. -/
  | argument (directive : Directive) (letter : Char)

/-! ### Reading formats -/

/-- The part of a directive that is being read. -/
inductive DirectivePart where
  | flags
  | width
  | precision

/-- What the reader of formats is inside of. -/
inductive FormatMode where
  | text
  | directive (part : DirectivePart) (directive : Directive)

def appendDigit (value : Nat) (digit : Char) : Nat :=
  value * 10 + (digit.toNat - '0'.toNat)

/-- A directive with another character before its letter. -/
def Directive.extend? (directive : Directive) (part : DirectivePart) (char : Char) :
    Option FormatMode :=
  match part with
  | .flags =>
      if char = '-' then some (.directive .flags { directive with isLeft := true })
      else if char = '0' then some (.directive .flags { directive with hasZeros := true })
      else if char.isDigit then
        some (.directive .width { directive with width := appendDigit 0 char })
      else if char = '.' then some (.directive .precision { directive with precision := some 0 })
      else none
  | .width =>
      if char.isDigit then
        some (.directive .width { directive with width := appendDigit directive.width char })
      else if char = '.' then some (.directive .precision { directive with precision := some 0 })
      else none
  | .precision =>
      if char.isDigit then
        let precision := appendDigit (directive.precision.getD 0) char
        some (.directive .precision { directive with precision := some precision })
      else none

/-- The letters that may ask for an argument. -/
def formatLetters : Text := ['s', 'b', 'c', 'd', 'i', 'u', 'o', 'x', 'X']

def stepFormat : FormatMode → Char → Option (List FormatPiece × FormatMode)
  | .text, char =>
      if char = '%' then some ([], .directive .flags {}) else some ([.char char], .text)
  | .directive part directive, char =>
      match directive.extend? part char with
      | some mode => some ([], mode)
      | none =>
          if char = '%' then some ([.char '%'], .text)
          else if formatLetters.contains char then some ([.argument directive char], .text)
          else none

/-- The pieces of a format read from a mode on. -/
def readFormatFrom : FormatMode → Text → Option (List FormatPiece)
  | .text, [] => some []
  | .directive .., [] => none
  | mode, char :: rest => do
      let (pieces, next) ← stepFormat mode char
      return pieces ++ (← readFormatFrom next rest)

def readFormat? (format : Text) : Option (List FormatPiece) :=
  readFormatFrom .text format

/-! ### Showing arguments -/

/-- An argument as a number: its sign, its size, and what follows it. -/
structure Numeral where
  isNegative : Bool
  size : Nat
  rest : Text

/-- The digits in a base that a text starts with, and what follows them. -/
def cutDigits (base : Nat) (text : Text) : Text × Text :=
  let isDigit (char : Char) : Bool := (Hexadecimal.digit? char).any (· < base)
  (text.takeWhile isDigit, text.dropWhile isDigit)

/-- The number that digits in a base denote. -/
def numberOf (base : Nat) (digits : Text) : Nat :=
  digits.foldl (fun value digit => value * base + (Hexadecimal.digit? digit).getD 0) 0

/-- Read an argument as a number: decimal, octal after a zero, or hexadecimal after `0x`.  Nothing
of it is read where it starts with no digit. -/
def readNumeral (argument : Text) : Numeral :=
  let (isNegative, unsigned) : Bool × Text := match argument with
    | '-' :: rest => (true, rest)
    | '+' :: rest => (false, rest)
    | _ => (false, argument)
  let (base, digits) : Nat × Text := match unsigned with
    | '0' :: 'x' :: rest => (16, rest)
    | '0' :: _ => (8, unsigned)
    | _ => (10, unsigned)
  let (read, rest) := cutDigits base digits
  if read = [] then ⟨false, 0, argument⟩ else ⟨isNegative, numberOf base read, rest⟩

/-- What is wrong with an argument that is to be a number. -/
def numberComplaint? (argument : Text) : Option String :=
  let numeral := readNumeral argument
  if numeral.rest = [] then none
  else if numeral.rest = argument then some s!"{String.ofList argument}: expected numeric value"
  else some s!"{String.ofList argument}: not completely converted"

/-- Fill up a text to a width. -/
def pad (isLeft : Bool) (filler : Char) (width : Nat) (text : Text) : Text :=
  let padding := List.replicate (width - text.length) filler
  if isLeft then text ++ padding else padding ++ text

def showNumber (directive : Directive) (base : Nat) (argument : Text) : Text :=
  let numeral := readNumeral argument
  let sign := if numeral.isNegative then ['-'] else []
  let least := match directive.precision with
    | some precision => precision
    | none =>
        if directive.hasZeros ∧ !directive.isLeft then directive.width - sign.length else 0
  let digits := pad false '0' least (Nat.toDigits base numeral.size)
  pad directive.isLeft ' ' directive.width (sign ++ digits)

/-- A text, as far as it is shown. -/
def showText (directive : Directive) (text : Text) : Text :=
  let shown := match directive.precision with
    | some precision => text.take precision
    | none => text
  pad directive.isLeft ' ' directive.width shown

def isNumberLetter (letter : Char) : Bool :=
  ['d', 'i', 'u', 'o', 'x', 'X'].contains letter

/-- An argument in the way of a directive. -/
def showArgument (directive : Directive) (letter : Char) (argument : Text) : Text :=
  if letter = 's' then showText directive argument
  else if letter = 'b' then showText directive (unescape .afterZero argument)
  else if letter = 'c' then showText directive [argument.headD '\x00']
  else if letter = 'o' then showNumber directive 8 argument
  else if letter = 'x' then showNumber directive 16 argument
  else if letter = 'X' then (showNumber directive 16 argument).map Char.toUpper
  else showNumber directive 10 argument

/-! ### Using formats -/

/-- What comes of a format: the text, what is wrong with arguments, and the arguments that are left.
-/
structure Formatted where
  text : Text
  complaints : List String
  rest : List Text

def useFormat : List FormatPiece → List Text → Formatted
  | [], arguments => ⟨[], [], arguments⟩
  | .char value :: pieces, arguments =>
      let used := useFormat pieces arguments
      { used with text := value :: used.text }
  | .argument directive letter :: pieces, arguments =>
      let used := useFormat pieces arguments.tail
      let complaint? := match arguments with
        | argument :: _ => if isNumberLetter letter then numberComplaint? argument else none
        | [] => none
      { used with
        text := showArgument directive letter (arguments.headD []) ++ used.text
        complaints := complaint?.toList ++ used.complaints }

/-- Use a format until no arguments are left, or it takes none. -/
def printFormat (pieces : List FormatPiece) (arguments : List Text) : Text × List String :=
  let used := useFormat pieces arguments
  if used.rest = [] then (used.text, used.complaints)
  else if used.rest.length < arguments.length then
    let (text, complaints) := printFormat pieces used.rest
    (used.text ++ text, used.complaints ++ complaints)
  else (used.text, used.complaints)
  termination_by arguments.length

end Restripe.Shell
