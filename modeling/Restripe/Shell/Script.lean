import Restripe.Text.Scanner

/-!
# Shell scripts

A script is a sequence of simple commands.  Whether a command is run may depend on how the one
before it ended.
-/

/-!
## Tokens of shell scripts

A script is read byte by byte, each byte as the character of its code.  A word is kept as pieces,
since what quotes it holds decides how it is expanded.
-/

namespace Restripe.Shell

/-- Bytes as the characters of their codes. -/
def ofBytes (bytes : Bytes) : Text :=
  bytes.map Char.ofUInt8

/-- The bytes that characters below `2 ^ 8` are the codes of. -/
def toBytes (text : Text) : Bytes :=
  text.map Char.toUInt8

/-- What a dollar sign can stand for. -/
inductive Parameter where
  /-- An argument, counted from one; zero is the name of the script. -/
  | argument (index : Nat)
  | argumentCount
  /-- All arguments, as one field where they are quoted. -/
  | joinedArguments
  /-- All arguments, each a field of its own where they are quoted. -/
  | arguments
  | process
  | status
  | variable (name : Text)
  deriving DecidableEq

inductive Piece where
  | char (value : Char) (isQuoted : Bool)
  | parameter (value : Parameter) (isQuoted : Bool)
  /-- Quotes, which make a field even of nothing. -/
  | quotes
  deriving DecidableEq

abbrev Word := List Piece

inductive Token where
  | word (pieces : Word)
  | operator (char : Char)
  /-- The number of a stream, right before the operator that redirects it. -/
  | stream (number : Nat)
  deriving DecidableEq

/-- What the token machine is inside of, with the pieces of the current word, last first. -/
inductive Mode where
  | plain (pieces : Option Word)
  | single (pieces : Word)
  | double (pieces : Word)
  | backslash (isQuoted : Bool) (pieces : Option Word)
  | dollar (isQuoted : Bool) (pieces : Word)
  | name (isQuoted : Bool) (pieces : Word) (letters : Text)
  | braces (isQuoted : Bool) (pieces : Word) (letters : Text)
  | comment

def isOperator (char : Char) : Bool :=
  ['\n', ';', '&', '|', '<', '>', '(', ')'].contains char

def startsName (char : Char) : Bool :=
  char.isAlpha || char == '_'

def continuesName (char : Char) : Bool :=
  char.isAlphanum || char == '_'

def shortParameter? (char : Char) : Option Parameter :=
  match char with
  | '#' => some .argumentCount
  | '*' => some .joinedArguments
  | '@' => some .arguments
  | '$' => some .process
  | '?' => some .status
  | _ => if char.isDigit then some (.argument (char.toNat - '0'.toNat)) else none

def bracedParameter? (letters : Text) : Option Parameter :=
  match letters with
  | [] => none
  | first :: rest =>
      if letters.all Char.isDigit then
        some (.argument
          (letters.foldl (fun value digit => value * 10 + (digit.toNat - '0'.toNat)) 0))
      else if startsName first ∧ rest.all continuesName then some (.variable letters)
      else if rest = [] then shortParameter? first
      else none

/-- The digit that a piece is. -/
def Piece.digit? : Piece → Option Nat
  | .char value false => if value.isDigit then some (value.toNat - '0'.toNat) else none
  | _ => none

/-- The token of a word that an operator ends. -/
def wordBefore (operator : Char) (pieces : Word) : Token :=
  match pieces.mapM Piece.digit? with
  | some digits =>
      if operator = '<' ∨ operator = '>' then
        .stream (digits.foldl (fun value digit => value * 10 + digit) 0)
      else .word pieces
  | none => .word pieces

def stepPlain (pieces : Option Word) (char : Char) : Option (List Token × Mode) :=
  let word := pieces.getD []
  let before := pieces.toList.map fun pieces => Token.word pieces.reverse
  if char = ' ' ∨ char = '\t' then some (before, .plain none)
  else if isOperator char then
    some (pieces.toList.map (wordBefore char ·.reverse) ++ [.operator char], .plain none)
  else if char = '#' ∧ pieces = none then some ([], .comment)
  else if char = '\'' then some ([], .single (.quotes :: word))
  else if char = '"' then some ([], .double (.quotes :: word))
  else if char = '\\' then some ([], .backslash false pieces)
  else if char = '$' then some ([], .dollar false word)
  else if char = '\x60' then none
  else some ([], .plain (some (.char char false :: word)))

def stepDouble (pieces : Word) (char : Char) : Option (List Token × Mode) :=
  if char = '"' then some ([], .plain (some pieces))
  else if char = '\\' then some ([], .backslash true (some pieces))
  else if char = '$' then some ([], .dollar true pieces)
  else if char = '\x60' then none
  else some ([], .double (.char char true :: pieces))

/-- Read a character in the quotes, if any, that are open. -/
def stepIn (isQuoted : Bool) (pieces : Word) (char : Char) : Option (List Token × Mode) :=
  if isQuoted then stepDouble pieces char else stepPlain (some pieces) char

/-- Go on in the quotes, if any, that are open. -/
def resume (isQuoted : Bool) (pieces : Word) : Mode :=
  if isQuoted then .double pieces else .plain (some pieces)

/-- Read the character after a backslash.  Between double quotes only a few characters lose it. -/
def stepBackslash (isQuoted : Bool) (pieces : Option Word) (char : Char) : List Token × Mode :=
  let word := pieces.getD []
  if char = '\n' then ([], if isQuoted then .double word else .plain pieces)
  else if isQuoted ∧ char ∉ ['$', '\x60', '"', '\\'] then
    ([], .double (.char char true :: .char '\\' true :: word))
  else ([], resume isQuoted (.char char true :: word))

/-- Read the character after a dollar sign, which stands for itself where it starts no parameter. -/
def stepDollar (isQuoted : Bool) (pieces : Word) (char : Char) : Option (List Token × Mode) :=
  match shortParameter? char with
  | some parameter => some ([], resume isQuoted (.parameter parameter isQuoted :: pieces))
  | none =>
      if char = '\x7b' then some ([], .braces isQuoted pieces [])
      else if startsName char then some ([], .name isQuoted pieces [char])
      else if char = '(' then none
      else stepIn isQuoted (.char '$' isQuoted :: pieces) char

/-- Read one character: the tokens that it completes, and where it leaves the machine. -/
def step : Mode → Char → Option (List Token × Mode)
  | .plain pieces, char => stepPlain pieces char
  | .single pieces, char =>
      if char = '\'' then some ([], .plain (some pieces))
      else some ([], .single (.char char true :: pieces))
  | .double pieces, char => stepDouble pieces char
  | .backslash isQuoted pieces, char => some (stepBackslash isQuoted pieces char)
  | .dollar isQuoted pieces, char => stepDollar isQuoted pieces char
  | .name isQuoted pieces letters, char =>
      if continuesName char then some ([], .name isQuoted pieces (char :: letters))
      else stepIn isQuoted (.parameter (.variable letters.reverse) isQuoted :: pieces) char
  | .braces isQuoted pieces letters, char =>
      if char = '\x7d' then
        (bracedParameter? letters.reverse).map fun parameter =>
          ([], resume isQuoted (.parameter parameter isQuoted :: pieces))
      else some ([], .braces isQuoted pieces (char :: letters))
  | .comment, char => if char = '\n' then stepPlain none char else some ([], .comment)

/-- End the script: the token that was being read, if it is complete. -/
def finish : Mode → Option (List Token)
  | .plain pieces => some (pieces.toList.map fun pieces => .word pieces.reverse)
  | .dollar false pieces => some [.word (.char '$' false :: pieces).reverse]
  | .name false pieces letters =>
      some [.word (.parameter (.variable letters.reverse) false :: pieces).reverse]
  | .comment => some []
  | _ => none

def scanner : Scanner Mode Token := ⟨step, finish⟩

def scan (script : Text) : Option (List Token) :=
  scanner.scanFrom (.plain none) script

/-! ## Commands -/

/-- Where a stream is to come from or to go. -/
inductive Redirection where
  | write (stream : Nat) (target : Word)
  | append (stream : Nat) (target : Word)
  | read (source : Word)
  | duplicate (stream : Nat) (other : Word)
  deriving DecidableEq

/-- A command, and the line that it is on. -/
structure Command where
  line : Nat
  assignments : List (Text × Word)
  words : List Word
  redirections : List Redirection
  deriving DecidableEq

/-- On what a command depends. -/
inductive Condition where
  | always
  | onSuccess
  | onFailure
  deriving DecidableEq

/-- Commands in order, each with its condition. -/
abbrev Script := List (Condition × Command)

/-- What the next token may have to be. -/
inductive Awaited where
  | anything
  | second (char : Char)
  | redirection (stream : Nat)
  | target (redirection : Word → Redirection)
  /-- After a sign that starts a redirection. -/
  | targetOrSign (stream : Nat)

/-- What has been read of a script; lists are last first. -/
structure Reading where
  script : Script
  condition : Condition
  command : Command
  awaited : Awaited
  /-- The line that the next token is on. -/
  line : Nat

def Command.empty (line : Nat) : Command := ⟨line, [], [], []⟩

def Command.isEmpty (command : Command) : Bool :=
  command.assignments.isEmpty && command.words.isEmpty && command.redirections.isEmpty

/-- A command with its parts in their order. -/
def Command.inOrder (command : Command) : Command :=
  { command with
    assignments := command.assignments.reverse
    words := command.words.reverse
    redirections := command.redirections.reverse }

/-- The character of a piece that is an unquoted one. -/
def Piece.plain? : Piece → Option Char
  | .char value false => some value
  | _ => none

def isName (text : Text) : Bool :=
  text.head?.any startsName && text.all continuesName

/-- The variable and the value of a word that assigns. -/
def assignment? (word : Word) : Option (Text × Word) :=
  match word.dropWhile (·.plain? != some '=') with
  | [] => none
  | _ :: value =>
      match (word.takeWhile (·.plain? != some '=')).mapM Piece.plain? with
      | some name => if isName name then some (name, value) else none
      | none => none

def Token.lineFeeds : Token → Nat
  | .word pieces => pieces.count (.char '\n' true)
  | _ => 0

namespace Reading

def addWord (reading : Reading) (word : Word) : Reading :=
  let command := reading.command
  match assignment? word, command.words with
  | some assignment, [] =>
      { reading with command := { command with assignments := assignment :: command.assignments } }
  | _, words => { reading with command := { command with words := word :: words } }

def addRedirection (reading : Reading) (redirection : Redirection) : Reading :=
  let command := reading.command
  { reading with
    command := { command with redirections := redirection :: command.redirections }
    awaited := .anything }

/-- End the current command; the next one depends on `condition`. -/
def endCommand (reading : Reading) (condition : Condition) : Reading :=
  { reading with
    script := (reading.condition, reading.command.inOrder) :: reading.script
    condition
    command := .empty reading.line
    awaited := .anything }

def nextLine (reading : Reading) : Reading :=
  { reading with line := reading.line + 1, command := .empty (reading.line + 1) }

def advanceOperator (reading : Reading) (char : Char) : Option Reading :=
  if char = '\n' then
    if reading.command.isEmpty then some reading.nextLine
    else some (reading.endCommand .always).nextLine
  else if char = ';' then
    if reading.command.isEmpty then none else some (reading.endCommand .always)
  else if char = '&' ∨ char = '|' then
    if reading.command.isEmpty then none else some { reading with awaited := .second char }
  else if char = '>' then some { reading with awaited := .targetOrSign 1 }
  else if char = '<' then some { reading with awaited := .target .read }
  else none

/-- Read one token of the current line. -/
def advanceOnLine (reading : Reading) (token : Token) : Option Reading :=
  match reading.awaited, token with
  | .anything, .word pieces => some (reading.addWord pieces)
  | .anything, .operator char => reading.advanceOperator char
  | .anything, .stream number => some { reading with awaited := .redirection number }
  | .second '&', .operator '&' => some (reading.endCommand .onSuccess)
  | .second '|', .operator '|' => some (reading.endCommand .onFailure)
  | .redirection number, .operator '>' => some { reading with awaited := .targetOrSign number }
  | .redirection _, .operator '<' => some { reading with awaited := .target .read }
  | .targetOrSign number, .operator '>' => some { reading with awaited := .target (.append number) }
  | .targetOrSign number, .operator '&' =>
      some { reading with awaited := .target (.duplicate number) }
  | .targetOrSign number, .word pieces => some (reading.addRedirection (.write number pieces))
  | .target redirection, .word pieces => some (reading.addRedirection (redirection pieces))
  | _, _ => none

/-- Read one token, which may go on over lines. -/
def advance (reading : Reading) (token : Token) : Option Reading := do
  let reading ← reading.advanceOnLine token
  return { reading with line := reading.line + token.lineFeeds }

/-- The commands of a complete script. -/
def script? (reading : Reading) : Option Script :=
  match reading.awaited with
  | .anything =>
      if reading.command.isEmpty then
        if reading.condition = .always then some reading.script.reverse else none
      else some (reading.endCommand .always).script.reverse
  | _ => none

end Reading

def parse? (text : Text) : Option Script := do
  (← (← scan text).foldlM Reading.advance ⟨[], .always, .empty 1, .anything, 1⟩).script?

end Restripe.Shell
