import Restripe.Datum
import Restripe.Datum.Toml.Token

/-!
# Writing TOML

A text is a sequence of sections with one pair a line.  A string is written in the first of four
forms that can hold it with no escapes but those of tabs; a string that no form holds so is escaped.
-/

namespace Restripe.Toml

/-! ## Strings -/

/-- Whether a character stands three times in a row. -/
def hasTriple (mark : Char) : Text → Bool
  | first :: second :: third :: rest =>
      (first == mark && second == mark && third == mark) || hasTriple mark (second :: third :: rest)
  | _ => false

/-- Whether a character may stand in a string that spans lines. -/
def isBlockPlain (char : Char) : Bool :=
  char == '\n' || isPlain char

/-- Whether a text can stand on a line between escaping marks, with no escapes but those of tabs. -/
def fitsLine (text : Text) : Bool :=
  text.all fun char => isPlain char && char != '\\' && char != escapingMark

/-- Whether a text can stand on a line between literal marks. -/
def fitsLiteral (text : Text) : Bool :=
  text.all fun char => isPlain char && char != literalMark

/-- Whether a text can stand between triple escaping marks, with no escapes but those of tabs. -/
def fitsBlock (text : Text) : Bool :=
  (text.all fun char => isBlockPlain char && char != '\\') && !hasTriple escapingMark text

/-- Whether a text can stand between triple literal marks. -/
def fitsLiteralBlock (text : Text) : Bool :=
  text.all isBlockPlain && !hasTriple literalMark text

def controlCode (char : Char) : Text :=
  ['\\', 'u', '0', '0', Hexadecimal.upperDigit (char.toNat / 16),
    Hexadecimal.upperDigit (char.toNat % 16)]

/-- A character that is no quotation mark and no line end, with an escape where it needs one. -/
def escapeChar (char : Char) : Text :=
  match char with
  | '\\' => ['\\', '\\']
  | '\x08' => ['\\', 'b']
  | '\t' => ['\\', 't']
  | '\x0c' => ['\\', 'f']
  | '\r' => ['\\', 'r']
  | _ => if isPlain char then [char] else controlCode char

def escapeInLine (char : Char) : Text :=
  if char = escapingMark then ['\\', escapingMark]
  else if char = '\n' then ['\\', 'n']
  else escapeChar char

/-- A string that spans lines, after some marks in a row: every third mark is escaped. -/
def escapeBlock (marks : Nat) : Text → Text
  | [] => []
  | char :: rest =>
      if char = escapingMark then
        if marks = 2 then '\\' :: char :: escapeBlock 0 rest
        else char :: escapeBlock (marks + 1) rest
      else if char = '\n' then char :: escapeBlock 0 rest
      else escapeChar char ++ escapeBlock 0 rest

/-- Enclose a text that spans lines; the first line end would be lost but for another one before
it. -/
def encloseBlock (mark : Char) (spansLines : Bool) (body : Text) : Text :=
  let marks := [mark, mark, mark]
  marks ++ (if spansLines then ['\n'] else []) ++ body ++ marks

/-- A string on one line with escapes. -/
def quoteLine (text : Text) : Text :=
  escapingMark :: text.flatMap escapeInLine ++ [escapingMark]

/-- A string on one line without escapes. -/
def quoteLiteral (text : Text) : Text :=
  literalMark :: text ++ [literalMark]

/-- A string that may span lines, with escapes. -/
def quoteBlock (text : Text) : Text :=
  encloseBlock escapingMark (text.contains '\n') (escapeBlock 0 text)

/-- A string that may span lines, without escapes. -/
def quoteLiteralBlock (text : Text) : Text :=
  encloseBlock literalMark (text.contains '\n') text

/-- A string between quotation marks. -/
def quote (text : Text) : Text :=
  if fitsLine text then quoteLine text
  else if fitsLiteral text then quoteLiteral text
  else if fitsBlock text then quoteBlock text
  else if fitsLiteralBlock text then quoteLiteralBlock text
  else if text.contains '\n' then quoteBlock text
  else quoteLine text

/-! ## Sections -/

/-- The text of a value that is no list or record; integers are bounded. -/
def writeScalar? : Datum → Option Text
  | .natural value => if value < integerBound then some (Nat.toDigits 10 value) else none
  | .bool true => some ['t', 'r', 'u', 'e']
  | .bool false => some ['f', 'a', 'l', 's', 'e']
  | .text value => some (quote value.toList)
  | _ => none

def writePair? (pair : String × Datum) : Option Text := do
  return pair.1.toList ++ [' ', '=', ' '] ++ (← writeScalar? pair.2) ++ ['\n']

/-- The header of a table and the lines of its pairs. -/
def writeSection? (part : String × List (String × Datum)) : Option Text := do
  return '[' :: part.1.toList ++ [']', '\n'] ++ (← part.2.mapM writePair?).flatten

/-- Sections with a blank line between them. -/
def writeSections? (parts : List (String × List (String × Datum))) : Option Text := do
  return ['\n'].intercalate (← parts.mapM writeSection?)

end Restripe.Toml
