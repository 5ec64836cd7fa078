import Restripe.Datum
import Restripe.Text.Utf8

/-!
# Writing JSON

The members of a record are written in their order, either without any blanks or one a line with two
blanks a level.  Strings escape quotes, backslashes and controls only.
-/

namespace Restripe.Json

/-- A control character by its code. -/
def controlCode (char : Char) : Text :=
  ['\\', 'u', '0', '0', Nat.digitChar (char.toNat / 16), Nat.digitChar (char.toNat % 16)]

/-- A character between quotes.  Only quotes, backslashes and controls are escaped. -/
def quoteChar (char : Char) : Text :=
  match char with
  | '"' => ['\\', '"']
  | '\\' => ['\\', '\\']
  | '\x08' => ['\\', 'b']
  | '\t' => ['\\', 't']
  | '\n' => ['\\', 'n']
  | '\x0c' => ['\\', 'f']
  | '\r' => ['\\', 'r']
  | _ => if char.toNat < 0x20 then controlCode char else [char]

def quote (value : String) : Text :=
  '"' :: value.toList.flatMap quoteChar ++ ['"']

/-- Parts with commas between them. -/
def separate (separator : Text) : List Text → Text
  | [] => []
  | [part] => part
  | part :: parts => part ++ separator ++ separate separator parts

/-- How values are laid out: what follows an opening bracket, a comma and a colon at a level, and
what precedes a closing bracket. -/
structure Layout where
  line : (level : Nat) → Text
  afterColon : Text

def Layout.compact : Layout := ⟨fun _ => [], []⟩

def Layout.indented : Layout := ⟨fun level => '\n' :: List.replicate (2 * level) ' ', [' ']⟩

/-- Enclose the parts of a list or a record; without parts the brackets stand alone. -/
def enclose (layout : Layout) (level : Nat) (first last : Char) : List Text → Text
  | [] => [first, last]
  | parts =>
      first :: layout.line (level + 1) ++ separate (',' :: layout.line (level + 1)) parts
        ++ layout.line level ++ [last]

mutual

/-- The text of a value at a level.  A value of no kind of its own is written as null. -/
def write (layout : Layout) (level : Nat) : Datum → Text
  | .null | .other => ['n', 'u', 'l', 'l']
  | .bool true => ['t', 'r', 'u', 'e']
  | .bool false => ['f', 'a', 'l', 's', 'e']
  | .natural value => Nat.toDigits 10 value
  | .text value => quote value
  | .list items => enclose layout level '[' ']' (writeItems layout (level + 1) items)
  | .record members => enclose layout level '\x7b' '\x7d' (writeMembers layout (level + 1) members)

def writeItems (layout : Layout) (level : Nat) : List Datum → List Text
  | [] => []
  | item :: items => write layout level item :: writeItems layout level items

def writeMembers (layout : Layout) (level : Nat) : List (String × Datum) → List Text
  | [] => []
  | (name, value) :: members =>
      (quote name ++ ':' :: layout.afterColon ++ write layout level value)
        :: writeMembers layout level members

end

def compact (value : Datum) : Text := write .compact 0 value

def pretty (value : Datum) : Text := write .indented 0 value

end Restripe.Json
