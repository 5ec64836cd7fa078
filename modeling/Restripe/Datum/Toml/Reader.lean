import Restripe.Datum.Toml.Token

/-!
# Reading TOML

A machine puts tokens together to sections: a header and the pairs of keys and values below it.  The
sections then fill the table of the whole text, one after the other.
-/

/-!
## Tables of TOML

The members of a table may be given piecemeal: by a header that names the table, by a longer header
that implies it, or by keys with dots.  How a table came about decides what may be added to it
later, so that no table is defined twice.
-/

namespace Restripe.Toml

/-- A key and the keys that lead to it, outermost first. -/
abbrev KeyPath := List String

/-- How a table came about. -/
inductive Origin where
  /-- A header names it. -/
  | header
  /-- A longer header implies it. -/
  | implied
  /-- A key with dots implies it. -/
  | dotted
  deriving DecidableEq

/-- What a key stands for. -/
inductive Item where
  | value (datum : Datum)
  | table (origin : Origin) (members : List (String × Item))
  /-- Tables of one name, one for each of their headers. -/
  | tables (elements : List (List (String × Item)))

/-- The members of a table, in the order in which they first came up. -/
abbrev Table := List (String × Item)

namespace Table

/-- Put an item under a key, in the place of what was there. -/
def put (key : String) (item : Item) : Table → Table
  | [] => [(key, item)]
  | (name, old) :: rest =>
      if name = key then (key, item) :: rest else (name, old) :: put key item rest

/-- Change the last of some values. -/
def changeLast? (change : α → Option α) : List α → Option (List α)
  | [] => none
  | [last] => (change last).map ([·])
  | head :: tail => (changeLast? change tail).map (head :: ·)

/-- Add a value under a key with dots: all keys but the last lead through tables that no header
names, to one that such a key has made. -/
def insert? : Table → KeyPath → Datum → Option Table
  | _, [], _ => none
  | table, [key], value =>
      if (table.lookup key).isSome then none else some (table.put key (.value value))
  | table, key :: next :: rest, value =>
      match table.lookup key with
      | none => do return table.put key (.table .dotted (← insert? [] (next :: rest) value))
      | some (.value _) => none
      | some (.table origin members) =>
          if origin = .header ∨ (rest = [] ∧ origin = .implied) then none
          else do return table.put key (.table origin (← insert? members (next :: rest) value))
      | some (.tables elements) =>
          if rest = [] then none
          else do
            return table.put key
              (.tables (← changeLast? (insert? · (next :: rest) value) elements))

/-- Change what a header names: all keys but the last lead through tables, which are implied where
there are none, and of several tables of one name through the last. -/
def change? (change : Option Item → Option Item) : Table → KeyPath → Option Table
  | _, [] => none
  | table, [key] => do return table.put key (← change (table.lookup key))
  | table, key :: next :: rest =>
      match table.lookup key with
      | none => do return table.put key (.table .implied (← change? change [] (next :: rest)))
      | some (.value _) => none
      | some (.table origin members) => do
          return table.put key (.table origin (← change? change members (next :: rest)))
      | some (.tables elements) => do
          return table.put key
            (.tables (← changeLast? (change? change · (next :: rest)) elements))

def insertAll? (table : Table) (pairs : List (KeyPath × Datum)) : Option Table :=
  pairs.foldlM (fun table (path, value) => table.insert? path value) table

/-- Name a table by a header, with the pairs below it.  Only a table that longer headers have
implied may be there already. -/
def define? (pairs : List (KeyPath × Datum)) : Option Item → Option Item
  | none => do return .table .header (← insertAll? [] pairs)
  | some (.table .implied members) => do return .table .header (← insertAll? members pairs)
  | _ => none

/-- Add a table to those of one name, with the pairs below its header. -/
def append? (pairs : List (KeyPath × Datum)) : Option Item → Option Item
  | none => do return .tables [← insertAll? [] pairs]
  | some (.tables elements) => do return .tables (elements ++ [← insertAll? [] pairs])
  | _ => none

end Table

mutual

def Item.toDatum : Item → Datum
  | .value datum => datum
  | .table _ members => .record (Table.toMembers members)
  | .tables elements => .list (Table.toRecords elements)

def Table.toMembers : List (String × Item) → List (String × Datum)
  | [] => []
  | (key, item) :: rest => (key, item.toDatum) :: Table.toMembers rest

def Table.toRecords : List (List (String × Item)) → List Datum
  | [] => []
  | members :: rest => .record (Table.toMembers members) :: Table.toRecords rest

end

/-! ## Keys, values and sections -/

/-- A list may go on after the fields of a record, and an empty list or record is an empty payload.
-/
def dialect : Dialect where
  allowsSurplus := true
  isUnit
    | .list [] | .record [] => true
    | _ => false

/-- Keys have fewer parts, and values fewer values around them. -/
def nestingLimit : Nat := 80

/-! ### Keys -/

/-- A part of a key, or a dot between parts. -/
inductive KeyPiece where
  | name (value : String)
  | dot

/-- Whether a character may stand in a part of a key without quotes. -/
def isBare (char : Char) : Bool :=
  char.isAlphanum || char == '_' || char == '-'

/-- The pieces of a word that stands in a key; letters that were read before its first dot are
`pending`, last first. -/
def wordPieces (pending : Text) : Text → List KeyPiece
  | [] => if pending = [] then [] else [.name (String.ofList pending.reverse)]
  | char :: rest =>
      if char = '.' then
        let before := if pending = [] then [] else [.name (String.ofList pending.reverse)]
        before ++ .dot :: wordPieces [] rest
      else
        wordPieces (char :: pending) rest

/-- The pieces of a token that stands in a key. -/
def keyPieces? : Token → Option (List KeyPiece)
  | .word letters =>
      if letters.all fun char => isBare char || char == '.' then some (wordPieces [] letters)
      else none
  | .text false value => some [.name (String.ofList value)]
  | _ => none

/-- The parts of a key whose pieces alternate with dots. -/
def joinPieces? : List KeyPiece → Option KeyPath
  | [.name part] => some [part]
  | .name part :: .dot :: rest => (joinPieces? rest).map (part :: ·)
  | _ => none

def key? (tokens : List Token) : Option KeyPath := do
  let path ← joinPieces? (← tokens.mapM keyPieces?).flatten
  if path.length < nestingLimit then some path else none

/-! ### Sections -/

/-- What the header of a section names. -/
inductive Header where
  /-- The whole text, before any header. -/
  | root
  | table (path : KeyPath)
  /-- One of several tables of one name. -/
  | element (path : KeyPath)

/-- A header and the pairs below it, last first. -/
structure Section where
  header : Header
  pairs : List (KeyPath × Datum)

/-- A value that is being read, with what it holds so far, last first. -/
inductive Frame where
  | pair (path : KeyPath)
  | list (items : List Datum)
  | record (members : List (KeyPath × Datum)) (path : KeyPath)

/-- What the next token may be.  The tokens of a key are kept last first. -/
inductive Expected where
  | line
  | lineEnd
  | headerOrMark
  | header (isElement : Bool) (tokens : List Token)
  | headerMark (tokens : List Token)
  | key (members : Option (List (KeyPath × Datum))) (tokens : List Token)
  | value
  | afterItem
  | memberOrEnd
  | afterMember (members : List (KeyPath × Datum))

/-- The sections read so far, last first, the values around the next token, innermost first, and
what it may be. -/
structure State where
  current : Section
  earlier : List Section
  frames : List Frame
  expected : Expected

namespace State

def expect (state : State) (expected : Expected) : State :=
  { state with expected }

/-- Hand a complete value to the value around it, or to the section. -/
def deliver (state : State) (value : Datum) : Option State :=
  match state.frames with
  | [] => none
  | .pair path :: frames =>
      let current := { state.current with pairs := (path, value) :: state.current.pairs }
      some { state with current, frames, expected := .lineEnd }
  | .list items :: frames =>
      some { state with frames := .list (value :: items) :: frames, expected := .afterItem }
  | .record members path :: frames =>
      some { state with frames, expected := .afterMember ((path, value) :: members) }

/-- Whether another value may be nested in the values around. -/
def mayNest (state : State) : Bool :=
  state.frames.length < nestingLimit

def closeList (state : State) : Option State :=
  match state.frames with
  | .list items :: frames => deliver { state with frames } (.list items.reverse)
  | _ => none

def closeRecord (state : State) (members : List (KeyPath × Datum)) : Option State := do
  deliver state (.record (Table.toMembers (← Table.insertAll? [] members.reverse)))

def isInList (state : State) : Bool :=
  match state.frames with
  | .list _ :: _ => true
  | _ => false

/-- End the current section and start another. -/
def startSection (state : State) (header : Header) : State :=
  { state with
    current := ⟨header, []⟩
    earlier := state.current :: state.earlier
    expected := .lineEnd }

def endKey (state : State) (members : Option (List (KeyPath × Datum))) (path : KeyPath) : State :=
  let frame : Frame := match members with
    | none => .pair path
    | some members => .record members path
  { state with frames := frame :: state.frames, expected := .value }

def advanceValue (state : State) : Token → Option State
  | .openList =>
      if state.mayNest then some { state with frames := .list [] :: state.frames } else none
  | .openRecord => if state.mayNest then some (state.expect .memberOrEnd) else none
  | .closeList => closeList state
  | .text _ value => state.deliver (.text (String.ofList value))
  | .word letters => scalar? letters >>= state.deliver
  | .blank _ => some state
  | .lineEnd => if state.isInList then some state else none
  | _ => none

def advanceKey (state : State) (members : Option (List (KeyPath × Datum))) (tokens : List Token) :
    Token → Option State
  | .blank _ => some state
  | .equals => (key? tokens.reverse).map (state.endKey members)
  | token => some (state.expect (.key members (token :: tokens)))

def advanceHeader (state : State) (isElement : Bool) (tokens : List Token) :
    Token → Option State
  | .blank _ => some state
  | .closeList =>
      if isElement then some (state.expect (.headerMark tokens))
      else (key? tokens.reverse).map fun path => state.startSection (.table path)
  | token => some (state.expect (.header isElement (token :: tokens)))

def advance (state : State) (token : Token) : Option State :=
  match state.expected, token with
  | .line, .blank _ | .line, .lineEnd | .lineEnd, .blank _ => some state
  | .line, .openList => some (state.expect .headerOrMark)
  | .line, token => advanceKey state none [] token
  | .lineEnd, .lineEnd => some (state.expect .line)
  | .headerOrMark, .openList => some (state.expect (.header true []))
  | .headerOrMark, token => advanceHeader (state.expect (.header false [])) false [] token
  | .header isElement tokens, token => advanceHeader state isElement tokens token
  | .headerMark tokens, .closeList =>
      (key? tokens.reverse).map fun path => state.startSection (.element path)
  | .key members tokens, token => advanceKey state members tokens token
  | .value, token => advanceValue state token
  | .afterItem, .comma => some (state.expect .value)
  | .afterItem, .closeList => closeList state
  | .afterItem, .blank _ | .afterItem, .lineEnd => some state
  | .memberOrEnd, .closeRecord => closeRecord state []
  | .memberOrEnd, .blank _ => some state
  | .memberOrEnd, token => advanceKey (state.expect (.key (some []) [])) (some []) [] token
  | .afterMember members, .comma => some (state.expect (.key (some members) []))
  | .afterMember members, .closeRecord => closeRecord state members
  | .afterMember _, .blank _ => some state
  | _, _ => none

/-- The sections of a complete text, in their order. -/
def sections? (state : State) : Option (List Section) :=
  match state.expected with
  | .line | .lineEnd => some (state.current :: state.earlier).reverse
  | _ => none

end State

/-- A date and a time of day with one space between them are one word. -/
def joinTimes : List Token → List Token
  | .word date :: .blank ' ' :: .word time :: rest =>
      if takeDate? date = some [] ∧ (time.head?.any Char.isDigit) then
        .word (date ++ ' ' :: time) :: joinTimes rest
      else
        .word date :: joinTimes (.blank ' ' :: .word time :: rest)
  | token :: rest => token :: joinTimes rest
  | [] => []

/-- Add a section to the table of the whole text. -/
def Table.addSection? (table : Table) (part : Section) : Option Table :=
  let pairs := part.pairs.reverse
  match part.header with
  | .root => table.insertAll? pairs
  | .table path => table.change? (Table.define? pairs) path
  | .element path => table.change? (Table.append? pairs) path

/-- The record of a whole text. -/
def parse? (text : Text) : Option Datum := do
  let tokens := joinTimes (← scan text)
  let start : State := ⟨⟨.root, []⟩, [], [], .line⟩
  let sections ← (← tokens.foldlM State.advance start).sections?
  return .record (Table.toMembers (← sections.foldlM Table.addSection? []))

end Restripe.Toml
