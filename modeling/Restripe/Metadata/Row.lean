import Restripe.Text.Line
import Restripe.Validation

/-!
# Rows of metadata files

Every metadata file is a sequence of rows without a header, each row a line of tokens.  A file is
read in three passes: all of it has to be text, then no line may be blank, then the rows are read in
order.  So the flaw that is reported is the first of the first pass that finds one.
-/

namespace Restripe

/-- What is wrong with a file, and on which line, counted from one. -/
structure Flaw where
  line : Nat
  cause : Malformed
  deriving DecidableEq, Repr

/-- A line of tokens with its number. -/
structure Row where
  line : Nat
  tokens : List Text
  deriving DecidableEq, Repr

namespace Row

/-- Read the token of a column. -/
def token (row : Row) (field : Field) (read? : Text → Option α) (column : Nat) (token : Text) :
    Except Flaw α :=
  match read? token with
  | some value => pure value
  | none => throw ⟨row.line, .invalidField field token column⟩

/-- Read the token of a column as a node below `limit`. -/
def node (row : Row) (limit : UInt16) (column : Nat) (token : Text) : Except Flaw NodeId := do
  let node ← row.token .nodeId Decimal.uint16? column token
  if limit ≤ node then
    throw ⟨row.line, .nodeOutside node column limit⟩
  pure node

/-- Read tokens from column `first` on, each with its column. -/
def columns (read : Nat → Text → Except Flaw α) (first : Nat) : List Text → Except Flaw (List α)
  | [] => pure []
  | token :: tokens => do
      let value ← read first token
      return value :: (← columns read (first + 1) tokens)

end Row

/-- The text of a file; the flaw is on the line of the first byte that belongs to no character. -/
def readText (bytes : Bytes) : Except Flaw Text :=
  match Utf8.decode? bytes with
  | some text => pure text
  | none => throw ⟨(Utf8.validPrefix bytes).count '\n' + 1, .notText⟩

def rowOfLine (line : Nat) (text : Text) : Except Flaw Row :=
  match tokens text with
  | [] => throw ⟨line, .blankLine⟩
  | tokens => pure ⟨line, tokens⟩

/-- The rows of lines that are numbered from `first` on. -/
def rowsOfLines (first : Nat) : List Text → Except Flaw (List Row)
  | [] => pure []
  | line :: lines => do
      let row ← rowOfLine first line
      return row :: (← rowsOfLines (first + 1) lines)

/-- The rows of a file. -/
def readRows (bytes : Bytes) : Except Flaw (List Row) := do
  rowsOfLines 1 (lines (← readText bytes))

/-- A row in its canonical form: single spaces between the tokens, and a line feed. -/
def renderRow : List Text → Text
  | [] => ['\n']
  | [token] => token ++ ['\n']
  | token :: tokens => token ++ ' ' :: renderRow tokens

/-!
## Placements

A placement says which node holds which block: one row a stripe, one node a block.
-/

/-- The nodes of every stripe, by stripe and block. -/
abbrev Placement := List (List NodeId)

/-- What every row of a placement has to be like. -/
structure PlacementShape where
  /-- Blocks of a stripe. -/
  width : UInt16
  /-- Nodes of the cluster. -/
  nodes : UInt16
  deriving DecidableEq, Repr

/-- Whether the blocks of a stripe all sit on different nodes. -/
def isSpread (nodes : List NodeId) : Bool :=
  nodes.Nodup

namespace Placement

def readRow (shape : PlacementShape) (row : Row) : Except Flaw (List NodeId) :=
  if row.tokens.length ≠ shape.width.toNat then
    throw ⟨row.line, .nodeCount shape.width.toNat row.tokens.length⟩
  else
    Row.columns (row.node shape.nodes) 0 row.tokens

def parse (shape : PlacementShape) (bytes : Bytes) : Except Flaw Placement := do
  (← readRows bytes).mapM (readRow shape)

def render (placement : Placement) : Text :=
  placement.flatMap fun nodes => renderRow (nodes.map fun node => Decimal.digits node.toNat)

/-- The node of a block of a stripe, if the stripe has it. -/
def node? (nodes : List NodeId) (block : BlockIndex) : Option NodeId :=
  nodes[block.toNat]?

end Placement

/-!
## Stripe groups

A stripe group says what a new stripe is made of: the stripes that contribute to it, how its parity
comes about, and the nodes of its blocks.  A row holds the three parts one after the other, so how
it is divided follows from the fan-in.
-/

/-- What a new stripe is made of and where it goes. -/
structure StripeGroup where
  contributing : List StripeId
  method : EncodeMethod
  nodes : List NodeId
  deriving DecidableEq, Repr

/-- What every row of a stripe-group file has to be like. -/
structure StripeGroupShape where
  fanIn : UInt16
  /-- Blocks of a new stripe. -/
  width : UInt16
  /-- Nodes of the cluster. -/
  nodes : UInt16
  deriving DecidableEq, Repr

namespace StripeGroupShape

/-- The shape that a code gives to the groups on a cluster. -/
def ofCode (code : Code) (nodes : UInt16) : Except Error StripeGroupShape := do
  return ⟨← code.fanIn, code.widthAfter, nodes⟩

def fieldsPerRow (shape : StripeGroupShape) : Nat :=
  shape.fanIn.toNat + 1 + shape.width.toNat

end StripeGroupShape

namespace StripeGroup

def readMethod (row : Row) (column : Nat) (token : Text) : Except Flaw EncodeMethod := do
  let id ← row.token .encodeMethod Decimal.uint8? column token
  match EncodeMethod.ofId? id with
  | some method => pure method
  | none => throw ⟨row.line, .unknownMethod id⟩

def readRow (shape : StripeGroupShape) (row : Row) : Except Flaw StripeGroup := do
  let fanIn := shape.fanIn.toNat
  let flaw : Flaw := ⟨row.line,
    .groupFieldCount fanIn shape.width.toNat shape.fieldsPerRow row.tokens.length⟩
  if row.tokens.length ≠ shape.fieldsPerRow then
    throw flaw
  match row.tokens.drop fanIn with
  | [] => throw flaw
  | method :: nodes =>
      let contributing ←
        Row.columns (row.token .contributingStripe Decimal.uint32?) 0 (row.tokens.take fanIn)
      let method ← readMethod row fanIn method
      let nodes ← Row.columns (row.node shape.nodes) (fanIn + 1) nodes
      return ⟨contributing, method, nodes⟩

def parse (shape : StripeGroupShape) (bytes : Bytes) : Except Flaw (List StripeGroup) := do
  (← readRows bytes).mapM (readRow shape)

def toTokens (group : StripeGroup) : List Text :=
  group.contributing.map (fun stripe => Decimal.digits stripe.toNat)
    ++ Decimal.digits group.method.id.toNat
    :: group.nodes.map fun node => Decimal.digits node.toNat

def render (groups : List StripeGroup) : Text :=
  groups.flatMap fun group => renderRow group.toTokens

end StripeGroup

end Restripe
