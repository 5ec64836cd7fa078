/-!
# Data read from structured text

A datum is what a structured text format says: a scalar, a list or a record whose members keep their
order and may repeat a name.  Values that no field of this library takes, such as fractions, are
kept only as `Datum.other`, so that they can be ignored where any value may stand.
-/

namespace Restripe

/-- A value of a structured text format. -/
inductive Datum where
  | null
  | bool (value : Bool)
  | natural (value : Nat)
  | text (value : String)
  | list (items : List Datum)
  | record (members : List (String × Datum))
  | other
  deriving Inhabited

namespace Datum

def bool? : Datum → Option Bool
  | .bool value => some value
  | _ => none

/-- The number of a datum that is one below `bound`. -/
def natural? (bound : Nat) : Datum → Option Nat
  | .natural value => if value < bound then some value else none
  | _ => none

def text? : Datum → Option String
  | .text value => some value
  | _ => none

def uint16? (datum : Datum) : Option UInt16 := (datum.natural? UInt16.size).map UInt16.ofNat

def uint32? (datum : Datum) : Option UInt32 := (datum.natural? UInt32.size).map UInt32.ofNat

def uint64? (datum : Datum) : Option UInt64 := (datum.natural? UInt64.size).map UInt64.ofNat

end Datum

/-!
## Records with known fields

A record type is read from a record datum by name, or from a list by position.  Members that name no
field are ignored and a field named twice is refused, also under two of its names.  What a missing
field means depends on the field; what else a format allows is its `Dialect`.
-/

/-- What the formats do not agree on. -/
structure Dialect where
  /-- Whether a list may go on after the last field. -/
  allowsSurplus : Bool
  /-- Whether a datum can stand for the missing payload of a bare alternative. -/
  isUnit : Datum → Bool

/-- The value that a datum gives to a field. -/
inductive Slot where
  | given (value : Datum)
  /-- Not named by a record, or past the end of a list. -/
  | omitted (byName : Bool)

namespace Slot

/-- A field that has to be given. -/
def required (read : Datum → Option α) : Slot → Option α
  | .given value => read value
  | .omitted _ => none

/-- A field that stands for a default value when it is omitted. -/
def withDefault (value : α) (read : Datum → Option α) : Slot → Option α
  | .given value => read value
  | .omitted _ => some value

/-- A value that may be null. -/
def nullable (read : Datum → Option α) : Datum → Option (Option α)
  | .null => some none
  | value => (read value).map some

/-- A field that may be null, and may be left out of a record but not of a list. -/
def optional (read : Datum → Option α) : Slot → Option (Option α)
  | .given value => nullable read value
  | .omitted true => some none
  | .omitted false => none

end Slot

namespace Datum

/-- The slots of a list, in the order of the fields. -/
def slotsByPosition : (fields : Nat) → List Datum → List Slot
  | 0, _ => []
  | fields + 1, [] => .omitted false :: slotsByPosition fields []
  | fields + 1, item :: items => .given item :: slotsByPosition fields items

/-- The slot of the field that goes by any of `names`. -/
def slotByName? (members : List (String × Datum)) (names : List String) : Option Slot :=
  match members.filter (names.contains ·.1) with
  | [] => some (.omitted true)
  | [(_, value)] => some (.given value)
  | _ => none

/-- The slots of a datum for fields of the given names. -/
def slots? (dialect : Dialect) (fields : List (List String)) : Datum → Option (List Slot)
  | .record members => fields.mapM (slotByName? members)
  | .list items =>
      if items.length ≤ fields.length ∨ dialect.allowsSurplus then
        some (slotsByPosition fields.length items)
      else
        none
  | _ => none

/-- One of several bare alternatives: its name, or a record of its name and an empty payload. -/
def alternative? (dialect : Dialect) (ofName? : String → Option α) : Datum → Option α
  | .text name => ofName? name
  | .record [(name, payload)] => if dialect.isUnit payload then ofName? name else none
  | _ => none

end Datum

end Restripe
