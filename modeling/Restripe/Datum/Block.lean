import Restripe.Code
import Restripe.Datum.Json.Reader

/-!
# Blocks, codes and methods as data

Each type has one record form, written with its fields in the order of the type.  A path has a form
only if it is text.
-/

namespace Restripe

def Path.toDatum? (path : Path) : Option Datum :=
  path.text?.map fun text => .text (String.ofList text)

def Path.ofDatum? (datum : Datum) : Option Path :=
  datum.text?.map Path.ofString

/-- A value that may be missing as data. -/
def Datum.ofOption : Option Datum → Datum
  | some datum => datum
  | none => .null

namespace BlockKey

def toDatum (key : BlockKey) : Datum :=
  .record [("stripe", .natural key.stripe.toNat), ("block", .natural key.block.toNat)]

def ofDatum? (datum : Datum) : Option BlockKey := do
  match ← datum.slots? Json.dialect [["stripe"], ["block"]] with
  | [stripe, block] =>
      return { stripe := ← stripe.required Datum.uint32?, block := ← block.required Datum.uint16? }
  | _ => none

end BlockKey

namespace Location

def toDatum? : Location → Option Datum
  | .stored path => path.toDatum?.map fun path => .record [("local", path)]
  | .pending source =>
      some (.record [("pending",
        .record [("source", Datum.ofOption (source.map BlockKey.toDatum))])])

def ofDatum? : Datum → Option Location
  | .record [("local", path)] => (Path.ofDatum? path).map .stored
  | .record [("pending", payload)] => do
      match ← payload.slots? Json.dialect [["source"]] with
      | [source] => return .pending (← source.optional BlockKey.ofDatum?)
      | _ => none
  | _ => none

end Location

namespace Entry

def toDatum? (entry : Entry) : Option Datum :=
  entry.location.toDatum?.map fun location =>
    .record [("key", entry.key.toDatum), ("node", .natural entry.node.toNat),
      ("location", location)]

def ofDatum? (datum : Datum) : Option Entry := do
  match ← datum.slots? Json.dialect [["key"], ["node"], ["location"]] with
  | [key, node, location] =>
      return {
        key := ← key.required BlockKey.ofDatum?
        node := ← node.required Datum.uint16?
        location := ← location.required Location.ofDatum? }
  | _ => none

end Entry

def EncodeMethod.toDatum (method : EncodeMethod) : Datum := .text method.name

def EncodeMethod.ofDatum? (datum : Datum) : Option EncodeMethod :=
  datum.alternative? Json.dialect EncodeMethod.ofName?

def Approach.toDatum (approach : Approach) : Datum := .text approach.name

def Approach.ofDatum? (dialect : Dialect) (datum : Datum) : Option Approach :=
  datum.alternative? dialect Approach.ofName?

/-! ## Codes and clusters as data -/

namespace Code

def toDatum (code : Code) : Datum :=
  .record [
    ("k_pre", .natural code.dataBefore.toNat),
    ("m_pre", .natural code.parityBefore.toNat),
    ("k_post", .natural code.dataAfter.toNat),
    ("m_post", .natural code.parityAfter.toNat)]

def ofDatum? (datum : Datum) : Option Code := do
  match ← datum.slots? Json.dialect [["k_pre"], ["m_pre"], ["k_post"], ["m_post"]] with
  | [dataBefore, parityBefore, dataAfter, parityAfter] =>
      return {
        dataBefore := ← dataBefore.required Datum.uint16?
        parityBefore := ← parityBefore.required Datum.uint16?
        dataAfter := ← dataAfter.required Datum.uint16?
        parityAfter := ← parityAfter.required Datum.uint16? }
  | _ => none

end Code

namespace Cluster

def toDatum (cluster : Cluster) : Datum :=
  .record [
    ("num_nodes", .natural cluster.nodes.toNat),
    ("num_stripes", .natural cluster.stripes.toNat)]

def ofDatum? (datum : Datum) : Option Cluster := do
  match ← datum.slots? Json.dialect [["num_nodes"], ["num_stripes"]] with
  | [nodes, stripes] =>
      return {
        nodes := ← nodes.required Datum.uint16?
        stripes := ← stripes.required Datum.uint32? }
  | _ => none

end Cluster

end Restripe
