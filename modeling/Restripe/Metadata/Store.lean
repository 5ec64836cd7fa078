import Restripe.FileSystem.Disk
import Restripe.Metadata.Provenance
import Restripe.Metadata.Row

/-!
# Metadata files on disk

A metadata file is read whole and written in one step.  Nothing is written of a table that cannot be
written whole.
-/

namespace Restripe

/-- Read a file; what is wrong with it is reported with its path. -/
def loadWith (parse : Bytes → Except Flaw α) (path : Path) : Disk α := do
  match parse (← Disk.read path) with
  | .ok value => pure value
  | .error flaw => throw (.parse path flaw.line flaw.cause)

namespace Placement

def load (shape : PlacementShape) (path : Path) : Disk Placement :=
  loadWith (parse shape) path

def save (placement : Placement) (path : Path) : Disk Unit :=
  writeAtomic path (Utf8.encode placement.render)

end Placement

namespace StripeGroup

def load (shape : StripeGroupShape) (path : Path) : Disk (List StripeGroup) :=
  loadWith (parse shape) path

def save (groups : List StripeGroup) (path : Path) : Disk Unit :=
  writeAtomic path (Utf8.encode (render groups))

end StripeGroup

namespace ProvenanceTable

def load (path : Path) : Disk ProvenanceTable :=
  loadWith parse path

def save (table : ProvenanceTable) (path : Path) : Disk Unit := do
  let text ← table.render
  writeAtomic path (Utf8.encode text)

end ProvenanceTable

end Restripe
