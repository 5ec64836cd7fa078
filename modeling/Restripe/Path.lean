import Restripe.Text.Utf8

/-!
# Paths

A path is a byte string, printed as it was given.  Its meaning is read off its segments: the parts
between separators.  After the first segment, an empty segment or a single dot says nothing
(`Path.isSilent`), so the components, the file name and the parent are stated on what is left.
-/

namespace Restripe

/-- A file path, not necessarily text. -/
structure Path where
  bytes : Bytes
  deriving DecidableEq, Repr, Inhabited

/-- One meaningful step of a path. -/
inductive Component where
  | root
  | current
  | parent
  | named (name : Bytes)
  deriving DecidableEq, Repr

namespace Path

def ofString (string : String) : Path := ⟨Bytes.ofString string⟩

def separator : UInt8 := 0x2F

/-- The segment that stands for the directory it is in. -/
def currentSegment : Bytes := [0x2E]

/-- The segment that stands for the directory above. -/
def parentSegment : Bytes := [0x2E, 0x2E]

/-- Cut a byte string at every separator: the first segment and the others. -/
def segments : Bytes → Bytes × List Bytes
  | [] => ([], [])
  | byte :: rest =>
      let (first, others) := segments rest
      if byte = separator then ([], first :: others) else (byte :: first, others)

def ofSegments (first : Bytes) (others : List Bytes) : Path :=
  ⟨first ++ others.flatMap (separator :: ·)⟩

theorem ofSegments_segments (bytes : Bytes) :
    ofSegments (segments bytes).1 (segments bytes).2 = ⟨bytes⟩ := by
  induction bytes with
  | nil => rfl
  | cons byte rest ih =>
      have ih' := congrArg Path.bytes ih
      by_cases h : byte = separator <;> simp_all [segments, ofSegments]

/-- Segments after the first that name no step. -/
def isSilent (segment : Bytes) : Bool :=
  segment == [] || segment == currentSegment

/-- The step of a segment that is not silent. -/
def component (segment : Bytes) : Component :=
  if segment = parentSegment then .parent else .named segment

/-- The step of the first segment: an empty one before a separator is the root, and a leading dot
counts. -/
def leadingComponent (first : Bytes) (hasOthers : Bool) : List Component :=
  if first = [] then (if hasOthers then [.root] else [])
  else if first = currentSegment then [.current]
  else [component first]

/-- The meaningful steps of a path. -/
def components (path : Path) : List Component :=
  let (first, others) := segments path.bytes
  leadingComponent first (!others.isEmpty) ++ (others.filter (!isSilent ·)).map component

def isAbsolute (path : Path) : Bool :=
  path.bytes.head? == some separator

/-- The last component, if it is a name. -/
def fileName? (path : Path) : Option Bytes :=
  match path.components.getLast? with
  | some (.named name) => some name
  | _ => none

/-- Drop silent segments at the end. -/
def dropSilent (segments : List Bytes) : List Bytes :=
  (segments.reverse.dropWhile isSilent).reverse

/-- The path without its last component and the separators and dots around it.  The root and the
empty path have no parent. -/
def parent? (path : Path) : Option Path :=
  let (first, others) := segments path.bytes
  match dropSilent others with
  | [] => if first = [] then none else some ⟨[]⟩
  | kept =>
      match dropSilent kept.dropLast with
      | [] => some ⟨if first = [] then [separator] else first⟩
      | rest => some (ofSegments first rest)

/-- Follow `tail` from `base`: an absolute `tail` stands alone. -/
def join (base tail : Path) : Path :=
  if tail.isAbsolute then tail
  else if base.bytes = [] ∨ base.bytes.getLast? = some separator then ⟨base.bytes ++ tail.bytes⟩
  else ⟨base.bytes ++ separator :: tail.bytes⟩

/-- Follow a name given as a string. -/
def child (base : Path) (name : String) : Path :=
  base.join (ofString name)

def withFileName (path : Path) (name : Bytes) : Path :=
  match path.fileName?, path.parent? with
  | some _, some parent => parent.join ⟨name⟩
  | _, _ => path.join ⟨name⟩

def text? (path : Path) : Option Text :=
  Utf8.decode? path.bytes

/-- The path as it is shown in messages. -/
def display (path : Path) : String :=
  String.ofList (Utf8.lossy path.bytes)

end Path

end Restripe
