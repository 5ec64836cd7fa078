import Restripe.OperatingSystem
import Restripe.Path

/-!
# File systems

A file system is a finite set of files and directories, each at an address: the names from the root
down to it.  A path is followed step by step from the root or the working directory; every step
needs a directory to stand on, and what is refused, and in which order, is what the kernel refuses.
-/

namespace Restripe

/-- Names from the root down to a file or directory. -/
abbrev Address := List Bytes

/-- What is at an address. -/
inductive Node where
  | file (content : Bytes) (executable : Bool)
  | directory
  deriving DecidableEq, Repr

/-- Files and directories, and the directory that relative paths start from. -/
structure FileSystem where
  nodes : List (Address × Node)
  workingDirectory : Address
  deriving DecidableEq, Repr

/-- One step along a path. -/
inductive Step where
  | stay
  | up
  | enter (name : Bytes)
  deriving DecidableEq, Repr

namespace Path

/-- The step that a segment asks for. -/
def step (segment : Bytes) : Step :=
  if segment = currentSegment then .stay
  else if segment = parentSegment then .up
  else .enter segment

/-- The steps of a path. -/
def steps (path : Path) : List Step :=
  let (first, others) := segments path.bytes
  ((first :: others).filter (· ≠ [])).map step

/-- Whether a path asks for a directory by ending in a separator. -/
def endsInSeparator (path : Path) : Bool :=
  path.bytes.getLast? == some separator

/-- The longest name of a file or directory. -/
def maxName : Nat := 255

/-- The longest path that can be followed. -/
def maxLength : Nat := 4095

/-- A path that can be followed at all. -/
def check (path : Path) : Except IoFault Unit :=
  if path.bytes.contains 0 then throw .nulInName
  else if path.bytes = [] then throw .notFound
  else if maxLength < path.bytes.length then throw .nameTooLong
  else pure ()

end Path

namespace FileSystem

/-- What is at an address.  The root is always a directory. -/
def find? (fs : FileSystem) (address : Address) : Option Node :=
  if address = [] then some .directory else fs.nodes.lookup address

def set (fs : FileSystem) (address : Address) (node : Node) : FileSystem :=
  { fs with nodes := (address, node) :: fs.nodes.filter (·.1 != address) }

def erase (fs : FileSystem) (address : Address) : FileSystem :=
  { fs with nodes := fs.nodes.filter (·.1 != address) }

/-- Take away what is at an address and below it. -/
def eraseBelow (fs : FileSystem) (address : Address) : FileSystem :=
  { fs with nodes := fs.nodes.filter (!address.isPrefixOf ·.1) }

/-- What is below an address, each with the names that lead to it from there. -/
def below (fs : FileSystem) (address : Address) : List (Address × Node) :=
  fs.nodes.filterMap fun (place, node) =>
    if address.isPrefixOf place ∧ place ≠ address then some (place.drop address.length, node)
    else none

theorem lookup_filter_ne {nodes : List (Address × Node)} {erased address : Address}
    (different : address ≠ erased) :
    (nodes.filter (·.1 != erased)).lookup address = nodes.lookup address := by
  induction nodes with
  | nil => rfl
  | cons head tail ih =>
      obtain ⟨place, node⟩ := head
      by_cases same : place = erased
      · subst same
        have unequal : (address == place) = false := beq_eq_false_iff_ne.mpr different
        simp [List.lookup_cons, ih, unequal]
      · simp [List.lookup_cons, ih, same]

theorem find?_set_self (fs : FileSystem) {address : Address} (node : Node)
    (notRoot : address ≠ []) : (fs.set address node).find? address = some node := by
  simp [find?, set, notRoot]

theorem find?_set_of_ne (fs : FileSystem) {address other : Address} (node : Node)
    (different : other ≠ address) : (fs.set address node).find? other = fs.find? other := by
  have unequal : (other == address) = false := beq_eq_false_iff_ne.mpr different
  simp [find?, set, List.lookup_cons, unequal, lookup_filter_ne different]

theorem find?_erase_of_ne (fs : FileSystem) {address other : Address}
    (different : other ≠ address) : (fs.erase address).find? other = fs.find? other := by
  simp [find?, erase, lookup_filter_ne different]

/-! ## Following paths -/

/-- Stand on an address, which has to be a directory. -/
def stand (fs : FileSystem) (address : Address) : Except IoFault Unit :=
  match fs.find? address with
  | some .directory => pure ()
  | some (.file ..) => throw .notADirectory
  | none => throw .notFound

/-- A name in a directory. -/
def child (directory : Address) (name : Bytes) : Except IoFault Address :=
  if Path.maxName < name.length then throw .nameTooLong else pure (directory ++ [name])

/-- Follow steps from an address to something that exists. -/
def walk (fs : FileSystem) : Address → List Step → Except IoFault Address
  | address, [] => pure address
  | address, step :: steps => do
      fs.stand address
      match step with
      | .stay => walk fs address steps
      | .up => walk fs address.dropLast steps
      | .enter name =>
          let next ← child address name
          if (fs.find? next).isNone then
            throw .notFound
          walk fs next steps

def origin (fs : FileSystem) (path : Path) : Address :=
  if path.isAbsolute then [] else fs.workingDirectory

/-- Follow a path to something that exists. -/
def locate (fs : FileSystem) (path : Path) : Except IoFault Address := do
  path.check
  let address ← fs.walk (fs.origin path) path.steps
  if path.endsInSeparator then
    fs.stand address
  pure address

/-- The end of a path: the directory that its last step is taken from, and that step. -/
structure Destination where
  directory : Address
  last : Option Step

/-- Follow a path up to its last step, which may lead to something that does not exist. -/
def destination (fs : FileSystem) (path : Path) : Except IoFault Destination := do
  path.check
  let directory ← fs.walk (fs.origin path) path.steps.dropLast
  fs.stand directory
  pure ⟨directory, path.steps.getLast?⟩

/-! ## Operations -/

def isFile (fs : FileSystem) (path : Path) : Bool :=
  match fs.locate path with
  | .ok address => match fs.find? address with
    | some (.file ..) => true
    | _ => false
  | .error _ => false

def isDirectory (fs : FileSystem) (path : Path) : Bool :=
  match fs.locate path with
  | .ok address => fs.find? address == some .directory
  | .error _ => false

def read (fs : FileSystem) (path : Path) : Except IoFault Bytes := do
  let address ← fs.locate path
  match fs.find? address with
  | some (.file content _) => pure content
  | some .directory => throw .isADirectory
  | none => throw .notFound

/-- The address of a file that is to be written; the file need not exist. -/
def openForWriting (fs : FileSystem) (path : Path) : Except IoFault Address := do
  let destination ← fs.destination path
  match destination.last with
  | some (.enter name) =>
      if path.endsInSeparator then
        throw .isADirectory
      let address ← child destination.directory name
      if fs.find? address = some .directory then
        throw .isADirectory
      pure address
  | _ => throw .isADirectory

/-- Set the content of the file at an address; a new file cannot be executed. -/
def store (fs : FileSystem) (address : Address) (content : Bytes) : FileSystem :=
  match fs.find? address with
  | some (.file _ executable) => fs.set address (.file content executable)
  | _ => fs.set address (.file content false)

def write (fs : FileSystem) (path : Path) (content : Bytes) : Except IoFault FileSystem := do
  let address ← fs.openForWriting path
  pure (fs.store address content)

def append (fs : FileSystem) (path : Path) (content : Bytes) : Except IoFault FileSystem := do
  let address ← fs.openForWriting path
  let before := match fs.find? address with
    | some (.file content _) => content
    | _ => []
  pure (fs.store address (before ++ content))

def makeExecutable (fs : FileSystem) (path : Path) : Except IoFault FileSystem := do
  let address ← fs.locate path
  match fs.find? address with
  | some (.file content _) => pure (fs.set address (.file content true))
  | _ => pure fs

def makeDirectory (fs : FileSystem) (path : Path) : Except IoFault FileSystem := do
  let destination ← fs.destination path
  match destination.last with
  | some (.enter name) =>
      let address ← child destination.directory name
      if (fs.find? address).isSome then
        throw .fileExists
      pure (fs.set address .directory)
  | _ => throw .fileExists

def remove (fs : FileSystem) (path : Path) : Except IoFault FileSystem := do
  let destination ← fs.destination path
  match destination.last with
  | some (.enter name) =>
      let address ← child destination.directory name
      match fs.find? address with
      | none => throw .notFound
      | some .directory => throw .isADirectory
      | some (.file ..) =>
          if path.endsInSeparator then
            throw .notADirectory
          pure (fs.erase address)
  | _ => throw .isADirectory

/-- Move a file to another path, in the place of a file there. -/
def rename (fs : FileSystem) (source target : Path) : Except IoFault FileSystem := do
  let sourceEnd ← fs.destination source
  let targetEnd ← fs.destination target
  match sourceEnd.last, targetEnd.last with
  | some (.enter sourceName), some (.enter targetName) =>
      let sourceAddress ← child sourceEnd.directory sourceName
      match fs.find? sourceAddress with
      | none => throw .notFound
      | some .directory => throw .isADirectory
      | some (.file content executable) =>
          let targetAddress ← child targetEnd.directory targetName
          if source.endsInSeparator ∨ target.endsInSeparator then
            throw .notADirectory
          if fs.find? targetAddress = some .directory then
            throw .isADirectory
          pure ((fs.erase sourceAddress).set targetAddress (.file content executable))
  | _, _ => throw .busy

end FileSystem

end Restripe
