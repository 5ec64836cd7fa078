import Restripe.Error
import Restripe.FileSystem.Tree

/-!
# Computations over a file system

A computation reads and changes the file system and may end in an error; what it has changed by then
stays changed.
-/

namespace Restripe

/-- A computation over the file system. -/
abbrev Disk := ExceptT Error (StateM FileSystem)

namespace Disk

/-- Run a computation on a file system. -/
def perform (action : Disk α) (fs : FileSystem) : Except Error α × FileSystem :=
  Id.run (StateT.run (ExceptT.run action) fs)

def ask (query : FileSystem → Except IoFault α) : Disk α := do
  match query (← get) with
  | .ok value => pure value
  | .error fault => throw (.io fault)

def change (update : FileSystem → Except IoFault FileSystem) : Disk Unit := do
  match update (← get) with
  | .ok fs => set fs
  | .error fault => throw (.io fault)

def read (path : Path) : Disk Bytes := ask (·.read path)

def write (path : Path) (content : Bytes) : Disk Unit := change (·.write path content)

def makeExecutable (path : Path) : Disk Unit := change (·.makeExecutable path)

def remove (path : Path) : Disk Unit := change (·.remove path)

def rename (source target : Path) : Disk Unit := change (·.rename source target)

/-- Make a directory and the directories above it, at most `depth` of them.  A directory that is
there already will do. -/
def makeDirectoriesUpTo : (depth : Nat) → Path → Disk Unit
  | 0, _ => pure ()
  | depth + 1, path => do
      if path.bytes = [] then
        return
      let make : Disk Unit := change (·.makeDirectory path)
      let accept (cause : Error) : Disk Unit := do
        unless (← get).isDirectory path do
          throw cause
      try
        make
      catch
        | .io .notFound => do
            if let some parent := path.parent? then
              makeDirectoriesUpTo depth parent
            try make catch cause => accept cause
        | cause => accept cause

/-- Make a directory and the directories above it.  A path has fewer parents than bytes. -/
def makeDirectories (path : Path) : Disk Unit :=
  makeDirectoriesUpTo (path.bytes.length + 1) path

/-- Make the directory that a file is to lie in. -/
def makeParents (path : Path) : Disk Unit := do
  if let some parent := path.parent? then
    makeDirectories parent

/-- Take away a file, unless there is none. -/
def removeIfPresent (path : Path) : Disk Unit :=
  try remove path catch
    | .io .notFound => pure ()
    | cause => throw cause

end Disk

/-!
## Replacing a file in one step

A file is replaced by writing its new content to a temporary file beside it and moving that over it,
so a reader finds the old content or all of the new one.  The steps are values of their own, to be
followed one by one, also when another writer is at work or a step is refused.
-/

/-- The temporary file beside a path. -/
def Path.temporary (path : Path) : Path :=
  path.withFileName (path.fileName?.getD [] ++ Bytes.ofString ".tmp")

namespace AtomicWrite

/-- A step of replacing a file. -/
inductive Stage where
  | makeParents
  | createTemporary
  | fillTemporary
  | synchronize
  | publish
  deriving DecidableEq, Repr

/-- The steps in their order. -/
def stages : List Stage :=
  [.makeParents, .createTemporary, .fillTemporary, .synchronize, .publish]

/-- Take one step.  If the last one is refused, the temporary file is taken away. -/
def Stage.perform (path : Path) (content : Bytes) : Stage → Disk Unit
  | .makeParents => Disk.makeParents path
  | .createTemporary => Disk.write path.temporary []
  | .fillTemporary => Disk.write path.temporary content
  | .synchronize => pure ()
  | .publish =>
      try Disk.rename path.temporary path catch cause => do
        try Disk.remove path.temporary catch _ => pure ()
        throw cause

end AtomicWrite

/-- Replace a file in one step. -/
def writeAtomic (path : Path) (content : Bytes) : Disk Unit :=
  AtomicWrite.stages.forM (AtomicWrite.Stage.perform path content)

end Restripe
