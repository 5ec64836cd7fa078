import Restripe.Proofs.FileSystem.Frame

/-!
# Files that can be read and written again

What was written can be read and written again as long as nothing comes to stand in its way.
-/

/-!
## What stays readable

A path that leads to a file can be followed as long as every directory stays and the file is there.
So a file that was replaced can be read, and it stays readable while other files are written.
-/

namespace Restripe.FileSystem

open Outcome

variable {fs after : FileSystem} {path : Path} {paths : List Path} {bytes : Bytes}

/-! ### Walks -/

/-- Whatever is walked through is a directory, so only the end of a walk has to be there. -/
theorem walk_of_directories
    (directories : ∀ address, fs.find? address = some .directory →
      after.find? address = some .directory)
    {address result : Address} {steps : List Step} (walked : fs.walk address steps = .ok result)
    (found : (after.find? result).isSome) : after.walk address steps = .ok result := by
  induction steps generalizing address with
  | nil => exact walked
  | cons step steps ih =>
      simp only [walk] at walked ⊢
      obtain ⟨_, stands, rest⟩ := bind_eq_ok.mp walked
      rw [stand_eq_ok.mpr (directories address (stand_eq_ok.mp stands)), ok_bind]
      cases step with
      | stay => exact ih rest
      | up => exact ih rest
      | enter name =>
          obtain ⟨next, isChild, rest⟩ := bind_eq_ok.mp rest
          split at rest
          · cases rest
          · have stays : (after.find? next).isSome := by
              cases steps with
              | nil =>
                  have same : next = result := Except.ok.inj rest
                  exact same ▸ found
              | cons following others =>
                  obtain ⟨_, standsNext, _⟩ := bind_eq_ok.mp rest
                  rw [directories next (stand_eq_ok.mp standsNext)]
                  rfl
            simp only [isChild, ok_bind, Option.isNone_eq_false_iff.mpr stays]
            exact ih rest

/-- A walk to a directory goes on to a name in it. -/
theorem walk_concat {address directory next : Address} {steps : List Step} {name : Bytes}
    (walked : fs.walk address steps = .ok directory)
    (isDirectory : fs.find? directory = some .directory) (isChild : child directory name = .ok next)
    (found : (fs.find? next).isSome) : fs.walk address (steps ++ [.enter name]) = .ok next := by
  induction steps generalizing address with
  | nil =>
      have same : address = directory := Except.ok.inj walked
      simp [walk, same, stand_eq_ok.mpr isDirectory, isChild, Option.isSome_iff_ne_none.mp found]
  | cons step steps ih =>
      simp only [List.cons_append, walk] at walked ⊢
      obtain ⟨_, stands, rest⟩ := bind_eq_ok.mp walked
      rw [stands, ok_bind]
      cases step with
      | stay => exact ih rest
      | up => exact ih rest
      | enter other =>
          obtain ⟨between, isOther, rest⟩ := bind_eq_ok.mp rest
          split at rest
          · cases rest
          · rename_i there
            simp only [isOther, ok_bind, if_neg there]
            exact ih rest

/-! ### Files -/

theorem exists_file_of_content? {address : Address} (content : fs.content? address = some bytes) :
    ∃ executable, fs.find? address = some (.file bytes executable) := by
  unfold content? at content
  split at content
  · rename_i executable found
    exact ⟨executable, by rw [found, Option.some.inj content]⟩
  · cases content

theorem isSome_of_content? {address : Address} (content : fs.content? address = some bytes) :
    (fs.find? address).isSome := by
  obtain ⟨executable, found⟩ := exists_file_of_content? content
  rw [found]
  rfl

theorem endsInSeparator_of_read (read : fs.read path = .ok bytes) :
    path.endsInSeparator = false := by
  obtain ⟨located, content⟩ := read_eq_ok.mp read
  cases closed : path.endsInSeparator with
  | false => rfl
  | true =>
      have isDirectory := stand_eq_ok.mp ((locate_eq_ok.mp located).2.2 closed)
      simp [content?, isDirectory] at content

theorem origin_congr (same : after.workingDirectory = fs.workingDirectory) (path : Path) :
    after.origin path = fs.origin path := by
  simp only [origin, same]

/-- A file stays readable while other files are written. -/
theorem read_of_writesOnly (read : fs.read path = .ok bytes) (writes : WritesOnly paths fs after)
    (elsewhere : ∀ other ∈ paths, fs.target other ≠ fs.target path) :
    after.read path = .ok bytes := by
  obtain ⟨located, content⟩ := read_eq_ok.mp read
  obtain ⟨checked, walked, _⟩ := locate_eq_ok.mp located
  have notClosed := endsInSeparator_of_read read
  have kept : after.content? (fs.target path) = some bytes := by
    rw [writes.contents _ elsewhere, content]
  rw [read_eq_ok, target_congr writes.workingDirectory, locate_eq_ok,
    origin_congr writes.workingDirectory]
  exact ⟨⟨checked, walk_of_directories writes.directories walked (isSome_of_content? kept),
    by simp [notClosed]⟩, kept⟩

/-- The end of a path stays as long as the directories do. -/
theorem destination_of_writesOnly {ending : Destination} (found : fs.destination path = .ok ending)
    (writes : WritesOnly paths fs after) : after.destination path = .ok ending := by
  obtain ⟨isLast, walked, isDirectory⟩ := destination_eq_ok found
  obtain ⟨_, checked, _⟩ := bind_eq_ok.mp found
  have stays := writes.directories _ isDirectory
  have walkedAfter := walk_of_directories writes.directories walked (by simp [stays])
  rw [← origin_congr writes.workingDirectory] at walkedAfter
  simp [destination, checked, walkedAfter, stand_eq_ok.mpr stays, ← isLast]

/-- A path is followed to what is there at its end. -/
theorem walk_of_destination {ending : Destination} {name : Bytes} {address : Address}
    (found : fs.destination path = .ok ending) (last : ending.last = some (.enter name))
    (isChild : child ending.directory name = .ok address) (there : (fs.find? address).isSome) :
    fs.walk (fs.origin path) path.steps = .ok address := by
  obtain ⟨isLast, walked, isDirectory⟩ := destination_eq_ok found
  obtain ⟨start, split⟩ := List.getLast?_eq_some_iff.mp (isLast.symm.trans last)
  rw [split, List.dropLast_concat] at walked
  rw [split]
  exact walk_concat walked isDirectory isChild there

/-- The way to a file that is opened for writing. -/
theorem path_of_openForWriting {address : Address} (opened : fs.openForWriting path = .ok address) :
    ∃ ending name, fs.destination path = .ok ending ∧ ending.last = some (.enter name) ∧
      path.endsInSeparator = false ∧ child ending.directory name = .ok address := by
  obtain ⟨ending, found, opened⟩ := bind_eq_ok.mp opened
  split at opened
  · rename_i name last
    split at opened
    · cases opened
    · rename_i notClosed
      obtain ⟨place, isChild, opened⟩ := bind_eq_ok.mp opened
      split at opened
      · cases opened
      · have same : place = address := Except.ok.inj opened
        exact ⟨ending, name, found, last, by simpa using notClosed, same ▸ isChild⟩
  · cases opened

/-- A file that was opened for writing can be read, once it is there and the directories are. -/
theorem read_of_openForWriting {address : Address} (opened : fs.openForWriting path = .ok address)
    (writes : WritesOnly paths fs after)
    (content : after.content? (after.target path) = some bytes) :
    after.read path = .ok bytes := by
  obtain ⟨ending, name, found, last, notClosed, isChild⟩ := path_of_openForWriting opened
  obtain ⟨_, checked, _⟩ := bind_eq_ok.mp found
  have same : address = after.target path := by
    rw [target_congr writes.workingDirectory, (openForWriting_eq_ok opened).1]
  have walked := walk_of_destination (destination_of_writesOnly found writes) last
    (same ▸ isChild) (isSome_of_content? content)
  exact read_eq_ok.mpr ⟨locate_eq_ok.mpr ⟨checked, walked, by simp [notClosed]⟩, content⟩

theorem read_of_writeAtomic {content : Bytes}
    (written : (writeAtomic path content).perform fs = (.ok (), after)) :
    after.read path = .ok content := by
  obtain ⟨middle, _, opened, writes, held⟩ := writeAtomic_eq_ok written
  exact read_of_openForWriting opened writes held

end Restripe.FileSystem

/-!
## Writes that succeed

A program that writes the same files again and again relies on more than that each can be written
now: whatever it has written so far must not stand in the way of what it writes next.  Files are
writable in that sense where each of the writes succeeds in every file system that the writes lead
to.  Names that all lie in one directory are an example.
-/

namespace Restripe

open FileSystem Outcome

/-- The file systems that some of the writes lead to. -/
inductive Reaches (writes : Disk Unit → Prop) (fs : FileSystem) : FileSystem → Prop where
  | refl : Reaches writes fs fs
  | next {middle after : FileSystem} {action : Disk Unit} (reached : Reaches writes fs middle)
      (isWrite : writes action) (done : action.perform middle = (.ok (), after)) :
      Reaches writes fs after

/-- However much has been written, each of the writes succeeds. -/
def Writable (writes : Disk Unit → Prop) (fs : FileSystem) : Prop :=
  ∀ middle, Reaches writes fs middle → ∀ action, writes action →
    ∃ after, action.perform middle = (.ok (), after)

section Writable

variable {writes : Disk Unit → Prop} {fs middle after : FileSystem} {action : Disk Unit}

theorem Reaches.prepend (isWrite : writes action) (done : action.perform fs = (.ok (), middle))
    (reached : Reaches writes middle after) : Reaches writes fs after := by
  induction reached with
  | refl => exact .next .refl isWrite done
  | next _ isNext nextDone ih => exact .next ih isNext nextDone

/-- A write succeeds, and what can be written before it can be written after it. -/
theorem Writable.exists_perform (writable : Writable writes fs) (isWrite : writes action) :
    ∃ after, action.perform fs = (.ok (), after) ∧ Writable writes after := by
  obtain ⟨after, done⟩ := writable fs .refl action isWrite
  exact ⟨after, done, fun middle reached => writable middle (reached.prepend isWrite done)⟩

theorem writable_of_invariant {invariant : FileSystem → Prop} (start : invariant fs)
    (kept : ∀ fs, invariant fs → ∀ action, writes action →
      ∃ after, action.perform fs = (.ok (), after) ∧ invariant after) : Writable writes fs := by
  have everywhere : ∀ middle, Reaches writes fs middle → invariant middle := by
    intro middle reached
    induction reached with
    | refl => exact start
    | @next middle after action _ isWrite done ih =>
        obtain ⟨other, otherDone, isKept⟩ := kept middle ih action isWrite
        rw [done] at otherDone
        exact (Prod.mk.inj otherDone).2 ▸ isKept
  intro middle reached action isWrite
  obtain ⟨after, done, _⟩ := kept middle (everywhere middle reached) action isWrite
  exact ⟨after, done⟩

end Writable

/-! ### Names in one directory -/

/-- A path that is a name alone. -/
structure Path.IsBare (path : Path) : Prop where
  ordinary : Path.IsName path.bytes
  noNul : 0 ∉ path.bytes
  short : path.bytes.length ≤ Path.maxName

/-- There is no directory but the root, and relative paths start there. -/
structure FileSystem.IsFlat (fs : FileSystem) : Prop where
  workingDirectory : fs.workingDirectory = []
  root : ∀ address, fs.find? address = some .directory → address = []

instance (path : Path) : Decidable path.IsBare :=
  decidable_of_iff ((path.bytes ≠ [] ∧ Path.separator ∉ path.bytes ∧
      path.bytes ≠ Path.currentSegment ∧ path.bytes ≠ Path.parentSegment) ∧ 0 ∉ path.bytes ∧
      path.bytes.length ≤ Path.maxName)
    ⟨fun ⟨⟨nonempty, unseparated, notCurrent, notParent⟩, noNul, short⟩ =>
      ⟨⟨nonempty, unseparated, notCurrent, notParent⟩, noNul, short⟩,
    fun bare => ⟨⟨bare.ordinary.nonempty, bare.ordinary.unseparated, bare.ordinary.not_current,
      bare.ordinary.not_parent⟩, bare.noNul, bare.short⟩⟩

namespace Path.IsBare

variable {path : Path} (bare : path.IsBare)

include bare

theorem segments_eq : segments path.bytes = (path.bytes, []) :=
  segments_of_notMem bare.ordinary.unseparated

theorem steps_eq : path.steps = [.enter path.bytes] := by
  simp [steps, bare.segments_eq, step, bare.ordinary.nonempty, bare.ordinary.not_current,
    bare.ordinary.not_parent]

theorem parent?_eq : path.parent? = some ⟨[]⟩ := by
  simp [parent?, bare.segments_eq, dropSilent, bare.ordinary.nonempty]

theorem endsInSeparator_eq : path.endsInSeparator = false := by
  have last : path.bytes.getLast? ≠ some separator := fun closed =>
    bare.ordinary.unseparated (List.mem_of_getLast? closed)
  simpa [endsInSeparator] using last

theorem check_eq : path.check = .ok () := by
  have length : ¬maxLength < path.bytes.length :=
    Nat.not_lt.mpr (Nat.le_trans bare.short (by decide))
  simp [check, bare.noNul, bare.ordinary.nonempty, length]

theorem child_eq : FileSystem.child [] path.bytes = .ok [path.bytes] := by
  simp [FileSystem.child, Nat.not_lt.mpr bare.short]

theorem perform_makeParents (fs : FileSystem) :
    (Disk.makeParents path).perform fs = (.ok (), fs) := by
  simp [Disk.makeParents, bare.parent?_eq, Disk.makeDirectories, Disk.makeDirectoriesUpTo]

theorem temporary (room : path.bytes.length + 4 ≤ maxName) : path.temporary.IsBare := by
  have ordinary := bare.ordinary.append_temporary
  have named : path.fileName? = some path.bytes := by
    simp [fileName?, components, bare.segments_eq, leadingComponent, bare.ordinary.nonempty,
      bare.ordinary.not_current, bare.ordinary.component_eq]
  have same : path.temporary = ⟨path.bytes ++ Bytes.ofString ".tmp"⟩ := by
    simp [Path.temporary, withFileName, named, bare.parent?_eq, join, ordinary.not_absolute]
  rw [same]
  refine ⟨ordinary, ?_, ?_⟩
  · intro member
    rcases List.mem_append.mp member with inName | inSuffix
    · exact bare.noNul inName
    · exact absurd inSuffix (by decide)
  · rwa [List.length_append, length_temporarySuffix]

end Path.IsBare

namespace FileSystem.IsFlat

variable {fs : FileSystem} {path : Path} (flat : fs.IsFlat)

include flat

theorem find?_ne {name : Bytes} : fs.find? [name] ≠ some .directory := by
  intro isDirectory
  exact absurd (flat.root _ isDirectory) (by simp)

theorem set_file (address : Address) (content : Bytes) (executable : Bool) :
    (fs.set address (.file content executable)).IsFlat :=
  ⟨flat.workingDirectory, fun other found => flat.root other (directory_of_set_file found)⟩

theorem erase (address : Address) : (fs.erase address).IsFlat :=
  ⟨flat.workingDirectory, fun other found => flat.root other (directory_of_erase found)⟩

variable (bare : path.IsBare)

include bare

theorem destination_eq : fs.destination path = .ok ⟨[], some (.enter path.bytes)⟩ := by
  have relative : path.isAbsolute = false := bare.ordinary.not_absolute
  simp [destination, bare.check_eq, bare.steps_eq, origin, relative, flat.workingDirectory, walk,
    stand, find?]

theorem write_eq (content : Bytes) :
    ∃ executable, fs.write path content = .ok (fs.set [path.bytes] (.file content executable)) := by
  have opened : fs.openForWriting path = .ok [path.bytes] := by
    simp [openForWriting, flat.destination_eq bare, bare.endsInSeparator_eq, bare.child_eq,
      flat.find?_ne]
  obtain ⟨executable, stored⟩ := store_eq fs content [path.bytes]
  exact ⟨executable, by rw [write, opened, ok_bind, stored]; rfl⟩

theorem perform_write (content : Bytes) : ∃ executable, (Disk.write path content).perform fs =
    (.ok (), fs.set [path.bytes] (.file content executable)) := by
  obtain ⟨executable, written⟩ := flat.write_eq bare content
  exact ⟨executable, by rw [Disk.write, Disk.perform_change, written]⟩

theorem rename_eq {source : Path} (bareSource : source.IsBare) {content : Bytes}
    {executable : Bool} (isFile : fs.find? [source.bytes] = some (.file content executable)) :
    fs.rename source path =
      .ok ((fs.erase [source.bytes]).set [path.bytes] (.file content executable)) := by
  simp [rename, flat.destination_eq bare, flat.destination_eq bareSource, bare.child_eq,
    bareSource.child_eq, bare.endsInSeparator_eq, bareSource.endsInSeparator_eq, isFile,
    flat.find?_ne]

theorem exists_writeAtomic (room : path.bytes.length + 4 ≤ Path.maxName) (content : Bytes) :
    ∃ after, (writeAtomic path content).perform fs = (.ok (), after) ∧ after.IsFlat := by
  have bareTemporary := bare.temporary room
  obtain ⟨empty, created⟩ := flat.perform_write bareTemporary []
  have createdFlat := flat.set_file [path.temporary.bytes] [] empty
  obtain ⟨executable, filled⟩ := createdFlat.perform_write bareTemporary content
  have filledFlat := createdFlat.set_file [path.temporary.bytes] content executable
  have renamed := filledFlat.rename_eq bare bareTemporary
    (find?_set_self _ (.file content executable) (by simp))
  refine ⟨_, ?_, (filledFlat.erase [path.temporary.bytes]).set_file [path.bytes] content
    executable⟩
  rw [AtomicWrite.writeAtomic_eq, AtomicWrite.prepare]
  simp only [Disk.perform_bind, bare.perform_makeParents, created, filled,
    AtomicWrite.perform_publish, renamed]

end FileSystem.IsFlat

end Restripe
