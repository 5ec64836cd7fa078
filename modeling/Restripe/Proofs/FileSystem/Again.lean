import Restripe.Proofs.FileSystem.Access

/-!
# Writing a file again

Once a file has been written, the directories on the way to it are there, and they stay.  So it can
be written again, and no directory is made for it, unless a directory has come to lie where the file
or the temporary file beside it goes.
-/

namespace Restripe

open FileSystem Outcome

namespace FileSystem

variable {fs middle after : FileSystem} {path source : Path} {paths : List Path}

/-! ## The way to a file -/

/-- The way to a file: there is a directory for its name. -/
def HasWay (fs : FileSystem) (path : Path) : Prop :=
  ∃ ending name, fs.destination path = .ok ending ∧ ending.last = some (.enter name) ∧
    path.endsInSeparator = false ∧ child ending.directory name = .ok (fs.target path)

/-- Nothing keeps a file from being written at the end of its way. -/
def IsFree (fs : FileSystem) (path : Path) : Prop :=
  fs.find? (fs.target path) ≠ some .directory

theorem hasWay_of_openForWriting {address : Address}
    (opened : fs.openForWriting path = .ok address) : fs.HasWay path := by
  have isTarget := (openForWriting_eq_ok opened).1
  subst isTarget
  exact path_of_openForWriting opened

theorem openForWriting_of_hasWay (way : fs.HasWay path) (free : fs.IsFree path) :
    fs.openForWriting path = .ok (fs.target path) := by
  obtain ⟨ending, name, found, last, notClosed, isChild⟩ := way
  simp [openForWriting, found, last, notClosed, isChild, show ¬_ from free]

theorem HasWay.of_writesOnly (way : fs.HasWay path) (writes : WritesOnly paths fs after) :
    after.HasWay path := by
  obtain ⟨ending, name, found, last, notClosed, isChild⟩ := way
  refine ⟨ending, name, destination_of_writesOnly found writes, last, notClosed, ?_⟩
  rwa [target_congr writes.workingDirectory]

theorem write_of_hasWay (way : fs.HasWay path) (free : fs.IsFree path) (content : Bytes) :
    ∃ after, fs.write path content = .ok after :=
  ⟨_, by rw [write, openForWriting_of_hasWay way free, ok_bind]; rfl⟩

theorem rename_of_hasWay (sourceWay : fs.HasWay source) (way : fs.HasWay path)
    (free : fs.IsFree path) {content : Bytes} {executable : Bool}
    (isFile : fs.find? (fs.target source) = some (.file content executable)) :
    ∃ after, fs.rename source path = .ok after := by
  obtain ⟨sourceEnd, sourceName, sourceFound, sourceLast, sourceOpen, sourceChild⟩ := sourceWay
  obtain ⟨ending, name, found, last, notClosed, isChild⟩ := way
  exact ⟨_, by simp [rename, sourceFound, found, sourceLast, last, sourceChild, isFile, isChild,
    sourceOpen, notClosed, show ¬_ from free]; rfl⟩

theorem remove_of_hasWay (way : fs.HasWay path) {content : Bytes} {executable : Bool}
    (isFile : fs.find? (fs.target path) = some (.file content executable)) :
    fs.remove path = .ok (fs.erase (fs.target path)) := by
  obtain ⟨ending, name, found, last, notClosed, isChild⟩ := way
  simp [remove, found, last, notClosed, isChild, isFile]

/-! ## Directories -/

theorem isDirectory_eq_true : fs.isDirectory path = true ↔
    ∃ address, fs.locate path = .ok address ∧ fs.find? address = some .directory := by
  unfold isDirectory
  cases fs.locate path <;> simp

theorem isDirectory_of_writesOnly (there : fs.isDirectory path = true)
    (writes : WritesOnly paths fs after) : after.isDirectory path = true := by
  obtain ⟨address, located, isDirectory⟩ := isDirectory_eq_true.mp there
  obtain ⟨checked, walked, -⟩ := locate_eq_ok.mp located
  have stays := writes.directories _ isDirectory
  refine isDirectory_eq_true.mpr ⟨address, locate_eq_ok.mpr ⟨checked, ?_, fun _ =>
    stand_eq_ok.mpr stays⟩, stays⟩
  rw [origin_congr writes.workingDirectory]
  exact walk_of_directories writes.directories walked (by simp [stays])

theorem isDirectory_of_makeDirectory (made : fs.makeDirectory path = .ok after) :
    after.isDirectory path = true := by
  have writes := writesOnly_makeDirectory made
  obtain ⟨nothing, isSet⟩ := makeDirectory_eq_ok made
  have notRoot : fs.target path ≠ [] := ne_root nothing (by simp)
  have isDirectory : after.find? (fs.target path) = some .directory :=
    isSet ▸ find?_set_self fs _ notRoot
  obtain ⟨ending, found, made⟩ := bind_eq_ok.mp made
  obtain ⟨_, checked, _⟩ := bind_eq_ok.mp found
  split at made
  · rename_i name last
    obtain ⟨address, isChild, -⟩ := bind_eq_ok.mp made
    have isTarget : address = fs.target path := by
      rw [eq_of_child isChild, target_of_destination found last]
    rw [isTarget] at isChild
    have walked := walk_of_destination (destination_of_writesOnly found writes) last isChild
      (by simp [isDirectory])
    exact isDirectory_eq_true.mpr ⟨_, locate_eq_ok.mpr ⟨checked, walked, fun _ =>
      stand_eq_ok.mpr isDirectory⟩, isDirectory⟩
  · cases made

/-- A walk that ends in a directory comes through one before its last step. -/
theorem walk_dropLast {start address : Address} {steps : List Step}
    (walked : fs.walk start steps = .ok address)
    (isDirectory : fs.find? address = some .directory) :
    ∃ directory, fs.walk start steps.dropLast = .ok directory ∧
      fs.find? directory = some .directory ∧
      ∀ name, steps.getLast? = some (.enter name) → child directory name = .ok address := by
  induction steps generalizing start with
  | nil =>
      have same : start = address := Except.ok.inj walked
      exact ⟨address, by rw [same]; rfl, isDirectory, by simp⟩
  | cons step steps ih =>
      simp only [walk] at walked
      obtain ⟨_, stands, rest⟩ := bind_eq_ok.mp walked
      cases steps with
      | nil =>
          refine ⟨start, rfl, stand_eq_ok.mp stands, fun name last => ?_⟩
          obtain rfl : step = .enter name := by simpa using last
          obtain ⟨next, isChild, rest⟩ := bind_eq_ok.mp rest
          split at rest
          · cases rest
          · have same : next = address := Except.ok.inj rest
            exact same ▸ isChild
      | cons following others =>
          rw [List.dropLast_cons_cons, List.getLast?_cons_cons]
          simp only [walk, stands, ok_bind]
          cases step with
          | stay => exact ih rest
          | up => exact ih rest
          | enter name =>
              obtain ⟨next, isChild, rest⟩ := bind_eq_ok.mp rest
              split at rest
              · cases rest
              · rename_i there
                simp only [isChild, ok_bind, if_neg there]
                exact ih rest

theorem makeDirectory_of_isDirectory (there : fs.isDirectory path = true) :
    fs.makeDirectory path = .error .fileExists := by
  obtain ⟨address, located, isDirectory⟩ := isDirectory_eq_true.mp there
  obtain ⟨checked, walked, -⟩ := locate_eq_ok.mp located
  obtain ⟨directory, before, stands, last⟩ := walk_dropLast walked isDirectory
  have found : fs.destination path = .ok ⟨directory, path.steps.getLast?⟩ := by
    simp [destination, checked, before, stand_eq_ok.mpr stands]
  rw [makeDirectory, found, ok_bind]
  split
  · rename_i name isLast
    simp [last name isLast, isDirectory]
  · rfl

/-- The directory that a file is to lie in is there. -/
def HasParent (fs : FileSystem) (path : Path) : Prop :=
  ∀ parent, path.parent? = some parent → parent.bytes = [] ∨ fs.isDirectory parent = true

theorem HasParent.of_writesOnly (there : fs.HasParent path) (writes : WritesOnly paths fs after) :
    after.HasParent path :=
  fun parent isParent => (there parent isParent).imp_right fun isDirectory =>
    isDirectory_of_writesOnly isDirectory writes

/-! ## The same directories -/

/-- No file changes but those at the addresses of these paths, and the directories are the same. -/
structure Rewrites (paths : List Path) (fs after : FileSystem) : Prop extends
    WritesOnly paths fs after where
  noneNew : ∀ address, after.find? address = some .directory → fs.find? address = some .directory

theorem Rewrites.trans (first : Rewrites paths fs middle) (second : Rewrites paths middle after) :
    Rewrites paths fs after :=
  ⟨first.toWritesOnly.trans second.toWritesOnly, fun address found =>
    first.noneNew address (second.noneNew address found)⟩

theorem Rewrites.mono {more : List Path} (rewrites : Rewrites paths fs after)
    (within : paths ⊆ more) : Rewrites more fs after :=
  ⟨rewrites.toWritesOnly.mono within, rewrites.noneNew⟩

theorem Rewrites.append {more : List Path} (first : Rewrites paths fs middle)
    (second : Rewrites more middle after) : Rewrites (paths ++ more) fs after :=
  (first.mono (List.subset_append_left paths more)).trans
    (second.mono (List.subset_append_right paths more))

theorem rewrites_write {content : Bytes} (written : fs.write path content = .ok after) :
    Rewrites [path] fs after := by
  refine ⟨writesOnly_write written, ?_⟩
  obtain ⟨-, same⟩ := write_eq_ok written
  obtain ⟨executable, stored⟩ := store_eq fs content (fs.target path)
  rw [same, stored]
  exact fun address => directory_of_set_file

theorem rewrites_rename (renamed : fs.rename source path = .ok after) :
    Rewrites [source, path] fs after := by
  refine ⟨writesOnly_rename renamed, ?_⟩
  obtain ⟨content, executable, -, -, same⟩ := rename_eq_ok renamed
  rw [same]
  exact fun address found => directory_of_erase (directory_of_set_file found)

theorem IsFree.of_rewrites (free : fs.IsFree path) (rewrites : Rewrites paths fs after) :
    after.IsFree path := by
  intro isDirectory
  rw [target_congr rewrites.workingDirectory] at isDirectory
  exact free (rewrites.noneNew _ isDirectory)

theorem IsFree.of_writesOnly (free : after.IsFree path) (writes : WritesOnly paths fs after) :
    fs.IsFree path := by
  intro isDirectory
  refine free ?_
  rw [target_congr writes.workingDirectory]
  exact writes.directories _ isDirectory

theorem isFree_of_content? {bytes : Bytes} (content : fs.content? (fs.target path) = some bytes) :
    fs.IsFree path := by
  intro isDirectory
  simp [content?, isDirectory] at content

theorem isFree_of_read {bytes : Bytes} (content : fs.read path = .ok bytes) : fs.IsFree path :=
  isFree_of_content? (read_eq_ok.mp content).2

end FileSystem

/-! ## Replacing a file again -/

namespace Disk

variable {fs after : FileSystem} {path : Path}

theorem isDirectory_of_makeDirectories
    (made : (makeDirectories path).perform fs = (.ok (), after)) :
    path.bytes = [] ∨ after.isDirectory path = true := by
  have make : ∀ {fs after : FileSystem}, (change (·.makeDirectory path)).perform fs
      = (.ok (), after) → after.isDirectory path = true :=
    fun done => isDirectory_of_makeDirectory (change_eq_ok.mp done)
  have accept : ∀ {fs after : FileSystem} (cause : Error), (do
      unless (← get).isDirectory path do throw cause : Disk Unit).perform fs
        = (.ok (), after) → after.isDirectory path = true := by
    intro fs after cause accepted
    rw [perform_unless_isDirectory] at accepted
    split at accepted
    · rename_i there
      exact (Prod.mk.inj accepted).2 ▸ there
    · cases (Prod.mk.inj accepted).1
  simp only [makeDirectories, makeDirectoriesUpTo] at made
  split at made
  · exact .inl ‹_›
  · refine .inr ?_
    rcases tryCatch_eq_ok.mp made with done | ⟨error, middle, -, handled⟩
    · exact make done
    · split at handled
      · have retry : ∀ {fs : FileSystem}, (tryCatch (change (·.makeDirectory path)) fun cause => do
            unless (← get).isDirectory path do throw cause : Disk Unit).perform fs
              = (.ok (), after) → after.isDirectory path = true := by
          intro fs retried
          rcases tryCatch_eq_ok.mp retried with done | ⟨cause, _, -, accepted⟩
          · exact make done
          · exact accept cause accepted
        split at handled
        · obtain ⟨_, _, -, retried⟩ := bind_eq_ok.mp handled
          exact retry retried
        · exact retry handled
      · exact accept _ handled

theorem perform_makeDirectories (there : path.bytes = [] ∨ fs.isDirectory path = true) :
    (makeDirectories path).perform fs = (.ok (), fs) := by
  simp only [makeDirectories, makeDirectoriesUpTo]
  split
  · rfl
  · rename_i nonempty
    have isDirectory := there.resolve_left nonempty
    have refused : (change (·.makeDirectory path)).perform fs = (.error (.io .fileExists), fs) := by
      rw [perform_change, makeDirectory_of_isDirectory isDirectory]
    rw [perform_tryCatch, refused]
    exact (perform_unless_isDirectory path _ fs).trans (if_pos isDirectory)

theorem hasParent_of_makeParents (made : (makeParents path).perform fs = (.ok (), after)) :
    after.HasParent path := by
  intro parent isParent
  rw [makeParents, isParent] at made
  exact isDirectory_of_makeDirectories made

theorem perform_makeParents (there : fs.HasParent path) :
    (makeParents path).perform fs = (.ok (), fs) := by
  unfold makeParents
  split
  · rename_i parent isParent
    exact perform_makeDirectories (there parent isParent)
  · rfl

end Disk

namespace FileSystem

open Disk

variable {fs middle after : FileSystem} {path : Path} {paths : List Path} {content : Bytes}

/-- A file can be written: the directories that this needs are there, and none is in the way. -/
structure Openable (fs : FileSystem) (path : Path) : Prop where
  parent : fs.HasParent path
  way : fs.HasWay path
  free : fs.IsFree path

theorem Openable.of_rewrites (openable : fs.Openable path) (rewrites : Rewrites paths fs after) :
    after.Openable path :=
  ⟨openable.parent.of_writesOnly rewrites.toWritesOnly,
    openable.way.of_writesOnly rewrites.toWritesOnly, openable.free.of_rewrites rewrites⟩

/-- A file can be replaced: it can be written, and so can the temporary file beside it. -/
structure Replaceable (fs : FileSystem) (path : Path) : Prop extends Openable fs path where
  temporary : fs.HasWay path.temporary
  freeTemporary : fs.IsFree path.temporary

theorem Replaceable.of_rewrites (replaceable : fs.Replaceable path)
    (rewrites : Rewrites paths fs after) : after.Replaceable path :=
  ⟨replaceable.toOpenable.of_rewrites rewrites,
    replaceable.temporary.of_writesOnly rewrites.toWritesOnly,
    replaceable.freeTemporary.of_rewrites rewrites⟩

theorem Openable.exists_write (openable : fs.Openable path) (content : Bytes) :
    ∃ after, (makeParents path >>= fun _ => Disk.write path content).perform fs = (.ok (), after) ∧
      Rewrites [path] fs after := by
  obtain ⟨after, written⟩ := write_of_hasWay openable.way openable.free content
  exact ⟨after, (perform_bind_ok (perform_makeParents openable.parent)).trans
    (change_eq_ok.mpr written), rewrites_write written⟩

/-- A file that can be replaced is, and no directory is made for it. -/
theorem Replaceable.exists_writeAtomic (replaceable : fs.Replaceable path) (content : Bytes) :
    ∃ after, (writeAtomic path content).perform fs = (.ok (), after) ∧
      Rewrites [path, path.temporary] fs after := by
  obtain ⟨created, creates⟩ := write_of_hasWay replaceable.temporary replaceable.freeTemporary []
  have createRewrites := rewrites_write creates
  obtain ⟨filled, fills⟩ := write_of_hasWay
    (replaceable.temporary.of_writesOnly createRewrites.toWritesOnly)
    (replaceable.freeTemporary.of_rewrites createRewrites) content
  have fillRewrites := createRewrites.trans (rewrites_write fills)
  have filledReplaceable := replaceable.of_rewrites fillRewrites
  obtain ⟨executable, isFile⟩ :=
    exists_file_of_content? (AtomicWrite.content?_of_write (change_eq_ok.mpr fills))
  obtain ⟨after, renames⟩ := rename_of_hasWay filledReplaceable.temporary filledReplaceable.way
    filledReplaceable.free isFile
  exact ⟨after, perform_writeAtomic_eq_ok.mpr ⟨fs, created, filled,
    perform_makeParents replaceable.parent, creates, fills, renames⟩,
    (fillRewrites.mono (by simp)).trans ((rewrites_rename renames).mono (by simp))⟩

/-- Once a file is replaced, it can be replaced again, if by then no directory has come to lie in
the way. -/
theorem replaceable_of_writeAtomic
    (written : (writeAtomic path content).perform fs = (.ok (), middle))
    (writes : WritesOnly paths middle after) (free : after.IsFree path)
    (freeTemporary : after.IsFree path.temporary) : after.Replaceable path := by
  obtain ⟨started, created, filled, parents, creates, fills, renames⟩ :=
    perform_writeAtomic_eq_ok.mp written
  obtain ⟨_, _, -, opened, -⟩ := rename_eq_ok renames
  have moves := writesOnly_rename renames
  have started_middle : WritesOnly [path.temporary, path] started middle :=
    (((writesOnly_write creates).trans (writesOnly_write fills)).mono (by simp)).trans moves
  have parent := (hasParent_of_makeParents parents).of_writesOnly started_middle
  have temporary := (hasWay_of_openForWriting (write_eq_ok creates).1).of_writesOnly started_middle
  have way := (hasWay_of_openForWriting opened).of_writesOnly moves
  exact ⟨⟨parent.of_writesOnly writes, way.of_writesOnly writes, free⟩,
    temporary.of_writesOnly writes, freeTemporary⟩

/-- The place of the temporary file is free where a file is replaced. -/
theorem isFree_temporary_of_writeAtomic
    (written : (writeAtomic path content).perform fs = (.ok (), after)) :
    fs.IsFree path.temporary := by
  obtain ⟨started, created, filled, parents, creates, -, -⟩ :=
    perform_writeAtomic_eq_ok.mp written
  have free : started.IsFree path.temporary := (openForWriting_eq_ok (write_eq_ok creates).1).2.2
  have parentWrites : WritesOnly [] fs started := (within_makeParents path).of_perform parents
  exact free.of_writesOnly parentWrites

/-- The place of the temporary file is free again once the file is replaced. -/
theorem isFree_temporary_after_writeAtomic
    (written : (writeAtomic path content).perform fs = (.ok (), after)) :
    after.IsFree path.temporary := by
  obtain ⟨filled, -, held, renames⟩ := rename_of_writeAtomic written
  exact (isFree_of_content? held).of_rewrites (rewrites_rename renames)

end FileSystem

end Restripe
