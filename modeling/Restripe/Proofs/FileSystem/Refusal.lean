import Restripe.Proofs.FileSystem.Again
import Restripe.Proofs.FileSystem.Descent

/-!
# Replacing a file where steps are refused

The operating system may refuse any step of replacing a file for reasons that no file shows: a full
disk, a quota, a worn-out device.  Where it refuses the last step, the temporary file is taken away.
Where it refuses the step that fills the temporary file or the one after that, the temporary file
stays with as much of the content as was written.  Either way the file itself is as it was.
-/

namespace Restripe

open FileSystem Outcome

namespace FileSystem

/-- No node changes but those at the addresses of these paths, except that directories are added. -/
structure Spares (paths : List Path) (fs after : FileSystem) : Prop extends
    WritesOnly paths fs after where
  nodes : ∀ address, (∀ path ∈ paths, fs.target path ≠ address) →
    after.find? address = fs.find? address ∨
      fs.find? address = none ∧ after.find? address = some .directory

variable {paths more : List Path} {fs middle after : FileSystem} {path : Path}

namespace Spares

theorem refl (paths : List Path) (fs : FileSystem) : Spares paths fs fs :=
  ⟨.refl paths fs, fun _ _ => .inl rfl⟩

theorem trans (first : Spares paths fs middle) (second : Spares paths middle after) :
    Spares paths fs after := by
  refine ⟨first.toWritesOnly.trans second.toWritesOnly, fun address elsewhere => ?_⟩
  have elsewhereMiddle : ∀ path ∈ paths, middle.target path ≠ address := fun path member => by
    rw [target_congr first.workingDirectory]
    exact elsewhere path member
  rcases first.nodes address elsewhere with same | ⟨nothing, added⟩
  · rw [← same]
    exact second.nodes address elsewhereMiddle
  · exact .inr ⟨nothing, second.directories address added⟩

theorem mono (spares : Spares paths fs after) (within : paths ⊆ more) : Spares more fs after :=
  ⟨spares.toWritesOnly.mono within, fun address elsewhere =>
    spares.nodes address fun path member => elsewhere path (within member)⟩

instance : Std.Refl (Spares paths) := ⟨refl paths⟩

instance : IsTrans FileSystem (Spares paths) := ⟨fun _ _ _ => trans⟩

/-- What was at an address of no path is still there. -/
theorem find?_eq {node : Node} {address : Address} (spares : Spares paths fs after)
    (elsewhere : ∀ path ∈ paths, fs.target path ≠ address) (there : fs.find? address = some node) :
    after.find? address = some node := by
  rcases spares.nodes address elsewhere with same | ⟨nothing, -⟩
  · rw [same, there]
  · rw [nothing] at there
    cases there

end Spares

theorem spares_write {content : Bytes} (written : fs.write path content = .ok after) :
    Spares [path] fs after := by
  refine ⟨writesOnly_write written, fun address elsewhere => .inl ?_⟩
  obtain ⟨-, same⟩ := write_eq_ok written
  obtain ⟨executable, stored⟩ := store_eq fs content (fs.target path)
  rw [same, stored, find?_set_of_ne fs _ (elsewhere path List.mem_cons_self).symm]

theorem spares_remove (removed : fs.remove path = .ok after) : Spares [path] fs after := by
  refine ⟨writesOnly_remove removed, fun address elsewhere => .inl ?_⟩
  obtain ⟨-, same⟩ := remove_eq_ok removed
  rw [same, find?_erase_of_ne fs (elsewhere path List.mem_cons_self).symm]

theorem spares_rename {source : Path} (renamed : fs.rename source path = .ok after) :
    Spares [source, path] fs after := by
  refine ⟨writesOnly_rename renamed, fun address elsewhere => .inl ?_⟩
  obtain ⟨content, executable, -, -, same⟩ := rename_eq_ok renamed
  rw [same, find?_set_of_ne _ _ (elsewhere path (by simp)).symm,
    find?_erase_of_ne fs (elsewhere source (by simp)).symm]

theorem spares_makeDirectory (made : fs.makeDirectory path = .ok after) : Spares [] fs after := by
  refine ⟨writesOnly_makeDirectory made, fun address _ => ?_⟩
  obtain ⟨nothing, same⟩ := makeDirectory_eq_ok made
  by_cases here : address = fs.target path
  · rw [here, same]
    exact .inr ⟨nothing, find?_set_self fs _ (ne_root nothing (by simp))⟩
  · rw [same]
    exact .inl (find?_set_of_ne fs _ here)

theorem within_makeParents_spares (path : Path) :
    (Disk.makeParents path).Within (Spares paths) := by
  have make : ∀ path : Path, (Disk.change (·.makeDirectory path)).Within (Spares paths) :=
    fun path => Disk.within_change fun _ _ made => (spares_makeDirectory made).mono (by simp)
  exact Disk.within_makeParents_of_make make path

end FileSystem

namespace AtomicWrite

variable {path : Path} {content bytes : Bytes} {take : Stage → Disk Unit}
  {fs before after : FileSystem} {cause : Error}

/-! ## A system that refuses steps -/

/-- Take away the temporary file, unless that is refused too. -/
def tidy (path : Path) : Disk Unit :=
  try Disk.remove path.temporary catch _ => pure ()

/-- What is there after a step that the system refuses: there may be some of the directories, or
some of the content in the temporary file. -/
inductive Refused (path : Path) (content : Bytes) (fs : FileSystem) :
    Stage → FileSystem → Prop where
  | makeParents {after : FileSystem} (made : Spares [] fs after) :
      Refused path content fs .makeParents after
  | createTemporary : Refused path content fs .createTemporary fs
  | fillTemporary {after : FileSystem} (count : Nat)
      (written : fs.write path.temporary (content.take count) = .ok after) :
      Refused path content fs .fillTemporary after
  | synchronize : Refused path content fs .synchronize fs
  | publish : Refused path content fs .publish ((tidy path).perform fs).2

/-- A system that takes each step as it is, or refuses it. -/
def Fallible (path : Path) (content : Bytes) (take : Stage → Disk Unit) : Prop :=
  ∀ stage fs, (take stage).perform fs = (stage.perform path content).perform fs ∨
    ∃ cause after, (take stage).perform fs = (.error cause, after) ∧
      Refused path content fs stage after

/-- The steps before one are taken. -/
def Reaches (take : Stage → Disk Unit) (fs : FileSystem) (stage : Stage) (before : FileSystem) :
    Prop :=
  ((stages.takeWhile (· ≠ stage)).forM take).perform fs = (.ok (), before)

/-- What is left where a step is the last one. -/
def Leaves (path : Path) (content : Bytes) (fs after : FileSystem) : Stage → Prop
  | .makeParents | .createTemporary => Spares [] fs after
  | .fillTemporary =>
      ∃ count, after.content? (after.target path.temporary) = some (content.take count)
  | .synchronize => after.content? (after.target path.temporary) = some content
  | .publish => after.find? (after.target path.temporary) = none

/-! ## Steps -/

namespace Fallible

variable (fallible : Fallible path content take)

include fallible

theorem perform_of_ok {stage : Stage} (taken : (take stage).perform before = (.ok (), after)) :
    (stage.perform path content).perform before = (.ok (), after) := by
  rcases fallible stage before with same | ⟨cause, refused, isRefused, -⟩
  · rw [← same, taken]
  · rw [isRefused] at taken
    cases taken

theorem error_cases {stage : Stage}
    (failed : (take stage).perform before = (.error cause, after)) :
    (stage.perform path content).perform before = (.error cause, after) ∨
      Refused path content before stage after := by
  rcases fallible stage before with same | ⟨_, left, failing, refused⟩
  · exact .inl (same ▸ failed)
  · obtain rfl : left = after := (Prod.mk.inj (failing.symm.trans failed)).2
    exact .inr refused

theorem forM_of_ok {list : List Stage} (taken : (list.forM take).perform fs = (.ok (), after)) :
    (list.forM (Stage.perform path content)).perform fs = (.ok (), after) := by
  induction list generalizing fs with
  | nil => exact taken
  | cons stage list ih =>
      obtain ⟨_, middle, first, rest⟩ := Disk.bind_eq_ok.mp taken
      exact (Disk.perform_bind_ok (fallible.perform_of_ok first)).trans (ih rest)

end Fallible

/-- The temporary file holds these bytes, and nothing else has changed but for new directories. -/
structure Holds (path : Path) (bytes : Bytes) (fs now : FileSystem) : Prop where
  spares : Spares [path.temporary] fs now
  way : now.HasWay path.temporary
  content : now.content? (now.target path.temporary) = some bytes

theorem holds_of_write (spares : Spares [path.temporary] fs before)
    (written : before.write path.temporary bytes = .ok after) : Holds path bytes fs after :=
  ⟨spares.trans (spares_write written),
    (hasWay_of_openForWriting (write_eq_ok written).1).of_writesOnly (writesOnly_write written),
    content?_of_write (Disk.change_eq_ok.mpr written)⟩

namespace Holds

variable {now : FileSystem} (holds : Holds path bytes fs now)

include holds

theorem exists_write (content : Bytes) : ∃ after, now.write path.temporary content = .ok after :=
  write_of_hasWay holds.way (isFree_of_content? holds.content) content

theorem tidied (tidied : after = ((tidy path).perform now).2) :
    Spares [path.temporary] fs after ∧ after.find? (after.target path.temporary) = none := by
  obtain ⟨executable, isFile⟩ := exists_file_of_content? holds.content
  have removed := remove_of_hasWay holds.way isFile
  obtain rfl : after = now.erase (now.target path.temporary) := by
    rw [tidied, tidy, Disk.perform_tryCatch, Disk.remove, Disk.perform_change, removed]
  refine ⟨holds.spares.trans (spares_remove removed), ?_⟩
  rw [target_congr rfl]
  exact find?_erase_self (ne_root isFile (by simp))

end Holds

theorem forM_concat {list : List Stage} {stage : Stage}
    (reached : (list.forM take).perform fs = (.ok (), before))
    (taken : (take stage).perform before = (.ok (), after)) :
    ((list ++ [stage]).forM take).perform fs = (.ok (), after) := by
  induction list generalizing fs with
  | nil =>
      obtain rfl : fs = before := (Prod.mk.inj reached).2
      exact Disk.perform_bind_ok taken
  | cons first list ih =>
      obtain ⟨_, middle, start, rest⟩ := Disk.bind_eq_ok.mp reached
      exact (Disk.perform_bind_ok start).trans (ih rest)

/-! ## Steps that fail -/

section Failing

variable (fallible : Fallible path content take)

include fallible

/-- Where the directories cannot all be made, some of them may be there. -/
theorem spares_of_makeParents_error
    (failed : (take .makeParents).perform fs = (.error cause, after)) : Spares [] fs after := by
  rcases fallible.error_cases failed with own | refused
  · exact (within_makeParents_spares path).of_perform own
  · cases refused with
    | makeParents made => exact made

theorem eq_of_createTemporary_error
    (failed : (take .createTemporary).perform before = (.error cause, after)) : after = before := by
  rcases fallible.error_cases failed with own | refused
  · rw [Stage.perform, Disk.write, Disk.perform_change] at own
    split at own <;> cases own
    rfl
  · cases refused
    rfl

/-- Where the temporary file cannot be filled, it holds some of the content. -/
theorem holds_of_fillTemporary_error (holds : Holds path bytes fs before)
    (failed : (take .fillTemporary).perform before = (.error cause, after)) :
    ∃ count, Holds path (content.take count) fs after := by
  rcases fallible.error_cases failed with own | refused
  · obtain ⟨filled, fills⟩ := holds.exists_write content
    rw [Stage.perform, Disk.write, Disk.perform_change, fills] at own
    cases own
  · cases refused with
    | fillTemporary count written => exact ⟨count, holds_of_write holds.spares written⟩

theorem eq_of_synchronize_error
    (failed : (take .synchronize).perform before = (.error cause, after)) : after = before := by
  rcases fallible.error_cases failed with own | refused
  · cases own
  · cases refused
    rfl

/-- Where the temporary file cannot be moved, it is taken away. -/
theorem eq_of_publish_error
    (failed : (take .publish).perform before = (.error cause, after)) :
    after = ((tidy path).perform before).2 := by
  rcases fallible.error_cases failed with own | refused
  · rw [perform_publish] at own
    split at own <;> cases own
    rfl
  · cases refused
    rfl

/-- What is left depends on the step that fails. -/
theorem leaves_of_error (failed : (stages.forM take).perform fs = (.error cause, after)) :
    Spares [path.temporary] fs after ∧ ∃ stage before, Reaches take fs stage before ∧
      (take stage).perform before = (.error cause, after) ∧
      Leaves path content fs after stage := by
  -- either a step fails, or the next one starts from what it leaves
  rcases Disk.bind_eq_error.mp failed with parents | ⟨_, started, parents, failed⟩
  · have spares := spares_of_makeParents_error fallible parents
    exact ⟨spares.mono (by simp), .makeParents, fs, rfl, parents, spares⟩
  have toStarted : Reaches take fs .createTemporary started := Disk.perform_bind_ok parents
  have begun : Spares [] fs started :=
    (within_makeParents_spares path).of_perform (fallible.perform_of_ok parents)
  rcases Disk.bind_eq_error.mp failed with create | ⟨_, created, create, failed⟩
  · obtain rfl := eq_of_createTemporary_error fallible create
    exact ⟨begun.mono (by simp), .createTemporary, after, toStarted, create, begun⟩
  have toCreated : Reaches take fs .fillTemporary created := forM_concat toStarted create
  have empty : Holds path [] fs created :=
    holds_of_write (begun.mono (by simp)) (Disk.change_eq_ok.mp (fallible.perform_of_ok create))
  rcases Disk.bind_eq_error.mp failed with fill | ⟨_, filled, fill, failed⟩
  · obtain ⟨count, partly⟩ := holds_of_fillTemporary_error fallible empty fill
    exact ⟨partly.spares, .fillTemporary, created, toCreated, fill, count, partly.content⟩
  have toFilled : Reaches take fs .synchronize filled := forM_concat toCreated fill
  have full : Holds path content fs filled :=
    holds_of_write empty.spares (Disk.change_eq_ok.mp (fallible.perform_of_ok fill))
  rcases Disk.bind_eq_error.mp failed with synchronize | ⟨_, synchronized, synchronize, failed⟩
  · obtain rfl := eq_of_synchronize_error fallible synchronize
    exact ⟨full.spares, .synchronize, after, toFilled, synchronize, full.content⟩
  obtain rfl : filled = synchronized := (Prod.mk.inj (fallible.perform_of_ok synchronize)).2
  have toSynchronized : Reaches take fs .publish filled := forM_concat toFilled synchronize
  rcases Disk.bind_eq_error.mp failed with publish | ⟨_, _, _, impossible⟩
  · obtain ⟨spares, gone⟩ := full.tidied (eq_of_publish_error fallible publish)
    exact ⟨spares, .publish, filled, toSynchronized, publish, gone⟩
  · cases impossible

end Failing

/-! ## Replacing a file -/

/-- A file that is replaced in spite of everything is left as on a system that refuses nothing. -/
theorem spares_of_writeAtomic (written : (writeAtomic path content).perform fs = (.ok (), after)) :
    Spares [path.temporary, path] fs after := by
  obtain ⟨started, created, filled, parents, creates, fills, renames⟩ :=
    perform_writeAtomic_eq_ok.mp written
  have begun : Spares [path.temporary, path] fs started :=
    (within_makeParents_spares path).of_perform parents
  exact begun.trans <| ((spares_write creates).mono (by simp)).trans <|
    ((spares_write fills).mono (by simp)).trans (spares_rename renames)

theorem find?_temporary_of_writeAtomic
    (written : (writeAtomic path content).perform fs = (.ok (), after)) :
    after.find? (after.target path.temporary) = none := by
  have noContent := content?_temporary_of_writeAtomic written
  have free : after.find? (after.target path.temporary) ≠ some .directory :=
    isFree_temporary_after_writeAtomic written
  unfold content? at noContent
  split at noContent
  · cases noContent
  · rename_i notFile
    cases found : after.find? (after.target path.temporary) with
    | none => rfl
    | some node => cases node <;> simp_all

/-- On a system that may refuse any step, a file is replaced by all of the content or stays as it
was.  What a call that fails may leave are new directories, and the temporary file where filling it
or bringing it to the disk is refused.  A path that never goes up leads to what it has led to. -/
theorem spares_of_fallible (fallible : Fallible path content take) (fs : FileSystem) :
    (∀ after, (stages.forM take).perform fs = (.ok (), after) →
      after.read path = .ok content ∧ after.find? (after.target path.temporary) = none ∧
        Spares [path.temporary, path] fs after) ∧
    ∀ cause after, (stages.forM take).perform fs = (.error cause, after) →
      Spares [path.temporary] fs after ∧
      (∀ node, fs.find? (fs.target path) = some node → after.find? (fs.target path) = some node) ∧
      (∀ bytes, fs.read path = .ok bytes → after.read path = .ok bytes) ∧
      (fs.IsTree → path.IsDownward →
        ∀ bytes, after.read path = .ok bytes → fs.read path = .ok bytes) ∧
      ∃ stage before, Reaches take fs stage before ∧
        (take stage).perform before = (.error cause, after) ∧
        Leaves path content fs after stage := by
  constructor
  · intro after taken
    have written : (writeAtomic path content).perform fs = (.ok (), after) :=
      fallible.forM_of_ok taken
    exact ⟨read_of_writeAtomic written, find?_temporary_of_writeAtomic written,
      spares_of_writeAtomic written⟩
  · intro cause after failed
    obtain ⟨spares, stage, stopped⟩ := leaves_of_error fallible failed
    have elsewhere : ∀ other ∈ [path.temporary], fs.target other ≠ fs.target path := by
      simpa using target_temporary_ne fs path
    have stays : ∀ bytes, fs.read path = .ok bytes → after.read path = .ok bytes := fun _ read =>
      read_of_writesOnly read spares.toWritesOnly elsewhere
    refine ⟨spares, fun _ => spares.find?_eq elsewhere, stays, fun tree down bytes read => ?_,
      stage, stopped⟩
    have isFile := isFile_of_content? tree down spares.workingDirectory
      (spares.contents _ elsewhere) (isFile_iff.mpr ⟨bytes, read⟩)
    obtain ⟨held, readBefore⟩ := isFile_iff.mp isFile
    rw [readBefore, ← stays held readBefore, read]

/-! ## A disk that is full -/

/-- Why no more can be written to a full disk. -/
def noSpace : Error :=
  .io (.other "No space left on device (os error 28)")

/-- The steps on a disk that has room for some bytes of the content. -/
def fullDisk (path : Path) (content : Bytes) (room : Nat) : Stage → Disk Unit
  | .fillTemporary => do
      Disk.write path.temporary (content.take room)
      throw noSpace
  | stage => stage.perform path content

theorem fallible_fullDisk (path : Path) (content : Bytes) (room : Nat) :
    Fallible path content (fullDisk path content room) := by
  intro stage fs
  cases stage with
  | fillTemporary =>
      simp only [fullDisk, Stage.perform, Disk.write, Disk.perform_bind, Disk.perform_change]
      cases opened : fs.openForWriting path.temporary with
      | error fault =>
          have unwritten : ∀ bytes, fs.write path.temporary bytes = .error fault := fun bytes => by
            rw [FileSystem.write, opened, error_bind]
          simp only [unwritten, true_or]
      | ok address =>
          have written : fs.write path.temporary (content.take room)
              = .ok (fs.store address (content.take room)) := by
            rw [FileSystem.write, opened, ok_bind, pure_eq]
          exact .inr ⟨noSpace, _, by simp only [written, Disk.perform_throw],
            .fillTemporary room written⟩
  | makeParents | createTemporary | synchronize | publish => exact .inl rfl

def oneFile : FileSystem :=
  ⟨[([Bytes.ofString "m"], .file (Bytes.ofString "old\n") false)], []⟩

def besideIt (bytes : Bytes) : FileSystem :=
  ⟨([Bytes.ofString "m.tmp"], .file bytes false) :: oneFile.nodes, []⟩

theorem spares_of_fallible_fullDisk :
    let path := Path.ofString "m"
    let content := Bytes.ofString "new\n"
    let after := besideIt (Bytes.ofString "ne")
    Fallible path content (fullDisk path content 2) ∧
      (stages.forM (fullDisk path content 2)).perform oneFile = (.error noSpace, after) ∧
      oneFile.IsTree ∧ path.IsDownward ∧
      Spares [path.temporary] oneFile after ∧ after.read path = .ok (Bytes.ofString "old\n") := by
  intro path content after
  have fallible := fallible_fullDisk path content 2
  have failed : (stages.forM (fullDisk path content 2)).perform oneFile
      = (.error noSpace, after) := by decide +kernel
  have tree : oneFile.IsTree := isTree_of_nodes (by decide)
  have down : path.IsDownward := by decide
  obtain ⟨spares, -, stays, -, -⟩ := (spares_of_fallible fallible oneFile).2 _ _ failed
  exact ⟨fallible, failed, tree, down, spares, stays _ (by decide +kernel)⟩

/-- The temporary file stays on a full disk.  A directory stays where the temporary file goes if the
path goes through it and up again, and by then the path leads to a file that it did not lead to. -/
theorem leaves_trace :
    (let path := Path.ofString "m"
      let content := Bytes.ofString "new\n"
      Fallible path content (fullDisk path content 2) ∧
        oneFile.find? (oneFile.target path.temporary) = none ∧
        (stages.forM (fullDisk path content 2)).perform oneFile
          = (.error noSpace, besideIt (Bytes.ofString "ne"))) ∧
    let path := Path.ofString "m.tmp/../m"
    let after := ((writeAtomic path (Bytes.ofString "new\n")).perform oneFile).2
    ((writeAtomic path (Bytes.ofString "new\n")).perform oneFile).1
        = .error (.io .isADirectory) ∧
      oneFile.read path = .error .notFound ∧ after.read path = .ok (Bytes.ofString "old\n") ∧
      after.find? (after.target path.temporary) = some .directory := by
  exact ⟨⟨fallible_fullDisk _ _ _, by decide +kernel⟩, by decide +kernel⟩

end AtomicWrite

end Restripe
