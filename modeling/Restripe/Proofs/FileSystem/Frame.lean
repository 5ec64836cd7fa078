import Restripe.Metadata.Store
import Restripe.Proofs.Disk
import Restripe.Proofs.FileSystem.Effect

/-!
# What file operations leave alone

A computation is confined to some paths when no file changes but the ones at the addresses of these
paths.  The operations of the library moreover keep every directory, so what could be followed
before can be followed after.
-/

namespace Restripe

open Outcome

namespace FileSystem

/-- No file changes but those at the addresses of these paths. -/
structure ChangesOnly (paths : List Path) (fs after : FileSystem) : Prop where
  workingDirectory : after.workingDirectory = fs.workingDirectory
  contents : ∀ address, (∀ path ∈ paths, fs.target path ≠ address) →
    after.content? address = fs.content? address

/-- No file changes but those at the addresses of these paths, and every directory stays. -/
structure WritesOnly (paths : List Path) (fs after : FileSystem) : Prop extends
    ChangesOnly paths fs after where
  directories : ∀ address, fs.find? address = some .directory →
    after.find? address = some .directory

variable {paths more : List Path} {fs middle after : FileSystem} {path source : Path}

theorem target_congr (same : after.workingDirectory = fs.workingDirectory) (path : Path) :
    after.target path = fs.target path := by
  simp only [target, same]

namespace ChangesOnly

theorem refl (paths : List Path) (fs : FileSystem) : ChangesOnly paths fs fs :=
  ⟨rfl, fun _ _ => rfl⟩

theorem trans (first : ChangesOnly paths fs middle) (second : ChangesOnly paths middle after) :
    ChangesOnly paths fs after := by
  refine ⟨second.workingDirectory.trans first.workingDirectory, fun address elsewhere => ?_⟩
  rw [second.contents address, first.contents address elsewhere]
  intro path member
  rw [target_congr first.workingDirectory]
  exact elsewhere path member

theorem mono (changes : ChangesOnly paths fs after) (within : paths ⊆ more) :
    ChangesOnly more fs after :=
  ⟨changes.workingDirectory, fun address elsewhere =>
    changes.contents address fun path member => elsewhere path (within member)⟩

instance : Std.Refl (ChangesOnly paths) := ⟨refl paths⟩

instance : IsTrans FileSystem (ChangesOnly paths) := ⟨fun _ _ _ => trans⟩

end ChangesOnly

namespace WritesOnly

theorem refl (paths : List Path) (fs : FileSystem) : WritesOnly paths fs fs :=
  ⟨.refl paths fs, fun _ found => found⟩

theorem trans (first : WritesOnly paths fs middle) (second : WritesOnly paths middle after) :
    WritesOnly paths fs after :=
  ⟨first.toChangesOnly.trans second.toChangesOnly, fun address found =>
    second.directories address (first.directories address found)⟩

theorem mono (writes : WritesOnly paths fs after) (within : paths ⊆ more) :
    WritesOnly more fs after :=
  ⟨writes.toChangesOnly.mono within, writes.directories⟩

theorem append (first : WritesOnly paths fs middle) (second : WritesOnly more middle after) :
    WritesOnly (paths ++ more) fs after :=
  (first.mono (List.subset_append_left paths more)).trans
    (second.mono (List.subset_append_right paths more))

instance : Std.Refl (WritesOnly paths) := ⟨refl paths⟩

instance : IsTrans FileSystem (WritesOnly paths) := ⟨fun _ _ _ => trans⟩

end WritesOnly

/-! ## Operations -/

theorem writesOnly_set {node : Node} (notDirectory : fs.find? (fs.target path) ≠ some .directory) :
    WritesOnly [path] fs (fs.set (fs.target path) node) := by
  refine ⟨⟨rfl, fun address elsewhere => ?_⟩, fun address found => ?_⟩
  · exact content?_set_of_ne node (elsewhere path List.mem_cons_self).symm
  · have different : address ≠ fs.target path := fun same => notDirectory (same ▸ found)
    rw [find?_set_of_ne fs node different, found]

theorem writesOnly_erase (notDirectory : fs.find? (fs.target path) ≠ some .directory) :
    WritesOnly [path] fs (fs.erase (fs.target path)) := by
  refine ⟨⟨rfl, fun address elsewhere => ?_⟩, fun address found => ?_⟩
  · exact content?_erase_of_ne (elsewhere path List.mem_cons_self).symm
  · have different : address ≠ fs.target path := fun same => notDirectory (same ▸ found)
    rw [find?_erase_of_ne fs different, found]

theorem writesOnly_write {content : Bytes} (written : fs.write path content = .ok after) :
    WritesOnly [path] fs after := by
  obtain ⟨opened, same⟩ := write_eq_ok written
  obtain ⟨executable, stored⟩ := store_eq fs content (fs.target path)
  rw [same, stored]
  exact writesOnly_set (openForWriting_eq_ok opened).2.2

theorem writesOnly_remove (removed : fs.remove path = .ok after) : WritesOnly [path] fs after := by
  obtain ⟨⟨content, executable, isFile⟩, same⟩ := remove_eq_ok removed
  rw [same]
  exact writesOnly_erase (by simp [isFile])

theorem writesOnly_makeDirectory (made : fs.makeDirectory path = .ok after) :
    WritesOnly [] fs after := by
  obtain ⟨nothing, same⟩ := makeDirectory_eq_ok made
  have set : WritesOnly [path] fs after := same ▸ writesOnly_set (by simp [nothing])
  refine ⟨⟨set.workingDirectory, fun address _ => ?_⟩, set.directories⟩
  by_cases here : address = fs.target path
  · rw [here, same]
    have notRoot : fs.target path ≠ [] := ne_root nothing (by simp)
    simp [content?, nothing, find?_set_self fs _ notRoot]
  · exact set.contents address (by simpa [eq_comm] using here)

theorem writesOnly_rename (renamed : fs.rename source path = .ok after) :
    WritesOnly [source, path] fs after := by
  obtain ⟨content, executable, isFile, opened, same⟩ := rename_eq_ok renamed
  have erased : WritesOnly [source, path] fs (fs.erase (fs.target source)) :=
    (writesOnly_erase (by simp [isFile])).mono (by simp)
  have notDirectory : (fs.erase (fs.target source)).find? (fs.target path) ≠ some .directory := by
    by_cases here : fs.target path = fs.target source
    · rw [here, find?_erase_self (ne_root isFile (by simp))]
      simp
    · rw [find?_erase_of_ne fs here]
      exact (openForWriting_eq_ok opened).2.2
  have set : WritesOnly [path] (fs.erase (fs.target source))
      ((fs.erase (fs.target source)).set (fs.target path) (.file content executable)) :=
    writesOnly_set notDirectory
  rw [same]
  exact erased.trans (set.mono (by simp))

end FileSystem

open FileSystem

namespace Disk

/-! ## Computations -/

variable {α : Type} {paths more : List Path} {path : Path}

theorem Within.enlarge {action : Disk α} (within : action.Within (WritesOnly paths))
    (subset : paths ⊆ more) : action.Within (WritesOnly more) :=
  within.mono fun _ _ writes => writes.mono subset

theorem within_write (member : path ∈ paths) (content : Bytes) :
    (write path content).Within (WritesOnly paths) :=
  within_change fun _ _ written => (writesOnly_write written).mono (by simpa using member)

theorem within_remove (member : path ∈ paths) : (remove path).Within (WritesOnly paths) :=
  within_change fun _ _ removed => (writesOnly_remove removed).mono (by simpa using member)

theorem within_rename {source : Path} (sourceMember : source ∈ paths) (member : path ∈ paths) :
    (rename source path).Within (WritesOnly paths) :=
  within_change fun _ _ renamed =>
    (writesOnly_rename renamed).mono (by simp [sourceMember, member])

theorem within_makeDirectoriesUpTo {relation : FileSystem → FileSystem → Prop} [Std.Refl relation]
    [IsTrans FileSystem relation]
    (make : ∀ path : Path, (change (·.makeDirectory path)).Within relation) (depth : Nat)
    (path : Path) : (makeDirectoriesUpTo depth path).Within relation := by
  have accept : ∀ (path : Path) (cause : Error), (do
      unless (← get).isDirectory path do throw cause : Disk Unit).Within relation := by
    refine fun path cause => within_of_unchanged fun fs => ?_
    rw [perform_unless_isDirectory]
    split <;> rfl
  induction depth generalizing path with
  | zero => exact within_pure ()
  | succ depth ih =>
      simp only [makeDirectoriesUpTo]
      split
      · exact within_pure ()
      · refine within_tryCatch (make path) fun error => ?_
        split
        · split
          · exact within_bind (ih _) fun _ => within_tryCatch (make path) (accept path)
          · exact within_tryCatch (make path) (accept path)
        · exact accept path _

theorem within_makeParents_of_make {relation : FileSystem → FileSystem → Prop}
    [Std.Refl relation] [IsTrans FileSystem relation]
    (make : ∀ path : Path, (change (·.makeDirectory path)).Within relation) (path : Path) :
    (makeParents path).Within relation := by
  unfold makeParents
  split
  · exact within_makeDirectoriesUpTo make _ _
  · exact within_pure ()

theorem within_makeParents (path : Path) : (makeParents path).Within (WritesOnly paths) := by
  have make : ∀ path : Path, (change (·.makeDirectory path)).Within (WritesOnly paths) :=
    fun path => within_change fun _ _ made => (writesOnly_makeDirectory made).mono (by simp)
  exact within_makeParents_of_make make path

end Disk

/-! ## Replacing a file -/

namespace AtomicWrite

/-- The steps before the last: the new content is in the temporary file. -/
def prepare (path : Path) (content : Bytes) : Disk Unit := do
  Disk.makeParents path
  Disk.write path.temporary []
  Disk.write path.temporary content

theorem writeAtomic_eq (path : Path) (content : Bytes) :
    writeAtomic path content = prepare path content >>= fun _ =>
      Stage.publish.perform path content := by
  simp [writeAtomic, stages, prepare, Stage.perform]

theorem within_prepare (path : Path) (content : Bytes) :
    (prepare path content).Within (WritesOnly [path.temporary]) :=
  Disk.within_bind (Disk.within_makeParents path) fun _ =>
    Disk.within_bind (Disk.within_write (by simp) []) fun _ => Disk.within_write (by simp) content

theorem content?_of_write {path : Path} {content : Bytes} {fs after : FileSystem}
    (written : (Disk.write path content).perform fs = (.ok (), after)) :
    after.content? (after.target path) = some content := by
  have success := Disk.change_eq_ok.mp written
  obtain ⟨opened, stored⟩ := write_eq_ok success
  obtain ⟨executable, set⟩ := store_eq fs content (fs.target path)
  rw [target_congr (writesOnly_write success).workingDirectory, stored, set,
    content?_set_file (openForWriting_eq_ok opened).2.1]

theorem within_publish (path : Path) (content : Bytes) :
    (Stage.publish.perform path content).Within (WritesOnly [path.temporary, path]) :=
  Disk.within_tryCatch (Disk.within_rename (by simp) (by simp)) fun cause =>
    Disk.within_bind (Disk.within_tryCatch (Disk.within_remove (by simp)) fun _ =>
      Disk.within_pure ()) fun _ => Disk.within_throw cause

/-- The last step fails or moves the temporary file over the file. -/
theorem perform_publish (path : Path) (content : Bytes) (fs : FileSystem) :
    (Stage.publish.perform path content).perform fs =
      match fs.rename path.temporary path with
      | .ok after => (.ok (), after)
      | .error fault => (.error (.io fault),
          ((tryCatch (Disk.remove path.temporary) fun _ => pure () : Disk Unit).perform fs).2) := by
  have moved := Disk.perform_change (·.rename path.temporary path) fs
  simp only [Stage.perform, Disk.perform_tryCatch, Disk.rename, moved]
  cases fs.rename path.temporary path with
  | ok after => rfl
  | error fault =>
      simp only [Disk.perform_bind, Disk.perform_tryCatch, Disk.perform_throw]
      rcases (Disk.remove path.temporary).perform fs with ⟨cause | value, after⟩ <;> rfl

end AtomicWrite

section WriteAtomic

open AtomicWrite

variable {fs after : FileSystem} {path : Path} {content : Bytes} {error : Error}

theorem within_writeAtomic (path : Path) (content : Bytes) :
    (writeAtomic path content).Within (WritesOnly [path, path.temporary]) := by
  rw [writeAtomic_eq]
  refine Disk.within_bind (fun fs => ?_) fun _ fs => ?_
  · exact (within_prepare path content fs).mono (by simp)
  · exact (within_publish path content fs).mono (by simp)

/-- A file that cannot be replaced keeps its content. -/
theorem writesOnly_of_writeAtomic_error
    (failed : (writeAtomic path content).perform fs = (.error error, after)) :
    WritesOnly [path.temporary] fs after := by
  rw [writeAtomic_eq] at failed
  rcases Disk.bind_eq_error.mp failed with unprepared | ⟨_, middle, prepared, unpublished⟩
  · exact (within_prepare path content).of_perform unprepared
  · have within := (within_prepare path content).of_perform prepared
    rw [perform_publish] at unpublished
    split at unpublished
    · cases unpublished
    · obtain ⟨_, same⟩ := Prod.mk.inj unpublished
      rw [← same]
      have removed : (tryCatch (Disk.remove path.temporary) fun _ => pure () : Disk Unit).Within
          (WritesOnly [path.temporary]) :=
        Disk.within_tryCatch (Disk.within_remove (by simp)) fun _ => Disk.within_pure ()
      exact within.trans (removed middle)

/-- The steps of replacing a file, with the file systems between them. -/
theorem perform_writeAtomic_eq_ok : (writeAtomic path content).perform fs = (.ok (), after) ↔
    ∃ started created filled, (Disk.makeParents path).perform fs = (.ok (), started) ∧
      started.write path.temporary [] = .ok created ∧
      created.write path.temporary content = .ok filled ∧
      filled.rename path.temporary path = .ok after := by
  rw [writeAtomic_eq]
  constructor
  · intro written
    obtain ⟨_, filled, prepared, published⟩ := Disk.bind_eq_ok.mp written
    obtain ⟨_, started, parents, prepared⟩ := Disk.bind_eq_ok.mp prepared
    obtain ⟨_, created, creates, fills⟩ := Disk.bind_eq_ok.mp prepared
    refine ⟨started, created, filled, parents, Disk.change_eq_ok.mp creates,
      Disk.change_eq_ok.mp fills, ?_⟩
    rw [perform_publish] at published
    split at published
    · rename_i renamed
      rw [renamed, (Prod.mk.inj published).2]
    · cases published
  · intro ⟨started, created, filled, parents, creates, fills, renames⟩
    have prepared : (prepare path content).perform fs = (.ok (), filled) := by
      refine (Disk.perform_bind_ok parents).trans ?_
      exact (Disk.perform_bind_ok (Disk.change_eq_ok.mpr creates)).trans
        (Disk.change_eq_ok.mpr fills)
    rw [Disk.perform_bind_ok prepared, perform_publish, renames]

/-- A file is replaced by moving the temporary file, which has the new content, over it. -/
theorem rename_of_writeAtomic (written : (writeAtomic path content).perform fs = (.ok (), after)) :
    ∃ middle, WritesOnly [path.temporary] fs middle ∧
      middle.content? (middle.target path.temporary) = some content ∧
      middle.rename path.temporary path = .ok after := by
  obtain ⟨started, created, filled, parents, creates, fills, renames⟩ :=
    perform_writeAtomic_eq_ok.mp written
  have started_filled := (writesOnly_write creates).trans (writesOnly_write fills)
  exact ⟨filled, ((Disk.within_makeParents path).of_perform parents).trans started_filled,
    content?_of_write (Disk.change_eq_ok.mpr fills), renames⟩

/-- A file that is replaced is opened for writing, and is left with the new content. -/
theorem writeAtomic_eq_ok (written : (writeAtomic path content).perform fs = (.ok (), after)) :
    ∃ middle, WritesOnly [path.temporary] fs middle ∧
      middle.openForWriting path = .ok (middle.target path) ∧
      WritesOnly [path.temporary, path] middle after ∧
      after.content? (after.target path) = some content := by
  obtain ⟨middle, within, filled, renamed⟩ := rename_of_writeAtomic written
  obtain ⟨held, executable, isFile, opened, same⟩ := rename_eq_ok renamed
  have moves := writesOnly_rename renamed
  refine ⟨middle, within, opened, moves, ?_⟩
  simp only [content?, isFile, Option.some.injEq] at filled
  rw [target_congr moves.workingDirectory, same,
    content?_set_file (openForWriting_eq_ok opened).2.1, filled]

/-- Once a file is replaced, there is no file at the address of the temporary one. -/
theorem content?_temporary_of_writeAtomic
    (written : (writeAtomic path content).perform fs = (.ok (), after)) :
    after.content? (after.target path.temporary) = none := by
  obtain ⟨middle, _, _, renamed⟩ := rename_of_writeAtomic written
  obtain ⟨held, executable, isFile, _, same⟩ := rename_eq_ok renamed
  have notRoot : middle.target path.temporary ≠ [] := ne_root isFile (by simp)
  rw [target_congr (writesOnly_rename renamed).workingDirectory, same,
    content?_set_of_ne _ (target_temporary_ne middle path), content?, find?_erase_self notRoot]

end WriteAtomic

/-!
## Metadata files read

Reading a metadata file changes nothing, and gives what is read of the content that is at the
address of its path.
-/

variable {α : Type} {parse : Bytes → Except Flaw α} {path : Path} {fs after : FileSystem}
  {value : α}

theorem perform_loadWith {bytes : Bytes} (content : fs.read path = .ok bytes) :
    (loadWith parse path).perform fs =
      ((parse bytes).mapError fun flaw => .parse path flaw.line flaw.cause, fs) := by
  have read : (Disk.read path).perform fs = (.ok bytes, fs) := by
    rw [Disk.read, Disk.perform_ask, content]
    rfl
  rw [loadWith, Disk.perform_bind_ok read]
  cases parse bytes <;> rfl

theorem loadWith_eq_ok : (loadWith parse path).perform fs = (.ok value, after) ↔
    after = fs ∧ ∃ bytes, fs.read path = .ok bytes ∧ parse bytes = .ok value := by
  cases content : fs.read path with
  | error fault =>
      have unread : (Disk.read path).perform fs = (.error (.io fault), fs) := by
        rw [Disk.read, Disk.perform_ask, content]
        rfl
      rw [loadWith, Disk.perform_bind_error unread]
      simp
  | ok bytes =>
      rw [perform_loadWith content]
      cases read : parse bytes with
      | error flaw => simp [Except.mapError, read]
      | ok other => simp [Except.mapError, read, and_comm, eq_comm]

theorem loadWith_unchanged (parse : Bytes → Except Flaw α) (path : Path) :
    (loadWith parse path).Within Eq := by
  refine Disk.within_bind (Disk.within_ask _) fun bytes => ?_
  split
  · exact Disk.within_pure _
  · exact Disk.within_throw _

end Restripe
