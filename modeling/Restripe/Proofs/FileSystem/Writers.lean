import Mathlib.Logic.Function.Basic
import Restripe.Proofs.FileSystem.Again

/-!
# Calls that replace a file at the same time

Two calls that replace one file share the temporary file beside it.  Their steps may be taken in any
order, each on the file system that the steps before it have left.  A file stays open to the call
that has created it when the other call empties it, moves it over the file or takes it away, so the
new content goes wherever the file has gone.
-/

namespace Restripe.AtomicWrite

open FileSystem Outcome

/-! ## Steps -/

/-- The step that a call takes next, or how it has ended.  The temporary file that the call has
created is at an address, or at none once it is gone. -/
inductive Progress where
  | makeParents
  | createTemporary
  | fillTemporary (opened : Option Address)
  | synchronize
  | publish
  | cleanUp (cause : Error)
  | ended (outcome : Except Error Unit)

/-- A step that has been taken: what it leaves, what the call does next, and where a file is now
that was at an address before, unless it is gone. -/
structure Taken where
  fs : FileSystem
  next : Progress
  place : Address → Option Address := some

/-- New bytes in a file from its start on; what they do not reach stays. -/
def overlay (bytes old : Bytes) : Bytes :=
  bytes ++ old.drop bytes.length

/-- Write into an open file, wherever it is. -/
def fill (fs : FileSystem) (opened : Option Address) (bytes : Bytes) : FileSystem :=
  match opened with
  | none => fs
  | some address =>
      match fs.content? address with
      | some old => fs.store address (overlay bytes old)
      | none => fs

/-- Where a file is after one file is moved over another. -/
def placeAfterRename (fs : FileSystem) (source target : Path) (address : Address) :
    Option Address :=
  if address = fs.target source then some (fs.target target)
  else if address = fs.target target then none
  else some address

/-- Where a file is after one is taken away. -/
def placeAfterRemove (fs : FileSystem) (path : Path) (address : Address) : Option Address :=
  if address = fs.target path then none else some address

/-- Take the next step of a call. -/
def Progress.step (path : Path) (content : Bytes) (fs : FileSystem) : Progress → Taken
  | .makeParents =>
      match (Disk.makeParents path).perform fs with
      | (.ok _, after) => { fs := after, next := .createTemporary }
      | (.error cause, after) => { fs := after, next := .ended (.error cause) }
  | .createTemporary =>
      match fs.openForWriting path.temporary with
      | .ok address => { fs := fs.store address [], next := .fillTemporary (some address) }
      | .error fault => { fs, next := .ended (.error (.io fault)) }
  | .fillTemporary opened => { fs := fill fs opened content, next := .synchronize }
  | .synchronize => { fs, next := .publish }
  | .publish =>
      match fs.rename path.temporary path with
      | .ok after =>
          { fs := after, next := .ended (.ok ()), place := placeAfterRename fs path.temporary path }
      | .error fault => { fs, next := .cleanUp (.io fault) }
  | .cleanUp cause =>
      match fs.remove path.temporary with
      | .ok after =>
          { fs := after, next := .ended (.error cause), place := placeAfterRemove fs path.temporary }
      | .error _ => { fs, next := .ended (.error cause) }
  | .ended outcome => { fs, next := .ended outcome }

/-- Where a call is after a step of the other: its open file may have another place. -/
def Progress.follow (place : Address → Option Address) : Progress → Progress
  | .fillTemporary opened => .fillTemporary (opened >>= place)
  | progress => progress

/-- The file system with two calls under way. -/
structure Scene where
  fs : FileSystem
  progress : Bool → Progress

namespace Scene

def start (fs : FileSystem) : Scene := ⟨fs, fun _ => .makeParents⟩

def taken (path : Path) (contents : Bool → Bytes) (scene : Scene) (call : Bool) : Taken :=
  (scene.progress call).step path (contents call) scene.fs

/-- One of the calls takes its next step. -/
def step (path : Path) (contents : Bool → Bytes) (scene : Scene) (call : Bool) : Scene where
  fs := (scene.taken path contents call).fs
  progress other :=
    if other = call then (scene.taken path contents call).next
    else (scene.progress other).follow (scene.taken path contents call).place

/-- The calls take steps in the order of a schedule. -/
def run (path : Path) (contents : Bool → Bytes) (schedule : List Bool) (scene : Scene) : Scene :=
  schedule.foldl (step path contents) scene

/-- What a reader finds. -/
def found (scene : Scene) (path : Path) : Option Bytes :=
  scene.fs.content? (scene.fs.target path)

variable {scene : Scene} {path : Path} {contents : Bool → Bytes} {call other : Bool}

@[simp] theorem fs_step :
    (scene.step path contents call).fs = (scene.taken path contents call).fs := rfl

@[simp] theorem progress_step_self :
    (scene.step path contents call).progress call = (scene.taken path contents call).next :=
  if_pos rfl

theorem progress_step_of_ne (different : other ≠ call) :
    (scene.step path contents call).progress other
      = (scene.progress other).follow (scene.taken path contents call).place :=
  if_neg different

end Scene

variable {fs after : FileSystem} {path : Path} {content : Bytes} {address : Address}

/-! ## Contents -/

theorem contents_set {bytes : Bytes} {executable : Bool} (notRoot : address ≠ []) :
    (fs.set address (.file bytes executable)).content?
      = Function.update fs.content? address (some bytes) := by
  funext other
  by_cases same : other = address
  · rw [same, content?_set_file notRoot, Function.update_self]
  · rw [content?_set_of_ne _ same, Function.update_of_ne same]

theorem contents_erase (notRoot : address ≠ []) :
    (fs.erase address).content? = Function.update fs.content? address none := by
  funext other
  by_cases same : other = address
  · rw [same, Function.update_self, content?, find?_erase_self notRoot]
  · rw [content?_erase_of_ne same, Function.update_of_ne same]

theorem contents_store {bytes : Bytes} (notRoot : address ≠ []) :
    (fs.store address bytes).content? = Function.update fs.content? address (some bytes) := by
  obtain ⟨executable, stored⟩ := store_eq fs bytes address
  rw [stored, contents_set notRoot]

theorem ne_root_of_content? {bytes : Bytes} (held : fs.content? address = some bytes) :
    address ≠ [] := by
  rintro rfl
  simp [content?, find?] at held

@[simp] theorem overlay_nil (bytes : Bytes) : overlay bytes [] = bytes := by
  simp [overlay]

@[simp] theorem overlay_self (bytes : Bytes) : overlay bytes bytes = bytes := by
  simp [overlay]

/-! ## A call by itself -/

/-- Steps of one call, with nothing between them. -/
def alone (path : Path) (content : Bytes) : Nat → Progress → FileSystem → Progress × FileSystem
  | 0, progress, fs => (progress, fs)
  | count + 1, progress, fs =>
      let taken := progress.step path content fs
      alone path content count taken.next taken.fs

theorem openForWriting_store (opened : fs.openForWriting path = .ok address) (bytes : Bytes) :
    (fs.store address bytes).openForWriting path = .ok address := by
  obtain ⟨isTarget, notRoot, -⟩ := openForWriting_eq_ok opened
  have written : fs.write path bytes = .ok (fs.store address bytes) := by
    rw [FileSystem.write, opened]
    rfl
  have writes := writesOnly_write written
  have held : (fs.store address bytes).content? ((fs.store address bytes).target path)
      = some bytes := by
    rw [target_congr writes.workingDirectory, ← isTarget, contents_store notRoot,
      Function.update_self]
  rw [openForWriting_of_hasWay ((hasWay_of_openForWriting opened).of_writesOnly writes)
    (isFree_of_content? held), target_congr writes.workingDirectory, isTarget]

theorem alone_publish (path : Path) (content : Bytes) (fs : FileSystem) :
    alone path content 2 .publish fs
      = (.ended ((Stage.publish.perform path content).perform fs).1,
        ((Stage.publish.perform path content).perform fs).2) := by
  rw [perform_publish]
  cases renamed : fs.rename path.temporary path with
  | ok after => simp [alone, Progress.step, renamed]
  | error fault =>
      have removed := Disk.perform_change (·.remove path.temporary) fs
      simp only [alone, Progress.step, renamed, Disk.perform_tryCatch, Disk.remove, removed]
      cases fs.remove path.temporary <;> rfl

/-- A call that is not disturbed replaces the file in one step. -/
theorem alone_eq (path : Path) (content : Bytes) (fs : FileSystem) :
    alone path content 6 .makeParents fs
      = (.ended ((writeAtomic path content).perform fs).1,
        ((writeAtomic path content).perform fs).2) := by
  rw [writeAtomic_eq, prepare]
  rcases parents : (Disk.makeParents path).perform fs with ⟨cause | made, begun⟩
  · rw [Disk.perform_bind_error (Disk.perform_bind_error parents)]
    simp only [alone, Progress.step, parents]
  have creates := Disk.perform_change (·.write path.temporary []) begun
  cases opened : begun.openForWriting path.temporary with
  | error fault =>
      have refused : begun.write path.temporary [] = .error fault := by
        rw [FileSystem.write, opened]
        rfl
      rw [refused] at creates
      rw [Disk.perform_bind_error ((Disk.perform_bind_ok parents).trans
        (Disk.perform_bind_error creates))]
      simp only [alone, Progress.step, parents, opened]
  | ok address =>
      obtain ⟨-, notRoot, -⟩ := openForWriting_eq_ok opened
      have created : begun.write path.temporary [] = .ok (begun.store address []) := by
        rw [FileSystem.write, opened]
        rfl
      have filled : (begun.store address []).write path.temporary content
          = .ok ((begun.store address []).store address content) := by
        rw [FileSystem.write, openForWriting_store opened []]
        rfl
      have isFill : fill (begun.store address []) (some address) content
          = (begun.store address []).store address content := by
        have empty : (begun.store address []).content? address = some [] := by
          rw [contents_store notRoot, Function.update_self]
        simp [fill, empty]
      have prepared : (prepare path content).perform fs
          = (.ok (), (begun.store address []).store address content) := by
        refine (Disk.perform_bind_ok parents).trans ?_
        exact (Disk.perform_bind_ok (Disk.change_eq_ok.mpr created)).trans
          (Disk.change_eq_ok.mpr filled)
      rw [← prepare, Disk.perform_bind_ok prepared, ← alone_publish]
      simp only [alone, Progress.step, parents, opened, isFill]

theorem Scene.run_replicate (path : Path) (contents : Bool → Bytes) (call : Bool) (count : Nat)
    (scene : Scene) :
    alone path (contents call) count (scene.progress call) scene.fs
      = ((scene.run path contents (List.replicate count call)).progress call,
        (scene.run path contents (List.replicate count call)).fs) := by
  induction count generalizing scene with
  | zero => rfl
  | succ count ih =>
      have rest := ih (scene.step path contents call)
      rw [progress_step_self, fs_step] at rest
      exact rest

/-- One of two calls, as long as the other takes no step, replaces the file in one step. -/
theorem run_alone (fs : FileSystem) (path : Path) (contents : Bool → Bytes) (call : Bool) :
    ((Scene.start fs).run path contents (List.replicate 6 call)).progress call
        = .ended ((writeAtomic path (contents call)).perform fs).1 ∧
      ((Scene.start fs).run path contents (List.replicate 6 call)).fs
        = ((writeAtomic path (contents call)).perform fs).2 := by
  have both := (Scene.run_replicate path contents call 6 (.start fs)).symm.trans
    (alone_eq path (contents call) fs)
  exact Prod.mk.inj both

/-! ## What a step does -/

/-- Whether a call has the temporary file: it has created it and has not moved it yet. -/
def Progress.hasTemporary : Progress → Bool
  | .fillTemporary _ | .synchronize | .publish => true
  | _ => false

/-- What a step does to the contents of the files, and where the files are after it. -/
inductive Progress.Does (path : Path) (content : Bytes) (fs : FileSystem) (progress : Progress)
    (taken : Taken) : Prop where
  /-- A step that leaves all files, and leaves the call without the temporary file. -/
  | passes (contents : taken.fs.content? = fs.content?) (places : taken.place = some)
      (without : taken.next.hasTemporary = false)
  | creates (contents : taken.fs.content?
        = Function.update fs.content? (fs.target path.temporary) (some []))
      (places : taken.place = some)
      (next : taken.next = .fillTemporary (some (fs.target path.temporary)))
  /-- The temporary file is gone before it is filled. -/
  | misses (opened : Option Address) (before : progress = .fillTemporary opened)
      (gone : ∀ address, opened = some address → fs.content? address = none)
      (contents : taken.fs.content? = fs.content?) (places : taken.place = some)
      (next : taken.next = .synchronize)
  | fills (address : Address) (old : Bytes) (before : progress = .fillTemporary (some address))
      (held : fs.content? address = some old)
      (contents : taken.fs.content?
        = Function.update fs.content? address (some (overlay content old)))
      (places : taken.place = some) (next : taken.next = .synchronize)
  | synchronizes (before : progress = .synchronize) (contents : taken.fs.content? = fs.content?)
      (places : taken.place = some) (next : taken.next = .publish)
  | publishes (bytes : Bytes) (before : progress = .publish)
      (held : fs.content? (fs.target path.temporary) = some bytes)
      (contents : taken.fs.content? = Function.update
        (Function.update fs.content? (fs.target path.temporary) none) (fs.target path) (some bytes))
      (places : taken.place = placeAfterRename fs path.temporary path)
      (without : taken.next.hasTemporary = false)
  | removes (contents : taken.fs.content?
        = Function.update fs.content? (fs.target path.temporary) none)
      (places : taken.place = placeAfterRemove fs path.temporary)
      (without : taken.next.hasTemporary = false)

theorem contents_makeParents (path : Path) (fs : FileSystem) :
    ((Disk.makeParents path).perform fs).2.content? = fs.content? := by
  have within : (Disk.makeParents path).Within (WritesOnly []) := Disk.within_makeParents path
  funext address
  exact (within fs).contents address (by simp)

theorem Progress.workingDirectory_step (progress : Progress) :
    (progress.step path content fs).fs.workingDirectory = fs.workingDirectory := by
  cases progress with
  | makeParents =>
      have within : (Disk.makeParents path).Within (WritesOnly []) := Disk.within_makeParents path
      have same := (within fs).workingDirectory
      simp only [step]
      split <;> simp_all
  | createTemporary =>
      simp only [step]
      split
      · obtain ⟨executable, stored⟩ := store_eq fs [] _
        rw [stored]
        rfl
      · rfl
  | fillTemporary opened =>
      simp only [step, fill]
      split
      · rfl
      · split
        · obtain ⟨executable, stored⟩ := store_eq fs _ _
          rw [stored]
          rfl
        · rfl
  | synchronize => rfl
  | publish =>
      simp only [step]
      split
      · rename_i renamed
        exact (writesOnly_rename renamed).workingDirectory
      · rfl
  | cleanUp cause =>
      simp only [step]
      split
      · rename_i removed
        exact (writesOnly_remove removed).workingDirectory
      · rfl
  | ended outcome => rfl

theorem Progress.does_fill (opened : Option Address) :
    (fillTemporary opened).Does path content fs
      ((fillTemporary opened).step path content fs) := by
  simp only [step]
  cases opened with
  | none => exact .misses none rfl (by simp) rfl rfl rfl
  | some address =>
      cases held : fs.content? address with
      | none => exact .misses (some address) rfl (by simp [held]) (by simp [fill, held]) rfl rfl
      | some old =>
          refine .fills address old rfl held ?_ rfl rfl
          simp only [fill, held]
          exact contents_store (ne_root_of_content? held)

theorem Progress.does_publish :
    publish.Does path content fs (publish.step path content fs) := by
  simp only [step]
  split
  · rename_i renamed
    obtain ⟨bytes, executable, isFile, opened, same⟩ := rename_eq_ok renamed
    have held : fs.content? (fs.target path.temporary) = some bytes := by
      simp [content?, isFile]
    refine .publishes bytes rfl held ?_ rfl rfl
    rw [same, contents_set (openForWriting_eq_ok opened).2.1,
      contents_erase (ne_root_of_content? held)]
  · exact .passes rfl rfl rfl

theorem Progress.does_cleanUp (cause : Error) :
    (cleanUp cause).Does path content fs ((cleanUp cause).step path content fs) := by
  simp only [step]
  split
  · rename_i removed
    obtain ⟨⟨bytes, executable, isFile⟩, same⟩ := remove_eq_ok removed
    have held : fs.content? (fs.target path.temporary) = some bytes := by
      simp [content?, isFile]
    refine .removes ?_ rfl rfl
    rw [same, contents_erase (ne_root_of_content? held)]
  · exact .passes rfl rfl rfl

theorem Progress.does_step (progress : Progress) :
    progress.Does path content fs (progress.step path content fs) := by
  cases progress with
  | makeParents =>
      have same := contents_makeParents path fs
      simp only [step]
      split
      · rename_i made
        rw [made] at same
        exact .passes same rfl rfl
      · rename_i failed
        rw [failed] at same
        exact .passes same rfl rfl
  | createTemporary =>
      simp only [step]
      split
      · rename_i opened
        obtain ⟨isTarget, notRoot, -⟩ := openForWriting_eq_ok opened
        subst isTarget
        exact .creates (contents_store notRoot) rfl rfl
      · exact .passes rfl rfl rfl
  | fillTemporary opened => exact does_fill opened
  | synchronize => exact .synchronizes rfl rfl rfl rfl
  | publish => exact does_publish
  | cleanUp cause => exact does_cleanUp cause
  | ended outcome => exact .passes rfl rfl rfl

end Restripe.AtomicWrite
