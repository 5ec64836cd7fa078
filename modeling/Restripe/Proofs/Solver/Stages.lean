import Restripe.Proofs.FileSystem.Descent
import Restripe.Solver.External

/-!
# Stages of an outside solver

What an outside solver does is put together from stages: files of an earlier run are taken away,
the program runs, and the artifacts are asked for.  The lemmas here say what each stage gives and
leaves.
-/

namespace Restripe

open FileSystem Outcome

variable {path : Path} {fs after : FileSystem}

/-! ## Taking away what is there -/

/-- A file is taken away, unless it is found to be missing. -/
def Clears (path : Path) (fs after : FileSystem) : Prop :=
  fs.remove path = .ok after ∨ fs.remove path = .error .notFound ∧ after = fs

theorem removeIfPresent_eq_ok :
    (Disk.removeIfPresent path).perform fs = (.ok (), after) ↔ Clears path fs after := by
  unfold Disk.removeIfPresent Disk.remove
  rw [Disk.tryCatch_eq_ok, Disk.change_eq_ok, Clears]
  refine or_congr_right ?_
  rw [Disk.perform_change]
  constructor
  · rintro ⟨cause, middle, failed, handled⟩
    split at failed
    · cases failed
    · rename_i fault refused
      cases failed
      cases fault <;> simp_all
  · rintro ⟨missing, rfl⟩
    exact ⟨.io .notFound, after, by rw [missing], rfl⟩

namespace Clears

theorem writesOnly (clears : Clears path fs after) : WritesOnly [path] fs after := by
  rcases clears with removed | ⟨-, rfl⟩
  · exact writesOnly_remove removed
  · exact .refl _ _

theorem isTree (clears : Clears path fs after) (tree : fs.IsTree) : after.IsTree := by
  rcases clears with removed | ⟨-, rfl⟩
  · exact isTree_remove tree removed
  · exact tree

theorem content?_of_none (clears : Clears path fs after) {address : Address}
    (nothing : fs.content? address = none) : after.content? address = none := by
  rcases clears with removed | ⟨-, rfl⟩
  · obtain ⟨⟨content, executable, isFile⟩, rfl⟩ := remove_eq_ok removed
    have different : address ≠ fs.target path := by
      rintro rfl
      simp [content?, isFile] at nothing
    rwa [content?_erase_of_ne different]
  · exact nothing

theorem content?_eq_none (clears : Clears path fs after) (tree : fs.IsTree)
    (down : path.IsDownward) (nonempty : path.bytes ≠ []) :
    after.content? (fs.target path) = none := by
  rcases clears with removed | ⟨missing, rfl⟩
  · obtain ⟨⟨content, executable, isFile⟩, rfl⟩ := remove_eq_ok removed
    have notRoot : fs.target path ≠ [] := ne_root isFile (by simp)
    simp [content?, find?_erase_self notRoot]
  · exact content?_of_remove tree down nonempty missing

end Clears

/-! ## Running the program -/

namespace ExternalSolver

variable {solver : ExternalSolver} {host : Host} {request : SolveRequest} {outcome : ChildOutcome}

theorem perform_start (solver : ExternalSolver) (host : Host) (request : SolveRequest)
    (fs : FileSystem) : (solver.start host request).perform fs =
      match host.run (solver.child request) fs with
      | (.ok outcome, left) => (.ok outcome, left)
      | (.error fault, left) => (.error (.solver (.notStarted solver.program fault)), left) := by
  unfold start
  rw [Disk.perform_bind, Disk.perform_get]
  rcases ran : host.run (solver.child request) fs with ⟨fault | outcome, left⟩ <;>
    simp only [ran] <;> rfl

theorem start_eq_ok : (solver.start host request).perform fs = (.ok outcome, after) ↔
    host.run (solver.child request) fs = (.ok outcome, after) := by
  rw [perform_start]
  rcases host.run (solver.child request) fs with ⟨fault | result, left⟩ <;> simp

end ExternalSolver

/-! ## Asking for the artifacts -/

/-- What is found out about the artifacts: the first that is not there is missing. -/
def SolveRequest.audit (request : SolveRequest) (fs : FileSystem) : Except Error Unit :=
  match request.outputs.find? (!fs.isFile ·.2) with
  | none => .ok ()
  | some (artifact, path) => .error (.solver (.missingOutput artifact path))

theorem perform_checkOutputs (request : SolveRequest) (fs : FileSystem) :
    request.checkOutputs.perform fs = (request.audit fs, fs) := by
  unfold SolveRequest.checkOutputs SolveRequest.audit
  rw [List.forM_eq_forM]
  induction request.outputs with
  | nil => rfl
  | cons output outputs ih =>
      obtain ⟨artifact, path⟩ := output
      rw [List.forM_cons, Disk.perform_bind, Disk.perform_bind, Disk.perform_get]
      cases there : fs.isFile path with
      | true => simpa [there] using ih
      | false => simp [there]

namespace SolveRequest

variable {request : SolveRequest}

theorem audit_eq_ok : request.audit fs = .ok () ↔
    ∀ output ∈ request.outputs, fs.isFile output.2 = true := by
  unfold audit
  split
  · rename_i found
    simpa using found
  · rename_i artifact path missing
    have absent : fs.isFile path = false := by simpa using List.find?_some missing
    refine iff_of_false nofun fun every => ?_
    rw [every _ (List.mem_of_find?_eq_some missing)] at absent
    cases absent

/-- Where an artifact is not there, one that is not there is named. -/
theorem audit_of_missing (missing : ∃ output ∈ request.outputs, fs.isFile output.2 = false) :
    ∃ output ∈ request.outputs, fs.isFile output.2 = false ∧
      request.audit fs = .error (.solver (.missingOutput output.1 output.2)) := by
  cases found : request.outputs.find? (!fs.isFile ·.2) with
  | none =>
      obtain ⟨output, member, absent⟩ := missing
      have there := List.find?_eq_none.mp found output member
      simp [absent] at there
  | some output =>
      have absent : fs.isFile output.2 = false := by simpa using List.find?_some found
      exact ⟨output, List.mem_of_find?_eq_some found, absent, by simp only [audit, found]⟩

end SolveRequest

end Restripe
