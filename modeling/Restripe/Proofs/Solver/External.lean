import Restripe.Proofs.FileSystem.Route
import Restripe.Proofs.Transition.Inputs

/-!
# Runs of an outside solver

An outside solver is told the paths of its artifacts, is run once, and is believed only where both
artifacts are there when it has ended.
-/

/-!
## The files that an outside program is told

An outside program is told three paths: the placement to read, and the two artifacts to write.  It
is told them as they are shown, and follows them from the directory that it runs in.  The paths
themselves are followed from the directory of its caller, before the program runs and after.
-/

namespace Restripe

open FileSystem

namespace Child

def directory (child : Child) (fs : FileSystem) : Address :=
  match child.workingDirectory with
  | none => fs.workingDirectory
  | some path => fs.target path

/-- Where an argument of a program leads, followed from the directory that the program runs in. -/
def find (child : Child) (fs : FileSystem) (argument : String) : Address :=
  { fs with workingDirectory := child.directory fs }.target (.ofString argument)

end Child

def SolveRequest.paths (request : SolveRequest) : List Path :=
  [request.prePlacement, request.postPlacement, request.stripeGroups]

namespace ExternalSolver

variable (solver : ExternalSolver) (request : SolveRequest) (fs : FileSystem)

/-- The last arguments of a program are the paths of its request as they are shown.  Followed from
the directory that the program runs in, such an argument leads to the file that the path leads to
from the directory of its caller just if the path is absolute, or goes up to a directory above
both, and all names that it goes down are text. -/
theorem find_argument_eq_target_iff :
    (solver.child request).arguments.drop (solver.leadingArguments.length + 7) =
      request.paths.map Path.display ∧
    ∀ path ∈ request.paths,
      (solver.child request).find fs path.display = fs.target path ↔
        (path.isAbsolute = true ∨
          ((solver.child request).directory fs).rdrop path.route.climbs =
            fs.workingDirectory.rdrop path.route.climbs) ∧
          ∀ name ∈ path.route.names, ∃ text, Utf8.decode? name = some text := by
  constructor
  · simp [child, SolveRequest.arguments, SolveRequest.paths]
  · intro path _
    rw [Child.find, Path.ofString_display]
    exact target_shown_eq_iff { fs with workingDirectory := _ } fs path

/-! ### Where the files differ -/

/-- A host whose programs write an empty file at each of their last two arguments. -/
def toucher : Host where
  run child fs :=
    let touch : Disk Unit :=
      (child.arguments.drop (child.arguments.length - 2)).forM fun argument =>
        Disk.write (.ofString argument) []
    let (result, after) := touch.perform { fs with workingDirectory := child.directory fs }
    let status : ExitStatus := if result.isOk then .code 0 else .code 1
    (.ok ⟨[], [], status⟩, { after with workingDirectory := fs.workingDirectory })
  processors := 1

def workshop : FileSystem where
  nodes := [([Bytes.ofString "build"], .directory)]
  workingDirectory := []

def relativeRequest : SolveRequest where
  code := ⟨1, 1, 2, 1⟩
  cluster := ⟨3, 2⟩
  approach := .balanced
  prePlacement := .ofString "pre"
  postPlacement := .ofString "post"
  stripeGroups := .ofString "sg"
  log := none

def away : ExternalSolver := ⟨.ofString "solver", [], some (.ofString "build")⟩

/-- A solver that runs in another directory writes all that it is told, and none of it is found; a
solver that is told a path that is no text is told the path of another file. -/
theorem find_argument_ne_target :
    (∀ path ∈ relativeRequest.paths,
      (away.child relativeRequest).find workshop path.display ≠ workshop.target path) ∧
    (∃ after, (away.solve toucher relativeRequest).perform workshop =
        (.error (.solver (.missingOutput .postPlacement relativeRequest.postPlacement)), after) ∧
      ∀ path ∈ [relativeRequest.postPlacement, relativeRequest.stripeGroups],
        after.content? ((away.child relativeRequest).find workshop path.display) = some []) ∧
    ∃ request, Transition.hired.workingDirectory = none ∧ ⟨[0xFF]⟩ ∈ request.paths ∧
      (Transition.hired.child request).find workshop (Path.display ⟨[0xFF]⟩) ≠
        workshop.target ⟨[0xFF]⟩ := by
  refine ⟨by decide +kernel,
    ⟨((away.solve toucher relativeRequest).perform workshop).2, by decide +kernel,
      by decide +kernel⟩,
    { relativeRequest with postPlacement := ⟨[0xFF]⟩ }, rfl, by decide +kernel, by decide +kernel⟩

end ExternalSolver

/-!
## Fresh output

A run of an outside solver goes through stages: the artifacts of an earlier run are taken away, the
program runs, and what it printed is logged.  Only then is it decided whether the run succeeded.
An artifact that is found in the end was left by the program itself, as long as its path never goes
up.
-/

open Outcome

/-! ### Stages -/

/-- What every program keeps: whatever is there lies in a directory, and the working directory is
that of its caller. -/
structure Host.Lawful (host : Host) : Prop where
  isTree : ∀ child fs, fs.IsTree → (host.run child fs).2.IsTree
  workingDirectory : ∀ child fs, (host.run child fs).2.workingDirectory = fs.workingDirectory

namespace ExternalSolver

/-- What was printed is logged, if it is to be. -/
def Logs (solver : ExternalSolver) (request : SolveRequest) (outcome : ChildOutcome)
    (fs after : FileSystem) : Prop :=
  match request.log with
  | none => after = fs
  | some log => ∃ made, (Disk.makeParents log).perform fs = (.ok (), made) ∧
      made.write log (solver.runLog request outcome) = .ok after

/-- The stages of a run that comes to its verdict: the file system after the artifacts of an earlier
run are taken away, after the program, and after the log. -/
structure Runs (solver : ExternalSolver) (host : Host) (request : SolveRequest) (fs : FileSystem)
    (outcome : ChildOutcome) (cleared left logged : FileSystem) : Prop where
  clears : ∃ middle, Clears request.postPlacement fs middle ∧
    Clears request.stripeGroups middle cleared
  starts : host.run (solver.child request) cleared = (.ok outcome, left)
  logs : solver.Logs request outcome left logged

/-- A file is left by the program: there was none before it, and its path leads to one after. -/
def LeftBy (cleared left : FileSystem) (path : Path) : Prop :=
  cleared.content? (cleared.target path) = none ∧ left.isFile path = true

/-! ### The verdict -/

variable {solver : ExternalSolver} {host : Host} {request : SolveRequest} {outcome : ChildOutcome}
  {fs after cleared left logged : FileSystem}

/-- What a run comes to in the end. -/
def verdict (solver : ExternalSolver) (request : SolveRequest) (outcome : ChildOutcome)
    (logged : FileSystem) : Except Error Unit :=
  if outcome.status.isSuccess then request.audit logged
  else .error (.solver (.failed solver.program outcome.status
    (diagnosticsTail outcome.diagnostics)))

theorem verdict_eq_ok : solver.verdict request outcome logged = .ok () ↔
    outcome.status.isSuccess = true ∧
      ∀ output ∈ request.outputs, logged.isFile output.2 = true := by
  unfold verdict
  split
  · rename_i succeeds
    rw [and_iff_right succeeds, SolveRequest.audit_eq_ok]
  · rename_i fails
    exact iff_of_false nofun fun both => fails both.1

def keepLog (solver : ExternalSolver) (request : SolveRequest) (outcome : ChildOutcome) :
    Disk Unit :=
  match request.log with
  | none => pure ()
  | some log => do
      Disk.makeParents log
      Disk.write log (solver.runLog request outcome)

def judge (solver : ExternalSolver) (request : SolveRequest) (outcome : ChildOutcome) :
    Disk Unit := do
  unless outcome.status.isSuccess do
    throw (.solver
      (.failed solver.program outcome.status (diagnosticsTail outcome.diagnostics)))
  request.checkOutputs

theorem solve_eq : solver.solve host request = (do
    Disk.removeIfPresent request.postPlacement
    Disk.removeIfPresent request.stripeGroups
    let outcome ← solver.start host request
    solver.keepLog request outcome
    solver.judge request outcome) := by
  unfold solve keepLog judge
  cases request.log <;> simp

theorem keepLog_eq_ok : (solver.keepLog request outcome).perform fs = (.ok (), after) ↔
    solver.Logs request outcome fs after := by
  unfold keepLog Logs
  cases request.log with
  | none => simp [eq_comm]
  | some log =>
      simp only [Disk.bind_eq_ok, Disk.write, Disk.change_eq_ok]
      constructor
      · rintro ⟨_, made, parents, written⟩
        exact ⟨made, parents, written⟩
      · rintro ⟨made, parents, written⟩
        exact ⟨(), made, parents, written⟩

theorem perform_judge (logged : FileSystem) :
    (solver.judge request outcome).perform logged =
      (solver.verdict request outcome logged, logged) := by
  unfold judge verdict
  cases outcome.status.isSuccess with
  | true => simpa using perform_checkOutputs request logged
  | false => rfl

theorem Runs.perform_solve (runs : solver.Runs host request fs outcome cleared left logged) :
    (solver.solve host request).perform fs =
      (solver.verdict request outcome logged, logged) := by
  obtain ⟨⟨middle, first, second⟩, starts, logs⟩ := runs
  rw [solve_eq, Disk.perform_bind_ok (removeIfPresent_eq_ok.mpr first),
    Disk.perform_bind_ok (removeIfPresent_eq_ok.mpr second),
    Disk.perform_bind_ok (start_eq_ok.mpr starts), Disk.perform_bind_ok (keepLog_eq_ok.mpr logs),
    perform_judge]

/-- A run that succeeds has come through every stage. -/
theorem exists_runs (success : (solver.solve host request).perform fs = (.ok (), after)) :
    ∃ outcome cleared left logged, solver.Runs host request fs outcome cleared left logged := by
  rw [solve_eq] at success
  obtain ⟨_, middle, first, success⟩ := Disk.bind_eq_ok.mp success
  obtain ⟨_, cleared, second, success⟩ := Disk.bind_eq_ok.mp success
  obtain ⟨outcome, left, starts, success⟩ := Disk.bind_eq_ok.mp success
  obtain ⟨_, logged, logs, -⟩ := Disk.bind_eq_ok.mp success
  exact ⟨outcome, cleared, left, logged,
    ⟨middle, removeIfPresent_eq_ok.mp first, removeIfPresent_eq_ok.mp second⟩,
    start_eq_ok.mp starts, keepLog_eq_ok.mp logs⟩

/-! ### What the program left -/

theorem Logs.writesOnly (logs : solver.Logs request outcome left logged) :
    WritesOnly request.log.toList left logged := by
  unfold Logs at logs
  cases kept : request.log with
  | none =>
      simp only [kept] at logs
      exact logs ▸ .refl _ _
  | some log =>
      simp only [kept] at logs
      obtain ⟨made, parents, written⟩ := logs
      exact ((Disk.within_makeParents log).of_perform parents).trans
        (writesOnly_write written)

namespace Runs

variable (runs : solver.Runs host request fs outcome cleared left logged) (lawful : host.Lawful)

include runs

theorem workingDirectory_cleared : cleared.workingDirectory = fs.workingDirectory := by
  obtain ⟨middle, first, second⟩ := runs.clears
  exact second.writesOnly.workingDirectory.trans first.writesOnly.workingDirectory

/-- Both artifacts are gone before the program runs. -/
theorem content?_cleared (tree : fs.IsTree) {output : Artifact × Path}
    (member : output ∈ request.outputs) (down : output.2.IsDownward)
    (nonempty : output.2.bytes ≠ []) : cleared.content? (cleared.target output.2) = none := by
  rw [target_congr runs.workingDirectory_cleared]
  obtain ⟨middle, first, second⟩ := runs.clears
  simp only [SolveRequest.outputs, List.mem_cons, List.not_mem_nil, or_false] at member
  rcases member with rfl | rfl
  · exact second.content?_of_none (first.content?_eq_none tree down nonempty)
  · rw [← target_congr first.writesOnly.workingDirectory]
    exact second.content?_eq_none (first.isTree tree) down nonempty

include lawful

theorem workingDirectory_left : left.workingDirectory = fs.workingDirectory := by
  have same := lawful.workingDirectory (solver.child request) cleared
  rw [runs.starts] at same
  exact same.trans runs.workingDirectory_cleared

theorem isTree_left (tree : fs.IsTree) : left.IsTree := by
  obtain ⟨middle, first, second⟩ := runs.clears
  have isTree := lawful.isTree (solver.child request) cleared (second.isTree (first.isTree tree))
  rwa [runs.starts] at isTree

/-- What is found in the end was left by the program, if the log is kept elsewhere and the path
never goes up. -/
theorem isFile_logged (tree : fs.IsTree) {output : Artifact × Path}
    (member : output ∈ request.outputs) (down : output.2.IsDownward)
    (apart : ∀ log ∈ request.log, fs.target log ≠ fs.target output.2) :
    logged.isFile output.2 = true ↔ LeftBy cleared left output.2 := by
  have writes := runs.logs.writesOnly
  have elsewhere : ∀ log ∈ request.log.toList, left.target log ≠ left.target output.2 := by
    intro log kept
    rw [target_congr (runs.workingDirectory_left lawful),
      target_congr (runs.workingDirectory_left lawful)]
    exact apart log (Option.mem_toList.mp kept)
  constructor
  · intro isFile
    have found := isFile_of_content? (runs.isTree_left lawful tree) down writes.workingDirectory
      (writes.contents _ elsewhere) isFile
    refine ⟨runs.content?_cleared tree member down ?_, found⟩
    intro empty
    obtain ⟨content, read⟩ := isFile_iff.mp isFile
    obtain ⟨checked, -⟩ := locate_eq_ok.mp (read_eq_ok.mp read).1
    simp [Path.check, empty] at checked
  · rintro ⟨-, isFile⟩
    obtain ⟨content, read⟩ := isFile_iff.mp isFile
    exact isFile_iff.mpr ⟨content, read_of_writesOnly read writes elsewhere⟩

end Runs

/-- A run succeeds just if it comes through every stage, the program succeeds, and both artifacts
are left by the program itself.  After all stages, a program that fails or leaves out an artifact is
a failure of the solver. -/
theorem solve_eq_ok_iff (solver : ExternalSolver) (host : Host) (request : SolveRequest)
    (fs : FileSystem) (lawful : host.Lawful) (tree : fs.IsTree)
    (apart : ∀ output ∈ request.outputs, ∀ log ∈ request.log, fs.target log ≠ fs.target output.2)
    (down : ∀ output ∈ request.outputs, output.2.IsDownward) :
    (((solver.solve host request).perform fs).1 = .ok () ↔
      ∃ outcome cleared left logged, solver.Runs host request fs outcome cleared left logged ∧
        outcome.status.isSuccess = true ∧
        ∀ output ∈ request.outputs, LeftBy cleared left output.2) ∧
    ∀ outcome cleared left logged, solver.Runs host request fs outcome cleared left logged →
      (outcome.status.isSuccess = false → (solver.solve host request).perform fs =
        (.error (.solver (.failed solver.program outcome.status
          (diagnosticsTail outcome.diagnostics))), logged)) ∧
      (outcome.status.isSuccess = true →
        (∃ output ∈ request.outputs, ¬LeftBy cleared left output.2) →
        ∃ output ∈ request.outputs, ¬LeftBy cleared left output.2 ∧
          (solver.solve host request).perform fs =
            (.error (.solver (.missingOutput output.1 output.2)), logged)) := by
  have leaves : ∀ {outcome cleared left logged},
      solver.Runs host request fs outcome cleared left logged → ∀ output ∈ request.outputs,
        (logged.isFile output.2 = true ↔ LeftBy cleared left output.2) :=
    fun runs output member =>
      runs.isFile_logged lawful tree member (down output member) (apart output member)
  refine ⟨⟨fun success => ?_, ?_⟩, ?_⟩
  · have performed : (solver.solve host request).perform fs =
        (.ok (), ((solver.solve host request).perform fs).2) := Prod.ext success rfl
    obtain ⟨outcome, cleared, left, logged, runs⟩ := exists_runs performed
    rw [runs.perform_solve] at success
    obtain ⟨succeeds, found⟩ := verdict_eq_ok.mp success
    exact ⟨outcome, cleared, left, logged, runs, succeeds,
      fun output member => (leaves runs output member).mp (found output member)⟩
  · rintro ⟨outcome, cleared, left, logged, runs, succeeds, fresh⟩
    rw [runs.perform_solve]
    exact verdict_eq_ok.mpr ⟨succeeds,
      fun output member => (leaves runs output member).mpr (fresh output member)⟩
  · intro outcome cleared left logged runs
    have absent : ∀ output ∈ request.outputs,
        (logged.isFile output.2 = false ↔ ¬LeftBy cleared left output.2) := fun output member =>
      Bool.eq_false_iff.trans (not_congr (leaves runs output member))
    rw [runs.perform_solve]
    refine ⟨fun fails => by simp [verdict, fails], fun succeeds missing => ?_⟩
    obtain ⟨output, member, omitted⟩ := missing
    obtain ⟨output, member, notFound, result⟩ := SolveRequest.audit_of_missing
      ⟨output, member, (absent output member).mpr omitted⟩
    exact ⟨output, member, (absent output member).mp notFound, by
      rw [verdict, if_pos succeeds, result]⟩

theorem lawful_scribe : Transition.scribe.Lawful where
  isTree _ fs := Disk.within_bind (within_write_keepsTree _ _)
    (fun _ => within_write_keepsTree _ _) fs
  workingDirectory _ fs := (Disk.within_bind (Disk.within_write (List.mem_cons_self ..) _)
    (fun _ => Disk.within_write (List.mem_cons_of_mem _ (List.mem_singleton_self _)) _)
    fs).workingDirectory

theorem solve_eq_ok_iff_hired :
    Transition.stored.IsTree ∧ ∃ outcome cleared left logged,
      Transition.hired.Runs Transition.scribe (Transition.request Transition.paired)
        Transition.stored outcome cleared left logged ∧
      ∀ output ∈ (Transition.request Transition.paired).outputs,
        LeftBy cleared left output.2 := by
  have tree : Transition.stored.IsTree := isTree_of_nodes (by decide +kernel)
  obtain ⟨succeeds, -⟩ := solve_eq_ok_iff Transition.hired Transition.scribe
    (Transition.request Transition.paired) Transition.stored lawful_scribe tree
    (by decide +kernel) (by decide +kernel)
  obtain ⟨outcome, cleared, left, logged, runs, -, fresh⟩ := succeeds.mp (by decide +kernel)
  exact ⟨tree, outcome, cleared, left, logged, runs, fresh⟩

/-! ### Paths that go up -/

def grouper : Host where
  run _ fs := (.ok ⟨[], [], .code 0⟩, ((Disk.write (.ofString "g") []).perform fs).2)
  processors := 1

/-- A file system with the file `p` of an earlier run. -/
def dusty : FileSystem where
  nodes := [([Bytes.ofString "p"], .file (Bytes.ofString "stale\n") false)]
  workingDirectory := []

/-- A request for a placement whose path passes a directory that the log makes. -/
def roundabout : SolveRequest :=
  { Transition.request Transition.paired with
    postPlacement := .ofString "a/../p"
    stripeGroups := .ofString "g"
    log := some (.ofString "a/log") }

/-- The old placement is taken to be missing, since a directory on its path is; the log makes that
directory, and the old placement passes for one that the program has written. -/
theorem solve_ok_of_stale :
    grouper.Lawful ∧ dusty.IsTree ∧
    (dusty.target roundabout.postPlacement ≠ dusty.target roundabout.stripeGroups ∧
      ∀ output ∈ roundabout.outputs, ∀ log ∈ roundabout.log,
        dusty.target log ≠ dusty.target output.2) ∧
    ((Transition.hired.solve grouper roundabout).perform dusty).1 = .ok () ∧
    ¬∃ outcome cleared left logged,
      Transition.hired.Runs grouper roundabout dusty outcome cleared left logged ∧
        outcome.status.isSuccess = true ∧
        ∀ output ∈ roundabout.outputs, LeftBy cleared left output.2 := by
  refine ⟨⟨fun _ => within_write_keepsTree _ _, fun _ fs => ?_⟩,
    isTree_of_nodes (by decide +kernel), by decide +kernel, by decide +kernel, ?_⟩
  · exact (Disk.within_write (List.mem_singleton_self _) _ fs).workingDirectory
  · rintro ⟨outcome, cleared, left, logged, runs, -, fresh⟩
    obtain ⟨middle, first, second⟩ := runs.clears
    have missing : dusty.remove roundabout.postPlacement = .error .notFound := by decide +kernel
    have nothing : dusty.remove roundabout.stripeGroups = .error .notFound := by decide +kernel
    obtain rfl : middle = dusty := by simpa [Clears, missing] using first
    obtain rfl : cleared = dusty := by simpa [Clears, nothing] using second
    have held : dusty.content? (dusty.target roundabout.postPlacement) ≠ none := by decide +kernel
    exact held (fresh (.postPlacement, roundabout.postPlacement) (List.mem_cons_self ..)).1

end ExternalSolver

end Restripe
