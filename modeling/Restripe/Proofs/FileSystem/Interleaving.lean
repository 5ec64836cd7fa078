import Mathlib.Data.List.Infix
import Restripe.Proofs.FileSystem.Writers

/-!
# What a reader finds of two calls

As long as the two calls never have the temporary file at the same time, a reader finds the old
content or all that one of the calls writes.  Where they do, one call may empty the file before the
other moves it, or write into it after it was moved.  So a reader may find nothing in the file, or
the content of one call over that of the other, but never anything else.
-/

namespace Restripe.AtomicWrite

open FileSystem

variable {original : FileSystem} {path : Path} {contents : Bool → Bytes} {scene : Scene}
  {call other : Bool}

/-! ## Steps of two calls -/

namespace Progress

theorem hasTemporary_follow (place : Address → Option Address) (progress : Progress) :
    (progress.follow place).hasTemporary = progress.hasTemporary := by
  cases progress <;> rfl

/-- An open file that has a place after a step had one before it. -/
theorem follow_eq_fillTemporary {place : Address → Option Address} {progress : Progress}
    {opened : Option Address} (follows : progress.follow place = .fillTemporary opened) :
    ∃ before, progress = .fillTemporary before ∧ before >>= place = opened := by
  cases progress with
  | fillTemporary before => exact ⟨before, rfl, Progress.fillTemporary.inj follows⟩
  | _ => cases follows

@[simp] theorem follow_some (progress : Progress) : progress.follow some = progress := by
  cases progress <;> simp [follow]

end Progress

namespace Scene

theorem progress_step_of_place (different : other ≠ call)
    (places : (scene.taken path contents call).place = some) :
    (scene.step path contents call).progress other = scene.progress other := by
  rw [progress_step_of_ne different, places, Progress.follow_some]

theorem does (path : Path) (contents : Bool → Bytes) (scene : Scene) (call : Bool) :
    (scene.progress call).Does path (contents call) scene.fs (scene.taken path contents call) :=
  Progress.does_step _

theorem created_of_step {opened : Option Address}
    (fills : (scene.step path contents call).progress call = .fillTemporary opened) :
    opened = some (scene.fs.target path.temporary) ∧
      (scene.step path contents call).fs.content? (scene.fs.target path.temporary) = some [] := by
  rw [progress_step_self] at fills
  cases scene.does path contents call with
  | creates same _ next =>
      rw [next] at fills
      rw [fs_step, same, Function.update_self]
      exact ⟨(Progress.fillTemporary.inj fills).symm, rfl⟩
  | passes _ _ without | publishes _ _ _ _ _ without | removes _ _ without =>
      rw [fills] at without
      cases without
  | misses _ _ _ _ _ next | fills _ _ _ _ _ _ next | synchronizes _ _ _ next =>
      rw [next] at fills
      cases fills

/-- Whether both calls have the temporary file. -/
def overlaps (scene : Scene) : Bool :=
  (scene.progress false).hasTemporary && (scene.progress true).hasTemporary

end Scene

/-! ## Mixtures -/

/-- What may be in a file that both calls write into. -/
def mixtures (contents : Bool → Bytes) : List Bytes :=
  [[], contents false, contents true, overlay (contents false) (contents true),
    overlay (contents true) (contents false)]

theorem nil_mem_mixtures : [] ∈ mixtures contents := by
  simp [mixtures]

theorem content_mem_mixtures (call : Bool) : contents call ∈ mixtures contents := by
  cases call <;> simp [mixtures]

theorem overlay_mem_mixtures (call : Bool) :
    overlay (contents call) (contents !call) ∈ mixtures contents := by
  cases call <;> simp [mixtures]

/-- What a file holds that a call has open and has yet to fill. -/
def IsUnfilled (contents : Bool → Bytes) (call : Bool) (bytes : Bytes) : Prop :=
  bytes = [] ∨ bytes = contents !call

theorem IsUnfilled.overlay_mem {bytes : Bytes} (unfilled : IsUnfilled contents call bytes) :
    overlay (contents call) bytes ∈ mixtures contents := by
  rcases unfilled with rfl | rfl
  · rw [overlay_nil]
    exact content_mem_mixtures call
  · exact overlay_mem_mixtures call

/-- What a call writes over what the other has yet to fill is all its own. -/
theorem IsUnfilled.overlay_eq {bytes : Bytes} (different : other ≠ call)
    (unfilled : IsUnfilled contents other bytes) : overlay (contents call) bytes = contents call := by
  rw [IsUnfilled, Bool.not_eq.mpr different] at unfilled
  rcases unfilled with rfl | rfl
  · exact overlay_nil _
  · exact overlay_self _

/-- What two calls that replace a file may have left so far. -/
structure Mixed (original : FileSystem) (path : Path) (contents : Bool → Bytes) (scene : Scene) :
    Prop where
  workingDirectory : scene.fs.workingDirectory = original.workingDirectory
  found : scene.fs.content? (original.target path) = original.content? (original.target path) ∨
    ∃ bytes ∈ mixtures contents, scene.fs.content? (original.target path) = some bytes
  temporary : ∀ call, (scene.progress call).hasTemporary = true → ∀ bytes,
    scene.fs.content? (original.target path.temporary) = some bytes → bytes ∈ mixtures contents
  opened : ∀ call address, scene.progress call = .fillTemporary (some address) →
    (address = original.target path.temporary ∨ address = original.target path) ∧
      ∃ bytes, scene.fs.content? address = some bytes ∧ IsUnfilled contents call bytes

theorem Mixed.start (original : FileSystem) (path : Path) (contents : Bool → Bytes) :
    Mixed original path contents (.start original) where
  workingDirectory := rfl
  found := .inl rfl
  temporary call has := by cases has
  opened call address fills := by cases fills

namespace Mixed

variable (mixed : Mixed original path contents scene)

include mixed

theorem target_eq (other : Path) : scene.fs.target other = original.target other :=
  target_congr mixed.workingDirectory other

theorem found_step (call : Bool) :
    (scene.step path contents call).fs.content? (original.target path)
        = original.content? (original.target path) ∨
      ∃ bytes ∈ mixtures contents,
        (scene.step path contents call).fs.content? (original.target path) = some bytes := by
  have apart := (target_temporary_ne original path).symm
  rw [Scene.fs_step]
  cases scene.does path contents call with
  | passes same _ _ | misses _ _ _ same _ _ | synchronizes _ same _ _ =>
      rw [same]
      exact mixed.found
  | creates same _ _ | removes same _ _ =>
      rw [same, mixed.target_eq, Function.update_of_ne apart]
      exact mixed.found
  | fills address old before held same _ _ =>
      rw [same]
      by_cases here : original.target path = address
      · obtain ⟨-, bytes, holds, unfilled⟩ := mixed.opened call address before
        obtain rfl := Option.some.inj (held.symm.trans holds)
        exact .inr ⟨_, unfilled.overlay_mem, by rw [here, Function.update_self]⟩
      · rw [Function.update_of_ne here]
        exact mixed.found
  | publishes bytes before held same _ _ =>
      rw [mixed.target_eq] at held
      have isMixture := mixed.temporary call (by rw [before]; rfl) bytes held
      rw [same, mixed.target_eq, mixed.target_eq, Function.update_self]
      exact .inr ⟨bytes, isMixture, rfl⟩

theorem temporary_step (call other : Bool)
    (has : ((scene.step path contents call).progress other).hasTemporary = true) {bytes : Bytes}
    (holds : (scene.step path contents call).fs.content? (original.target path.temporary)
      = some bytes) : bytes ∈ mixtures contents := by
  have apart := target_temporary_ne original path
  have others : other ≠ call → (scene.progress other).hasTemporary = true := by
    intro different
    rwa [Scene.progress_step_of_ne different, Progress.hasTemporary_follow] at has
  rw [Scene.fs_step] at holds
  cases scene.does path contents call with
  | passes same _ without =>
      rw [same] at holds
      refine mixed.temporary other (others ?_) bytes holds
      rintro rfl
      rw [Scene.progress_step_self, without] at has
      cases has
  | creates same _ _ =>
      rw [same, mixed.target_eq, Function.update_self] at holds
      rw [← Option.some.inj holds]
      exact nil_mem_mixtures
  | misses opened before _ same _ _ =>
      rw [same] at holds
      exact mixed.temporary call (by rw [before]; rfl) bytes holds
  | fills address old before held same _ _ =>
      rw [same] at holds
      by_cases here : original.target path.temporary = address
      · obtain ⟨-, _, heldBefore, unfilled⟩ := mixed.opened call address before
        obtain rfl := Option.some.inj (held.symm.trans heldBefore)
        rw [here, Function.update_self] at holds
        rw [← Option.some.inj holds]
        exact unfilled.overlay_mem
      · rw [Function.update_of_ne here] at holds
        exact mixed.temporary call (by rw [before]; rfl) bytes holds
  | synchronizes before same _ _ =>
      rw [same] at holds
      exact mixed.temporary call (by rw [before]; rfl) bytes holds
  | publishes _ _ _ same _ _ =>
      rw [same, mixed.target_eq, mixed.target_eq, Function.update_of_ne apart,
        Function.update_self] at holds
      cases holds
  | removes same _ _ =>
      rw [same, mixed.target_eq, Function.update_self] at holds
      cases holds

/-- A call has its file open at a place that it had before a step of the other call, or that the
step has moved it to. -/
theorem opened_step_other (different : other ≠ call) {address : Address}
    (fills : (scene.step path contents call).progress other = .fillTemporary (some address)) :
    (address = original.target path.temporary ∨ address = original.target path) ∧
      ∃ bytes, (scene.step path contents call).fs.content? address = some bytes ∧
        IsUnfilled contents other bytes := by
  have apart := target_temporary_ne original path
  rw [Scene.progress_step_of_ne different] at fills
  obtain ⟨before, opens, follows⟩ := Progress.follow_eq_fillTemporary fills
  obtain ⟨place, rfl, placed⟩ := Option.bind_eq_some_iff.mp follows
  obtain ⟨isPlace, bytes, holds, unfilled⟩ := mixed.opened other place opens
  rw [Scene.fs_step]
  cases scene.does path contents call with
  | passes same places _ | misses _ _ _ same places _ | synchronizes _ same places _ =>
      rw [places] at placed
      obtain rfl := Option.some.inj placed
      rw [same]
      exact ⟨isPlace, bytes, holds, unfilled⟩
  | creates same places _ =>
      rw [places] at placed
      obtain rfl := Option.some.inj placed
      refine ⟨isPlace, ?_⟩
      rw [same, mixed.target_eq]
      by_cases here : place = original.target path.temporary
      · exact ⟨[], by rw [here, Function.update_self], .inl rfl⟩
      · exact ⟨bytes, by rw [Function.update_of_ne here, holds], unfilled⟩
  | fills filled old before held same places _ =>
      rw [places] at placed
      obtain rfl := Option.some.inj placed
      refine ⟨isPlace, ?_⟩
      rw [same]
      by_cases here : place = filled
      · subst here
        obtain rfl := Option.some.inj (held.symm.trans holds)
        have isOther : contents call = contents !other := by
          rw [Bool.not_eq.mpr different]
        refine ⟨contents call, ?_, .inr isOther⟩
        rw [Function.update_self, unfilled.overlay_eq different]
      · exact ⟨bytes, by rw [Function.update_of_ne here, holds], unfilled⟩
  | publishes moved _ held same places _ =>
      rw [places, placeAfterRename, mixed.target_eq, mixed.target_eq] at placed
      rw [mixed.target_eq] at held
      rw [same, mixed.target_eq, mixed.target_eq]
      rcases isPlace with rfl | rfl
      · rw [if_pos rfl] at placed
        obtain rfl := Option.some.inj placed
        obtain rfl := Option.some.inj (held.symm.trans holds)
        exact ⟨.inr rfl, _, Function.update_self .., unfilled⟩
      · rw [if_neg apart.symm, if_pos rfl] at placed
        cases placed
  | removes same places _ =>
      rw [places, placeAfterRemove, mixed.target_eq] at placed
      split at placed
      · cases placed
      · rename_i elsewhere
        obtain rfl := Option.some.inj placed
        rw [same, mixed.target_eq, Function.update_of_ne elsewhere]
        exact ⟨isPlace, bytes, holds, unfilled⟩

protected theorem step (call : Bool) :
    Mixed original path contents (scene.step path contents call) where
  workingDirectory :=
    (Progress.workingDirectory_step _).trans mixed.workingDirectory
  found := mixed.found_step call
  temporary other has _ holds := mixed.temporary_step call other has holds
  opened other address fills := by
    by_cases same : other = call
    · subst same
      obtain ⟨created, empty⟩ := Scene.created_of_step fills
      obtain rfl := Option.some.inj created
      exact ⟨.inl (mixed.target_eq _), [], empty, .inl rfl⟩
    · exact mixed.opened_step_other same fills

end Mixed

theorem mixed_run (original : FileSystem) (path : Path) (contents : Bool → Bytes)
    (schedule : List Bool) :
    Mixed original path contents ((Scene.start original).run path contents schedule) := by
  induction schedule using List.reverseRecOn with
  | nil => exact .start original path contents
  | append_singleton schedule call ih =>
      rw [Scene.run, List.foldl_concat]
      exact ih.step call

/-! ## Calls that take turns -/

/-- What two calls have left so far that never had the temporary file at the same time. -/
structure Whole (original : FileSystem) (path : Path) (contents : Bool → Bytes) (scene : Scene) :
    Prop where
  workingDirectory : scene.fs.workingDirectory = original.workingDirectory
  found : scene.fs.content? (original.target path) = original.content? (original.target path) ∨
    ∃ call, scene.fs.content? (original.target path) = some (contents call)
  /-- A file that is to be filled is the temporary file, and empty, unless it is gone. -/
  opened : ∀ call opened, scene.progress call = .fillTemporary opened →
    opened = some (original.target path.temporary) ∧
        scene.fs.content? (original.target path.temporary) = some [] ∨
      opened = none ∧ scene.fs.content? (original.target path.temporary) = none
  filled : ∀ call, scene.progress call = .synchronize ∨ scene.progress call = .publish →
    ∀ bytes, scene.fs.content? (original.target path.temporary) = some bytes →
      bytes = contents call

theorem Whole.start (original : FileSystem) (path : Path) (contents : Bool → Bytes) :
    Whole original path contents (.start original) where
  workingDirectory := rfl
  found := .inl rfl
  opened call opened fills := by cases fills
  filled call filled := by cases filled <;> contradiction

namespace Whole

variable (whole : Whole original path contents scene)

include whole

theorem target_eq (other : Path) : scene.fs.target other = original.target other :=
  target_congr whole.workingDirectory other

/-- The file that is filled is the temporary file, which is empty. -/
theorem eq_of_fills {address : Address} {old : Bytes}
    (before : scene.progress call = .fillTemporary (some address))
    (held : scene.fs.content? address = some old) :
    address = original.target path.temporary ∧ old = [] := by
  rcases whole.opened call _ before with ⟨isTemporary, empty⟩ | ⟨gone, -⟩
  · obtain rfl := Option.some.inj isTemporary
    exact ⟨rfl, Option.some.inj (held.symm.trans empty)⟩
  · cases gone

theorem found_step (call : Bool) :
    (scene.step path contents call).fs.content? (original.target path)
        = original.content? (original.target path) ∨
      ∃ call', (scene.step path contents call).fs.content? (original.target path)
        = some (contents call') := by
  have apart := (target_temporary_ne original path).symm
  rw [Scene.fs_step]
  cases scene.does path contents call with
  | passes same _ _ | misses _ _ _ same _ _ | synchronizes _ same _ _ =>
      rw [same]
      exact whole.found
  | creates same _ _ | removes same _ _ =>
      rw [same, whole.target_eq, Function.update_of_ne apart]
      exact whole.found
  | fills address old before held same _ _ =>
      rw [same, (whole.eq_of_fills before held).1, Function.update_of_ne apart]
      exact whole.found
  | publishes bytes before held same _ _ =>
      rw [whole.target_eq] at held
      rw [same, whole.target_eq, whole.target_eq, Function.update_self,
        whole.filled call (.inr before) bytes held]
      exact .inr ⟨call, rfl⟩

/-- Where the calls take turns, nothing happens to the temporary file of a call in a step of the
other but that it is taken away. -/
theorem other_step (different : other ≠ call)
    (has : ((scene.step path contents call).progress other).hasTemporary = true)
    (apart : scene.overlaps = false)
    (apartAfter : (scene.step path contents call).overlaps = false) :
    (scene.taken path contents call).fs.content? = scene.fs.content? ∧
        (scene.taken path contents call).place = some ∨
      (scene.taken path contents call).fs.content?
          = Function.update scene.fs.content? (original.target path.temporary) none ∧
        (scene.taken path contents call).place = placeAfterRemove scene.fs path.temporary := by
  have without : (scene.progress call).hasTemporary = false := by
    rw [Scene.progress_step_of_ne different, Progress.hasTemporary_follow] at has
    cases call <;> cases other <;> simp_all [Scene.overlaps]
  have withoutAfter : (scene.taken path contents call).next.hasTemporary = false := by
    rw [← Scene.progress_step_self]
    cases call <;> cases other <;> simp_all [Scene.overlaps]
  cases scene.does path contents call with
  | passes same places _ => exact .inl ⟨same, places⟩
  | creates _ _ next =>
      rw [next] at withoutAfter
      cases withoutAfter
  | misses _ before _ _ _ _ | fills _ _ before _ _ _ _ | synchronizes before _ _ _
  | publishes _ before _ _ _ _ =>
      rw [before] at without
      cases without
  | removes same places _ =>
      rw [whole.target_eq] at same
      exact .inr ⟨same, places⟩

theorem filled_step_self
    (filled : (scene.step path contents call).progress call = .synchronize ∨
      (scene.step path contents call).progress call = .publish) {bytes : Bytes}
    (holds : (scene.step path contents call).fs.content? (original.target path.temporary)
      = some bytes) : bytes = contents call := by
  rw [Scene.progress_step_self] at filled
  rw [Scene.fs_step] at holds
  cases scene.does path contents call with
  | passes _ _ without | publishes _ _ _ _ _ without | removes _ _ without =>
      rcases filled with next | next <;> (rw [next] at without; cases without)
  | creates _ _ next =>
      rw [next] at filled
      rcases filled with other | other <;> cases other
  | misses opened before gone same _ _ =>
      rw [same] at holds
      rcases whole.opened call opened before with ⟨isTemporary, empty⟩ | ⟨-, missing⟩
      · rw [gone _ isTemporary] at empty
        cases empty
      · rw [missing] at holds
        cases holds
  | fills address old before held same _ _ =>
      obtain ⟨rfl, rfl⟩ := whole.eq_of_fills before held
      rw [same, Function.update_self, overlay_nil] at holds
      exact (Option.some.inj holds).symm
  | synchronizes before same _ _ =>
      rw [same] at holds
      exact whole.filled call (.inl before) bytes holds

protected theorem step (call : Bool) (apart : scene.overlaps = false)
    (apartAfter : (scene.step path contents call).overlaps = false) :
    Whole original path contents (scene.step path contents call) where
  workingDirectory := (Progress.workingDirectory_step _).trans whole.workingDirectory
  found := whole.found_step call
  opened other opened fills := by
    by_cases self : other = call
    · subst self
      rw [← whole.target_eq]
      exact .inl (Scene.created_of_step fills)
    · have untouched := whole.other_step self (by rw [fills]; rfl) apart apartAfter
      rw [Scene.progress_step_of_ne self] at fills
      obtain ⟨before, opens, follows⟩ := Progress.follow_eq_fillTemporary fills
      rcases untouched with ⟨same, places⟩ | ⟨same, places⟩
      · rw [places] at follows
        rw [Scene.fs_step, same, ← follows]
        simpa using whole.opened other before opens
      · right
        rw [Scene.fs_step, same, Function.update_self, ← follows, places]
        refine ⟨?_, rfl⟩
        rcases whole.opened other before opens with ⟨rfl, -⟩ | ⟨rfl, -⟩
        · simp [placeAfterRemove, whole.target_eq]
        · rfl
  filled other filled bytes holds := by
    by_cases self : other = call
    · subst self
      exact whole.filled_step_self filled holds
    · have untouched := whole.other_step self
        (by rcases filled with next | next <;> (rw [next]; rfl)) apart apartAfter
      rw [Scene.fs_step] at holds
      rcases untouched with ⟨same, places⟩ | ⟨same, -⟩
      · rw [same] at holds
        rw [Scene.progress_step_of_place self places] at filled
        exact whole.filled other filled bytes holds
      · rw [same, Function.update_self] at holds
        cases holds

end Whole

theorem whole_run {schedule : List Bool} (original : FileSystem) (path : Path)
    (contents : Bool → Bytes)
    (turns : ∀ earlier ∈ schedule.inits,
      ((Scene.start original).run path contents earlier).overlaps = false) :
    Whole original path contents ((Scene.start original).run path contents schedule) := by
  induction schedule using List.reverseRecOn with
  | nil => exact .start original path contents
  | append_singleton schedule call ih =>
      have before : ∀ earlier ∈ schedule.inits,
          ((Scene.start original).run path contents earlier).overlaps = false := by
        intro earlier isPrefix
        rw [List.mem_inits] at isPrefix
        exact turns earlier ((List.mem_inits _ _).mpr (isPrefix.trans (List.prefix_append _ _)))
      have apart := before schedule ((List.mem_inits _ _).mpr (List.prefix_refl _))
      have apartAfter := turns (schedule ++ [call]) ((List.mem_inits _ _).mpr (List.prefix_refl _))
      rw [Scene.run, List.foldl_concat] at apartAfter ⊢
      exact (ih before).step call apart apartAfter

/-- What a reader finds at any moment of two calls, whatever the order of their steps: what was
there, or nothing in the file, or the content of a call, or that of one over that of the other.  As
long as the calls never have the temporary file at the same time, it is what was there or the
content of a call.  A call by itself does what replacing the file in one step does. -/
theorem found_of_run (fs : FileSystem) (path : Path) (contents : Bool → Bytes) :
    (∀ schedule,
      (((Scene.start fs).run path contents schedule).found path = (Scene.start fs).found path ∨
        ∃ bytes ∈ mixtures contents,
          ((Scene.start fs).run path contents schedule).found path = some bytes) ∧
      ((∀ earlier ∈ schedule.inits,
          ((Scene.start fs).run path contents earlier).overlaps = false) →
        ((Scene.start fs).run path contents schedule).found path = (Scene.start fs).found path ∨
          ∃ call, ((Scene.start fs).run path contents schedule).found path
            = some (contents call))) ∧
    ∀ call,
      ((Scene.start fs).run path contents (List.replicate 6 call)).progress call
          = .ended ((writeAtomic path (contents call)).perform fs).1 ∧
        ((Scene.start fs).run path contents (List.replicate 6 call)).fs
          = ((writeAtomic path (contents call)).perform fs).2 := by
  refine ⟨fun schedule => ?_, run_alone fs path contents⟩
  have mixed := mixed_run fs path contents schedule
  constructor
  · rw [Scene.found, mixed.target_eq]
    exact mixed.found
  · intro turns
    rw [Scene.found, mixed.target_eq]
    exact (whole_run fs path contents turns).found

def firstAndSecond : Bool → Bytes
  | false => Bytes.ofString "first\n"
  | true => Bytes.ofString "2\n"

theorem found_of_run_in_turns :
    (∀ earlier ∈ (List.replicate 5 false ++ List.replicate 5 true).inits,
      ((Scene.start ⟨[], []⟩).run (.ofString "m") firstAndSecond earlier).overlaps = false) ∧
    (((Scene.start ⟨[], []⟩).run (.ofString "m") firstAndSecond
        (List.replicate 5 false ++ List.replicate 5 true)).found (.ofString "m")
        = (Scene.start ⟨[], []⟩).found (.ofString "m") ∨
      ∃ call, ((Scene.start ⟨[], []⟩).run (.ofString "m") firstAndSecond
        (List.replicate 5 false ++ List.replicate 5 true)).found (.ofString "m")
        = some (firstAndSecond call)) := by
  have turns : ∀ earlier ∈ (List.replicate 5 false ++ List.replicate 5 true).inits,
      ((Scene.start ⟨[], []⟩).run (.ofString "m") firstAndSecond earlier).overlaps = false := by
    decide +kernel
  exact ⟨turns, ((found_of_run ⟨[], []⟩ (.ofString "m") firstAndSecond).1 _).2 turns⟩

/-- One call creates the temporary file that the other has filled, and this moves it: a reader finds
nothing in the file.  One call fills the file that the other has moved: a reader finds its content
over that of the other. -/
theorem found_of_run_overlapping :
    ((Scene.start ⟨[], []⟩).run (.ofString "m") firstAndSecond
        [false, false, false, false, true, true, false]).found (.ofString "m") = some [] ∧
    ((Scene.start ⟨[], []⟩).run (.ofString "m") firstAndSecond
        [false, false, true, true, false, false, false, true]).found (.ofString "m")
        = some (Bytes.ofString "2\nrst\n") ∧
    (Scene.start ⟨[], []⟩).found (.ofString "m") = none ∧
    ∀ call, firstAndSecond call ≠ [] ∧ firstAndSecond call ≠ Bytes.ofString "2\nrst\n" := by
  decide +kernel

end Restripe.AtomicWrite
