import Restripe.FileSystem.Disk
import Restripe.Proofs.Outcome
import Restripe.Proofs.Path

/-!
# The address of a path

Which address a path leads to is read off its components alone; the file system only decides whether
the path can be followed.  So two paths name different files exactly where their addresses differ,
and a path never has the address of the temporary file beside it.
-/

namespace Restripe

open Outcome

def Step.follow (address : Address) : Step → Address
  | .stay => address
  | .up => address.dropLast
  | .enter name => address ++ [name]

def Component.follow (address : Address) : Component → Address
  | .root => []
  | .current => address
  | .parent => address.dropLast
  | .named name => address ++ [name]

namespace FileSystem

/-- The address of a path, whether or not there is anything. -/
def target (fs : FileSystem) (path : Path) : Address :=
  path.components.foldl Component.follow fs.workingDirectory

/-- The content of the file at an address, if there is a file. -/
def content? (fs : FileSystem) (address : Address) : Option Bytes :=
  match fs.find? address with
  | some (.file content _) => some content
  | _ => none

end FileSystem

/-! ## Steps and components -/

namespace Path

theorem follow_step (address : Address) {segment : Bytes} (notSilent : isSilent segment = false) :
    (step segment).follow address = (component segment).follow address := by
  simp only [isSilent, Bool.or_eq_false_iff, beq_eq_false_iff_ne] at notSilent
  simp only [step, component, if_neg notSilent.2]
  split <;> rfl

theorem foldl_follow_step (segments : List Bytes) (address : Address) :
    ((segments.filter (· ≠ [])).map step).foldl Step.follow address =
      ((segments.filter (!isSilent ·)).map component).foldl Component.follow address := by
  induction segments generalizing address with
  | nil => rfl
  | cons segment segments ih =>
      by_cases empty : segment = []
      · simpa [empty, isSilent] using ih address
      · by_cases current : segment = currentSegment
        · have silent : isSilent segment = true := by simp [isSilent, current]
          have stays : (step segment).follow address = address := by
            simp [step, current, Step.follow]
          simpa [empty, silent, stays] using ih address
        · have notSilent : isSilent segment = false := by simp [isSilent, empty, current]
          simpa [empty, notSilent, follow_step address notSilent] using ih _

theorem isAbsolute_iff (path : Path) :
    path.isAbsolute = true ↔ (segments path.bytes).1 = [] ∧ (segments path.bytes).2 ≠ [] := by
  obtain ⟨bytes⟩ := path
  cases bytes with
  | nil => simp [isAbsolute, segments]
  | cons byte rest =>
      by_cases same : byte = separator <;> simp [isAbsolute, segments, same]

end Path

namespace FileSystem

theorem foldl_steps (fs : FileSystem) (path : Path) :
    path.steps.foldl Step.follow (fs.origin path) = fs.target path := by
  simp only [target, Path.components, Path.steps, origin, List.foldl_append]
  have absolute := Path.isAbsolute_iff path
  rcases cut : Path.segments path.bytes with ⟨first, others⟩
  rw [cut] at absolute
  simp only at absolute ⊢
  by_cases empty : first = []
  · by_cases single : others = []
    · have relative : path.isAbsolute = false := by simp [← Bool.not_eq_true, absolute, single]
      simp [empty, single, relative, Path.leadingComponent]
    · have isAbsolute : path.isAbsolute = true := absolute.mpr ⟨empty, single⟩
      have hasOthers : (!others.isEmpty) = true := by simpa using single
      simp only [empty, isAbsolute, hasOthers, if_true, Path.leadingComponent]
      simpa [Component.follow] using Path.foldl_follow_step others []
  · have relative : path.isAbsolute = false := by simp [← Bool.not_eq_true, absolute, empty]
    simp only [relative, Bool.false_eq_true, if_false]
    rw [List.filter_cons_of_pos (by simpa using empty), List.map_cons, List.foldl_cons,
      Path.foldl_follow_step]
    congr 1
    by_cases current : first = Path.currentSegment
    · simp [current, Path.step, Step.follow, Path.leadingComponent, Component.follow,
        show Path.currentSegment ≠ [] from by decide]
    · have notSilent : Path.isSilent first = false := by simp [Path.isSilent, empty, current]
      simp [Path.follow_step _ notSilent, Path.leadingComponent, empty, current]

/-! ## The temporary file -/

end FileSystem

namespace Path

theorem length_temporarySuffix : (Bytes.ofString ".tmp").length = 4 := by
  decide

theorem IsName.append_temporary {name : Bytes} (ordinary : IsName name) :
    IsName (name ++ Bytes.ofString ".tmp") where
  nonempty := by simp [ordinary.nonempty]
  unseparated member := by
    rcases List.mem_append.mp member with inName | inSuffix
    · exact ordinary.unseparated inName
    · exact absurd inSuffix (by decide)
  not_current same := by
    have lengths := congrArg List.length same
    rw [List.length_append, length_temporarySuffix] at lengths
    simp [currentSegment] at lengths
  not_parent same := by
    have lengths := congrArg List.length same
    rw [List.length_append, length_temporarySuffix] at lengths
    simp [parentSegment] at lengths

theorem components_of_segments {path : Path} {first : Bytes} {others : List Bytes}
    (cut : segments path.bytes = (first, others)) :
    path.components = leadingComponent first (!others.isEmpty)
      ++ (others.filter (!isSilent ·)).map component := by
  simp [components, cut]

theorem isEmpty_concat (segments : List Bytes) (segment : Bytes) :
    (segments ++ [segment]).isEmpty = false := by
  cases segments <;> rfl

/-- What the first segment says depends on the others only where it is empty. -/
theorem leadingComponent_congr {first : Bytes} {left right : Bool}
    (same : first = [] → left = right) :
    leadingComponent first left = leadingComponent first right := by
  by_cases empty : first = []
  · rw [same empty]
  · simp [leadingComponent, empty]

theorem components_join (base : Path) {name : Bytes} (ordinary : IsName name) :
    (base.join ⟨name⟩).components = base.components ++ [.named name] := by
  have plain := segments_of_notMem ordinary.unseparated
  have last : ([name].filter (!isSilent ·)).map component = [.named name] := by
    rw [List.filter_cons_of_pos (by simp [ordinary.not_silent])]
    simp [ordinary.component_eq]
  rcases cut : segments base.bytes with ⟨first, others⟩
  have whole : base.bytes = [] ∨ first ≠ [] ∨ others ≠ [] := by
    have joined := ofSegments_segments base.bytes
    rw [cut] at joined
    by_cases empty : first = [] ∧ others = []
    · exact .inl (by rw [← Path.mk.inj joined]; simp [empty])
    · exact .inr (not_and_or.mp empty)
  rw [components_of_segments cut]
  simp only [join, ordinary.not_absolute, Bool.false_eq_true, if_false]
  split
  · rename_i unseparated
    rcases unseparated with empty | closed
    · have nothing : first = [] ∧ others = [] := by simpa [empty, segments, eq_comm] using cut
      have alone : segments (base.bytes ++ name) = (name, []) := by
        rw [empty, List.nil_append, plain]
      rw [components_of_segments alone, nothing.1, nothing.2]
      simp [leadingComponent, ordinary.nonempty, ordinary.not_current, ordinary.component_eq]
    · obtain ⟨left, split⟩ := List.getLast?_eq_some_iff.mp closed
      rw [split, segments_append, segments] at cut
      obtain ⟨firstSame, othersSame⟩ := Prod.mk.inj cut
      have joined : segments (base.bytes ++ name) = (first, (segments left).2 ++ [name]) := by
        rw [split, List.append_assoc, List.singleton_append, segments_append, plain, firstSame]
      rw [components_of_segments joined, ← othersSame, List.filter_append, List.map_append, last,
        List.filter_append, List.map_append]
      simp [isSilent, isEmpty_concat]
  · rename_i separated
    rw [not_or] at separated
    have joined : segments (base.bytes ++ separator :: name) = (first, others ++ [name]) := by
      rw [segments_append, plain, cut]
    have leading : leadingComponent first (!(others ++ [name]).isEmpty)
        = leadingComponent first (!others.isEmpty) := by
      refine leadingComponent_congr fun empty => ?_
      rcases whole with none | notEmpty | several
      · exact absurd none separated.1
      · exact absurd empty notEmpty
      · rw [isEmpty_concat, List.isEmpty_eq_false_iff.mpr several]
    rw [components_of_segments joined, leading, List.filter_append, List.map_append, last,
      List.append_assoc]

end Path

namespace FileSystem

/-- A path that ends in an ordinary name leads to that name in the directory it starts from. -/
theorem target_join (fs : FileSystem) (base : Path) {name : Bytes} (ordinary : Path.IsName name) :
    fs.target (base.join ⟨name⟩) = fs.target base ++ [name] := by
  simp [target, Path.components_join base ordinary, Component.follow]

/-- No path leads to the temporary file beside it. -/
theorem target_temporary_ne (fs : FileSystem) (path : Path) :
    fs.target path.temporary ≠ fs.target path := by
  unfold Path.temporary Path.withFileName
  cases named : path.fileName? with
  | none =>
      have ordinary : Path.IsName (Bytes.ofString ".tmp") :=
        Path.IsName.encode (by decide) (by decide) (by decide) (by decide)
      simp only [Option.getD_none, List.nil_append]
      rw [target_join fs path ordinary]
      simp
  | some name =>
      have ordinary := (Path.isName_of_fileName? named).append_temporary
      -- the last name of one is longer than that of the other
      have longer : ∀ base : Path,
          fs.target (base.join ⟨name ++ Bytes.ofString ".tmp"⟩) ≠ fs.target path := by
        intro base same
        obtain ⟨start, ending⟩ := List.getLast?_eq_some_iff.mp (Path.fileName?_eq_some.mp named)
        have named : fs.target path
            = start.foldl Component.follow fs.workingDirectory ++ [name] := by
          rw [target, ending, List.foldl_append]
          rfl
        rw [target_join fs base ordinary, named] at same
        have last := List.append_inj_right' same rfl
        have lengths := congrArg List.length (List.cons.inj last).1
        rw [List.length_append, Path.length_temporarySuffix] at lengths
        omega
      simp only [Option.getD_some]
      split <;> exact longer _

end FileSystem

end Restripe
