import Mathlib.Data.List.Induction
import Restripe.Proofs.FileSystem.Access

/-!
# Paths that only go down

In the file system of a machine whatever is there lies in a directory.  A path that never goes up
passes only directories above its end, so where the end is a file the way to it is there as well:
such a file is never reported missing, and directories that are made later make no difference.
Paths that go up are different, since they pass directories that have nothing to do with their end.
-/

namespace Restripe

namespace FileSystem

open Outcome

/-- Whatever is there lies in a directory. -/
def IsTree (fs : FileSystem) : Prop :=
  ∀ address, (fs.find? address).isSome → fs.find? address.dropLast = some .directory

variable {fs after : FileSystem} {path : Path} {address upper : Address}

/-- It is enough that every entry lies in a directory. -/
theorem isTree_of_nodes
    (nodes : ∀ entry ∈ fs.nodes, fs.find? entry.1.dropLast = some .directory) : fs.IsTree := by
  intro address found
  by_cases root : address = []
  · simp [root, find?]
  · obtain ⟨node, isNode⟩ := Option.isSome_iff_exists.mp found
    rw [find?, if_neg root] at isNode
    obtain ⟨before, others, split, -⟩ := List.lookup_eq_some_iff.mp isNode
    exact nodes (address, node) (by simp [split])

/-! ## Changes that leave a tree -/

theorem isTree_set (tree : fs.IsTree) {node : Node} (notRoot : address ≠ [])
    (inside : fs.find? address.dropLast = some .directory)
    (notDirectory : fs.find? address ≠ some .directory) : (fs.set address node).IsTree := by
  have stays : ∀ other, fs.find? other = some .directory →
      (fs.set address node).find? other = some .directory := by
    intro other isDirectory
    have different : other ≠ address := by
      rintro rfl
      exact notDirectory isDirectory
    rwa [find?_set_of_ne fs node different]
  intro other found
  by_cases same : other = address
  · rw [same]
    exact stays _ inside
  · rw [find?_set_of_ne fs node same] at found
    exact stays _ (tree other found)

theorem isTree_erase (tree : fs.IsTree) (notDirectory : fs.find? address ≠ some .directory) :
    (fs.erase address).IsTree := by
  have notRoot := ne_root rfl notDirectory
  intro other found
  have different : other ≠ address := by
    rintro rfl
    rw [find?_erase_self notRoot] at found
    cases found
  rw [find?_erase_of_ne fs different] at found
  have isDirectory := tree other found
  have parentDifferent : other.dropLast ≠ address := by
    rintro rfl
    exact notDirectory isDirectory
  rwa [find?_erase_of_ne fs parentDifferent]

theorem isTree_remove (tree : fs.IsTree) (removed : fs.remove path = .ok after) :
    after.IsTree := by
  obtain ⟨⟨content, executable, isFile⟩, rfl⟩ := remove_eq_ok removed
  exact isTree_erase tree (by simp [isFile])

theorem isTree_write (tree : fs.IsTree) {content : Bytes}
    (written : fs.write path content = .ok after) : after.IsTree := by
  obtain ⟨opened, rfl⟩ := write_eq_ok written
  obtain ⟨-, notRoot, notDirectory⟩ := openForWriting_eq_ok opened
  obtain ⟨ending, name, found, last, -, -⟩ := path_of_openForWriting opened
  obtain ⟨executable, stored⟩ := store_eq fs content (fs.target path)
  rw [stored]
  refine isTree_set tree notRoot ?_ notDirectory
  rw [target_of_destination found last, List.dropLast_concat]
  exact (destination_eq_ok found).2.2

/-- A tree stays a tree. -/
def KeepsTree (fs after : FileSystem) : Prop :=
  fs.IsTree → after.IsTree

instance : Std.Refl KeepsTree := ⟨fun _ tree => tree⟩

instance : IsTrans FileSystem KeepsTree := ⟨fun _ _ _ first second tree => second (first tree)⟩

theorem within_write_keepsTree (path : Path) (content : Bytes) :
    (Disk.write path content).Within KeepsTree :=
  Disk.within_change fun _ _ written tree => isTree_write tree written

/-! ## What is above -/

/-- Whatever is above something that is there is a directory. -/
theorem IsTree.directory_of_prefix (tree : fs.IsTree) (found : (fs.find? address).isSome)
    (above : upper <+: address) (different : upper ≠ address) :
    fs.find? upper = some .directory := by
  obtain ⟨names, rfl⟩ := above
  induction names using List.reverseRecOn with
  | nil => simp at different
  | append_singleton names name ih =>
      have isDirectory := tree _ found
      rw [← List.append_assoc, List.dropLast_concat] at isDirectory
      by_cases empty : names = []
      · simpa [empty] using isDirectory
      · exact ih (by simp [isDirectory]) (by simpa using empty)

theorem IsTree.isSome_of_prefix (tree : fs.IsTree) (found : (fs.find? address).isSome)
    (above : upper <+: address) : (fs.find? upper).isSome := by
  by_cases same : upper = address
  · rwa [same]
  · simp [tree.directory_of_prefix found above same]

theorem prefix_foldl_follow {steps : List Step} (down : .up ∉ steps) (address : Address) :
    address <+: steps.foldl Step.follow address := by
  induction steps generalizing address with
  | nil => exact List.prefix_rfl
  | cons step steps ih =>
      simp only [List.mem_cons, not_or] at down
      rw [List.foldl_cons]
      refine List.IsPrefix.trans ?_ (ih down.2 _)
      cases step with
      | stay => exact List.prefix_rfl
      | up => exact absurd rfl down.1
      | enter name => exact List.prefix_append address [name]

theorem prefix_foldl_dropLast {steps : List Step} (down : .up ∉ steps) (address : Address) :
    steps.dropLast.foldl Step.follow address <+: steps.foldl Step.follow address := by
  rcases List.eq_nil_or_concat' steps with rfl | ⟨front, last, rfl⟩
  · exact List.prefix_rfl
  · rw [List.dropLast_concat, List.foldl_append]
    exact prefix_foldl_follow (fun member => down (by simp_all)) _

/-! ## Walks -/

/-- Where the end is there, nothing on the way down is missing. -/
theorem walk_ne_notFound (tree : fs.IsTree) {steps : List Step} (down : .up ∉ steps)
    (found : (fs.find? (steps.foldl Step.follow address)).isSome) :
    fs.walk address steps ≠ .error .notFound := by
  induction steps generalizing address with
  | nil => simp [walk]
  | cons step steps ih =>
      have here := tree.isSome_of_prefix found (prefix_foldl_follow down address)
      simp only [List.mem_cons, not_or] at down
      rw [List.foldl_cons] at found
      have next := tree.isSome_of_prefix found (prefix_foldl_follow down.2 _)
      intro missing
      simp only [walk] at missing
      rcases bind_eq_error.mp missing with stands | ⟨_, -, missing⟩
      · unfold stand at stands
        split at stands <;> simp_all
      · cases step with
        | stay => exact ih down.2 found missing
        | up => exact down.1 rfl
        | enter name =>
            rcases bind_eq_error.mp missing with isChild | ⟨entry, isChild, missing⟩
            · unfold child at isChild
              split at isChild <;> simp at isChild
            · obtain rfl := eq_of_child isChild
              rw [if_neg (by simpa [Step.follow, Option.isSome_iff_ne_none] using next)] at missing
              exact ih down.2 found missing

/-- A way down to something that is there was there before, if its end was. -/
theorem walk_of_isTree (tree : fs.IsTree) {steps : List Step} (down : .up ∉ steps)
    {result : Address} (walked : after.walk address steps = .ok result)
    (found : (fs.find? result).isSome)
    (directory : after.find? result = some .directory → fs.find? result = some .directory) :
    fs.walk address steps = .ok result := by
  induction steps generalizing address with
  | nil => exact walked
  | cons step steps ih =>
      have isEnd : result = (step :: steps).foldl Step.follow address := eq_of_walk walked
      simp only [walk] at walked ⊢
      obtain ⟨_, stands, rest⟩ := bind_eq_ok.mp walked
      have stays : fs.find? address = some .directory := by
        by_cases same : address = result
        · exact same ▸ directory (same ▸ stand_eq_ok.mp stands)
        · exact tree.directory_of_prefix found (isEnd ▸ prefix_foldl_follow down address) same
      rw [stand_eq_ok.mpr stays, ok_bind]
      simp only [List.mem_cons, not_or] at down
      cases step with
      | stay => exact ih down.2 rest
      | up => exact absurd rfl down.1
      | enter name =>
          obtain ⟨next, isChild, rest⟩ := bind_eq_ok.mp rest
          obtain rfl := eq_of_child isChild
          have below : address ++ [name] <+: result :=
            isEnd ▸ prefix_foldl_follow down.2 (address ++ [name])
          split at rest
          · cases rest
          · simp only [isChild, ok_bind,
              Option.isNone_eq_false_iff.mpr (tree.isSome_of_prefix found below)]
            exact ih down.2 rest

end FileSystem

/-- A path that never goes up. -/
def Path.IsDownward (path : Path) : Prop :=
  .up ∉ path.steps

instance (path : Path) : Decidable path.IsDownward :=
  inferInstanceAs (Decidable (.up ∉ path.steps))

namespace FileSystem

open Outcome

variable {fs after : FileSystem} {path : Path}

/-- Where nothing is found to be taken away, there is no file. -/
theorem content?_of_remove (tree : fs.IsTree) (down : path.IsDownward) (nonempty : path.bytes ≠ [])
    (missing : fs.remove path = .error .notFound) : fs.content? (fs.target path) = none := by
  by_contra held
  obtain ⟨content, isContent⟩ := Option.ne_none_iff_exists'.mp held
  have there := isSome_of_content? isContent
  have way : (fs.find? (path.steps.dropLast.foldl Step.follow (fs.origin path))).isSome := by
    refine tree.isSome_of_prefix there ?_
    rw [← foldl_steps]
    exact prefix_foldl_dropLast down _
  rcases bind_eq_error.mp missing with lost | ⟨ending, found, refused⟩
  · rcases bind_eq_error.mp lost with unchecked | ⟨_, -, lost⟩
    · simp only [Path.check, if_neg nonempty] at unchecked
      split at unchecked
      · cases unchecked
      · split at unchecked <;> cases unchecked
    · rcases bind_eq_error.mp lost with unwalked | ⟨directory, walked, lost⟩
      · exact walk_ne_notFound tree (fun member => down (List.dropLast_subset _ member)) way
          unwalked
      · rw [← eq_of_walk walked] at way
        unfold stand at lost
        split at lost <;> simp_all
  · split at refused
    · rename_i name last
      rcases bind_eq_error.mp refused with isChild | ⟨address, isChild, refused⟩
      · unfold child at isChild
        split at isChild <;> simp at isChild
      · have isTarget : address = fs.target path := by
          rw [eq_of_child isChild, target_of_destination found last]
        rw [← isTarget] at there
        split at refused
        · simp_all
        · cases refused
        · split at refused <;> cases refused
    · cases refused

theorem isFile_iff : fs.isFile path = true ↔ ∃ content, fs.read path = .ok content := by
  unfold isFile read
  cases fs.locate path with
  | error fault => simp
  | ok address =>
      simp only [ok_bind]
      rcases fs.find? address with _ | ⟨content, executable⟩ | _ <;> simp

/-- A file that a path leads to was there before, if its content was. -/
theorem isFile_of_content? (tree : fs.IsTree) (down : path.IsDownward)
    (same : after.workingDirectory = fs.workingDirectory)
    (contents : after.content? (fs.target path) = fs.content? (fs.target path))
    (isFile : after.isFile path = true) : fs.isFile path = true := by
  obtain ⟨content, read⟩ := isFile_iff.mp isFile
  obtain ⟨located, held⟩ := read_eq_ok.mp read
  obtain ⟨checked, walked, -⟩ := locate_eq_ok.mp located
  rw [target_congr same] at held walked
  rw [origin_congr same] at walked
  obtain ⟨executable, afterFile⟩ := exists_file_of_content? held
  rw [contents] at held
  refine isFile_iff.mpr ⟨content, read_eq_ok.mpr ⟨locate_eq_ok.mpr ⟨checked, ?_, ?_⟩, held⟩⟩
  · exact walk_of_isTree tree down walked (isSome_of_content? held) (by simp [afterFile])
  · simp [endsInSeparator_of_read read]

end FileSystem

end Restripe
