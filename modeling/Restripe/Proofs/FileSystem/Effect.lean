import Restripe.Proofs.FileSystem.Address

/-!
# What file operations do

An operation that is not refused acts on the address of its path: it puts a file or a directory
there, or takes a file away, and leaves every other address as it is.
-/

namespace Restripe.FileSystem

open Outcome

variable {fs after : FileSystem} {path source : Path}

/-! ## Following paths -/

theorem eq_of_walk {steps : List Step} {address result : Address}
    (walked : fs.walk address steps = .ok result) : result = steps.foldl Step.follow address := by
  induction steps generalizing address with
  | nil => exact (Except.ok.inj walked).symm
  | cons step steps ih =>
      simp only [walk] at walked
      obtain ⟨_, _, rest⟩ := bind_eq_ok.mp walked
      cases step with
      | stay => exact ih rest
      | up => exact ih rest
      | enter name =>
          obtain ⟨next, isChild, rest⟩ := bind_eq_ok.mp rest
          have next_eq : next = address ++ [name] := by
            simp only [child] at isChild
            split at isChild
            · cases isChild
            · exact (Except.ok.inj isChild).symm
          rw [next_eq] at rest
          split at rest
          · cases rest
          · exact ih rest

theorem eq_of_child {directory address : Address} {name : Bytes}
    (isChild : child directory name = .ok address) : address = directory ++ [name] := by
  simp only [child] at isChild
  split at isChild
  · cases isChild
  · exact (Except.ok.inj isChild).symm

theorem stand_eq_ok {address : Address} :
    fs.stand address = .ok () ↔ fs.find? address = some .directory := by
  unfold stand
  split <;> simp_all

/-- The end of a path is its last step, taken from a directory. -/
theorem destination_eq_ok {ending : Destination} (found : fs.destination path = .ok ending) :
    ending.last = path.steps.getLast? ∧
      fs.walk (fs.origin path) path.steps.dropLast = .ok ending.directory ∧
      fs.find? ending.directory = some .directory := by
  obtain ⟨_, _, found⟩ := bind_eq_ok.mp found
  obtain ⟨directory, walked, found⟩ := bind_eq_ok.mp found
  obtain ⟨_, stands, found⟩ := bind_eq_ok.mp found
  rw [← Except.ok.inj found]
  exact ⟨rfl, walked, stand_eq_ok.mp stands⟩

/-- A path that ends in a name leads to that name in the directory of its end. -/
theorem target_of_destination {ending : Destination} {name : Bytes}
    (found : fs.destination path = .ok ending) (last : ending.last = some (.enter name)) :
    fs.target path = ending.directory ++ [name] := by
  obtain ⟨isLast, walked, _⟩ := destination_eq_ok found
  rw [isLast] at last
  obtain ⟨start, steps⟩ := List.getLast?_eq_some_iff.mp last
  rw [eq_of_walk walked, ← foldl_steps, steps, List.dropLast_concat, List.foldl_append]
  rfl

/-- A path that is followed leads to its address, and to a directory if it asks for one. -/
theorem locate_eq_ok {address : Address} : fs.locate path = .ok address ↔
    path.check = .ok () ∧ fs.walk (fs.origin path) path.steps = .ok address ∧
      (path.endsInSeparator = true → fs.stand address = .ok ()) := by
  simp only [locate, bind_eq_ok]
  constructor
  · intro located
    obtain ⟨_, checked, place, walked, located⟩ := located
    split at located
    · obtain ⟨_, stands, same⟩ := bind_eq_ok.mp located
      have isPlace : place = address := Except.ok.inj same
      rw [isPlace] at walked stands
      exact ⟨checked, walked, fun _ => stands⟩
    · rename_i open_
      have isPlace : place = address := Except.ok.inj located
      rw [isPlace] at walked
      exact ⟨checked, walked, fun closed => absurd closed open_⟩
  · intro located
    obtain ⟨checked, walked, stands⟩ := located
    refine ⟨(), checked, address, walked, ?_⟩
    split
    · rename_i closed
      rw [stands closed]
      rfl
    · rfl

/-- A file is read where its path can be followed to it. -/
theorem read_eq_ok {bytes : Bytes} : fs.read path = .ok bytes ↔
    fs.locate path = .ok (fs.target path) ∧ fs.content? (fs.target path) = some bytes := by
  have ends : ∀ address, fs.locate path = .ok address → address = fs.target path := by
    intro address located
    rw [← foldl_steps]
    exact eq_of_walk (locate_eq_ok.mp located).2.1
  simp only [read, bind_eq_ok, content?]
  constructor
  · intro content
    obtain ⟨address, located, content⟩ := content
    have isTarget := ends address located
    rw [isTarget] at located content
    refine ⟨located, ?_⟩
    split at content
    · rename_i found
      rw [found, Except.ok.inj content]
    · cases content
    · cases content
  · intro content
    obtain ⟨located, content⟩ := content
    refine ⟨_, located, ?_⟩
    split at content
    · rename_i found
      simp [found, Option.some.inj content]
    · cases content

theorem ne_root {address : Address} {found : Option Node} (isFound : fs.find? address = found)
    (notDirectory : found ≠ some .directory) : address ≠ [] := by
  rintro rfl
  exact notDirectory (isFound.symm.trans (if_pos rfl))

/-! ## Writing -/

/-- A file is opened for writing at the address of its path, where there is no directory. -/
theorem openForWriting_eq_ok {address : Address} (opened : fs.openForWriting path = .ok address) :
    address = fs.target path ∧ address ≠ [] ∧ fs.find? address ≠ some .directory := by
  obtain ⟨ending, found, opened⟩ := bind_eq_ok.mp opened
  split at opened
  · rename_i name last
    split at opened
    · cases opened
    · obtain ⟨place, isChild, opened⟩ := bind_eq_ok.mp opened
      have place_eq := eq_of_child isChild
      split at opened
      · cases opened
      · rename_i notDirectory
        have same : place = address := Except.ok.inj opened
        rw [same] at notDirectory place_eq
        exact ⟨by rw [place_eq, target_of_destination found last], by simp [place_eq], notDirectory⟩
  · cases opened

theorem write_eq_ok {content : Bytes} (written : fs.write path content = .ok after) :
    fs.openForWriting path = .ok (fs.target path) ∧
      after = fs.store (fs.target path) content := by
  obtain ⟨address, opened, stored⟩ := bind_eq_ok.mp written
  have isTarget := (openForWriting_eq_ok opened).1
  subst isTarget
  exact ⟨opened, (Except.ok.inj stored).symm⟩

/-- Storing makes a file of the content, and changes no other address. -/
theorem store_eq (fs : FileSystem) (content : Bytes) (address : Address) :
    ∃ executable, fs.store address content = fs.set address (.file content executable) := by
  unfold store
  split
  · exact ⟨_, rfl⟩
  · exact ⟨false, rfl⟩

theorem content?_set_file {address : Address} (notRoot : address ≠ []) (content : Bytes)
    (executable : Bool) : (fs.set address (.file content executable)).content? address
      = some content := by
  simp only [content?, find?_set_self fs _ notRoot]

theorem content?_set_of_ne {address other : Address} (node : Node) (different : other ≠ address) :
    (fs.set address node).content? other = fs.content? other := by
  simp only [content?, find?_set_of_ne fs node different]

theorem content?_erase_of_ne {address other : Address} (different : other ≠ address) :
    (fs.erase address).content? other = fs.content? other := by
  simp only [content?, find?_erase_of_ne fs different]

theorem directory_of_set_file {address other : Address} {content : Bytes} {executable : Bool}
    (found : (fs.set address (.file content executable)).find? other = some .directory) :
    fs.find? other = some .directory := by
  by_cases same : other = address
  · by_cases root : address = []
    · simp [same, root, find?]
    · rw [same, find?_set_self fs _ root] at found
      cases found
  · rwa [find?_set_of_ne fs _ same] at found

theorem find?_erase_self {address : Address} (notRoot : address ≠ []) :
    (fs.erase address).find? address = none := by
  simp only [find?, erase, if_neg notRoot, List.lookup_eq_none_iff, List.mem_filter]
  intro entry kept
  rw [bne_comm]
  exact kept.2

theorem directory_of_erase {address other : Address}
    (found : (fs.erase address).find? other = some .directory) :
    fs.find? other = some .directory := by
  by_cases same : other = address
  · by_cases root : address = []
    · simp [same, root, find?]
    · rw [same, find?_erase_self root] at found
      cases found
  · rwa [find?_erase_of_ne fs same] at found

/-! ## Making, taking away and moving -/

theorem makeDirectory_eq_ok (made : fs.makeDirectory path = .ok after) :
    fs.find? (fs.target path) = none ∧ after = fs.set (fs.target path) .directory := by
  obtain ⟨ending, found, made⟩ := bind_eq_ok.mp made
  split at made
  · rename_i name last
    obtain ⟨address, isChild, made⟩ := bind_eq_ok.mp made
    have isTarget : address = fs.target path := by
      rw [eq_of_child isChild, target_of_destination found last]
    split at made
    · cases made
    · rename_i nothing
      rw [isTarget] at made nothing
      exact ⟨by simpa using nothing, (Except.ok.inj made).symm⟩
  · cases made

theorem remove_eq_ok (removed : fs.remove path = .ok after) :
    (∃ content executable, fs.find? (fs.target path) = some (.file content executable)) ∧
      after = fs.erase (fs.target path) := by
  obtain ⟨ending, found, removed⟩ := bind_eq_ok.mp removed
  split at removed
  · rename_i name last
    obtain ⟨address, isChild, removed⟩ := bind_eq_ok.mp removed
    have isTarget : address = fs.target path := by
      rw [eq_of_child isChild, target_of_destination found last]
    split at removed
    · cases removed
    · cases removed
    · rename_i content executable isFile
      split at removed
      · cases removed
      · rw [isTarget] at removed isFile
        exact ⟨⟨content, executable, isFile⟩, (Except.ok.inj removed).symm⟩
  · cases removed

/-- Moving a file takes it away from the one address and puts it at the other, where there is no
directory. -/
theorem rename_eq_ok (renamed : fs.rename source path = .ok after) :
    ∃ content executable, fs.find? (fs.target source) = some (.file content executable) ∧
      fs.openForWriting path = .ok (fs.target path) ∧
      after = (fs.erase (fs.target source)).set (fs.target path) (.file content executable) := by
  obtain ⟨sourceEnd, sourceFound, renamed⟩ := bind_eq_ok.mp renamed
  obtain ⟨targetEnd, targetFound, renamed⟩ := bind_eq_ok.mp renamed
  split at renamed
  · rename_i sourceName targetName sourceLast targetLast
    obtain ⟨sourceAddress, sourceChild, renamed⟩ := bind_eq_ok.mp renamed
    have isSource : sourceAddress = fs.target source := by
      rw [eq_of_child sourceChild, target_of_destination sourceFound sourceLast]
    split at renamed
    · cases renamed
    · cases renamed
    · rename_i content executable isFile
      obtain ⟨targetAddress, targetChild, renamed⟩ := bind_eq_ok.mp renamed
      have isTarget : targetAddress = fs.target path := by
        rw [eq_of_child targetChild, target_of_destination targetFound targetLast]
      by_cases closed : source.endsInSeparator = true ∨ path.endsInSeparator = true
      · simp only [if_pos closed] at renamed
        cases renamed
      by_cases directory : fs.find? targetAddress = some .directory
      · simp only [if_neg closed, if_pos directory] at renamed
        cases renamed
      · simp only [if_neg closed, if_neg directory] at renamed
        rw [not_or] at closed
        have opened : fs.openForWriting path = .ok targetAddress := by
          simp [openForWriting, targetFound, targetLast, closed.2, targetChild, directory]
        rw [isSource] at isFile renamed
        rw [isTarget] at opened renamed
        exact ⟨content, executable, isFile, opened, (Except.ok.inj renamed).symm⟩
  · cases renamed

end Restripe.FileSystem
