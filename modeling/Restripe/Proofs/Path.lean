import Restripe.Block
import Restripe.Proofs.Text.Numeral

/-!
# Names in paths

An ordinary name is one step of a path wherever it stands: not empty, not a dot or two dots, and
without separator.  A path that ends in such a name has it as its file name, and what stands before
it as its parent.  Every file name of a path is ordinary.
-/

namespace Restripe.Path

/-- A name that is one ordinary step of a path. -/
structure IsName (name : Bytes) : Prop where
  nonempty : name ≠ []
  unseparated : separator ∉ name
  not_current : name ≠ currentSegment
  not_parent : name ≠ parentSegment

namespace IsName

variable {name : Bytes}

/-- Text that is no dot or two and holds no separator is an ordinary name. -/
theorem encode {text : Text} (nonempty : text ≠ []) (unseparated : '/' ∉ text)
    (not_current : text ≠ ['.']) (not_parent : text ≠ ['.', '.']) : IsName (Utf8.encode text) where
  nonempty same := nonempty (Utf8.encode_injective same)
  unseparated member := by
    obtain ⟨char, inText, value⟩ := Utf8.exists_of_mem_encode (by decide) member
    have slash : char = '/' := Char.toNat_inj.mp value
    exact unseparated (slash ▸ inText)
  not_current same := not_current (Utf8.encode_injective (same.trans (by decide)))
  not_parent same := not_parent (Utf8.encode_injective (same.trans (by decide)))

theorem not_silent (ordinary : IsName name) : isSilent name = false := by
  simp [isSilent, ordinary.nonempty, ordinary.not_current]

theorem component_eq (ordinary : IsName name) : component name = .named name :=
  if_neg ordinary.not_parent

theorem not_absolute (ordinary : IsName name) : isAbsolute ⟨name⟩ = false := by
  cases name with
  | nil => rfl
  | cons byte rest =>
      have notFirst : byte ≠ separator := fun same => ordinary.unseparated (by simp [same])
      simp [isAbsolute, notFirst]

end IsName

/-! ## Segments -/

theorem segments_of_notMem {name : Bytes} (unseparated : separator ∉ name) :
    segments name = (name, []) := by
  induction name with
  | nil => rfl
  | cons byte rest ih =>
      simp only [List.mem_cons, not_or] at unseparated
      simp [segments, ih unseparated.2, Ne.symm unseparated.1]

/-- A separator divides the segments before it from those after it. -/
theorem segments_append (left right : Bytes) :
    segments (left ++ separator :: right) =
      ((segments left).1, (segments left).2 ++ (segments right).1 :: (segments right).2) := by
  induction left with
  | nil => simp [segments]
  | cons byte rest ih =>
      by_cases same : byte = separator <;> simp [segments, ih, same]

theorem notMem_segments (bytes : Bytes) :
    separator ∉ (segments bytes).1 ∧ ∀ segment ∈ (segments bytes).2, separator ∉ segment := by
  induction bytes with
  | nil => simp [segments]
  | cons byte rest ih =>
      by_cases same : byte = separator
      · simpa [segments, same] using ih
      · simpa [segments, same, Ne.symm same] using ih

/-! ## File names -/

theorem isName_of_mem_components {path : Path} {name : Bytes}
    (member : .named name ∈ path.components) : IsName name := by
  obtain ⟨firstPlain, othersPlain⟩ := notMem_segments path.bytes
  have named : ∀ segment, separator ∉ segment → segment ≠ [] → segment ≠ currentSegment →
      .named name = component segment → IsName name := by
    intro segment plain nonempty notCurrent same
    unfold component at same
    split at same
    · contradiction
    · rename_i notParent
      obtain rfl := Component.named.inj same
      exact ⟨nonempty, plain, notCurrent, notParent⟩
  rcases List.mem_append.mp member with leading | other
  · unfold leadingComponent at leading
    split at leading
    · split at leading <;> simp at leading
    · split at leading
      · simp at leading
      · rename_i nonempty notCurrent
        exact named _ firstPlain nonempty notCurrent (List.mem_singleton.mp leading)
  · obtain ⟨segment, kept, same⟩ := List.mem_map.mp other
    obtain ⟨inPath, notSilent⟩ := List.mem_filter.mp kept
    simp only [isSilent, Bool.not_eq_true', Bool.or_eq_false_iff, beq_eq_false_iff_ne] at notSilent
    exact named segment (othersPlain segment inPath) notSilent.1 notSilent.2 same.symm

theorem fileName?_eq_some {path : Path} {name : Bytes} :
    path.fileName? = some name ↔ path.components.getLast? = some (.named name) := by
  unfold fileName?
  split
  · rename_i last
    simp [last]
  · rename_i notNamed
    simpa using notNamed name

theorem isName_of_fileName? {path : Path} {name : Bytes} (named : path.fileName? = some name) :
    IsName name :=
  isName_of_mem_components (List.mem_of_getLast? (fileName?_eq_some.mp named))

theorem fileName?_congr {left right : Path} (same : left.components = right.components) :
    left.fileName? = right.fileName? := by
  simp only [fileName?, same]

section Join

variable (base : Path) {name directory : Bytes}

theorem segments_join (ordinary : IsName name) :
    (base.bytes = [] ∧ segments (base.join ⟨name⟩).bytes = (name, [])) ∨
      ∃ first others, segments (base.join ⟨name⟩).bytes = (first, others ++ [name]) := by
  have plain := segments_of_notMem ordinary.unseparated
  simp only [join, ordinary.not_absolute, Bool.false_eq_true, if_false]
  split
  · rename_i unseparated
    rcases unseparated with empty | closed
    · exact .inl ⟨empty, by simp [empty, plain]⟩
    · obtain ⟨left, split⟩ := List.getLast?_eq_some_iff.mp closed
      refine .inr ⟨(segments left).1, (segments left).2, ?_⟩
      simp [split, segments_append, plain]
  · refine .inr ⟨(segments base.bytes).1, (segments base.bytes).2, ?_⟩
    simp [segments_append, plain]

variable {base}

theorem fileName?_join (ordinary : IsName name) : (base.join ⟨name⟩).fileName? = some name := by
  rw [fileName?_eq_some]
  rcases segments_join base ordinary with ⟨_, segments⟩ | ⟨first, others, segments⟩
  · simp [components, segments, leadingComponent, ordinary.nonempty, ordinary.not_current,
      ordinary.component_eq]
  · simp [components, segments, ordinary.not_silent, ordinary.component_eq]

theorem dropSilent_concat (segments : List Bytes) (ordinary : IsName name) :
    dropSilent (segments ++ [name]) = segments ++ [name] := by
  simp [dropSilent, ordinary.not_silent]

/-- The parent of a path that ends in an ordinary name is what stands before the name. -/
theorem parent?_of_segments {path : Path} {first : Bytes} {others : List Bytes}
    (split : segments path.bytes = (first, others ++ [name])) (ordinary : IsName name)
    (trimmed : dropSilent others = others) (rooted : others = [] → first ≠ []) :
    path.parent? = some (ofSegments first others) := by
  simp only [parent?, split, dropSilent_concat others ordinary]
  cases others with
  | nil => simp [dropSilent, rooted, ofSegments]
  | cons head tail =>
      simp only [List.cons_append]
      rw [← List.cons_append, List.dropLast_concat, trimmed]

/-- What follows a path that ends in an ordinary name comes after a separator. -/
theorem bytes_join_join (ordinary : IsName name) (directoryOrdinary : IsName directory) :
    ((base.join ⟨directory⟩).join ⟨name⟩).bytes =
      (base.join ⟨directory⟩).bytes ++ separator :: name := by
  obtain ⟨left, ending⟩ : ∃ left, (base.join ⟨directory⟩).bytes = left ++ directory := by
    simp only [join, directoryOrdinary.not_absolute, Bool.false_eq_true, if_false]
    split
    · exact ⟨base.bytes, rfl⟩
    · exact ⟨base.bytes ++ [separator], by simp⟩
  have notOpen : ¬((base.join ⟨directory⟩).bytes = [] ∨
      (base.join ⟨directory⟩).bytes.getLast? = some separator) := by
    rw [ending, List.getLast?_append_of_ne_nil _ directoryOrdinary.nonempty]
    rintro (empty | closed)
    · exact directoryOrdinary.nonempty (List.append_eq_nil_iff.mp empty).2
    · exact directoryOrdinary.unseparated (List.mem_of_getLast? closed)
  rw [join, if_neg (by simp [ordinary.not_absolute]), if_neg notOpen]

/-- A name in a directory has the path of that directory as its parent. -/
theorem parent?_join_join (ordinary : IsName name) (directoryOrdinary : IsName directory) :
    ((base.join ⟨directory⟩).join ⟨name⟩).parent? = some (base.join ⟨directory⟩) := by
  have split : segments ((base.join ⟨directory⟩).join ⟨name⟩).bytes =
      ((segments (base.join ⟨directory⟩).bytes).1,
        (segments (base.join ⟨directory⟩).bytes).2 ++ [name]) := by
    rw [bytes_join_join ordinary directoryOrdinary, segments_append,
      segments_of_notMem ordinary.unseparated]
  rw [parent?_of_segments split ordinary, ofSegments_segments]
  · rcases segments_join base directoryOrdinary with
      ⟨_, inner⟩ | ⟨first, others, inner⟩
    · simp [inner, dropSilent]
    · simp [inner, dropSilent_concat others directoryOrdinary]
  · rcases segments_join base directoryOrdinary with
      ⟨_, inner⟩ | ⟨first, others, inner⟩
    · simp [inner, directoryOrdinary.nonempty]
    · simp [inner]

end Join

end Restripe.Path

/-!
## Files of blocks

Whatever the data directory is, the file of a block lies in the directory of its node there, under
an ordinary name.  The name of an initial block and that of a computed parity block each determine
the block, and no name is of both kinds.
-/

namespace Restripe

open Restripe.Path

/-- File name of a block before any transition. -/
def initialBlockName (key : BlockKey) : Bytes :=
  Bytes.ofString s!"block_{key.stripe}_{key.block}"

/-- File name of a parity block that a transition computes anew. -/
def parityBlockName (key : BlockKey) : Bytes :=
  Bytes.ofString s!"post_block_{key.stripe}_{key.block}"

/-- The numerals of a key as they stand in file names. -/
def BlockKey.numerals (key : BlockKey) : Text :=
  Decimal.digits key.stripe.toNat ++ '_' :: Decimal.digits key.block.toNat

/-- The name of the directory of a node as text. -/
def nodeText (node : NodeId) : Text :=
  ['n', 'o', 'd', 'e', '_'] ++ Decimal.digits node.toNat

/-! ### Names as text -/

theorem BlockKey.numerals_injective {left right : BlockKey}
    (same : left.numerals = right.numerals) : left = right := by
  have unmarked (value : Nat) : '_' ∉ Decimal.digits value := Nat.underscore_not_in_toDigits
  obtain ⟨stripes, -, blocks⟩ :=
    (List.append_cons_inj_of_notMem (unmarked _) (unmarked _)).mp same.symm
  exact (eq_of_toNat_eq (Decimal.digits_injective stripes)
    (Decimal.digits_injective blocks)).symm

theorem BlockKey.unseparated_numerals (key : BlockKey) : '/' ∉ key.numerals := by
  have undivided (value : Nat) : '/' ∉ Decimal.digits value := fun member =>
    absurd (Decimal.isDigit_of_mem_digits member) (by decide)
  simp [numerals, undivided]

theorem initialBlockName_eq (key : BlockKey) :
    initialBlockName key = Utf8.encode (['b', 'l', 'o', 'c', 'k', '_'] ++ key.numerals) := by
  simp [initialBlockName, Bytes.ofString, BlockKey.numerals, Decimal.digits, toString]

theorem parityBlockName_eq (key : BlockKey) :
    parityBlockName key =
      Utf8.encode (['p', 'o', 's', 't', '_', 'b', 'l', 'o', 'c', 'k', '_'] ++ key.numerals) := by
  simp [parityBlockName, Bytes.ofString, BlockKey.numerals, Decimal.digits, toString]

theorem nodeDirectory_eq (node : NodeId) :
    Bytes.ofString (nodeDirectory node) = Utf8.encode (nodeText node) := by
  simp [nodeDirectory, Bytes.ofString, nodeText, Decimal.digits, toString]

theorem initialBlockName_injective {left right : BlockKey}
    (same : initialBlockName left = initialBlockName right) : left = right := by
  rw [initialBlockName_eq, initialBlockName_eq, Utf8.encode_inj] at same
  exact BlockKey.numerals_injective (List.append_cancel_left same)

theorem parityBlockName_injective {left right : BlockKey}
    (same : parityBlockName left = parityBlockName right) : left = right := by
  rw [parityBlockName_eq, parityBlockName_eq, Utf8.encode_inj] at same
  exact BlockKey.numerals_injective (List.append_cancel_left same)

theorem nodeDirectory_injective {left right : NodeId}
    (same : Bytes.ofString (nodeDirectory left) = Bytes.ofString (nodeDirectory right)) :
    left = right := by
  rw [nodeDirectory_eq, nodeDirectory_eq, Utf8.encode_inj] at same
  exact UInt16.toNat_inj.mp (Decimal.digits_injective (List.append_cancel_left same))

/-- A computed parity block is never named like an initial block. -/
theorem initialBlockName_ne_parityBlockName (initial parity : BlockKey) :
    initialBlockName initial ≠ parityBlockName parity := by
  rw [initialBlockName_eq, parityBlockName_eq, Ne, Utf8.encode_inj]
  simp

/-! ### Names are ordinary -/

theorem isName_initialBlockName (key : BlockKey) : IsName (initialBlockName key) := by
  rw [initialBlockName_eq]
  exact .encode (by simp) (by simp [key.unseparated_numerals]) (by simp) (by simp)

theorem isName_parityBlockName (key : BlockKey) : IsName (parityBlockName key) := by
  rw [parityBlockName_eq]
  exact .encode (by simp) (by simp [key.unseparated_numerals]) (by simp) (by simp)

theorem isName_nodeDirectory (node : NodeId) : IsName (Bytes.ofString (nodeDirectory node)) := by
  have undivided : '/' ∉ Decimal.digits node.toNat := fun member =>
    absurd (Decimal.isDigit_of_mem_digits member) (by decide)
  rw [nodeDirectory_eq]
  exact .encode (by simp [nodeText]) (by simp [nodeText, undivided]) (by simp [nodeText])
    (by simp [nodeText])

/-! ### Paths -/

section Paths

variable (dataDirectory : Path) (node : NodeId)

theorem fileName?_initialBlockPath (key : BlockKey) :
    (initialBlockPath dataDirectory node key).fileName? = some (initialBlockName key) :=
  fileName?_join (isName_initialBlockName key)

theorem fileName?_parityBlockPath (key : BlockKey) :
    (parityBlockPath dataDirectory node key).fileName? = some (parityBlockName key) :=
  fileName?_join (isName_parityBlockName key)

theorem fileName?_relocatedPath {name : Bytes} (ordinary : IsName name) :
    (relocatedPath dataDirectory node name).fileName? = some name :=
  fileName?_join ordinary

theorem parent?_initialBlockPath (key : BlockKey) :
    (initialBlockPath dataDirectory node key).parent? =
      some (dataDirectory.child (nodeDirectory node)) :=
  parent?_join_join (isName_initialBlockName key) (isName_nodeDirectory node)

theorem parent?_parityBlockPath (key : BlockKey) :
    (parityBlockPath dataDirectory node key).parent? =
      some (dataDirectory.child (nodeDirectory node)) :=
  parent?_join_join (isName_parityBlockName key) (isName_nodeDirectory node)

theorem parent?_relocatedPath {name : Bytes} (ordinary : IsName name) :
    (relocatedPath dataDirectory node name).parent? =
      some (dataDirectory.child (nodeDirectory node)) :=
  parent?_join_join ordinary (isName_nodeDirectory node)

end Paths

end Restripe
