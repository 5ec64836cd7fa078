import Mathlib.Data.Nat.Init
import Restripe.Proofs.Text.Utf8
import Restripe.Solver.External

/-!
# What is shown of a long complaint

The shown end of a text is found without looking at bytes.  It is the same as what a search in the
bytes finds: start where as many bytes are left as fit, go on to the first boundary, and take the
rest.  The search ends within three steps, so at most three bytes that would fit are given up.
-/

/-!
## Places between characters

A byte of encoded text either begins a character or goes on with one.  A place in the bytes is a
boundary where no character is cut: at the start, at the end, and before a byte that begins a
character.  So the boundaries of encoded text are the places where the text itself can be cut, and
because a character takes no more than four bytes, none is far from any place.
-/

namespace Restripe.Utf8

/-- Whether a byte does not go on with a character that an earlier byte has begun. -/
def begins (byte : UInt8) : Bool :=
  byte < 0x80 || 0xC0 ≤ byte

/-- Whether a place in a byte string is at its start, at its end, or before a byte that begins a
character. -/
def isBoundary (bytes : Bytes) (place : Nat) : Bool :=
  place == 0 || place == bytes.length || bytes[place]?.any begins

/-- The text from a place in its bytes on.  There is none where a character would be cut, and none
beyond the end. -/
def sliceFrom? (bytes : Bytes) (place : Nat) : Option Text :=
  if isBoundary bytes place then decode? (bytes.drop place) else none

/-- The search for a boundary from a place on, one byte at a time, and where it ends. -/
inductive Seeks (bytes : Bytes) : (place stop : Nat) → Prop where
  | found {place : Nat} (boundary : isBoundary bytes place = true) : Seeks bytes place place
  | next {place stop : Nat} (inside : isBoundary bytes place = false)
      (later : Seeks bytes (place + 1) stop) : Seeks bytes place stop

theorem Seeks.of_first {bytes : Bytes} {place stop : Nat} (before : place ≤ stop)
    (boundary : isBoundary bytes stop = true)
    (first : ∀ other, place ≤ other → other < stop → isBoundary bytes other = false) :
    Seeks bytes place stop := by
  induction before using Nat.decreasingInduction with
  | self => exact .found boundary
  | of_succ place less ih =>
      exact .next (first place (Nat.le_refl place) less)
        (ih fun other above below => first other (Nat.le_of_succ_le above) below)

/-! ### Bytes of a character -/

theorem encode_cons (char : Char) (text : Text) :
    encode (char :: text) = String.utf8EncodeChar char ++ encode text :=
  List.flatMap_cons

@[simp] theorem byteLength_nil : byteLength [] = 0 :=
  rfl

@[simp] theorem byteLength_cons (char : Char) (text : Text) :
    byteLength (char :: text) = char.utf8Size + byteLength text := by
  rw [byteLength, encode_cons, List.length_append, String.length_utf8EncodeChar, byteLength]

@[simp] theorem byteLength_append (left right : Text) :
    byteLength (left ++ right) = byteLength left + byteLength right := by
  simp [byteLength, encode, List.flatMap_append]

@[simp] theorem byteLength_reverse (text : Text) : byteLength text.reverse = byteLength text := by
  induction text with
  | nil => rfl
  | cons char text ih => simp [ih, Nat.add_comm]

theorem begins_ofNat {value : Nat} (bound : value < 256) :
    begins (UInt8.ofNat value) = true ↔ value < 128 ∨ 192 ≤ value := by
  have same : (UInt8.ofNat value).toNat = value := UInt8.toNat_ofNat_of_lt' bound
  simp only [begins, Bool.or_eq_true, decide_eq_true_eq, UInt8.le_iff_toNat_le,
    UInt8.lt_iff_toNat_lt, same, UInt8.reduceToNat]

/-- Just the first byte of a character begins one. -/
theorem exists_utf8EncodeChar (char : Char) : ∃ first others,
    String.utf8EncodeChar char = first :: others ∧ begins first = true ∧
      ∀ byte ∈ others, begins byte = false := by
  have goesOn {value : Nat} (above : 128 ≤ value) (below : value < 192) :
      begins (UInt8.ofNat value) = false :=
    Bool.eq_false_iff.mpr fun isFirst => by
      rcases (begins_ofNat (by omega)).mp isFirst with less | more <;> omega
  simp only [String.utf8EncodeChar]
  -- one case for each number of bytes
  split
  · refine ⟨_, [], rfl, (begins_ofNat (by omega)).mpr (.inl (by omega)), ?_⟩
    exact List.forall_mem_nil _
  split
  · refine ⟨_, _, rfl, (begins_ofNat (by omega)).mpr (.inr (by omega)), ?_⟩
    simp only [List.forall_mem_cons]
    exact ⟨goesOn (by omega) (by omega), List.forall_mem_nil _⟩
  split
  · refine ⟨_, _, rfl, (begins_ofNat (by omega)).mpr (.inr (by omega)), ?_⟩
    simp only [List.forall_mem_cons]
    exact ⟨goesOn (by omega) (by omega), goesOn (by omega) (by omega), List.forall_mem_nil _⟩
  · refine ⟨_, _, rfl, (begins_ofNat (by omega)).mpr (.inr (by omega)), ?_⟩
    simp only [List.forall_mem_cons]
    exact ⟨goesOn (by omega) (by omega), goesOn (by omega) (by omega),
      goesOn (by omega) (by omega), List.forall_mem_nil _⟩

/-! ### Boundaries of encoded text -/

theorem isBoundary_byteLength (front back : Text) :
    isBoundary (encode (front ++ back)) (byteLength front) = true := by
  cases back with
  | nil => simp [isBoundary, byteLength]
  | cons char back =>
      obtain ⟨first, others, bytes, isFirst, -⟩ := exists_utf8EncodeChar char
      have found : (encode (front ++ char :: back))[byteLength front]? = some first := by
        rw [encode_append, byteLength, List.getElem?_append_right (Nat.le_refl _), Nat.sub_self,
          encode_cons, bytes]
        rfl
      simp [isBoundary, found, isFirst]

theorem utf8Size_le_of_isBoundary {char : Char} {text : Text} {place : Nat} (inside : 0 < place)
    (boundary : isBoundary (encode (char :: text)) place = true) : char.utf8Size ≤ place := by
  obtain ⟨first, others, bytes, -, goOn⟩ := exists_utf8EncodeChar char
  have size : char.utf8Size = others.length + 1 := by
    rw [← String.length_utf8EncodeChar, bytes, List.length_cons]
  by_contra short
  obtain ⟨index, rfl⟩ := Nat.exists_eq_add_one.mpr inside
  have bound : index < others.length := by omega
  have found : (encode (char :: text))[index + 1]? = some others[index] := by
    rw [encode_cons, bytes, List.cons_append, List.getElem?_cons_succ,
      List.getElem?_append_left bound, List.getElem?_eq_getElem bound]
  have notEnd : index + 1 ≠ (encode (char :: text)).length := by
    rw [encode_cons, List.length_append, String.length_utf8EncodeChar]
    omega
  simp [isBoundary, found, notEnd, goOn _ (List.getElem_mem bound)] at boundary

theorem isBoundary_of_cons {char : Char} {text : Text} {place : Nat}
    (boundary : isBoundary (encode (char :: text)) (char.utf8Size + place) = true) :
    isBoundary (encode text) place = true := by
  have shifted : (encode (char :: text))[char.utf8Size + place]? = (encode text)[place]? := by
    rw [encode_cons, List.getElem?_append_right (by simp), String.length_utf8EncodeChar,
      Nat.add_sub_cancel_left]
  have length : (encode (char :: text)).length = char.utf8Size + (encode text).length := by
    rw [encode_cons, List.length_append, String.length_utf8EncodeChar]
  simp only [isBoundary, shifted, length, Bool.or_eq_true, beq_iff_eq] at boundary ⊢
  rcases boundary with (start | ends) | isFirst
  · exact .inl (.inl (Nat.eq_zero_of_add_eq_zero start).2)
  · exact .inl (.inr (Nat.add_left_cancel ends))
  · exact .inr isFirst

/-- At every boundary a text can be cut in two. -/
theorem exists_of_isBoundary {text : Text} {place : Nat}
    (boundary : isBoundary (encode text) place = true) :
    ∃ front back, text = front ++ back ∧ byteLength front = place := by
  induction text generalizing place with
  | nil =>
      have start : place = 0 := by simpa [isBoundary, encode] using boundary
      exact ⟨[], [], rfl, start.symm⟩
  | cons char text ih =>
      rcases Nat.eq_zero_or_pos place with start | inside
      · exact ⟨[], char :: text, rfl, start.symm⟩
      obtain ⟨later, rfl⟩ := Nat.exists_eq_add_of_le (utf8Size_le_of_isBoundary inside boundary)
      obtain ⟨front, back, rfl, length⟩ := ih (isBoundary_of_cons boundary)
      exact ⟨char :: front, back, rfl, by rw [byteLength_cons, length]⟩

/-- The slice from a boundary on is what follows the cut. -/
theorem sliceFrom?_byteLength (front back : Text) :
    sliceFrom? (encode (front ++ back)) (byteLength front) = some back := by
  rw [sliceFrom?, if_pos (isBoundary_byteLength front back), encode_append, byteLength,
    List.drop_left, decode?_encode]

end Restripe.Utf8

/-! ## The shown end -/

namespace Restripe

/-! ### The longest end that fits -/

theorem takeBytes_prefix (budget : Nat) (text : Text) : takeBytes budget text <+: text := by
  induction text generalizing budget with
  | nil => exact List.nil_prefix
  | cons char text ih =>
      rw [takeBytes]
      split
      · exact List.cons_prefix_cons.mpr ⟨rfl, ih _⟩
      · exact List.nil_prefix

theorem byteLength_takeBytes_le (budget : Nat) (text : Text) :
    Utf8.byteLength (takeBytes budget text) ≤ budget := by
  induction text generalizing budget with
  | nil => exact Nat.zero_le _
  | cons char text ih =>
      rw [takeBytes]
      split
      · rename_i fits
        have rest := ih (budget - char.utf8Size)
        rw [Utf8.byteLength_cons]
        omega
      · exact Nat.zero_le _

/-- Every front that fits is within the one that is taken. -/
theorem prefix_takeBytes {budget : Nat} {front text : Text} (isFront : front <+: text)
    (fits : Utf8.byteLength front ≤ budget) : front <+: takeBytes budget text := by
  induction text generalizing budget front with
  | nil => exact isFront
  | cons char text ih =>
      cases front with
      | nil => exact List.nil_prefix
      | cons first front =>
          obtain ⟨rfl, others⟩ := List.cons_prefix_cons.mp isFront
          rw [Utf8.byteLength_cons] at fits
          rw [takeBytes, if_pos (by omega)]
          exact List.cons_prefix_cons.mpr ⟨rfl, ih others (by omega)⟩

/-- No more than three bytes are left over where the text goes on. -/
theorem lt_byteLength_takeBytes {budget : Nat} {text : Text}
    (long : budget < Utf8.byteLength text) :
    budget < Utf8.byteLength (takeBytes budget text) + 4 := by
  induction text generalizing budget with
  | nil => simp at long
  | cons char text ih =>
      rw [Utf8.byteLength_cons] at long
      rw [takeBytes]
      split
      · have rest := @ih (budget - char.utf8Size) (by omega)
        rw [Utf8.byteLength_cons]
        omega
      · have size := char.utf8Size_le_four
        omega

theorem takeLastBytes_suffix (budget : Nat) (text : Text) : takeLastBytes budget text <:+ text :=
  List.reverse_prefix.mp (by rw [takeLastBytes, List.reverse_reverse]; exact takeBytes_prefix ..)

theorem byteLength_takeLastBytes_le (budget : Nat) (text : Text) :
    Utf8.byteLength (takeLastBytes budget text) ≤ budget := by
  rw [takeLastBytes, Utf8.byteLength_reverse]
  exact byteLength_takeBytes_le budget _

/-- Every end that fits is within the one that is taken. -/
theorem suffix_takeLastBytes {budget : Nat} {back text : Text} (isEnd : back <:+ text)
    (fits : Utf8.byteLength back ≤ budget) : back <:+ takeLastBytes budget text := by
  have within : back.reverse <+: takeBytes budget text.reverse :=
    prefix_takeBytes (List.reverse_prefix.mpr isEnd) (by rwa [Utf8.byteLength_reverse])
  rw [takeLastBytes]
  exact List.reverse_prefix.mp (by rwa [List.reverse_reverse])

theorem lt_byteLength_takeLastBytes {budget : Nat} {text : Text}
    (long : budget < Utf8.byteLength text) :
    budget < Utf8.byteLength (takeLastBytes budget text) + 4 := by
  rw [takeLastBytes, Utf8.byteLength_reverse]
  exact lt_byteLength_takeBytes (by rwa [Utf8.byteLength_reverse])

/-- A character that fits in part is left out. -/
example : takeLastBytes 4 ['é', '€', 'é'] = ['é'] := by decide

/-! ### The search for it -/

/-- From where as many bytes are left as fit, the search finds the longest end that fits. -/
theorem seeks_takeLastBytes {budget : Nat} {front text : Text}
    (cut : text = front ++ takeLastBytes budget text) :
    Utf8.Seeks (Utf8.encode text) (Utf8.byteLength text - budget) (Utf8.byteLength front) := by
  have whole : Utf8.byteLength text =
      Utf8.byteLength front + Utf8.byteLength (takeLastBytes budget text) := by
    rw [← Utf8.byteLength_append, ← cut]
  have fits := byteLength_takeLastBytes_le budget text
  refine .of_first (by omega) ?_ fun place above below => Bool.eq_false_iff.mpr fun boundary => ?_
  · rw [cut]
    exact Utf8.isBoundary_byteLength ..
  -- an earlier boundary would leave a longer end that fits
  · obtain ⟨before, back, split, rfl⟩ := Utf8.exists_of_isBoundary boundary
    have parts : Utf8.byteLength text = Utf8.byteLength before + Utf8.byteLength back := by
      rw [← Utf8.byteLength_append, ← split]
    have within : back <:+ takeLastBytes budget text :=
      suffix_takeLastBytes ⟨before, split.symm⟩ (by omega)
    obtain ⟨between, join⟩ := within
    have shorter : Utf8.byteLength back ≤ Utf8.byteLength (takeLastBytes budget text) := by
      rw [← join, Utf8.byteLength_append]
      exact Nat.le_add_left ..
    omega

/-- A complaint as text, without the blanks around it. -/
def complaint (bytes : Bytes) : Text :=
  trimBlanks (Utf8.lossy bytes)

/-- Of a complaint all is shown if it has no more than 512 bytes.  Otherwise the search from its
last 512 bytes on ends at a boundary, after at most three steps, and what is shown is three dots and
the slice from there on: the longest end of no more than 512 bytes, and of at least 509. -/
theorem diagnosticsTail_cases (bytes : Bytes) :
    (Utf8.byteLength (complaint bytes) ≤ 512 ∧ diagnosticsTail bytes = complaint bytes) ∨
    512 < Utf8.byteLength (complaint bytes) ∧ ∃ stop tail,
      Utf8.Seeks (Utf8.encode (complaint bytes)) (Utf8.byteLength (complaint bytes) - 512) stop ∧
      stop ≤ Utf8.byteLength (complaint bytes) - 512 + 3 ∧
      Utf8.sliceFrom? (Utf8.encode (complaint bytes)) stop = some tail ∧
      diagnosticsTail bytes = ['.', '.', '.'] ++ tail ∧
      509 ≤ Utf8.byteLength tail ∧ Utf8.byteLength tail ≤ 512 ∧
      tail <:+ complaint bytes ∧
      ∀ back, back <:+ complaint bytes → Utf8.byteLength back ≤ 512 → back <:+ tail := by
  rcases Nat.lt_or_ge 512 (Utf8.byteLength (complaint bytes)) with long | short
  · have shown : diagnosticsTail bytes =
        ['.', '.', '.'] ++ takeLastBytes 512 (complaint bytes) :=
      if_neg (Nat.not_le.mpr long)
    obtain ⟨front, join⟩ := takeLastBytes_suffix 512 (complaint bytes)
    have least := lt_byteLength_takeLastBytes long
    have most := byteLength_takeLastBytes_le 512 (complaint bytes)
    have whole : Utf8.byteLength (complaint bytes) = Utf8.byteLength front +
        Utf8.byteLength (takeLastBytes 512 (complaint bytes)) := by
      rw [← Utf8.byteLength_append, join]
    have slice := Utf8.sliceFrom?_byteLength front (takeLastBytes 512 (complaint bytes))
    rw [join] at slice
    exact .inr ⟨long, Utf8.byteLength front, takeLastBytes 512 (complaint bytes),
      seeks_takeLastBytes join.symm, by omega, slice, shown, by omega, most, ⟨front, join⟩,
      fun back isBack fits => suffix_takeLastBytes isBack fits⟩
  · exact .inl ⟨short, if_pos short⟩

end Restripe
