import Mathlib.Data.List.Forall2
import Restripe.Proofs.Datum.Toml.Scalar

/-!
# Reading written TOML

Sections are read back as the record of their records, as long as their names need no quotes and
are all different, and so are the names in each section.
-/

/-!
## Tables that are filled in order

Items that are put under new keys stand in a table in the order in which they came.  So values
under keys that are all different fill a table as a list, and the same holds of the tables of a
text.
-/

namespace Restripe.Toml.Table

theorem put_of_not_mem {key : String} {item : Item} {table : Table}
    (fresh : key ∉ table.map Prod.fst) : table.put key item = table ++ [(key, item)] := by
  induction table with
  | nil => rfl
  | cons member table ih =>
      simp only [List.map_cons, List.mem_cons, not_or] at fresh
      rw [put, if_neg (Ne.symm fresh.1), ih fresh.2]
      rfl

theorem lookup_of_not_mem {key : String} {table : Table}
    (fresh : key ∉ table.map Prod.fst) : table.lookup key = none := by
  rw [List.lookup_eq_none_iff]
  intro member inTable
  simp only [bne_iff_ne]
  rintro rfl
  exact fresh (List.mem_map_of_mem inTable)

/-- Items under keys that are all different fill a table in their order, if each may be put under a
new key. -/
theorem foldlM_put {add : Table → α → Option Table} (key : α → String) (item : α → Item)
    {parts : List α} {table : Table}
    (each : ∀ part ∈ parts, ∀ table : Table, key part ∉ table.map Prod.fst →
      add table part = some (table.put (key part) (item part)))
    (distinct : (table.map Prod.fst ++ parts.map key).Nodup) :
    parts.foldlM add table = some (table ++ parts.map fun part => (key part, item part)) := by
  induction parts generalizing table with
  | nil => simp
  | cons part parts ih =>
      obtain ⟨first, others⟩ := List.forall_mem_cons.mp each
      have fresh : key part ∉ table.map Prod.fst := fun member =>
        (List.nodup_append.mp distinct).2.2 _ member _ List.mem_cons_self rfl
      have filled := @ih (table ++ [(key part, item part)]) others (by simpa using distinct)
      rw [List.foldlM_cons, first table fresh, put_of_not_mem fresh]
      simpa using filled

theorem insertAll?_of_nodup {pairs : List (String × Datum)}
    (distinct : (pairs.map Prod.fst).Nodup) :
    insertAll? [] (pairs.map fun pair => ([pair.1], pair.2)) =
      some (pairs.map fun pair => (pair.1, .value pair.2)) := by
  rw [insertAll?, List.foldlM_map]
  refine foldlM_put Prod.fst (fun pair => .value pair.2) (fun pair _ table fresh => ?_) distinct
  simp [insert?, lookup_of_not_mem fresh]

theorem toMembers_eq_map (table : List (String × Item)) :
    toMembers table = table.map fun member => (member.1, member.2.toDatum) := by
  induction table with
  | nil => rfl
  | cons member table ih => rw [toMembers, ih, List.map_cons]

end Restripe.Toml.Table

/-!
## Sections of written TOML

A line is cut into tokens that drive the reader from the start of the line to the start of the next;
from there all lines of a text follow each other.
-/

namespace Restripe.Toml

/-! ### Names -/

/-- Whether a name needs no quotes where it is a key. -/
def IsName (name : String) : Prop :=
  name.toList ≠ [] ∧ name.toList.all isBare = true

instance (name : String) : Decidable (IsName name) :=
  inferInstanceAs (Decidable (_ ∧ _))

/-- Whether names need no quotes and are all different. -/
structure WellNamed (names : List String) : Prop where
  isName : names.all (IsName ·) = true
  distinct : names.Nodup

instance (names : List String) : Decidable (WellNamed names) :=
  decidable_of_iff (names.all (IsName ·) = true ∧ names.Nodup)
    ⟨fun ⟨isName, distinct⟩ => ⟨isName, distinct⟩, fun ⟨isName, distinct⟩ => ⟨isName, distinct⟩⟩

theorem WellNamed.of_mem {members : List (String × α)} (named : WellNamed (members.map Prod.fst))
    {member : String × α} (isMember : member ∈ members) : IsName member.1 :=
  of_decide_eq_true (List.all_eq_true.mp named.isName _ (List.mem_map_of_mem isMember))

theorem IsName.bare {name : String} (isName : IsName name) {char : Char}
    (member : char ∈ name.toList) : isBare char = true :=
  List.all_eq_true.mp isName.2 char member

theorem IsName.reads {name : String} (isName : IsName name) :
    Reads name.toList (.word name.toList) :=
  reads_bare isName.1 isName.2

theorem wordPieces_of_not_mem {letters : Text} (noDot : '.' ∉ letters) (pending : Text) :
    wordPieces pending letters = wordPieces (letters.reverse ++ pending) [] := by
  induction letters generalizing pending with
  | nil => rfl
  | cons letter letters ih =>
      have differs : letter ≠ '.' := fun same => noDot (same ▸ List.mem_cons_self)
      have others : '.' ∉ letters := fun member => noDot (List.mem_cons_of_mem _ member)
      simp [wordPieces.eq_def pending, differs, ih others]

theorem IsName.key? {name : String} (isName : IsName name) :
    Toml.key? [.word name.toList] = some [name] := by
  have noDot : '.' ∉ name.toList := fun member => nomatch isName.bare member
  have letters : name.toList.all (fun char => isBare char || char == '.') = true := by
    simp only [List.all_eq_true, Bool.or_eq_true]
    exact fun char member => .inl (isName.bare member)
  have pieces : wordPieces [] name.toList = [.name name] := by
    rw [wordPieces_of_not_mem noDot, wordPieces, if_neg (by simpa using isName.1)]
    simp
  simp [Toml.key?, keyPieces?, letters, pieces, joinPieces?, nestingLimit]

/-! ### Lines -/

/-- Whether a text is cut into tokens, whatever follows it. -/
structure IsCut (text : Text) (tokens : List Token) : Prop where
  scanned : ∀ rest, scanner.scanFrom .between (text ++ rest) =
    (scanner.scanFrom .between rest).map (tokens ++ ·)
  joined : ∀ rest, joinTimes (tokens ++ rest) = tokens ++ joinTimes rest

/-- Whether a text drives the reader from one state to another. -/
def Drives (text : Text) (state next : State) : Prop :=
  ∃ tokens, IsCut text tokens ∧ tokens.foldlM State.advance state = some next

theorem Drives.refl (state : State) : Drives [] state state :=
  ⟨[], ⟨fun rest => by simp, fun _ => rfl⟩, rfl⟩

theorem Drives.append {left right : Text} {state middle next : State}
    (first : Drives left state middle) (second : Drives right middle next) :
    Drives (left ++ right) state next := by
  obtain ⟨before, cutBefore, advanceBefore⟩ := first
  obtain ⟨after, cutAfter, advanceAfter⟩ := second
  refine ⟨before ++ after, ⟨fun rest => ?_, fun rest => ?_⟩, ?_⟩
  · rw [List.append_assoc, cutBefore.scanned, cutAfter.scanned]
    simp [Function.comp_def]
  · rw [List.append_assoc, cutBefore.joined, cutAfter.joined, List.append_assoc]
  · rw [List.foldlM_append, advanceBefore]
    exact advanceAfter

/-- A text that does not begin with a byte order mark is read as it drives the reader. -/
theorem Drives.complete {text : Text} {state next : State} (driven : Drives text state next)
    (noOrderMark : text.head? ≠ some '\uFEFF') : ∃ tokens,
      scan text = some tokens ∧ (joinTimes tokens).foldlM State.advance state = some next := by
  obtain ⟨tokens, cut, advanced⟩ := driven
  have scanned := cut.scanned []
  have joined := cut.joined []
  simp only [List.append_nil, joinTimes] at scanned joined
  refine ⟨tokens, ?_, by rw [joined, advanced]⟩
  unfold scan
  split
  · exact absurd rfl noOrderMark
  · rw [scanned, Scanner.scanFrom_nil, scanner_finish, finish, Option.map_some, List.append_nil]

theorem foldlM_step {state next : State} {token : Token}
    (step : state.advance token = some next) (tokens : List Token) :
    (token :: tokens).foldlM State.advance state = tokens.foldlM State.advance next := by
  rw [List.foldlM_cons, step, Option.bind_eq_bind, Option.bind_some]

def State.atLine (current : Section) (earlier : List Section) : State :=
  ⟨current, earlier, [], .line⟩

theorem drives_lineEnd (current : Section) (earlier : List Section) :
    Drives ['\n'] (.atLine current earlier) (.atLine current earlier) :=
  ⟨[.lineEnd], ⟨scanFrom_mark rfl, fun _ => rfl⟩, rfl⟩

theorem drives_header {name : String} (isName : IsName name) (current : Section)
    (earlier : List Section) :
    Drives ('[' :: name.toList ++ [']', '\n']) (.atLine current earlier)
      (.atLine ⟨.table [name], []⟩ (current :: earlier)) := by
  refine ⟨[.openList, .word name.toList, .closeList, .lineEnd], ⟨fun rest => ?_, fun _ => rfl⟩, ?_⟩
  · simp only [List.append_assoc, List.cons_append, List.nil_append]
    rw [scanFrom_mark rfl, isName.reads _ _ rfl, scanFrom_mark rfl, scanFrom_mark rfl]
    simp [Function.comp_def]
  · have named :
        State.advance ⟨current, earlier, [], .header false [.word name.toList]⟩ .closeList =
          some ⟨⟨.table [name], []⟩, current :: earlier, [], .lineEnd⟩ :=
      congrArg (Option.map _) isName.key?
    calc [Token.openList, .word name.toList, .closeList, .lineEnd].foldlM State.advance
          (.atLine current earlier)
        = [Token.closeList, .lineEnd].foldlM State.advance
            ⟨current, earlier, [], .header false [.word name.toList]⟩ := rfl
      _ = [Token.lineEnd].foldlM State.advance
            ⟨⟨.table [name], []⟩, current :: earlier, [], .lineEnd⟩ := foldlM_step named _
      _ = some (.atLine ⟨.table [name], []⟩ (current :: earlier)) := rfl

theorem drives_pair {name : String} {datum : Datum} {line : Text} (isName : IsName name)
    (written : writePair? (name, datum) = some line) (current : Section) (earlier : List Section) :
    Drives line (.atLine current earlier)
      (.atLine { current with pairs := ([name], datum) :: current.pairs } earlier) := by
  simp only [writePair?, Option.bind_eq_bind, Option.bind_eq_some_iff, Option.pure_def,
    Option.some.injEq] at written
  obtain ⟨text, writtenValue, rfl⟩ := written
  obtain ⟨token, reads, known⟩ := reads_of_writeScalar? writtenValue
  refine ⟨[.word name.toList, .blank ' ', .equals, .blank ' ', token, .lineEnd],
    ⟨fun rest => ?_, fun rest => ?_⟩, ?_⟩
  · simp only [List.append_assoc, List.cons_append, List.nil_append]
    rw [isName.reads _ _ rfl, scanFrom_mark rfl, scanFrom_mark rfl, scanFrom_mark rfl,
      reads _ _ rfl, scanFrom_mark rfl]
    simp [Function.comp_def]
  · -- a date before a blank would be joined with the word after it, but here an equals sign is
    cases token <;> rfl
  · have named : State.advance ⟨current, earlier, [], .key none [.word name.toList]⟩ .equals =
        some ⟨current, earlier, [.pair [name]], .value⟩ :=
      congrArg (Option.map _) isName.key?
    have valued : State.advance ⟨current, earlier, [.pair [name]], .value⟩ token =
        some ⟨{ current with pairs := ([name], datum) :: current.pairs }, earlier, [], .lineEnd⟩ :=
      State.advanceValue_of_datum? known _
    calc [Token.word name.toList, .blank ' ', .equals, .blank ' ', token, .lineEnd].foldlM
          State.advance (.atLine current earlier)
        = [Token.equals, .blank ' ', token, .lineEnd].foldlM State.advance
            ⟨current, earlier, [], .key none [.word name.toList]⟩ := rfl
      _ = [Token.blank ' ', token, .lineEnd].foldlM State.advance
            ⟨current, earlier, [.pair [name]], .value⟩ := foldlM_step named _
      _ = [token, .lineEnd].foldlM State.advance ⟨current, earlier, [.pair [name]], .value⟩ := rfl
      _ = [Token.lineEnd].foldlM State.advance
            ⟨{ current with pairs := ([name], datum) :: current.pairs }, earlier, [], .lineEnd⟩ :=
          foldlM_step valued _
      _ = some (.atLine { current with pairs := ([name], datum) :: current.pairs } earlier) := rfl

/-! ### Lists of written parts -/

theorem mapM_eq_some {write : α → Option β} {parts : List α} {written : List β} :
    parts.mapM write = some written ↔
      List.Forall₂ (fun part text => write part = some text) parts written := by
  induction parts generalizing written with
  | nil => simp [eq_comm]
  | cons part parts ih =>
      simp only [List.mapM_cons, Option.bind_eq_bind, Option.bind_eq_some_iff, Option.pure_def,
        Option.some.injEq, List.forall₂_cons_left_iff, ih]
      constructor
      · rintro ⟨text, first, texts, others, rfl⟩
        exact ⟨text, texts, first, others, rfl⟩
      · rintro ⟨text, texts, first, others, rfl⟩
        exact ⟨text, first, texts, others, rfl⟩

theorem exists_mapM {write : α → Option β} {parts : List α} :
    (∃ written, parts.mapM write = some written) ↔
      ∀ part ∈ parts, ∃ text, write part = some text := by
  simp only [mapM_eq_some]
  induction parts with
  | nil => simp
  | cons part parts ih =>
      rw [List.forall_mem_cons, ← ih]
      simp only [List.forall₂_cons_left_iff]
      constructor
      · rintro ⟨_, text, texts, first, others, rfl⟩
        exact ⟨⟨text, first⟩, texts, others⟩
      · rintro ⟨⟨text, first⟩, texts, others⟩
        exact ⟨_, text, texts, first, others, rfl⟩

/-! ### Sections -/

theorem drives_pairs {pairs : List (String × Datum)} {lines : List Text}
    (names : ∀ pair ∈ pairs, IsName pair.1)
    (written : List.Forall₂ (fun pair line => writePair? pair = some line) pairs lines)
    (current : Section) (earlier : List Section) :
    Drives lines.flatten (.atLine current earlier)
      (.atLine { current with pairs := (pairs.map fun pair => ([pair.1], pair.2)).reverse
        ++ current.pairs } earlier) := by
  induction written generalizing current with
  | nil => exact .refl _
  | cons first others ih =>
      obtain ⟨isName, names⟩ := List.forall_mem_cons.mp names
      have driven := (drives_pair isName first current earlier).append (ih names _)
      simpa using driven

/-- The section that a header and the pairs below it make. -/
def sectionOf (part : String × List (String × Datum)) : Section :=
  ⟨.table [part.1], (part.2.map fun pair => ([pair.1], pair.2)).reverse⟩

theorem drives_section {part : String × List (String × Datum)} {text : Text}
    (isName : IsName part.1) (names : ∀ pair ∈ part.2, IsName pair.1)
    (written : writeSection? part = some text) (current : Section) (earlier : List Section) :
    Drives text (.atLine current earlier) (.atLine (sectionOf part) (current :: earlier)) := by
  simp only [writeSection?, Option.bind_eq_bind, Option.bind_eq_some_iff, Option.pure_def,
    Option.some.injEq, mapM_eq_some] at written
  obtain ⟨lines, each, rfl⟩ := written
  have driven := (drives_header isName current earlier).append (drives_pairs names each _ _)
  simpa [sectionOf] using driven

/-- Sections with blank lines between them follow each other. -/
theorem drives_sections {parts : List (String × List (String × Datum))} {texts : List Text}
    (names : ∀ part ∈ parts, IsName part.1 ∧ ∀ pair ∈ part.2, IsName pair.1)
    (written : List.Forall₂ (fun part text => writeSection? part = some text) parts texts)
    (current : Section) (earlier : List Section) : ∃ last before,
      (last :: before).reverse = (current :: earlier).reverse ++ parts.map sectionOf ∧
      Drives (['\n'].intercalate texts) (.atLine current earlier) (.atLine last before) := by
  induction written generalizing current earlier with
  | nil => exact ⟨current, earlier, by simp, .refl _⟩
  | @cons part text parts texts first others ih =>
      obtain ⟨⟨isName, pairNames⟩, names⟩ := List.forall_mem_cons.mp names
      have driven := drives_section isName pairNames first current earlier
      obtain ⟨last, before, sections, rest⟩ := ih names (sectionOf part) (current :: earlier)
      refine ⟨last, before, by simpa using sections, ?_⟩
      cases others with
      | nil => simpa using driven.append rest
      | cons =>
          rw [List.intercalate_cons_cons, List.append_assoc]
          exact driven.append ((drives_lineEnd _ _).append rest)

/-- Written sections begin with a bracket, if there are any. -/
theorem head?_intercalate {parts : List (String × List (String × Datum))} {texts : List Text}
    (written : List.Forall₂ (fun part text => writeSection? part = some text) parts texts) :
    (['\n'].intercalate texts).head? ≠ some '\uFEFF' := by
  cases written with
  | nil => exact nofun
  | @cons part text parts texts first others =>
      simp only [writeSection?, Option.bind_eq_bind, Option.bind_eq_some_iff, Option.pure_def,
        Option.some.injEq] at first
      obtain ⟨lines, -, rfl⟩ := first
      cases others with
      | nil => simp
      | cons => simp

/-! ### Tables of sections -/

def tableOf (part : String × List (String × Datum)) : Item :=
  .table .header (part.2.map fun pair => (pair.1, .value pair.2))

theorem toDatum_tableOf (part : String × List (String × Datum)) :
    (tableOf part).toDatum = .record part.2 := by
  simp [tableOf, Item.toDatum, Table.toMembers_eq_map, Function.comp_def]

theorem Table.addSection?_sectionOf {part : String × List (String × Datum)} {table : Table}
    (distinct : (part.2.map Prod.fst).Nodup) (fresh : part.1 ∉ table.map Prod.fst) :
    table.addSection? (sectionOf part) = some (table.put part.1 (tableOf part)) := by
  simp [addSection?, sectionOf, change?, define?, lookup_of_not_mem fresh,
    insertAll?_of_nodup distinct, tableOf]

/-! ### Whole texts -/

/-- Sections have a written form just if each of their values has one. -/
theorem exists_writeSections? {parts : List (String × List (String × Datum))} :
    (∃ text, writeSections? parts = some text) ↔
      ∀ part ∈ parts, ∀ pair ∈ part.2, IsWritable pair.2 := by
  have pair (pair : String × Datum) :
      (∃ line, writePair? pair = some line) ↔ IsWritable pair.2 := by
    simp [writePair?, Option.bind_eq_some_iff, IsWritable]
  have part (part : String × List (String × Datum)) :
      (∃ text, writeSection? part = some text) ↔ ∀ pair ∈ part.2, IsWritable pair.2 := by
    simp [writeSection?, Option.bind_eq_some_iff, exists_mapM, pair]
  simp [writeSections?, Option.bind_eq_some_iff, exists_mapM, part]

/-- Written sections are read back as the record of their records. -/
theorem parse?_of_writeSections? {parts : List (String × List (String × Datum))} {text : Text}
    (sections : WellNamed (parts.map Prod.fst))
    (members : ∀ part ∈ parts, WellNamed (part.2.map Prod.fst))
    (written : writeSections? parts = some text) :
    parse? text = some (.record (parts.map fun part => (part.1, .record part.2))) := by
  simp only [writeSections?, Option.bind_eq_bind, Option.bind_eq_some_iff, Option.pure_def,
    Option.some.injEq, mapM_eq_some] at written
  obtain ⟨texts, each, rfl⟩ := written
  have names : ∀ part ∈ parts, IsName part.1 ∧ ∀ pair ∈ part.2, IsName pair.1 :=
    fun part member => ⟨sections.of_mem member, fun _ => (members part member).of_mem⟩
  obtain ⟨last, before, complete, driven⟩ := drives_sections names each ⟨.root, []⟩ []
  have complete : (State.atLine last before).sections? =
      some (⟨.root, []⟩ :: parts.map sectionOf) := congrArg some complete
  have filled : (parts.map sectionOf).foldlM Table.addSection? [] =
      some (parts.map fun part => (part.1, tableOf part)) := by
    rw [List.foldlM_map]
    refine Table.foldlM_put Prod.fst tableOf (fun part member table fresh => ?_) sections.distinct
    exact Table.addSection?_sectionOf (members part member).distinct fresh
  obtain ⟨tokens, cut, advanced⟩ := driven.complete (head?_intercalate each)
  rw [State.atLine] at advanced
  rw [parse?, cut]
  simp only [Option.bind_eq_bind, Option.bind_some, advanced, complete, List.foldlM_cons]
  rw [show Table.addSection? [] ⟨.root, []⟩ = some [] from rfl, Option.bind_some, filled]
  simp [Table.toMembers_eq_map, toDatum_tableOf, Function.comp_def]

end Restripe.Toml
