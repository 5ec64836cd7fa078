import Restripe.CommandLine.Arguments
import Restripe.Proofs.Outcome
import Restripe.Proofs.Text.Numeral

/-!
# The grammar of arguments

After the word for a command, arguments are groups in any order: an option with the token after it,
whatever that token looks like, or a switch.  One group is read after the other.  So the first token
at the place of an option that is none, or that lacks its value, decides what is refused, and of the
groups of one option the last counts.
-/

namespace Restripe.CommandLine

open Restripe.Outcome

/-! ## Words -/

def Command.name : Command → String
  | .beginEpoch => "gen-pre"
  | .transition => "transition"
  | .reconcile => "reconcile"

def Switch.words : Switch → List String
  | .sequential => ["--sequential"]
  | .roundUp => ["--round-up-stripes"]
  | .verbose => ["-v", "--verbose"]

/-- The words that ask for help. -/
def helpWords : List String :=
  ["-h", "--help"]

theorem Command.ofName?_eq_some {name : String} {command : Command} :
    ofName? name = some command ↔ name = command.name := by
  constructor
  · intro found
    unfold ofName? at found
    split at found <;> cases found <;> rfl
  · rintro rfl
    cases command <;> rfl

theorem Command.ofName?_eq_none {name : String} :
    ofName? name = none ↔ ∀ command : Command, name ≠ command.name := by
  simp only [ne_eq, ← ofName?_eq_some]
  cases ofName? name <;> simp

namespace OptionToken

variable {token : String}

theorem ofName?_eq_takesValue {option : ValueOption} :
    ofName? token = some (.takesValue option) ↔ token = option.name := by
  constructor
  · intro found
    unfold ofName? at found
    split at found <;> cases found <;> rfl
  · rintro rfl
    cases option <;> rfl

theorem ofName?_eq_standsAlone {switch : Switch} :
    ofName? token = some (.standsAlone switch) ↔ token ∈ switch.words := by
  constructor
  · intro found
    unfold ofName? at found
    split at found <;> cases found <;> simp [Switch.words]
  · cases switch <;> simp only [Switch.words, List.mem_cons, List.not_mem_nil, or_false] <;>
      rintro (rfl | rfl) <;> rfl

theorem ofName?_eq_asksForHelp : ofName? token = some .asksForHelp ↔ token ∈ helpWords := by
  constructor
  · intro found
    unfold ofName? at found
    split at found <;> cases found <;> simp [helpWords]
  · simp only [helpWords, List.mem_cons, List.not_mem_nil, or_false]
    rintro (rfl | rfl) <;> rfl

theorem ofName?_eq_none : ofName? token = none ↔
    (∀ option : ValueOption, token ≠ option.name) ∧ (∀ switch : Switch, token ∉ switch.words) ∧
      token ∉ helpWords := by
  simp only [ne_eq, ← ofName?_eq_takesValue, ← ofName?_eq_standsAlone, ← ofName?_eq_asksForHelp]
  rcases ofName? token with _ | _ | _ | _ <;> simp

end OptionToken

/-! ## Groups -/

/-- Tokens that belong together: an option and its value, or one of the words for a switch. -/
inductive Group where
  | assign (option : ValueOption) (value : String)
  | raise (switch : Switch) (word : { word // word ∈ switch.words })
  deriving DecidableEq

/-- A value that an option takes: any string, but a numeral below `2 ^ 64` where it is a number. -/
def ValueOption.Takes (option : ValueOption) (value : String) : Prop :=
  option = .workers ∨ option = .seed →
    ∃ number : UInt64, Decimal.Denotes value.toList number.toNat

namespace Group

def tokens : Group → List String
  | assign option value => [option.name, value]
  | raise _ word => [word]

/-- Whether the value of a group is one that its option takes. -/
def Taken : Group → Prop
  | assign option value => option.Takes value
  | raise .. => True

def value? (option : ValueOption) : Group → Option String
  | assign other value => if other = option then some value else none
  | raise .. => none

def setting : Group → Except Refusal Setting
  | assign option value => option.setting value
  | raise switch _ => pure (.switch switch)

end Group

/-- The last value that groups give to an option. -/
def lastValue? (option : ValueOption) (groups : List Group) : Option String :=
  (groups.filterMap (Group.value? option)).getLast?

/-- One of the groups is the switch. -/
def Raises (switch : Switch) (groups : List Group) : Prop :=
  ∃ word, .raise switch word ∈ groups

theorem number_eq_ok {option : ValueOption} {value : String} {number : UInt64} :
    option.number value = .ok number ↔ Decimal.Denotes value.toList number.toNat := by
  rw [← Decimal.uint64?_eq_some]
  unfold ValueOption.number
  cases Decimal.uint64? value.toList <;> simp

theorem number_eq_error {option : ValueOption} {value : String} {refusal : Refusal} :
    option.number value = .error refusal ↔
      (¬∃ number : UInt64, Decimal.Denotes value.toList number.toNat) ∧
        refusal = .usage (.invalidNumber option value) := by
  simp only [← Decimal.uint64?_eq_some]
  unfold ValueOption.number
  cases Decimal.uint64? value.toList <;> simp [eq_comm]

/-- An option refuses just the values that it does not take. -/
theorem setting_eq_error {option : ValueOption} {value : String} {refusal : Refusal} :
    option.setting value = .error refusal ↔
      ¬option.Takes value ∧ refusal = .usage (.invalidNumber option value) := by
  cases option <;>
    simp [ValueOption.setting, ValueOption.Takes, bind_eq_error, number_eq_error]

theorem exists_setting {group : Group} :
    (∃ setting, group.setting = .ok setting) ↔ group.Taken := by
  cases group with
  | raise switch word => simp [Group.setting, Group.Taken]
  | assign option value =>
      simp only [Group.setting, Group.Taken]
      cases outcome : option.setting value with
      | ok setting =>
          have refused := @setting_eq_error option value (.usage (.invalidNumber option value))
          simpa [outcome] using refused
      | error refusal => simpa using (setting_eq_error.mp outcome).1

/-! ## Reading groups -/

theorem settings_append (groups : List Group) (rest : List String) :
    settings (groups.flatMap Group.tokens ++ rest) = do
      let first ← groups.mapM Group.setting
      return first ++ (← settings rest) := by
  induction groups with
  | nil => exact (bind_pure (settings rest)).symm
  | cons group groups ih =>
      rw [List.flatMap_cons, List.append_assoc, List.mapM_cons]
      cases group with
      | assign option value =>
          have isOption := OptionToken.ofName?_eq_takesValue.mpr (rfl : option.name = option.name)
          simp only [Group.tokens, List.cons_append, List.nil_append, settings, isOption, ih,
            Group.setting, bind_assoc, pure_bind, List.cons_append]
      | raise switch word =>
          have isSwitch := OptionToken.ofName?_eq_standsAlone.mpr word.property
          simp only [Group.tokens, List.cons_append, List.nil_append, settings, isSwitch, ih,
            Group.setting, bind_assoc, pure_bind]

theorem settings_flatMap (groups : List Group) :
    settings (groups.flatMap Group.tokens) = groups.mapM Group.setting := by
  have whole := settings_append groups []
  simp only [List.append_nil, settings, pure_bind, bind_pure] at whole
  exact whole

/-- Where the first token at the place of an option cannot be read on, and why. -/
inductive Offends : List String → Refusal → Prop where
  | help {word : String} {rest : List String} (isHelp : word ∈ helpWords) :
      Offends (word :: rest) .help
  | unknown {word : String} {rest : List String}
      (noOption : ∀ option : ValueOption, word ≠ option.name)
      (noSwitch : ∀ switch : Switch, word ∉ switch.words) (noHelp : word ∉ helpWords) :
      Offends (word :: rest) (.usage (.unknownOption word))
  | withoutValue (option : ValueOption) : Offends [option.name] (.usage (.missingValue option))
  | notTaken {option : ValueOption} {value : String} {rest : List String}
      (invalid : ¬option.Takes value) :
      Offends (option.name :: value :: rest) (.usage (.invalidNumber option value))

theorem Offends.settings_eq {tokens : List String} {refusal : Refusal}
    (offends : Offends tokens refusal) : settings tokens = .error refusal := by
  cases offends with
  | help isHelp => simp [settings, OptionToken.ofName?_eq_asksForHelp.mpr isHelp]
  | unknown noOption noSwitch noHelp =>
      simp [settings, OptionToken.ofName?_eq_none.mpr ⟨noOption, noSwitch, noHelp⟩]
  | withoutValue option =>
      simp [settings, OptionToken.ofName?_eq_takesValue.mpr (rfl : option.name = option.name)]
  | @notTaken option value rest invalid =>
      have refused := setting_eq_error.mpr ⟨invalid, rfl⟩
      simp [settings, OptionToken.ofName?_eq_takesValue.mpr (rfl : option.name = option.name),
        refused]

/-- What offends is refused as soon as the groups before it are read. -/
theorem settings_offending {groups : List Group} {rest : List String} {refusal : Refusal}
    (taken : ∀ group ∈ groups, group.Taken) (offends : Offends rest refusal) :
    settings (groups.flatMap Group.tokens ++ rest) = .error refusal := by
  obtain ⟨list, read⟩ := exists_mapM fun group member => exists_setting.mpr (taken group member)
  rw [settings_append, read, ok_bind, offends.settings_eq, error_bind]

/-- Tokens are groups that their options take, and a rest that offends unless it is empty. -/
structure Splits (tokens : List String) (groups : List Group) (rest : List String) : Prop where
  tokens_eq : tokens = groups.flatMap Group.tokens ++ rest
  taken : ∀ group ∈ groups, group.Taken
  stops : rest = [] ∨ ∃ refusal, Offends rest refusal

namespace Splits

variable {tokens rest : List String} {groups : List Group}

theorem of_offends {refusal : Refusal} (offends : Offends tokens refusal) :
    Splits tokens [] tokens :=
  ⟨rfl, by simp, .inr ⟨refusal, offends⟩⟩

theorem cons (group : Group) (taken : group.Taken) (splits : Splits tokens groups rest) :
    Splits (group.tokens ++ tokens) (group :: groups) rest where
  tokens_eq := by rw [splits.tokens_eq, List.flatMap_cons, List.append_assoc]
  taken := List.forall_mem_cons.mpr ⟨taken, splits.taken⟩
  stops := splits.stops

end Splits

theorem exists_splits (tokens : List String) : ∃ groups rest, Splits tokens groups rest := by
  fun_induction settings tokens with
  | case1 => exact ⟨[], [], rfl, by simp, .inl rfl⟩
  | case2 token option isOption =>
      obtain rfl := OptionToken.ofName?_eq_takesValue.mp isOption
      exact ⟨[], _, .of_offends (.withoutValue option)⟩
  | case3 token option isOption value rest ih =>
      obtain rfl := OptionToken.ofName?_eq_takesValue.mp isOption
      obtain ⟨groups, ending, splits⟩ := ih
      by_cases taken : option.Takes value
      · exact ⟨_, ending, splits.cons (.assign option value) taken⟩
      · exact ⟨[], _, .of_offends (.notTaken taken)⟩
  | case4 token rest switch isSwitch ih =>
      have isWord := OptionToken.ofName?_eq_standsAlone.mp isSwitch
      obtain ⟨groups, ending, splits⟩ := ih
      exact ⟨_, ending, splits.cons (.raise switch ⟨token, isWord⟩) trivial⟩
  | case5 token rest isHelp =>
      exact ⟨[], _, .of_offends (.help (OptionToken.ofName?_eq_asksForHelp.mp isHelp))⟩
  | case6 token rest isNone =>
      obtain ⟨noOption, noSwitch, noHelp⟩ := OptionToken.ofName?_eq_none.mp isNone
      exact ⟨[], _, .of_offends (.unknown noOption noSwitch noHelp)⟩

end Restripe.CommandLine
