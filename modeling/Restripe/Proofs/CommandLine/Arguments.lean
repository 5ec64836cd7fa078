import Restripe.Proofs.CommandLine.Grammar

/-!
# What arguments ask for

Arguments are understood where they are a command and groups that name a configuration and at most
one solver, and where every number can be read.  Then each option has the last value that it was
given, and each switch is on if it was there, so only the order of the groups of one option matters.
All other arguments are refused, for a reason that is read off the arguments as well.
-/

namespace Restripe.CommandLine

open Restripe.Outcome

def Invocation.options (invocation : Invocation) : Options :=
  ⟨some invocation.config, invocation.report, invocation.verbose, invocation.overrides⟩

variable {groups : List Group} {options : Options} {command : Command}

/-! ## What groups come to -/

/-- Of each option the last value, and of each switch whether it is there. -/
structure Gathers (groups : List Group) (options : Options) : Prop where
  config : options.config = (lastValue? .config groups).map Path.ofString
  report : options.report = (lastValue? .report groups).map Path.ofString
  program : options.overrides.program = (lastValue? .solver groups).map Path.ofString
  workers : ∀ number, options.overrides.workers = some number ↔
    ∃ value, lastValue? .workers groups = some value ∧
      Decimal.Denotes value.toList number.toNat
  seed : ∀ number, options.overrides.seed = some number ↔
    ∃ value, lastValue? .seed groups = some value ∧ Decimal.Denotes value.toList number.toNat
  sequential : options.overrides.sequential = true ↔ Raises .sequential groups
  roundUp : options.overrides.roundUp = true ↔ Raises .roundUp groups
  verbose : options.verbose = true ↔ Raises .verbose groups

theorem lastValue?_concat (option : ValueOption) (groups : List Group) (group : Group) :
    lastValue? option (groups ++ [group]) =
      (group.value? option).or (lastValue? option groups) := by
  rw [lastValue?, List.filterMap_append, List.getLast?_append]
  cases given : group.value? option <;> simp [given, lastValue?]

theorem raises_concat {switch : Switch} {group : Group} :
    Raises switch (groups ++ [group]) ↔
      Raises switch groups ∨ ∃ word, group = .raise switch word := by
  simp only [Raises, List.mem_append, List.mem_singleton, exists_or, eq_comm]

namespace Gathers

theorem nil : Gathers [] {} := by
  constructor <;> simp [lastValue?, Raises]

theorem concat {group : Group} {setting : Setting} (gathers : Gathers groups options)
    (set : group.setting = .ok setting) : Gathers (groups ++ [group]) (options.set setting) := by
  obtain ⟨config, report, program, workers, seed, sequential, roundUp, verbose⟩ := gathers
  cases group with
  | raise switch word =>
      cases set
      cases switch <;> constructor <;>
        simp [Options.set, lastValue?_concat, raises_concat, Group.value?, *]
  | assign option value =>
      cases option with
      | config | report | solver =>
          cases set
          constructor <;> simp [Options.set, lastValue?_concat, raises_concat, Group.value?, *]
      | workers | seed =>
          obtain ⟨number, read, same⟩ := bind_eq_ok.mp set
          cases same
          have denotes : ∀ other : UInt64,
              Decimal.Denotes value.toList other.toNat ↔ number = other := fun other => by
            rw [← number_eq_ok, read, Except.ok.injEq]
          constructor <;> simp [Options.set, lastValue?_concat, raises_concat, Group.value?, *]

/-- Settings that groups spell are gathered from left to right. -/
theorem of_mapM {list : List Setting} (read : groups.mapM Group.setting = .ok list) :
    Gathers groups (Options.ofSettings list) := by
  have each := mapM_eq_ok.mp read
  clear read
  suffices from_left : ∀ {before : List Group} {options : Options}, Gathers before options →
      Gathers (before ++ groups) (list.foldl Options.set options) from from_left nil
  induction each with
  | nil => simp
  | @cons group setting groups list set _ ih =>
      intro before options gathers
      have rest := ih (gathers.concat set)
      rwa [List.append_assoc, List.singleton_append] at rest

theorem unique {other : Options} (gathers : Gathers groups options)
    (others : Gathers groups other) : options = other := by
  obtain ⟨config, report, verbose, program, workers, seed, sequential, roundUp⟩ := options
  obtain ⟨config', report', verbose', program', workers', seed', sequential', roundUp'⟩ := other
  simp only [Options.mk.injEq, Overrides.mk.injEq]
  exact ⟨gathers.config.trans others.config.symm, gathers.report.trans others.report.symm,
    Bool.eq_iff_iff.mpr (gathers.verbose.trans others.verbose.symm),
    gathers.program.trans others.program.symm,
    Option.ext fun number => (gathers.workers number).trans (others.workers number).symm,
    Option.ext fun number => (gathers.seed number).trans (others.seed number).symm,
    Bool.eq_iff_iff.mpr (gathers.sequential.trans others.sequential.symm),
    Bool.eq_iff_iff.mpr (gathers.roundUp.trans others.roundUp.symm)⟩

end Gathers

theorem lastValue?_eq_none {option : ValueOption} :
    lastValue? option groups = none ↔ ∀ value, .assign option value ∉ groups := by
  rw [lastValue?, List.getLast?_eq_none_iff, List.filterMap_eq_nil_iff]
  constructor
  · intro absent value member
    simpa [Group.value?] using absent _ member
  · intro absent group member
    cases group with
    | raise switch word => rfl
    | assign other value =>
        refine if_neg ?_
        rintro rfl
        exact absent value member

theorem Gathers.isSome_program (gathers : Gathers groups options) :
    options.overrides.program.isSome ↔ ∃ program, .assign .solver program ∈ groups := by
  rw [gathers.program, Option.isSome_map, Option.isSome_iff_ne_none, ne_eq, lastValue?_eq_none]
  simp

theorem Gathers.config_eq_none (gathers : Gathers groups options) :
    options.config = none ↔ ∀ config, .assign .config config ∉ groups := by
  rw [gathers.config, Option.map_eq_none_iff, lastValue?_eq_none]

/-! ## Arguments that are understood -/

theorem invocation_eq_ok {invocation : Invocation} :
    options.invocation command = .ok invocation ↔
      (invocation.command = command ∧ invocation.options = options) ∧
        ¬(options.overrides.sequential = true ∧ options.overrides.program.isSome = true) := by
  obtain ⟨config, report, verbose, overrides⟩ := options
  obtain ⟨command', config', report', verbose', overrides'⟩ := invocation
  cases config with
  | none => simp [Options.invocation, Invocation.options]
  | some config =>
      simp only [Options.invocation, Invocation.options]
      split
      · rename_i conflict
        simp [conflict]
      · rename_i oneSolver
        simp only [pure_eq, Except.ok.injEq, Invocation.mk.injEq, Options.mk.injEq,
          Option.some.injEq, not_false_eq_true, oneSolver, and_true]
        constructor <;> rintro ⟨rfl, rfl, rfl, rfl, rfl⟩ <;> simp

theorem invocation_eq_error {refusal : Refusal} :
    options.invocation command = .error refusal ↔
      options.config = none ∧ .usage .missingConfig = refusal ∨
        options.config ≠ none ∧
          (options.overrides.sequential = true ∧ options.overrides.program.isSome = true) ∧
            .usage .conflictingSolvers = refusal := by
  unfold Options.invocation
  cases options.config with
  | none => simp
  | some config =>
      simp only [reduceCtorEq, false_and, false_or, ne_eq, not_false_eq_true, true_and]
      split
      · rename_i conflict
        simp [conflict]
      · rename_i oneSolver
        simp [oneSolver]

theorem parse_command (command : Command) (tokens : List String) :
    parse (command.name :: tokens) =
      settings tokens >>= fun list => (Options.ofSettings list).invocation command := by
  simp only [parse, Command.ofName?_eq_some.mpr (rfl : command.name = command.name)]

/-- Groups whose values are taken are understood as what they come to. -/
theorem exists_parse_eq (command : Command) (taken : ∀ group ∈ groups, group.Taken) :
    ∃ options, Gathers groups options ∧
      parse (command.name :: groups.flatMap Group.tokens) = options.invocation command := by
  obtain ⟨list, read⟩ := exists_mapM fun group member => exists_setting.mpr (taken group member)
  refine ⟨_, .of_mapM read, ?_⟩
  rw [parse_command, settings_flatMap, read, ok_bind]

/-- Only groups whose values are taken are understood. -/
theorem taken_of_parse {invocation : Invocation}
    (parsed : parse (command.name :: groups.flatMap Group.tokens) = .ok invocation) :
    ∀ group ∈ groups, group.Taken := by
  rw [parse_command, settings_flatMap] at parsed
  obtain ⟨list, read, -⟩ := bind_eq_ok.mp parsed
  exact fun group member => exists_setting.mp (exists_of_mem_mapM read member)

/-- Groups that name a configuration and not two solvers, with values that their options take. -/
structure Complete (groups : List Group) : Prop where
  config : ∃ config, .assign .config config ∈ groups
  oneSolver : ¬(Raises .sequential groups ∧ ∃ program, .assign .solver program ∈ groups)
  taken : ∀ group ∈ groups, group.Taken

theorem parse_groups_eq_ok {invocation : Invocation} :
    parse (command.name :: groups.flatMap Group.tokens) = .ok invocation ↔
      Complete groups ∧ invocation.command = command ∧ Gathers groups invocation.options := by
  constructor
  · intro parsed
    have taken := taken_of_parse parsed
    obtain ⟨options, gathers, same⟩ := exists_parse_eq command taken
    rw [same] at parsed
    obtain ⟨⟨isCommand, rfl⟩, oneSolver⟩ := invocation_eq_ok.mp parsed
    refine ⟨⟨?_, ?_, taken⟩, isCommand, gathers⟩
    · by_contra absent
      have missing := gathers.config_eq_none.mpr (not_exists.mp absent)
      simp [Invocation.options] at missing
    · rwa [← gathers.sequential, ← gathers.isSome_program]
  · intro ⟨complete, isCommand, gathers⟩
    obtain ⟨options, others, same⟩ := exists_parse_eq command complete.taken
    rw [same, ← gathers.unique others]
    refine invocation_eq_ok.mpr ⟨⟨isCommand, rfl⟩, ?_⟩
    rw [gathers.sequential, gathers.isSome_program]
    exact complete.oneSolver

theorem exists_parse_groups {command : Command} :
    (∃ invocation, parse (command.name :: groups.flatMap Group.tokens) = .ok invocation) ↔
      Complete groups := by
  constructor
  · rintro ⟨invocation, parsed⟩
    exact (parse_groups_eq_ok.mp parsed).1
  · intro complete
    obtain ⟨options, gathers, same⟩ := exists_parse_eq command complete.taken
    cases parsed : options.invocation command with
    | ok invocation => exact ⟨invocation, same.trans parsed⟩
    | error refusal =>
        rcases invocation_eq_error.mp parsed with ⟨missing, -⟩ | ⟨-, conflict, -⟩
        · obtain ⟨config, member⟩ := complete.config
          exact absurd member (gathers.config_eq_none.mp missing config)
        · rw [gathers.sequential, gathers.isSome_program] at conflict
          exact absurd conflict complete.oneSolver

/-! ## Arguments that are refused -/

/-- The first thing that is wrong with arguments, and their refusal for it. -/
inductive Refused : List String → Refusal → Prop where
  | withoutCommand : Refused [] (.usage .missingCommand)
  | help {word : String} {rest : List String} (isHelp : word ∈ helpWords) :
      Refused (word :: rest) .help
  | unknownCommand {name : String} {rest : List String}
      (noCommand : ∀ command : Command, name ≠ command.name) (noHelp : name ∉ helpWords) :
      Refused (name :: rest) (.usage (.unknownCommand name))
  | offending (command : Command) {groups : List Group} {rest : List String} {refusal : Refusal}
      (taken : ∀ group ∈ groups, group.Taken) (offends : Offends rest refusal) :
      Refused (command.name :: (groups.flatMap Group.tokens ++ rest)) refusal
  | withoutConfig (command : Command) {groups : List Group}
      (taken : ∀ group ∈ groups, group.Taken)
      (noConfig : ∀ config, .assign .config config ∉ groups) :
      Refused (command.name :: groups.flatMap Group.tokens) (.usage .missingConfig)
  | conflictingSolvers (command : Command) {groups : List Group}
      (taken : ∀ group ∈ groups, group.Taken)
      (config : ∃ config, .assign .config config ∈ groups)
      (conflict : Raises .sequential groups ∧ ∃ program, .assign .solver program ∈ groups) :
      Refused (command.name :: groups.flatMap Group.tokens) (.usage .conflictingSolvers)

/-- A command whose arguments are refused is refused for its groups or for what follows them. -/
theorem refused_of_command {tokens : List String} {refusal : Refusal}
    (refused : parse (command.name :: tokens) = .error refusal) :
    Refused (command.name :: tokens) refusal := by
  obtain ⟨groups, rest, splits⟩ := exists_splits tokens
  rw [splits.tokens_eq] at refused ⊢
  rcases splits.stops with rfl | ⟨reason, offends⟩
  · rw [List.append_nil] at refused ⊢
    obtain ⟨options, gathers, same⟩ := exists_parse_eq command splits.taken
    rw [same] at refused
    rcases invocation_eq_error.mp refused with ⟨missing, rfl⟩ | ⟨there, conflict, rfl⟩
    · exact .withoutConfig command splits.taken (gathers.config_eq_none.mp missing)
    · rw [gathers.sequential, gathers.isSome_program] at conflict
      rw [ne_eq, gathers.config_eq_none] at there
      exact .conflictingSolvers command splits.taken (by simpa using there) conflict
  · rw [parse_command, settings_offending splits.taken offends] at refused
    obtain rfl := Except.error.inj refused
    exact .offending command splits.taken offends

theorem parse_unknown {name : String} {rest : List String}
    (noCommand : ∀ command : Command, name ≠ command.name) :
    parse (name :: rest) =
      .error (if name ∈ helpWords then .help else .usage (.unknownCommand name)) := by
  simp only [parse, Command.ofName?_eq_none.mpr noCommand, helpWords, List.mem_cons,
    List.not_mem_nil, or_false]
  split <;> rfl

theorem parse_eq_error {arguments : List String} {refusal : Refusal} :
    parse arguments = .error refusal ↔ Refused arguments refusal := by
  constructor
  · intro refused
    cases arguments with
    | nil =>
        obtain rfl := Except.error.inj refused
        exact .withoutCommand
    | cons name rest =>
        cases isCommand : Command.ofName? name with
        | none =>
            have noCommand := Command.ofName?_eq_none.mp isCommand
            rw [parse_unknown noCommand] at refused
            obtain rfl := Except.error.inj refused
            split
            · exact .help ‹_›
            · exact .unknownCommand noCommand ‹_›
        | some command =>
            obtain rfl := Command.ofName?_eq_some.mp isCommand
            exact refused_of_command refused
  · intro refused
    cases refused with
    | withoutCommand => rfl
    | @help word rest isHelp =>
        have noCommand : ∀ command : Command, word ≠ command.name := by
          rintro (_ | _ | _) rfl <;> exact absurd isHelp (by decide)
        rw [parse_unknown noCommand, if_pos isHelp]
    | unknownCommand noCommand noHelp => rw [parse_unknown noCommand, if_neg noHelp]
    | offending command taken offends =>
        rw [parse_command, settings_offending taken offends, error_bind]
    | withoutConfig command taken noConfig =>
        obtain ⟨options, gathers, same⟩ := exists_parse_eq command taken
        rw [same]
        exact invocation_eq_error.mpr (.inl ⟨gathers.config_eq_none.mpr noConfig, rfl⟩)
    | conflictingSolvers command taken config conflict =>
        obtain ⟨options, gathers, same⟩ := exists_parse_eq command taken
        rw [← gathers.sequential, ← gathers.isSome_program] at conflict
        have there : options.config ≠ none := by
          rw [ne_eq, gathers.config_eq_none]
          simpa using config
        rw [same]
        exact invocation_eq_error.mpr (.inr ⟨there, conflict, rfl⟩)

/-- Arguments that are understood are a command and groups. -/
theorem exists_of_parse {arguments : List String} {invocation : Invocation}
    (parsed : parse arguments = .ok invocation) :
    ∃ (command : Command) (groups : List Group),
      arguments = command.name :: groups.flatMap Group.tokens := by
  cases arguments with
  | nil => cases parsed
  | cons name tokens =>
      cases isCommand : Command.ofName? name with
      | none =>
          rw [parse_unknown (Command.ofName?_eq_none.mp isCommand)] at parsed
          cases parsed
      | some command =>
          obtain rfl := Command.ofName?_eq_some.mp isCommand
          obtain ⟨groups, rest, splits⟩ := exists_splits tokens
          refine ⟨command, groups, ?_⟩
          rcases splits.stops with rfl | ⟨refusal, offends⟩
          · rw [splits.tokens_eq, List.append_nil]
          · rw [splits.tokens_eq, parse_command, settings_offending splits.taken offends] at parsed
            cases parsed

/-! ## The order of groups -/

theorem Gathers.reorder {reordered : List Group} (gathers : Gathers groups options)
    (permuted : reordered.Perm groups)
    (same : ∀ option, lastValue? option reordered = lastValue? option groups) :
    Gathers reordered options := by
  have raises : ∀ switch, Raises switch reordered ↔ Raises switch groups := fun switch =>
    exists_congr fun word => permuted.mem_iff
  obtain ⟨config, report, program, workers, seed, sequential, roundUp, verbose⟩ := gathers
  constructor <;> simp only [same, raises] <;> assumption

theorem Complete.reorder {reordered : List Group} (complete : Complete groups)
    (permuted : reordered.Perm groups) : Complete reordered := by
  obtain ⟨config, oneSolver, taken⟩ := complete
  constructor <;> simp only [Raises, permuted.mem_iff] <;> assumption

/-- Groups that keep the last value of each option are understood alike in any order. -/
theorem parse_reordered {reordered : List Group} {invocation : Invocation}
    (permuted : reordered.Perm groups)
    (same : ∀ option, lastValue? option reordered = lastValue? option groups)
    (parsed : parse (command.name :: groups.flatMap Group.tokens) = .ok invocation) :
    parse (command.name :: reordered.flatMap Group.tokens) = .ok invocation := by
  obtain ⟨complete, isCommand, gathers⟩ := parse_groups_eq_ok.mp parsed
  exact parse_groups_eq_ok.mpr
    ⟨complete.reorder permuted, isCommand, gathers.reorder permuted same⟩

/-- Groups after a command are understood just where they are complete, as the last value of each
option and the switches that are there, whatever the values look like; their order matters only
within one option.  No other arguments are understood, and arguments are refused for the first thing
that is wrong with them. -/
theorem parse_grammar :
    (∀ (command : Command) (groups : List Group),
      ((∃ invocation, parse (command.name :: groups.flatMap Group.tokens) = .ok invocation) ↔
        Complete groups) ∧
      (∀ invocation, parse (command.name :: groups.flatMap Group.tokens) = .ok invocation →
        invocation.command = command ∧ Gathers groups invocation.options) ∧
      ∀ reordered : List Group, reordered.Perm groups →
        (∀ option, lastValue? option reordered = lastValue? option groups) →
          ∀ invocation, parse (command.name :: groups.flatMap Group.tokens) = .ok invocation ↔
            parse (command.name :: reordered.flatMap Group.tokens) = .ok invocation) ∧
    (∀ arguments invocation, parse arguments = .ok invocation →
      ∃ (command : Command) (groups : List Group),
        arguments = command.name :: groups.flatMap Group.tokens) ∧
    ∀ arguments refusal, parse arguments = .error refusal ↔ Refused arguments refusal := by
  refine ⟨fun command groups => ⟨exists_parse_groups, ?_, ?_⟩,
    fun _ _ => exists_of_parse, fun _ _ => parse_eq_error⟩
  · intro invocation parsed
    exact (parse_groups_eq_ok.mp parsed).2
  · intro reordered permuted same invocation
    constructor
    · exact parse_reordered permuted same
    · exact parse_reordered permuted.symm fun option => (same option).symm

/-- A configuration whose name looks like an option, and then another one. -/
def renamed : List Group :=
  [.assign .config "--report", .raise .verbose ⟨"-v", by decide⟩, .assign .workers "+03",
    .assign .config "run.toml", .raise .sequential ⟨"--sequential", by decide⟩]

theorem parse_grammar_renamed :
    let reordered : List Group :=
      [.raise .sequential ⟨"--sequential", by decide⟩, .assign .config "--report",
        .assign .config "run.toml", .assign .workers "+03", .raise .verbose ⟨"-v", by decide⟩]
    let invocation : Invocation :=
      ⟨.transition, .ofString "run.toml", none, true, { workers := some 3, sequential := true }⟩
    (parse (Command.transition.name :: renamed.flatMap Group.tokens) = .ok invocation ∧
      Gathers renamed invocation.options) ∧
    (reordered.Perm renamed ∧
      (∀ option, lastValue? option reordered = lastValue? option renamed) ∧
      parse (Command.transition.name :: reordered.flatMap Group.tokens) = .ok invocation) ∧
    ∃ refusal, parse ["transition", "--config", "a", "--config"] = .error refusal ∧
      Refused ["transition", "--config", "a", "--config"] refusal := by
  intro reordered invocation
  obtain ⟨shape, -, refused⟩ := parse_grammar
  have parsed : parse (Command.transition.name :: renamed.flatMap Group.tokens)
      = .ok invocation := by
    decide +kernel
  have permuted : reordered.Perm renamed := by decide
  have same : ∀ option, lastValue? option reordered = lastValue? option renamed := by
    rintro (_ | _ | _ | _ | _) <;> rfl
  have unfinished : parse ["transition", "--config", "a", "--config"] =
      .error (.usage (.missingValue .config)) := rfl
  exact ⟨⟨parsed, ((shape _ _).2.1 _ parsed).2⟩,
    ⟨permuted, same, ((shape _ _).2.2 _ permuted same _).mp parsed⟩, _, unfinished,
    (refused _ _).mp unfinished⟩

end Restripe.CommandLine
