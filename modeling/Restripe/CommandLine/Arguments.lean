import Restripe.Config

/-!
# Arguments

The first argument names a command, and the others are settings in any order: an option with its
value, or a switch alone.  A value may be any string, also one that looks like an option.  The
arguments are read from left to right and the first that is wrong decides; of settings of one kind
the last counts.
-/

/-! ## Help on the command line -/

namespace Restripe.CommandLine

/-- What is printed when help is asked for. -/
def helpText : String :=
  "ectrans: erasure-coding redundancy transition metadata

USAGE:
    ectrans <COMMAND> --config <PATH> [OPTIONS]

COMMANDS:
    gen-pre       Generate a random pre-transition placement and block mapping
    transition    Run the solver and reconcile the post-transition block mapping
    reconcile     Reconcile solver artifacts already present on disk

OPTIONS:
    --config <PATH>        TOML run configuration (required)
    --report <PATH>        Write the JSON report to a file (stdout when omitted)
    --solver <PATH>        External solver executable, overriding [solver].program
    --sequential           Use the in-process solver even if one is configured
    --workers <N>          Reconciler threads, 0 = available parallelism
    --seed <u64>           Seed for gen-pre, overriding [solver].seed
    --round-up-stripes     Round num_stripes up to a multiple of k_post / k_pre
    -v, --verbose          Log at DEBUG instead of INFO
    -h, --help             Show this help

"

/-! ## Commands and settings -/

/-- What a user may ask for. -/
inductive Command where
  | beginEpoch
  | transition
  | reconcile
  deriving DecidableEq, Repr

/-- An option that takes a value. -/
inductive ValueOption where
  | config
  | report
  | solver
  | workers
  | seed
  deriving DecidableEq, Repr

/-- An option that stands alone. -/
inductive Switch where
  | sequential
  | roundUp
  | verbose
  deriving DecidableEq, Repr

/-- An option with the value that it takes. -/
inductive Setting where
  | config (path : Path)
  | report (path : Path)
  | solver (program : Path)
  | workers (count : UInt64)
  | seed (value : UInt64)
  | switch (switch : Switch)
  deriving DecidableEq, Repr

/-- What is wrong with the arguments. -/
inductive UsageFault where
  | missingCommand
  | unknownCommand (name : String)
  | unknownOption (token : String)
  | missingValue (option : ValueOption)
  | invalidNumber (option : ValueOption) (value : String)
  | missingConfig
  | conflictingSolvers
  deriving DecidableEq, Repr

/-- Why arguments give nothing to run. -/
inductive Refusal where
  /-- Help was asked for. -/
  | help
  | usage (fault : UsageFault)
  deriving DecidableEq, Repr

/-! ### Names -/

def Command.ofName? : String → Option Command
  | "gen-pre" => some .beginEpoch
  | "transition" => some .transition
  | "reconcile" => some .reconcile
  | _ => none

def ValueOption.name : ValueOption → String
  | .config => "--config"
  | .report => "--report"
  | .solver => "--solver"
  | .workers => "--workers"
  | .seed => "--seed"

/-- What a token is at the place of an option. -/
inductive OptionToken where
  | takesValue (option : ValueOption)
  | standsAlone (switch : Switch)
  | asksForHelp
  deriving DecidableEq, Repr

def OptionToken.ofName? : String → Option OptionToken
  | "--config" => some (.takesValue .config)
  | "--report" => some (.takesValue .report)
  | "--solver" => some (.takesValue .solver)
  | "--workers" => some (.takesValue .workers)
  | "--seed" => some (.takesValue .seed)
  | "--sequential" => some (.standsAlone .sequential)
  | "--round-up-stripes" => some (.standsAlone .roundUp)
  | "-v" | "--verbose" => some (.standsAlone .verbose)
  | "-h" | "--help" => some .asksForHelp
  | _ => none

def UsageFault.message : UsageFault → String
  | .missingCommand => "missing command"
  | .unknownCommand name => s!"unknown command: {name}"
  | .unknownOption token => s!"unknown option: {token}"
  | .missingValue option => s!"{option.name} requires a value"
  | .invalidNumber option value => s!"invalid {option.name} value: {value}"
  | .missingConfig => "--config is required"
  | .conflictingSolvers => "--sequential and --solver are mutually exclusive"

/-! ### Settings -/

/-- The number that an option takes. -/
def ValueOption.number (option : ValueOption) (value : String) : Except Refusal UInt64 :=
  match Decimal.uint64? value.toList with
  | some number => pure number
  | none => throw (.usage (.invalidNumber option value))

def ValueOption.setting (option : ValueOption) (value : String) : Except Refusal Setting :=
  match option with
  | .config => pure (.config (Path.ofString value))
  | .report => pure (.report (Path.ofString value))
  | .solver => pure (.solver (Path.ofString value))
  | .workers => return .workers (← option.number value)
  | .seed => return .seed (← option.number value)

/-- The settings that tokens spell. -/
def settings : List String → Except Refusal (List Setting)
  | [] => pure []
  | token :: rest =>
      match OptionToken.ofName? token with
      | some (.takesValue option) =>
          match rest with
          | [] => throw (.usage (.missingValue option))
          | value :: rest => return (← option.setting value) :: (← settings rest)
      | some (.standsAlone switch) => return .switch switch :: (← settings rest)
      | some .asksForHelp => throw .help
      | none => throw (.usage (.unknownOption token))

/-! ### Invocations -/

/-- What a sequence of settings comes to. -/
structure Options where
  config : Option Path := none
  report : Option Path := none
  verbose : Bool := false
  overrides : Overrides := {}
  deriving DecidableEq, Repr

/-- Take another setting, in the place of an earlier one of its kind. -/
def Options.set (options : Options) : Setting → Options
  | .config path => { options with config := some path }
  | .report path => { options with report := some path }
  | .solver program => { options with overrides.program := some program }
  | .workers count => { options with overrides.workers := some count }
  | .seed value => { options with overrides.seed := some value }
  | .switch .sequential => { options with overrides.sequential := true }
  | .switch .roundUp => { options with overrides.roundUp := true }
  | .switch .verbose => { options with verbose := true }

def Options.ofSettings (settings : List Setting) : Options :=
  settings.foldl Options.set {}

/-- A command and all that it needs to run. -/
structure Invocation where
  command : Command
  config : Path
  /-- Where the report goes, if it is not to be printed. -/
  report : Option Path
  /-- Whether more is to be logged. -/
  verbose : Bool
  overrides : Overrides
  deriving DecidableEq, Repr

/-- A command with its options, which have to name a configuration and at most one solver. -/
def Options.invocation (options : Options) (command : Command) : Except Refusal Invocation :=
  match options.config with
  | none => throw (.usage .missingConfig)
  | some config =>
      if options.overrides.sequential ∧ options.overrides.program.isSome then
        throw (.usage .conflictingSolvers)
      else
        pure ⟨command, config, options.report, options.verbose, options.overrides⟩

def parse : List String → Except Refusal Invocation
  | [] => throw (.usage .missingCommand)
  | name :: rest =>
      match Command.ofName? name with
      | some command => do (Options.ofSettings (← settings rest)).invocation command
      | none =>
          if name = "-h" ∨ name = "--help" then throw .help
          else throw (.usage (.unknownCommand name))

end Restripe.CommandLine
