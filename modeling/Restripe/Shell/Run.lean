import Restripe.Shell.Utility
import Restripe.Solver.External

/-!
# Running scripts

A script is run command by command.  What it prints is collected, unless it is redirected to a file,
and it ends where its last command does, a command ends it, or a signal.
-/

/-!
## Expanding words

A word becomes any number of fields: parameters are replaced by their values, and values that are
not quoted are split at blanks.
-/

namespace Restripe.Shell

/-- What parameters stand for. -/
structure Environment where
  /-- The name of the script. -/
  name : Text
  arguments : List Text
  /-- Names with their values. -/
  assignments : List (Text × Text)
  /-- How the last command ended. -/
  status : UInt8
  process : Nat

namespace Environment

/-- The value of a parameter. -/
def value (environment : Environment) : Parameter → Text
  | .argument 0 => environment.name
  | .argument (index + 1) => environment.arguments[index]?.getD []
  | .argumentCount => Decimal.digits environment.arguments.length
  | .joinedArguments | .arguments => [' '].intercalate environment.arguments
  | .process => Decimal.digits environment.process
  | .status => Decimal.digits environment.status.toNat
  | .variable name => (environment.assignments.lookup name).getD []

def assign (environment : Environment) (name value : Text) : Environment :=
  { environment with
    assignments := (name, value) :: environment.assignments.filter (·.1 != name) }

end Environment

/-- The fields made so far, last first, and the characters of the current one, last first, if there
is one. -/
structure Fields where
  complete : List Text
  current : Option Text

namespace Fields

def close (fields : Fields) : Fields :=
  ⟨fields.current.toList.map List.reverse ++ fields.complete, none⟩

def extend (fields : Fields) (text : Text) : Fields :=
  { fields with current := some (text.reverse ++ fields.current.getD []) }

/-- Add characters that blanks split. -/
def split (fields : Fields) : Text → Fields
  | [] => fields
  | char :: rest =>
      if char = ' ' ∨ char = '\t' ∨ char = '\n' then split fields.close rest
      else split (fields.extend [char]) rest

/-- Add texts, each but the first in a field of its own. -/
def extendAll (fields : Fields) : List Text → Fields
  | [] => fields
  | [text] => fields.extend text
  | text :: texts => extendAll (fields.extend text).close texts

/-- Add a piece of a word. -/
def add (environment : Environment) (fields : Fields) : Piece → Fields
  | .char value _ => fields.extend [value]
  | .quotes => fields.extend []
  | .parameter .arguments true => fields.extendAll environment.arguments
  | .parameter parameter true => fields.extend (environment.value parameter)
  | .parameter parameter false => fields.split (environment.value parameter)

def toList (fields : Fields) : List Text :=
  fields.close.complete.reverse

end Fields

/-- The fields of a word. -/
def expand (environment : Environment) (word : Word) : List Text :=
  (word.foldl (Fields.add environment) ⟨[], none⟩).toList

/-- The text of a word that stays one field. -/
def expandWhole (environment : Environment) (word : Word) : Text :=
  word.flatMap fun
    | .char value _ => [value]
    | .quotes => []
    | .parameter parameter _ => environment.value parameter

/-! ## Commands and scripts -/

/-- Where printed text goes. -/
inductive Sink where
  | output
  | diagnostics
  | file (address : Address)
  deriving DecidableEq

/-- Where a command reads and prints. -/
structure Streams where
  input : Text
  output : Sink
  diagnostics : Sink

/-- A running script: the file system, what was printed, and what parameters stand for. -/
structure Process where
  fs : FileSystem
  output : Bytes
  diagnostics : Bytes
  environment : Environment
  /-- Whether the first command that fails ends the script. -/
  endsOnFailure : Bool

/-- A step of a script, which may end it. -/
abbrev Action := ExceptT ExitStatus (StateM Process)

/-- The file that swallows all that is written to it. -/
def nullAddress : Address := [Bytes.ofString "dev", Bytes.ofString "null"]

/-- Print text to a sink. -/
def emit (sink : Sink) (text : Text) : Action Unit :=
  modify fun process =>
    let bytes := toBytes text
    match sink with
    | .output => { process with output := process.output ++ bytes }
    | .diagnostics => { process with diagnostics := process.diagnostics ++ bytes }
    | .file address =>
        match process.fs.find? address with
        | some (.file content _) =>
            if address = nullAddress then process
            else { process with fs := process.fs.store address (content ++ bytes) }
        | _ => process

def setStatus (status : UInt8) : Action Unit :=
  modify fun process =>
    { process with environment := { process.environment with status } }

/-- What a complaint about a line of the script starts with. -/
def introduction (line : Nat) : Action String := do
  return s!"{String.ofList (← get).environment.name}: {line}: "

def complain (sink : Sink) (line : Nat) (words : String) : Action Unit := do
  emit sink ((← introduction line) ++ words ++ "\n").toList

/-! ### Redirections -/

/-- Why a file cannot be opened, in the words of the shell. -/
def openFailure (missing : String) : IoFault → String
  | .notFound | .notADirectory => missing
  | fault => fault.words

/-- Open a file for printing, after what it holds or in its place. -/
def openSink (complaints : Sink) (line : Nat) (isAppending : Bool) (target : Text) :
    Action (Option Sink) := do
  let process ← get
  let path := pathOf target
  match process.fs.openForWriting path with
  | .ok address =>
      let isFile := process.fs.isFile path
      unless isAppending && isFile do
        set { process with fs := process.fs.store address [] }
      return some (.file address)
  | .error fault =>
      let reason := openFailure "Directory nonexistent" fault
      complain complaints line s!"cannot create {String.ofList target}: {reason}"
      return none

/-- Send a stream to a sink. -/
def Streams.send (streams : Streams) (stream : Nat) (sink : Sink) : Streams :=
  if stream = 1 then { streams with output := sink }
  else if stream = 2 then { streams with diagnostics := sink }
  else streams

/-- The sink of a stream. -/
def Streams.sink? (streams : Streams) (stream : Text) : Option Sink :=
  match stream with
  | ['1'] => some streams.output
  | ['2'] => some streams.diagnostics
  | _ => none

def redirect (line : Nat) (streams : Streams) (redirection : Redirection) :
    Action (Option Streams) := do
  let process ← get
  match redirection with
  | .write stream target =>
      let sink ← openSink streams.diagnostics line false (expandWhole process.environment target)
      return sink.map (streams.send stream)
  | .append stream target =>
      let sink ← openSink streams.diagnostics line true (expandWhole process.environment target)
      return sink.map (streams.send stream)
  | .duplicate stream other =>
      return (streams.sink? (expandWhole process.environment other)).map (streams.send stream)
  | .read source =>
      let name := expandWhole process.environment source
      match process.fs.read (pathOf name) with
      | .ok content => return some { streams with input := ofBytes content }
      | .error .isADirectory => return some { streams with input := [] }
      | .error fault =>
          let reason := openFailure "No such file" fault
          complain streams.diagnostics line s!"cannot open {String.ofList name}: {reason}"
          return none

/-- Redirect streams in order, up to the first that cannot be redirected. -/
def redirectAll (line : Nat) (streams : Streams) : List Redirection → Action (Option Streams)
  | [] => return some streams
  | redirection :: rest => do
      match ← redirect line streams redirection with
      | some streams => redirectAll line streams rest
      | none => return none

/-! ### Commands of the shell itself -/

/-- End the script, by default as the last command ended. -/
def exitScript (complaints : Sink) (line : Nat) : List Text → Action Unit
  | [] => do throw (.code (← get).environment.status)
  | status :: _ => do
      match Decimal.unsigned? status with
      | some status => throw (.code (UInt8.ofNat status))
      | none => do
          complain complaints line s!"exit: Illegal number: {String.ofList status}"
          throw (.code 2)

/-- The number of a signal, given by number or by name. -/
def signal? (text : Text) : Option Nat :=
  match Decimal.unsigned? text with
  | some number => some number
  | none =>
      let name := String.ofList text
      let names (entry : Nat × String) : Bool := entry.2 == name || entry.2 == "SIG" ++ name
      (ExitStatus.signalNames.find? names).map (·.1)

/-- Signals that end no program. -/
def harmlessSignals : List Nat := [0, 17, 18, 23, 28]

/-- Send a signal to a program; only the script itself is there to be ended. -/
def sendSignal (complaints : Sink) (line number : Nat) (target : Text) : Action Unit := do
  if Decimal.unsigned? target = some (← get).environment.process then
    if !harmlessSignals.contains number then
      throw (.signal number)
    setStatus 0
  else
    complain complaints line "kill: No such process"
    setStatus 1

def kill (complaints : Sink) (line : Nat) : List Text → Action Unit
  | [['-', 's'], name, target] => killBy name target
  | [['-', 'n'], name, target] => killBy name target
  | ['-', first] :: [target] => killBy [first] target
  | ('-' :: name) :: [target] => killBy name target
  | [target] => sendSignal complaints line 15 target
  | _ => do
      complain complaints line "kill: Usage: kill [-s sigspec | -signum | -sigspec] [pid | job]..."
      setStatus 2
where
  killBy (name target : Text) : Action Unit := do
    match signal? name with
    | some number => sendSignal complaints line number target
    | none => do
        complain complaints line s!"kill: Illegal option -{String.ofList name}"
        setStatus 2

def changeDirectory (complaints : Sink) (line : Nat) (target : Text) : Action Unit := do
  let process ← get
  let path := pathOf target
  match process.fs.locate path with
  | .ok address =>
      if process.fs.isDirectory path then
        set { process with fs := { process.fs with workingDirectory := address } }
        setStatus 0
      else
        complain complaints line s!"cd: can't cd to {String.ofList target}"
        setStatus 2
  | .error _ =>
      complain complaints line s!"cd: can't cd to {String.ofList target}"
      setStatus 2

/-- Drop the first arguments of the script, which has to have that many. -/
def shift (complaints : Sink) (line count : Nat) : Action Unit := do
  if (← get).environment.arguments.length < count then
    complain complaints line "shift: can't shift that many"
    throw (.code 2)
  modify fun process =>
    let environment := process.environment
    { process with
      environment := { environment with arguments := environment.arguments.drop count } }
  setStatus 0

/-- Emit complaints, each after `opening`. -/
def emitComplaints (sink : Sink) (opening : String) (complaints : List String) : Action Unit :=
  emit sink (complaints.flatMap fun words => (opening ++ words ++ "\n").toList)

/-- Let a utility do its work; what it prints is left to be emitted. -/
def apply (streams : Streams) (utility : Utility) (arguments : List Text) : Action Printed := do
  let (printed, fs) := (utility arguments streams.input).run (← get).fs
  modify fun process => { process with fs := fs }
  setStatus printed.status
  return printed

/-- Run a utility as a program of its own. -/
def runUtility (streams : Streams) (utility : Utility) (arguments : List Text) : Action Unit := do
  let printed ← apply streams utility arguments
  emit streams.output printed.output
  emitComplaints streams.diagnostics "" printed.complaints

/-- Run a utility that is a part of the shell: its complaints name the line, and what it prints
comes after them. -/
def runOwnUtility (streams : Streams) (line : Nat) (utility : Utility) (arguments : List Text) :
    Action Unit := do
  let printed ← apply streams utility arguments
  emitComplaints streams.diagnostics (← introduction line) printed.complaints
  emit streams.output printed.output

/-- Refuse a name of no utility: a path to something that is there may not be executed. -/
def refuse (complaints : Sink) (line : Nat) (name : String) : Action Unit := do
  let path := pathOf name.toList
  let process ← get
  if path.bytes.contains Path.separator
      ∧ (process.fs.isFile path ∨ process.fs.isDirectory path) then
    complain complaints line s!"{name}: Permission denied"
    setStatus 126
  else
    complain complaints line s!"{name}: not found"
    setStatus 127

def call (line : Nat) (streams : Streams) (name : String) (arguments : List Text) : Action Unit :=
  match name, arguments with
  | "exit", _ => exitScript streams.diagnostics line arguments
  | "kill", _ => kill streams.diagnostics line arguments
  | "cd", [target] => changeDirectory streams.diagnostics line target
  | "shift", [] => shift streams.diagnostics line 1
  | "shift", [count] => shift streams.diagnostics line ((Decimal.unsigned? count).getD 0)
  | "set", [['-', 'e']] => do
      modify fun process => { process with endsOnFailure := true }
      setStatus 0
  | _, _ =>
      match utility? name.toList with
      | some utility =>
          if ownUtilities.contains name then runOwnUtility streams line utility arguments
          else runUtility streams utility arguments
      | none => refuse streams.diagnostics line name

/-- Commands that end the script where they cannot be redirected. -/
def specialCommands : List Text := [":", "exit", "set", "shift"].map String.toList

def runCommand (command : Command) : Action Unit := do
  let fields := command.words.flatMap (expand (← get).environment)
  match ← redirectAll command.line ⟨[], .output, .diagnostics⟩ command.redirections with
  | none =>
      if specialCommands.contains (fields.headD []) then
        throw (.code 2)
      setStatus 2
  | some streams =>
      match fields with
      | name :: arguments => call command.line streams (String.ofList name) arguments
      | [] =>
          modify fun process =>
            { process with
              environment := command.assignments.foldl (fun environment (name, value) =>
                environment.assign name (expandWhole environment value)) process.environment }
          setStatus 0

/-! ### Scripts -/

/-- Whether a command is run, by how the one before it ended. -/
def Condition.isMet (condition : Condition) (status : UInt8) : Bool :=
  match condition with
  | .always => true
  | .onSuccess => status == 0
  | .onFailure => status != 0

/-- Whether no command depends on how the one before the rest of a script ended. -/
def isUnchecked : Script → Bool
  | [] => true
  | (condition, _) :: _ => condition == .always

def runScript : Script → Action Unit
  | [] => pure ()
  | (condition, command) :: rest => do
      if condition.isMet (← get).environment.status then
        runCommand command
        let process ← get
        let status := process.environment.status
        if process.endsOnFailure && status != 0 && isUnchecked rest then
          throw (.code status)
      runScript rest

def runText (text : Text) : Action Unit :=
  match parse? text with
  | some script => runScript script
  | none => do
      complain .diagnostics 1 "Syntax error"
      throw (.code 2)

/-- Run a script: what it printed, how it ended, and the file system that it leaves. -/
def runProcess (action : Action Unit) (process : Process) : ChildOutcome × FileSystem :=
  let (result, process) := Id.run (StateT.run (ExceptT.run action) process)
  let status := match result with
    | .ok _ => .code process.environment.status
    | .error status => status
  (⟨process.output, process.diagnostics, status⟩, process.fs)

end Restripe.Shell
