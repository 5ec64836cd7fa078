import Restripe.FileSystem.Tree
import Restripe.Shell.Format
import Restripe.Shell.Script

/-!
# Utilities

A utility is given its arguments and what it reads, may change the file system, and prints.  Those
here are the ones that solver scripts are made of.
-/

namespace Restripe.Shell

/-- What a utility prints, and how it ends. -/
structure Printed where
  output : Text
  /-- What went wrong, a line each. -/
  complaints : List String
  status : UInt8

/-- A utility: from its arguments and its input. -/
abbrev Utility := List Text → Text → StateM FileSystem Printed

namespace Printed

def success (output : Text) : Printed := ⟨output, [], 0⟩

def silence (status : UInt8) : Printed := ⟨[], [], status⟩

def failure (status : UInt8) (words : String) : Printed := ⟨[], [words], status⟩

/-- One after the other; the worst status counts. -/
def append (first second : Printed) : Printed where
  output := first.output ++ second.output
  complaints := first.complaints ++ second.complaints
  status := max first.status second.status

end Printed

def pathOf (argument : Text) : Path := ⟨toBytes argument⟩

def forEach (arguments : List Text) (action : Text → StateM FileSystem Printed) :
    StateM FileSystem Printed :=
  arguments.foldlM (fun printed argument => return printed.append (← action argument))
    (.silence 0)

/-- Change the file system, or complain. -/
def change (update : FileSystem → Except String FileSystem) : StateM FileSystem Printed := do
  match update (← get) with
  | .ok fs => do
      set fs
      return .silence 0
  | .error complaint => return .failure 1 complaint

/-- The complaint that a step is refused. -/
def refusal (complaint : String) (fault : IoFault) : String := s!"{complaint}: {fault.words}"

/-- Change the file system by a step that may be refused. -/
def attempt (update : FileSystem → Except IoFault FileSystem) (complaint : String) :
    StateM FileSystem Printed :=
  change fun fs => (update fs).mapError (refusal complaint)

/-- The options, which start with a dash, and the other arguments. -/
def cutOptions (arguments : List Text) : List Text × List Text :=
  arguments.partition (·.head? == some '-')

def hasOption (options : List Text) (letter : Char) : Bool :=
  options.any (·.contains letter)

/-- Print arguments with blanks between them; an escape may end all printing. -/
def echo : Utility := fun arguments _ =>
  let (isOpen, arguments) := match arguments with
    | ['-', 'n'] :: rest => (true, rest)
    | _ => (false, arguments)
  let (text, ended) := cutAtEnd ([' '].intercalate arguments)
  return .success (unescape .afterZero text ++ if isOpen || ended then [] else ['\n'])

def printf : Utility := fun arguments _ =>
  match arguments with
  | [] => return .failure 2 "printf: usage: printf format [arg ...]"
  | format :: arguments =>
      match readFormat? (unescape .plain format) with
      | some pieces =>
          let (text, complaints) := printFormat pieces arguments
          return ⟨text, complaints.map ("printf: " ++ ·), if complaints.isEmpty then 0 else 1⟩
      | none => return .failure 1 "printf: invalid directive"

/-- Print files, or the input where none is named. -/
def cat : Utility := fun arguments input =>
  forEach (if arguments.isEmpty then [['-']] else arguments) fun argument => do
    if argument = ['-'] then
      return .success input
    else
      match (← get).read (pathOf argument) with
      | .ok content => return .success (ofBytes content)
      | .error fault => return .failure 1 s!"cat: {String.ofList argument}: {fault.words}"

/-- Make files that are not there. -/
def touch : Utility := fun arguments _ =>
  forEach arguments fun argument =>
    let path := pathOf argument
    attempt (fun fs => if fs.isFile path || fs.isDirectory path then .ok fs else fs.write path [])
      s!"touch: cannot touch '{String.ofList argument}'"

/-- Make the directories of a path that are not there, outermost first. -/
def makeAll (fs : FileSystem) : List Path → Except IoFault FileSystem
  | [] => .ok fs
  | path :: paths =>
      if fs.isDirectory path then makeAll fs paths
      else fs.makeDirectory path >>= fun fs => makeAll fs paths

/-- A path after the directories that it leads through, outermost first. -/
def ancestors (path : Path) : List Path :=
  let (first, others) := Path.segments path.bytes
  (List.range (others.length + 1)).filterMap fun count =>
    let front := Path.ofSegments first (others.take count)
    if front.bytes = [] then none else some front

def mkdir : Utility := fun arguments _ =>
  let (options, names) := cutOptions arguments
  forEach names fun name =>
    let path := pathOf name
    attempt (fun fs => if hasOption options 'p' then makeAll fs (ancestors path)
        else fs.makeDirectory path)
      s!"mkdir: cannot create directory '{String.ofList name}'"

/-- Take away a file, or with `isDeep` a directory and what is below it. -/
def removeAt (isDeep : Bool) (path : Path) (fs : FileSystem) : Except IoFault FileSystem :=
  if isDeep ∧ fs.isDirectory path then do return fs.eraseBelow (← fs.locate path)
  else fs.remove path

def rm : Utility := fun arguments _ =>
  let (options, names) := cutOptions arguments
  forEach names fun name =>
    let path := pathOf name
    let isDeep := hasOption options 'r' || hasOption options 'R'
    attempt (fun fs => match removeAt isDeep path fs with
        | .error .notFound => if hasOption options 'f' then .ok fs else .error .notFound
        | result => result)
      s!"rm: cannot remove '{String.ofList name}'"

/-- The path of a file that goes to a path, which may be that of a directory. -/
def goal (fs : FileSystem) (source target : Path) : Path :=
  if fs.isDirectory target then target.join ⟨source.fileName?.getD []⟩ else target

def isSame (fs : FileSystem) (left right : Path) : Bool :=
  match fs.locate left, fs.locate right with
  | .ok left, .ok right => left == right
  | _, _ => false

/-- Bring a file to a path: the complaints tell whether the file or the path is to blame. -/
def bring (utility : String) (move : Path → Path → FileSystem → Except String FileSystem)
    (source target : Text) : StateM FileSystem Printed :=
  change fun fs => do
    let path := pathOf source
    let _ ← (fs.locate path).mapError
      (refusal s!"{utility}: cannot stat '{String.ofList source}'")
    let goal := goal fs path (pathOf target)
    if isSame fs path goal then
      let name := String.ofList (ofBytes goal.bytes)
      throw s!"{utility}: '{String.ofList source}' and '{name}' are the same file"
    move path goal fs

def cp : Utility := fun arguments _ =>
  match (cutOptions arguments).2 with
  | [source, target] =>
      bring "cp" (fun path goal fs => do
          if fs.isDirectory path then
            throw s!"cp: -r not specified; omitting directory '{String.ofList source}'"
          let content ← (fs.read path).mapError
            (refusal s!"cp: cannot open '{String.ofList source}' for reading")
          let name := String.ofList (ofBytes goal.bytes)
          (fs.write goal content).mapError (refusal s!"cp: cannot create regular file '{name}'"))
        source target
  | _ => return .failure 1 "cp: missing file operand"

def mv : Utility := fun arguments _ =>
  match (cutOptions arguments).2 with
  | [source, target] =>
      bring "mv" (fun path goal fs =>
          let name := String.ofList (ofBytes goal.bytes)
          (fs.rename path goal).mapError
            (refusal s!"mv: cannot move '{String.ofList source}' to '{name}'"))
        source target
  | _ => return .failure 1 "mv: missing file operand"

def isFilled (fs : FileSystem) (path : Path) : Bool :=
  match fs.read path with
  | .ok content => !content.isEmpty
  | .error _ => fs.isDirectory path

def integer? (argument : Text) : Option Int :=
  match argument with
  | '-' :: rest => (Decimal.unsigned? rest).map fun value => -(value : Int)
  | '+' :: rest => (Decimal.unsigned? rest).map Int.ofNat
  | _ => (Decimal.unsigned? argument).map Int.ofNat

/-- What is asked about a text. -/
def asksOf (fs : FileSystem) (question : String) (text : Text) : Option Bool :=
  match question with
  | "-f" => some (fs.isFile (pathOf text))
  | "-d" => some (fs.isDirectory (pathOf text))
  | "-e" | "-r" | "-w" => some (fs.isFile (pathOf text) || fs.isDirectory (pathOf text))
  | "-s" => some (isFilled fs (pathOf text))
  | "-n" => some !text.isEmpty
  | "-z" | "!" => some text.isEmpty
  | _ => none

/-- What is asked about two integers. -/
def compares (question : String) : Option (Int → Int → Bool) :=
  match question with
  | "-eq" => some (· == ·)
  | "-ne" => some (· != ·)
  | "-lt" => some (· < ·)
  | "-le" => some (· ≤ ·)
  | "-gt" => some (· > ·)
  | "-ge" => some (· ≥ ·)
  | _ => none

/-- Whether what is asked about two texts holds. -/
def holdsBetween (left question right : Text) : Except String Bool :=
  match question with
  | ['='] => pure (left == right)
  | ['!', '='] => pure (left != right)
  | _ =>
      match compares (String.ofList question) with
      | none => throw s!"{String.ofList question}: unexpected operator"
      | some compare =>
          match integer? left, integer? right with
          | some first, some second => pure (compare first second)
          | none, _ => throw s!"Illegal number: {String.ofList left}"
          | _, none => throw s!"Illegal number: {String.ofList right}"

/-- Whether what is asked about files or texts holds. -/
def holds (fs : FileSystem) : List Text → Except String Bool
  | [] => pure false
  | [text] => pure !text.isEmpty
  | [question, text] =>
      match asksOf fs (String.ofList question) text with
      | some answer => pure answer
      | none => throw s!"{String.ofList question}: unexpected operator"
  | [['!'], question, text] => return !(← holds fs [question, text])
  | [left, question, right] => holdsBetween left question right
  | ['!'] :: arguments => return !(← holds fs arguments)
  | _ :: question :: _ => throw s!"{String.ofList question}: unexpected operator"

/-- Tell under a name whether what is asked holds. -/
def testAs (name : String) (arguments : List Text) : StateM FileSystem Printed := do
  match holds (← get) arguments with
  | .ok answer => return .silence (if answer then 0 else 1)
  | .error complaint => return .failure 2 s!"{name}: {complaint}"

/-- Tell whether what is asked holds. -/
def test : Utility := fun arguments _ => testAs "test" arguments

/-- The same between brackets. -/
def bracket : Utility := fun arguments _ =>
  if arguments.getLast? = some [']'] then testAs "[" arguments.dropLast
  else return .failure 2 "[: missing ]"

def nothing (status : UInt8) : Utility := fun _ _ => return .silence status

/-- All utilities by name. -/
def utilities : List (String × Utility) :=
  [("echo", echo), ("printf", printf), ("cat", cat), ("touch", touch), ("mkdir", mkdir), ("rm", rm),
    ("cp", cp), ("mv", mv), ("test", test), ("[", bracket), ("true", nothing 0),
    ("false", nothing 1), (":", nothing 0), ("sleep", nothing 0)]

/-- Names of the utilities that are a part of the shell; their complaints name the line. -/
def ownUtilities : List String := ["echo", "printf", "test", "[", "true", "false", ":"]

def utility? (name : Text) : Option Utility :=
  utilities.lookup (String.ofList name)

end Restripe.Shell
