/-!
# What the operating system reports

A file operation is done or refused for a cause, and a program that was started ends in some way.
-/

/-!
## Why a file operation is refused

Each cause is worded as the operating system words it, with its number there; some causes arise
before the operating system is asked, and have none.
-/

namespace Restripe

/-- Why a file operation is refused. -/
inductive IoFault where
  | notFound
  | notExecutableFormat
  | permissionDenied
  | busy
  | fileExists
  | notADirectory
  | isADirectory
  | nameTooLong
  /-- A path holds the byte that ends a name. -/
  | nulInName
  /-- A program or an argument holds the byte that ends a string. -/
  | nulInArgument
  /-- A file that has to be text is not. -/
  | notText
  /-- A cause given in words. -/
  | other (words : String)
  deriving DecidableEq, Repr

namespace IoFault

def words : IoFault → String
  | .notFound => "No such file or directory"
  | .notExecutableFormat => "Exec format error"
  | .permissionDenied => "Permission denied"
  | .busy => "Device or resource busy"
  | .fileExists => "File exists"
  | .notADirectory => "Not a directory"
  | .isADirectory => "Is a directory"
  | .nameTooLong => "File name too long"
  | .nulInName => "file name contained an unexpected NUL byte"
  | .nulInArgument => "nul byte found in provided data"
  | .notText => "stream did not contain valid UTF-8"
  | .other words => words

/-- The number of a cause that the operating system gives. -/
def number? : IoFault → Option Nat
  | .notFound => some 2
  | .notExecutableFormat => some 8
  | .permissionDenied => some 13
  | .busy => some 16
  | .fileExists => some 17
  | .notADirectory => some 20
  | .isADirectory => some 21
  | .nameTooLong => some 36
  | .nulInName | .nulInArgument | .notText | .other _ => none

def message (fault : IoFault) : String :=
  match fault.number? with
  | some number => s!"{fault.words} (os error {number})"
  | none => fault.words

end IoFault

/-!
## How a child program ends

A program ends by itself with a code, or is ended by a signal.
-/

/-- How a child program ended. -/
inductive ExitStatus where
  | code (value : UInt8)
  | signal (number : Nat)
  deriving DecidableEq, Repr

namespace ExitStatus

/-- A program succeeds by ending itself with code zero. -/
def isSuccess : ExitStatus → Bool
  | .code value => value == 0
  | .signal _ => false

/-- Names of the signals, by number. -/
def signalNames : List (Nat × String) :=
  [(1, "SIGHUP"), (2, "SIGINT"), (3, "SIGQUIT"), (4, "SIGILL"), (5, "SIGTRAP"), (6, "SIGABRT"),
    (7, "SIGBUS"), (8, "SIGFPE"), (9, "SIGKILL"), (10, "SIGUSR1"), (11, "SIGSEGV"),
    (12, "SIGUSR2"), (13, "SIGPIPE"), (14, "SIGALRM"), (15, "SIGTERM"), (16, "SIGSTKFLT"),
    (17, "SIGCHLD"), (18, "SIGCONT"), (19, "SIGSTOP"), (20, "SIGTSTP"), (21, "SIGTTIN"),
    (22, "SIGTTOU"), (23, "SIGURG"), (24, "SIGXCPU"), (25, "SIGXFSZ"), (26, "SIGVTALRM"),
    (27, "SIGPROF"), (28, "SIGWINCH"), (29, "SIGIO"), (30, "SIGPWR"), (31, "SIGSYS")]

/-- A status as it is shown in logs and messages. -/
def display : ExitStatus → String
  | .code value => s!"exit status: {value}"
  | .signal number =>
      match signalNames.lookup number with
      | some name => s!"signal: {number} ({name})"
      | none => s!"signal: {number}"

end ExitStatus

end Restripe
