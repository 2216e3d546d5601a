/-
  The program as a whole.

  1. **Program** — `run` carries out what a command line asks for; `process` is a whole process: it
     reads the command line, runs it, and says what is printed and with which exit code the process ends.

  2. **Specification** — a run resolves its settings, opens one connection and dispatches one command;
     whatever fails ends it. A request for completion asks the coordinator where filenames of backups are
     offered. A process ends with 0 if all went well or an answer about the program was
     asked for, with 1 if the run failed, with 2 if the command line cannot be read. A script that
     standard output does not take is a fault, for which nothing provides: then it ends with 101.
-/
import BackupConsole.Completion.Candidates
import BackupConsole.Completion.Script
import BackupConsole.Dispatch
import BackupConsole.LogFilter
import BackupConsole.Text.Lines

namespace BackupConsole.Program

open Arguments Completion Connection Settings Text

/-! ## Runs -/

/-- Why a run failed. -/
inductive RunError where
  | configuration (reason : ConfigError)
  | connection (reason : ConnectionError)
  | command (path : CommandPath) (reason : DispatchError)
  /-- The program itself is at fault. -/
  | fault (text : String)
  deriving DecidableEq, Repr

namespace RunError

/-- What failed. -/
def context : RunError → String
  | configuration _ => "invalid configuration"
  | connection _ => "cannot connect to the coordinator"
  | command path _ => path.text ++ " failed"
  | fault _ => "pmb-admin panicked"

/-- Why it failed. -/
def cause : RunError → String
  | configuration reason => reason.message
  | connection reason => reason.message
  | command _ reason => reason.message
  | fault text => text

/-- What a failed run leaves on standard error. The place in the program where a fault came about is left
out, as it is from the log. -/
def text (e : RunError) : String :=
  match e with
  | fault _ => e.context ++ ": " ++ e.cause ++ "\n"
  | _ => "Error: " ++ e.context ++ "\n\nCaused by:\n    " ++ e.cause ++ "\n"

/-- How a process ends whose run failed. -/
def exitCode : RunError → UInt8
  | fault _ => 101
  | _ => 1

/-- A failure shows. -/
theorem exitCode_ne_zero (e : RunError) : e.exitCode ≠ 0 := by
  unfold exitCode
  split <;> decide

end RunError

/-- What a run finds around it. -/
structure World where
  surroundings : Surroundings
  network : Network
  /-- How many bytes standard output takes, if there is a limit. -/
  room : Option Nat

/-- What came of a run. -/
structure RunReport where
  result : Except RunError Unit
  written : List UInt8
  /-- The channel that was opened, if one was. -/
  channel : Option Channel
  calls : List Call
  logs : List LogEvent

/-- A report of a run that ended before its command. -/
def failure (e : RunError) (logs : List LogEvent) : RunReport := ⟨.error e, [], none, [], logs⟩

/-- Runs a command over a channel. Nothing has been cancelled when it begins. -/
def runOver (w : World) (command : Command) (channel : Channel) : RunReport :=
  let outcome := dispatch command channel.coordinator false (Writer.fresh w.room)
  let result :=
    match outcome.result with
    | .ok _ => .ok ()
    | .error e => .error (.command command.path e)
  ⟨result, outcome.written, some channel, outcome.calls,
    connectedEvent channel.address :: outcome.events⟩

/-- Resolves the settings of a command, opens a channel, and runs the command over it. -/
def runCommand (w : World) (flags : Flags) (command : Command) : RunReport :=
  match resolve w.surroundings flags command with
  | .error e => failure (.configuration e) e.events
  | .ok resolved =>
    match openConnection w.network w.surroundings.files resolved with
    | .error e => failure (.connection e) e.events
    | .ok channel => runOver w resolved.command channel

/-- What standard output shows of a text, and whether that is all of it. -/
def shown (w : World) (text : String) : List UInt8 × Bool :=
  let (written, complete) := (Writer.fresh w.room).write text
  (written.written, complete)

/-- What the fault says that a script comes to which is not taken whole. The library that writes the script
adds the reason of the failure in a form of its own, which is left out. -/
def scriptUnwritten : String := "failed to write completion file"

/-- Writes the script for a shell. -/
def runScript (w : World) (shell : Shell) : RunReport :=
  let (written, complete) := shown w (completionScript shell)
  if complete then ⟨.ok (), written, none, [], []⟩
  else ⟨.error (.fault scriptUnwritten), written, none, [], [faultEvent (some scriptUnwritten)]⟩

/-- Carries out what a command line asks for. -/
def run (w : World) (i : Invocation) : RunReport :=
  match i.task with
  | .command command => runCommand w i.flags command
  | .completions shell => runScript w shell

/-! ## Requests for completion -/

/-- What a shell asks for. -/
structure CompletionRequest where
  shell : String
  /-- The number of the word that is being completed, if the shell says it. -/
  index : Option Nat
  separator : Option String
  deriving DecidableEq, Repr

/-- A count of words as a shell writes it, of 64 bits at most. -/
def readCount (text : String) : Option Nat :=
  let digits :=
    match text.toList with
    | '+' :: digits => digits
    | digits => digits
  (readDigits 10 digits).filter fun n => decide (n < UInt64.size)

/-- What the variables of the environment ask for; without a shell, or with `0` for one, nothing. -/
def CompletionRequest.ofVariables (shell index separator : Option String) : Option CompletionRequest :=
  (shell.filter fun s => s != "" && s != "0").map fun shell => ⟨shell, index.bind readCount, separator⟩

/-- A text on which a shell reads descriptions, with its marks escaped. -/
def escaped (marks : List Char) (text : String) : String :=
  String.ofList (text.toList.flatMap fun c => if marks.contains c then ['\\', c] else [c])

/-- Candidates in the form that a shell wants. -/
def candidateText (shell : Shell) (separator : Option String) (found : List Candidate) : String :=
  let between := separator.getD "\n"
  let about := fun (start : String) (c : Candidate) =>
    match c.about with
    | some text => start ++ firstLine text
    | none => ""
  match shell with
  | .bash | .elvish => String.intercalate between (found.map fun c => c.word)
  | .zsh =>
    String.intercalate between
      (found.map fun c => escaped ['\\', ':'] c.word ++ escaped ['\\'] (about ":" c))
  | .fish | .powershell => String.join (found.map fun c => c.word ++ about "\t" c ++ "\n")

/-- An answer to a request for completion: its text, and the calls that were made for it. -/
structure CompletionAnswer where
  text : String
  calls : List Call

/-- What a request for completion is answered, or a reason why there is no answer. -/
def answerCompletion (w : World) (request : CompletionRequest) (arguments : List String) :
    Except String CompletionAnswer :=
  match Shell.all.find? fun s => s.word == request.shell with
  | none =>
    let names := Shell.all.map fun s => "\x60" ++ s.word ++ "\x60"
    .error ("unknown shell \x60" ++ request.shell ++ "\x60, expected one of "
      ++ String.intercalate ", " names)
  | some shell =>
    match (arguments.dropWhile fun word => word != "--").drop 1 with
    | [] => .ok ⟨completionScript shell, []⟩
    | words =>
      let index := if shell = .fish then words.length - 1 else request.index.getD 0
      if index = 0 ∨ words.length ≤ index then .error "no completion generated"
      else
        let words := (words.drop 1).take index
        .ok ⟨candidateText shell request.separator (candidates w.surroundings w.network words),
          candidateCalls w.surroundings w.network words⟩

/-! ## Whole processes -/

/-- The variables of the environment that count, with the request for completion if there is one. -/
structure Environment where
  logFilter : Option String
  completion : Option CompletionRequest
  deriving DecidableEq, Repr

/-- What a process shows. -/
structure ProcessReport where
  exit : UInt8
  output : List UInt8
  /-- What stands on standard error beside the log. -/
  errorText : String
  logs : List LogEvent
  calls : List Call

/-- Runs a command line that has been read. -/
def runProcess (w : World) (env : Environment) (i : Invocation) : ProcessReport :=
  let report := run w i
  let filter := LogFilter.ofSettings env.logFilter i.logLevel
  let logs := report.logs.filter fun e => filter.shows e
  match report.result with
  | .ok _ => ⟨0, report.written, "", logs, report.calls⟩
  | .error e => ⟨e.exitCode, report.written, e.text, logs, report.calls⟩

/-- What a process shows that cannot answer a request for completion. -/
def unanswered (reason : String) (written : List UInt8) (calls : List Call) : ProcessReport :=
  ⟨2, written, "error: " ++ reason ++ "\n", [], calls⟩

/-- A process, from its arguments to its end. An answer about the program that is cut short is no failure,
an answer to a request for completion is. -/
def process (w : World) (env : Environment) (arguments : List String) : ProcessReport :=
  match env.completion with
  | some request =>
    match answerCompletion w request arguments with
    | .ok answer =>
      let (written, complete) := shown w answer.text
      if complete then ⟨0, written, "", [], answer.calls⟩
      else unanswered writeFailure written answer.calls
    | .error reason => unanswered reason [] []
  | none =>
    match invocationOf arguments with
    | .ok i => runProcess w env i
    | .error e =>
      if e.isAnswer then ⟨0, (shown w e.message).1, "", [], []⟩
      else ⟨2, [], e.message ++ "\n", [], []⟩

end BackupConsole.Program
