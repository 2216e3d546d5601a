/-
  The command line of the program.

  Reads the files that the settings can come from, and what the environment says, and hands all of it
  to `Program.process`. This build has no transport of its own: no address leads to a coordinator.
-/
import BackupConsole.Program

namespace BackupConsole

open Settings

/-- The names on the way to an absolute path. -/
def namesOnWay (path : String) : List String :=
  (pathParts path).foldl (fun names part =>
    match part with
    | .name s => names ++ [s]
    | .up => names.dropLast
    | _ => names) []

/-- The number of the error that reading a directory is. -/
def isADirectory : UInt32 := 21

/-- Whether a path leads to something that is no directory: no path leads on from there. -/
def endsAt (path : String) : IO Bool := do
  try
    discard (IO.FS.readBinFile (path ++ "/"))
    return false
  catch
    | .inappropriateType _ number _ => return number != isADirectory
    | _ => return false

/-- What stands at a path. Permission is denied to read a file, but also to search one of the directories
on the way; only in the first case is there anything at the path. -/
def look (path : String) : IO (Option FileNode) := do
  try
    let bytes ← IO.FS.readBinFile path
    return some (.file bytes.toList)
  catch
    | .inappropriateType _ number _ =>
      return if number = isADirectory then some .directory else none
    | .permissionDenied .. => return if ← endsAt path then some (.unreadable .permissionDenied) else none
    | .hardwareFault .. => return some (.unreadable .inputOutput)
    | _ => return none

/-- A tree with what stands at a path besides. -/
def addPath (t : FileTree) (path : String) : IO FileTree := do
  let full := joinPath (directoryPath t.workingDirectory) path
  match ← look full with
  | some node => return { t with entries := t.entries ++ [(namesOnWay full, node)] }
  | none => return t

/-- A tree with what stands at some paths besides. -/
def addPaths (t : FileTree) : List String → IO FileTree
  | [] => return t
  | path :: rest => do addPaths (← addPath t path) rest

/-- The surroundings as far as some flags need them: the configuration file and the file of
certificates. -/
def observe (flags : Flags) : IO Surroundings := do
  let home ← IO.getEnv "HOME"
  let directory := (← IO.getEnv "PWD").getD "/"
  let bare : FileTree := ⟨namesOnWay directory, []⟩
  let files ←
    match expandHome home (flags.configFile.getD defaultConfigFile) with
    | .ok path => addPaths bare (candidates bare path)
    | .error _ => pure bare
  match resolve ⟨home, files⟩ flags .listBackups with
  | .ok resolved => return ⟨home, ← addPaths files resolved.caFile.toList⟩
  | .error _ => return ⟨home, files⟩

/-- The variables of the environment that count. -/
def observeEnvironment : IO Program.Environment := do
  let request :=
    Program.CompletionRequest.ofVariables (← IO.getEnv "COMPLETE") (← IO.getEnv "_CLAP_COMPLETE_INDEX")
      (← IO.getEnv "_CLAP_IFS")
  return ⟨← IO.getEnv "RUST_LOG", request⟩

/-- The flags on a command line, as far as they matter for what has to be read. -/
def flagsOf (arguments : List String) : Flags :=
  match Arguments.invocationOf arguments with
  | .ok i => i.flags
  | .error _ => Flags.none

end BackupConsole

open BackupConsole in
/-- Observes the world, runs the process in it, and shows what it shows. -/
def main (arguments : List String) : IO UInt32 := do
  let environment ← observeEnvironment
  let surroundings ← observe (flagsOf arguments)
  let world : Program.World := ⟨surroundings, Connection.Network.deserted, none⟩
  let report := Program.process world environment arguments
  for event in report.logs do
    (← IO.getStderr).putStrLn event.line
  (← IO.getStdout).write ⟨report.output.toArray⟩
  (← IO.getStderr).putStr report.errorText
  return report.exit.toUInt32
