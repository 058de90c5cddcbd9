import RecordGrid.Log
import RecordGrid.Session.Endpoint
import RecordGrid.Session.Protocol
import RecordGrid.Session.Startup

/-!
# The program

Reads commands from standard input, one on a line, and writes a response for
each, and a line for every change of the records.  The environment and the
files that it names say how a session starts.
-/

open RecordGrid

/-- What a file holds, where it can be read. -/
def readFile? (path : String) : IO (Option String) := do
  try return some (← IO.FS.readFile path) catch _ => return none

/-- What the files at some paths hold. -/
def readFiles (paths : List String) : IO (String → Option String) := do
  let files ← paths.mapM fun path => return (path, ← readFile? path)
  return fun path => (files.lookup path).join

def writeLog (path : String) (log : Log) : IO Unit :=
  IO.FS.writeFile path (log.file.getD "")

def putLine (output : IO.FS.Stream) (line : Json) : IO Unit := do
  output.putStrLn line.compact
  output.flush

/-- Answers lines until the input ends, or an answer ends in a fault. -/
partial def serve (input output : IO.FS.Stream) (store : Store) : IO (Option IndexFault) := do
  let line ← input.getLine
  if line.isEmpty then return none
  if Text.allBlank line then serve input output store
  else
    match (Command.ofLine? line).bind fun c => store.answerFault? c with
    | some fault => return some fault
    | none =>
      let a := store.answerLine line
      putLine output a.response.toJson
      a.published.forM fun rows => putLine output (rowsChanged rows)
      serve input output a.store

/-- The end of a program that has met a fault. -/
def endWith (fault : IndexFault) : IO UInt32 := do
  IO.eprintln ("grid-app: " ++ reprStr fault)
  return 101

def runSession (config : Config) : IO UInt32 := do
  let log := (({} : Log).write "I" "SYS" ("Logging to " ++ Text.escaped config.logPath))
  writeLog config.logPath log
  match Endpoint.base? config.lookupBaseUrl with
  | .error e => IO.eprintln ("grid-app: " ++ e.message); return 1
  | .ok _ =>
    let contents ← readFiles
      ([config.schemaPath, config.dataPath, config.lookupOptionsPath].filterMap id)
    let start : Host := { store := .forRole config.userRole }
    match start.loadDocuments contents config with
    | (.error e, _) => IO.eprintln ("grid-app: " ++ e.message); return 1
    | (.ok (), host) =>
      -- records that were supplied have had their pages counted
      if let some fault := config.dataPath.bind fun _ => host.store.pageFault? then
        return (← endWith fault)
      let output ← IO.getStdout
      let log := log.write "I" "SYS" "Ready for commands on stdin"
      writeLog config.logPath log
      host.published.forM fun rows => putLine output (rowsChanged rows)
      if let some fault ← serve (← IO.getStdin) output host.store then
        return (← endWith fault)
      let log := log.write "I" "SYS" "Input closed, shutting down"
      match log.sort with
      | .ok (_, sorted) => writeLog config.logPath sorted
      | .error _ => writeLog config.logPath log
      return 0

def main : IO UInt32 := do
  let env : Environment :=
    { configFile := (← IO.getEnv "GRID_APP_CONFIG"), role := (← IO.getEnv "GRID_APP_ROLE"),
      logFile := (← IO.getEnv "GRID_APP_LOG") }
  let contents ← match env.configFile with
    | some path => readFile? path
    | none => pure none
  match Config.load (fun _ => contents) env with
  | .error .unreadable => IO.eprintln "grid-app: I/O error"; return 1
  | .error .malformed => IO.eprintln "grid-app: Invalid config file"; return 1
  | .ok config => runSession config
