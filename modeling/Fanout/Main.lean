import Fanout.Log.Date
import Fanout.Program.Session

open Fanout

def millis (t : IO.FS.SystemTime) : Int := t.sec * 1000 + t.nsec.toNat / 1000000

def entriesAt (path : String) : IO (Option (List DirectoryEntry)) := do
  try
    let found ← (← IO.FS.realPath path).readDir
    let entries ← found.toList.mapM fun e => do
      let m ← e.path.metadata
      pure { name := e.fileName, isFile := m.type == .file, modified := millis m.modified }
    pure (some entries)
  catch _ => pure none

def filesAt (path : String) : IO (List (String × Bytes)) := do
  try
    pure [(path, (← IO.FS.readBinFile path).toList)]
  catch _ => pure []

def prepareDirectory (directory : String) : IO Int := do
  IO.FS.createDirAll directory
  let path := directory ++ "/" ++ Retention.logName ++ ".new"
  IO.FS.writeFile path ""
  let time := millis (← (← IO.FS.realPath path).metadata).modified
  IO.FS.removeFile path
  pure time

def runProgram (args : List String) (o : Options) : IO Session := do
  let here : Surroundings :=
    { files := ← filesAt (o.config.getD Config.defaultFile), filter := ← IO.getEnv "RUST_LOG" }
  let config := (Session.configPath here o).map fun path => Config.ofFile path (here.read path)
  match config with
  | some (.error _) => pure (Session.run here args)
  | _ =>
    let settings := Settings.new o ((config.bind Except.toOption).getD {})
    let directory := if settings.logDirectory = "" then "." else settings.logDirectory
    let time ← prepareDirectory directory
    let found := (← entriesAt directory).getD []
    let session := Session.run
      { here with folder := some (settings.logDirectory, found), now := time } args
    for e in found do
      unless session.left.contains e do IO.FS.removeFile (directory ++ "/" ++ e.name)
    if session.hasAdded settings.logDirectory then
      IO.FS.writeFile (directory ++ "/" ++ Retention.fileName time)
        (String.join (session.lines.map fun l => l.toText ++ "\n"))
    pure session

def main (args : List String) : IO UInt32 := do
  let session ←
    match CommandLine.parse args with
    | .run o => runProgram args o
    | _ => pure (Session.run {} args)
  IO.eprint session.errors
  IO.print session.output
  for l in session.lines do IO.println l.toText
  pure (UInt32.ofNat session.exit)
