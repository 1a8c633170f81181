import Fanout.Config.Read
import Fanout.Log.Retention
import Fanout.Program.Settings

namespace Fanout

structure Surroundings where
  files : List (String × Bytes) := []
  folder : Option (String × List DirectoryEntry) := none
  now : Int := 0
  filter : Option String := none
  inUse : List Nat := []

structure Session where
  exit : Nat
  output : String := ""
  errors : String := ""
  lines : List LogLine := []
  served : Bool := false
  log : Option (String × Bool) := none
  left : List DirectoryEntry := []

namespace Surroundings

def parts (path : String) : List String :=
  (if path.toList.head? = some '/' then ["/"] else []) ++
    (path.splitOn "/").filter fun part => part ≠ "" ∧ part ≠ "."

def isFile (s : Surroundings) (path : List String) : Bool :=
  s.files.any fun (name, _) => parts name = path

def isBlocked (s : Surroundings) (path : List String) : Bool :=
  s.files.any fun (name, _) => (parts name).isPrefixOf path

def isDirectory (s : Surroundings) (path : List String) : Bool :=
  (s.files.any fun (name, _) => path.isPrefixOf (parts name) && parts name ≠ path) ||
    s.folder.any fun (name, _) => path.isPrefixOf (parts name)

def read (s : Surroundings) (path : String) : Except String Bytes :=
  match s.files.find? fun (name, _) => parts name = parts path with
  | some (_, data) => .ok data
  | none =>
    if s.isBlocked (parts path) then .error "Not a directory (os error 20)"
    else if s.isDirectory (parts path) || parts path = [] then
      .error "Is a directory (os error 21)"
    else .error "No such file or directory (os error 2)"

def entries (s : Surroundings) : List DirectoryEntry := s.folder.elim [] (·.2)

def isFolder (s : Surroundings) (path : String) : Bool :=
  s.folder.any fun (name, _) => parts name = parts path

def logFolder (s : Surroundings) (path : String) : LogFolder :=
  if s.isBlocked (parts path) then .file
  else if s.isFolder path then .directory s.entries
  else .absent

/-- Why the program cannot listen at an endpoint. A number of 0 stands for any that is free. -/
def bindFailure? (s : Surroundings) (e : Endpoint) : Option String :=
  let isLocal :=
    match e.host with
    | .four (a :: rest) => a = 127 || (a = 0 && rest.all (· = 0))
    | .six groups _ => groups.take 7 = List.replicate 7 0 && groups.drop 7 ∈ [[0], [1]]
    | _ => false
  if !isLocal then some "Cannot assign requested address (os error 99)"
  else if e.number ≠ 0 && e.number ∈ s.inUse then some "Address already in use (os error 98)"
  else none

end Surroundings

namespace Session

def configPath (s : Surroundings) (o : Options) : Option String :=
  match o.config with
  | some path => some path
  | none =>
    let path := Surroundings.parts Config.defaultFile
    if s.isFile path || s.isDirectory path then some Config.defaultFile else none

def prepareLogs (s : Surroundings) (settings : Settings) :
    Except LogFailure (List DirectoryEntry) :=
  if settings.logDirectory = "" then .ok []
  else (s.logFolder settings.logDirectory).prepare s.now settings.retentionDays

def ignoredText (part : String) (e : LogRuleError) : String :=
  "ignoring `" ++ part ++ "`: " ++ e.message ++ "\n"

def serve (s : Surroundings) (settings : Settings) (errors : String) : Session :=
  match prepareLogs s settings with
  | .error .notADirectory => { exit := 1, errors := errors, left := s.entries }
  | .error .periodTooLong =>
    { exit := 101, errors := errors, log := some (settings.logDirectory, false),
      left := s.entries }
  | .ok kept =>
    let isFolder := settings.logDirectory ≠ "" && s.isFolder settings.logDirectory
    let left := if isFolder then kept else s.entries
    let (filter, ignored) := LogFilter.choose s.filter settings
    let failure := s.bindFailure? settings.listen
    let lines :=
      settings.removedLines (s.entries.length - left.length) ++ settings.startLines ++
      (match failure with
        | some reason => [Settings.failureLine reason]
        | none => [settings.listeningLine, Settings.interruptLine]) ++
      Settings.stopLines
    { exit := if failure.isSome then 1 else 0
      errors := errors ++ String.join (ignored.map fun (part, e) => ignoredText part e)
      lines := lines.filter filter.allows
      served := failure.isNone
      log := some (settings.logDirectory, true)
      left := left }

def start (s : Surroundings) (o : Options) : Session :=
  match configPath s o with
  | none => serve s (.new o {}) ""
  | some path =>
    match Config.ofFile path (s.read path) with
    | .ok c => serve s (.new o c) ("Loaded config from: " ++ path ++ "\n")
    | .error e =>
      { exit := 1, errors := "Failed to load config file: " ++ e.message ++ "\n",
        left := s.entries }

def version : String := "tvrelay-proxy 0.1.0\n"

def run (s : Surroundings) (args : List String) : Session :=
  match CommandLine.parse args with
  | .run o => start s o
  | .help => { exit := 0, left := s.entries }
  | .version => { exit := 0, output := version, left := s.entries }
  | .invalid => { exit := 2, left := s.entries }

def hasAdded (session : Session) (path : String) : Bool :=
  session.log.any fun (directory, opened) =>
    let (inner, outer) := (Surroundings.parts directory, Surroundings.parts path)
    if inner = outer then opened else outer.isPrefixOf inner

end Session

end Fanout
