import FlowRules.Console.Command

/-!
# The program

The program reads the files that its command line may look at, obeys the command line, and writes the report: what
is printed to standard output, the log and what is wrong to standard error.
-/

namespace FlowRules.Program

/-- The fault of asking for an object of a class: the program has no classes of its own. -/
def noClasses : Constructors := fun name _ => .error (.type (.stated (name ++ "() takes no arguments")))

/-! ### Reading -/

def joined (place : List String) : String := "/" ++ "/".intercalate place

def bytesAt? (path : String) : IO (Option (List UInt8)) := do
  try
    let bytes ← IO.FS.readBinFile path
    return some bytes.toList
  catch _ => return none

def textAt (path : String) : IO String := do
  let bytes ← bytesAt? path
  return ((Text.ofUtf8 (bytes.getD [])).toOption).getD ""

/-- What stands in a directory, if there is one. -/
def namesIn? (place : List String) : IO (Option (List String)) := do
  let here : IO.FS.DirEntry := { root := "/", fileName := "/".intercalate place }
  try
    let entries ← here.path.readDir
    return some (entries.toList.map (·.fileName))
  catch _ => return none

/-- A directory with all definitions in it. -/
partial def directoryTree (place : List String) : IO FileTree := do
  match ← namesIn? place with
  | none =>
    if ((place.getLast?).map fun name => Text.endsWith name FileTree.suffix).getD false then
      let bytes ← bytesAt? (joined place)
      return bytes.toList.map fun bs => (place, .bytes bs)
    else return []
  | some names => do
    let inner ← names.mapM fun name => directoryTree (place ++ [name])
    return (place, .directory) :: inner.flatten

/-- What a path leads to, and the directories on its way. -/
def pathTree (directory path : String) : IO FileTree := do
  let mut here : List String := []
  let mut tree : FileTree := []
  for part in FilePath.parts (FilePath.under directory path) do
    here := if part = ".." then here.dropLast else here ++ [part]
    if (← namesIn? here).isSome then tree := tree ++ [(here, .directory)]
  match ← bytesAt? (joined here) with
  | some bs => return tree ++ [(here, .bytes bs)]
  | none => return tree ++ (← directoryTree here)

/-- The variables of the environment. -/
def environment : IO Variables := do
  let text ← textAt "/proc/self/environ"
  return (Text.split '\x00' text).filterMap (Text.cutAt? '=')

/-- A new name for an execution. -/
def newExecution : IO String := do
  let bytes ← IO.getRandomBytes 16
  return String.ofList (bytes.toList.flatMap fun b => Text.hexDigits 2 b.toNat)

/-- The surroundings of the program, with the files at some paths. -/
def surroundings (paths : List String) : IO Surroundings := do
  let directory := (← IO.currentDir).toString
  let trees ← paths.mapM (pathTree directory)
  return {
    workingDirectory := directory, files := ((FilePath.parts directory, FileContent.directory) :: trees.flatten).eraseDups
    environment := ← environment, executionId := ← newExecution, construct := noClasses }

/-! ### Writing -/

/-- Microseconds since the beginning of 1970. -/
def now : IO Int := do
  let self : IO.FS.DirEntry := { root := "/proc", fileName := "self" }
  try
    let data ← self.path.metadata
    return data.modified.sec * 1000000
  catch _ => return 0

/-- The number of the process. -/
def processNumber : IO String := do return (Text.split ' ' (← textAt "/proc/self/stat")).headD "0"

def writeLog (r : Report) : IO Unit := do
  let err ← IO.getStderr
  let micros ← now
  for row in r.screen.earlyRows do
    if LogSetup.admits 0 row.level then err.putStrLn row.message
  match r.screen.log with
  | none => return
  | some log =>
    let colours ← err.isTty
    let app := Help.program
    for row in r.loggedRows do
      let line := row.line micros
      err.putStrLn (if log.usesRecords then line.record app else line.text ⟨app, colours⟩)
    if log.usesFile then
      IO.FS.createDirAll log.directory
      let path := log.directory ++ "/" ++ LogSetup.fileName app (← processNumber)
      IO.FS.withFile path .append fun file => do
        for row in r.loggedRows do
          file.putStrLn ((row.line micros).text ⟨app, false⟩)

def writeReport (r : Report) : IO Unit := do
  for item in r.screen.printed do
    for line in item.draw do
      IO.println line
  writeLog r
  match r.ending with
  | .noCommand .nothingGiven => IO.eprintln (Help.page none)
  | .noCommand (.wrong command f) => IO.eprintln (Help.preface command ++ "Error: " ++ f.message)
  | .refused message => IO.eprintln ("Error: " ++ message)
  | .escaped f => IO.eprintln (LogLine.faultText f)
  | _ => return

/-- Obey a command line; the files are looked up again once the settings are known. -/
def obey (args : List String) : IO Report := do
  let first ← surroundings ((← surroundings []).inputs args)
  let second ← surroundings (first.inputs args)
  return second.report args

end FlowRules.Program

def main (args : List String) : IO UInt32 := do
  let r ← FlowRules.Program.obey args
  FlowRules.Program.writeReport r
  return r.status.toUInt32
