import FlowRules.Console.Entry
import FlowRules.Console.Help
import FlowRules.Console.Report
import FlowRules.Fault.Guidance
import FlowRules.Review.Static
import FlowRules.Run.Pipeline
import FlowRules.Settings.Load

/-!
# Commands

A command works in some surroundings: a working directory, files, variables of the environment, modules that can be
loaded as plugins, and what shows the texts that it prints.  It reads the settings first, then its own words, and loads
the plugins that the settings and the words name.  What it prints is marked up, also where texts of the user stand in
it; a text that cannot be shown ends the command.
-/

namespace FlowRules

/-- A module that can be loaded, and how it registers handlers, if it does. -/
structure Plugin where
  name : String
  register? : Option (Registry → Except Fault (Registry × List LogRow)) := none

structure Surroundings where
  workingDirectory : String
  /-- All files, by their paths from the root. -/
  files : FileTree
  environment : Variables := []
  plugins : List Plugin := []
  render : Renderer := .standard
  executionId : String
  construct : Constructors

namespace Surroundings

/-- Where a path leads to. -/
def place? (s : Surroundings) (path : String) : Option (List String) :=
  s.files.follow? [] (FilePath.parts (FilePath.under s.workingDirectory path))

/-- What stands at a place. -/
def content? (s : Surroundings) (place : List String) : Option FileContent :=
  if s.files.isFolder place then some .directory else s.files.lookup place

def contentAt? (s : Surroundings) (path : String) : Option FileContent := (s.place? path).bind s.content?

/-- What a path leads to; one that ends as the path of a folder leads to no file. -/
def kind (s : Surroundings) (path : String) : PathKind :=
  match s.contentAt? path with
  | some .directory => if path = "" then .missing else .directory
  | some _ => if Text.endsWith path "/" || Text.endsWith path "/." then .missing else .file
  | none => .missing

/-- The definitions in a directory. -/
def definitions (s : Surroundings) (directory : String) : Repository :=
  FileTree.repository directory
    (match s.place? directory with
      | none => []
      | some place => s.files.below place)

/-- The fault of making a directory for the log where something else is in the way. -/
def logFault? (s : Surroundings) (log : LogSettings) : Option Fault :=
  let parts := FilePath.parts (FilePath.under s.workingDirectory log.directory)
  let isFile := fun place => (s.content? place).any (· ≠ .directory)
  if !log.usesFile then none
  else if isFile parts then
    some (.raised "FileExistsError" ("[Errno 17] File exists: " ++ Text.quoted log.directory))
  else if (List.range parts.length).any fun n => isFile (parts.take n) then
    some (.raised "NotADirectoryError" ("[Errno 20] Not a directory: " ++ Text.quoted log.directory))
  else none

/-- The logger of the commands. -/
def logger : String := "cli.main"

/-! ### Settings -/

/-- The settings of the file, with what the command line says instead. -/
def settings (s : Surroundings) (general : GeneralOptions) : Shell Settings := do
  let path := FilePath.normalized general.config
  let place := (s.place? path).getD []
  let file := (s.contentAt? path).map fun content => { content := content : SettingsFile }
  let loading := Settings.load s.environment path ("/" ++ "/".intercalate place) file {}
  Shell.logEarly loading.rows
  let settings ← Shell.orEscape loading.outcome
  let settings :=
    match general.workflowsDirectory with
    | none | some "" => settings
    | some directory => { settings with workflowsDirectory := FilePath.normalized directory }
  let settings :=
    match general.level with
    | none => settings
    | some level => { settings with log := { settings.log with level := level.name } }
  match s.logFault? settings.log with
  | some f => throw (.escaped f)
  | none => pure ()
  modifyThe Screen fun screen => { screen with log := some settings.log }
  return settings

/-! ### Plugins -/

/-- What is said about a module that is not there. -/
def missingModule (s : Surroundings) (name : String) : String :=
  let parts := Text.split '.' name
  let first := parts.headD ""
  if s.plugins.any (·.name = first) then
    "No module named " ++ Text.quoted (".".intercalate (parts.take 2)) ++ "; " ++ Text.quoted first ++
      " is not a package"
  else "No module named " ++ Text.quoted first

/-- The fault of a name that no module can have. -/
def moduleNameFault? (name : String) : Option Fault :=
  if name = "" then some (.value (.stated "Empty module name"))
  else if Text.startsWith name "." then
    some (.type (.stated ("the 'package' argument is required to perform a relative import for " ++ Text.quoted name)))
  else none

/-- Load a plugin, which may register handlers. -/
def loadPlugin (s : Surroundings) (registry : Registry) (name : String) : Shell Registry := do
  match moduleNameFault? name, s.plugins.find? (·.name = name) with
  | some f, _ => throw (.escaped f)
  | none, none => throw (.refused ("Could not import plugin '" ++ name ++ "': " ++ missingModule s name))
  | none, some plugin => do
    let said := fun text => { logger := logger, level := .debug, message := "Plugin '" ++ name ++ "' " ++ text : LogRow }
    match plugin.register? with
    | none => do
      Shell.log [said "has no register(registry), relying on import-time registration"]
      return registry
    | some register => do
      let (registry, rows) ← Shell.orEscape (register registry)
      Shell.log (rows ++ [said "registered its rules"])
      return registry

/-- Load plugins, each once. -/
def loadPlugins (s : Surroundings) (names : List String) : Shell Registry :=
  names.eraseDups.foldlM s.loadPlugin {}

/-! ### Running a workflow -/

/-- The flow object in a file, which is null if there is no file. -/
def readFlow (s : Surroundings) (path : Option String) : Shell Value := do
  match path.map FilePath.normalized with
  | none => return .null
  | some path =>
    match FlowFile.read path ((s.contentAt? path).getD .directory) with
    | .ok v => return v
    | .error f => do
      let what := " flow object " ++ path ++ ": " ++ f.message
      Shell.log [{ logger := logger, level := .error, message := "Error during reading" ++ what }]
      Shell.print s.render ("[red]Error: could not read" ++ what ++ "[/]")
      Shell.finish 1

def readState (entries : List String) : Shell (List (String × Value)) :=
  match StateEntry.readAll entries with
  | .ok state => return state
  | .error (.malformed entry) => throw (.noCommand (.wrong (some .run) (.malformedEntry entry)))
  | .error (.unreadable f) => throw (.escaped f)

/-- Print the values that a run has left behind, in the order of their keys. -/
def printOutput (s : Surroundings) (output : List (String × Value)) : Shell Unit := do
  if output.isEmpty then return
  let rows ← (output.mergeSort fun a b => decide (a.1 ≤ b.1)).mapM fun e => do
    return [e.1, ← Shell.orEscape e.2.display]
  Shell.printTable s.render (some "Output values") ["Key", "Value"] rows

/-- Print the errors of a run, each with its number. -/
def printErrors (s : Surroundings) (errors : List String) : Shell Unit :=
  Shell.printTable s.render (some "Errors") ["#", "Error"] (errors.zipIdx.map fun e => [toString (e.2 + 1), e.1])

def run (s : Surroundings) (settings : Settings) (r : RunRequest) : Shell Unit := do
  let registry ← s.loadPlugins (settings.plugins ++ r.plugins)
  let state ← readState r.state
  let flow ← s.readFlow r.flowObject
  let services : Services :=
    { registry := registry, repository := some (s.definitions settings.workflowsDirectory), construct := s.construct }
  Shell.print s.render ("[bold]Running workflow: " ++ r.workflow ++ "[/] [dim](execution " ++
    LogLine.shortExecution s.executionId ++ ")[/]")
  let start := Pipeline.start services flow state s.executionId "pipeline" none
  let (result, after) := start.act (Run.runNamed (Run.setting services settings.keepsDefinitions false) r.workflow)
  Shell.log after.world.rows
  s.printOutput result.output
  if result.succeeded then Shell.print s.render "[green]✓ Workflow completed successfully[/]"
  else do
    s.printErrors result.errors
    Shell.print s.render "[red]✗ Workflow failed[/]"
    Shell.finish 1

/-! ### Checking and listing -/

def check (s : Surroundings) (settings : Settings) (workflow : String) (plugins : List String) : Shell Unit := do
  let registry ← s.loadPlugins (settings.plugins ++ plugins)
  let found ← Shell.orEscape (reviewWorkflow registry (s.definitions settings.workflowsDirectory) {} workflow)
  let review := found.getD {}
  Shell.log review.rows
  if review.defects.isEmpty then Shell.print s.render ("[green]✓ " ++ workflow ++ " is valid[/]")
  else do
    Shell.printTable s.render (some ("Problems in " ++ workflow)) ["Workflow", "Step", "Problem"]
      (review.defects.map fun d => [d.workflow, d.step, d.problem])
    Shell.finish 1

/-- How many steps a definition has, as it is shown; of one that cannot be read the fault is explained. -/
def stepCount (s : Surroundings) (repository : Repository) (name : String) : Shell String := do
  let text ← Shell.orEscape (repository.find name)
  match Definition.read (text.getD "") with
  | .ok none => return "0"
  | .ok (some w) => return toString w.steps.length
  | .error f =>
    if f.isEngineFault then do
      Shell.print s.render ((Guidance.ofFault f).format f.message)
      return "[red]invalid[/]"
    else throw (.escaped f)

def list (s : Surroundings) (settings : Settings) : Shell Unit := do
  let repository := s.definitions settings.workflowsDirectory
  if repository.names.isEmpty then
    Shell.print s.render ("[yellow]No workflows found in " ++ settings.workflowsDirectory ++ "[/]")
  else do
    let rows ← repository.names.mapM fun name => do return [name, ← s.stepCount repository name]
    Shell.printTable s.render none ["Workflow", "Steps"] rows

/-! ### Command lines -/

def perform (s : Surroundings) (settings : Settings) : Command → Shell Unit
  | .run r => s.run settings r
  | .check workflow plugins => s.check settings workflow plugins
  | .list => s.list settings

/-- Go on with what was read, show the help that is asked for, or end. -/
def orExplain {α : Type} : Except NoCommand α → Shell α
  | .ok a => pure a
  | .error (.helpWanted command) => do
    Shell.put (.text (Help.page command))
    Shell.finish 0
  | .error why => throw (.noCommand why)

/-- Do what a command line says. -/
def obey (s : Surroundings) (args : List String) : Shell Unit := do
  let (general, words) ← orExplain (Invocation.readGeneral args)
  let (name, words) ← orExplain (Invocation.readName words)
  let settings ← s.settings general
  let command ← orExplain (Invocation.readCommand s.kind name words)
  s.perform settings command

/-- The paths that a command line may look at, as far as they can be told from the files that are known. -/
def inputs (s : Surroundings) (args : List String) : List String :=
  match Invocation.readGeneral args with
  | .error _ => []
  | .ok (general, words) =>
    let flow :=
      match Invocation.readName words with
      | .error _ => none
      | .ok (name, words) =>
        match Invocation.readCommand (fun _ => .file) name words with
        | .ok (.run r) => r.flowObject
        | _ => none
    let directories :=
      match (s.settings general).run {} with
      | (.ok settings, _) => [settings.workflowsDirectory, settings.log.directory]
      | _ => []
    general.config :: flow.toList ++ directories

/-- What a command line leaves behind. -/
def report (s : Surroundings) (args : List String) : Report := (s.obey args).report

end Surroundings
end FlowRules
