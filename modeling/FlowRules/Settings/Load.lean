import FlowRules.Settings.Schema
import FlowRules.Settings.Variables
import FlowRules.Yaml.Value

/-!
# Settings from a file

Settings are read from a file and kept as long as the file has the same time stamp.  A directory of workflows that
is not absolute is one below the directory of the file; without a file all settings have their defaults.
-/

namespace FlowRules

/-- A file of settings and when it was changed. -/
structure SettingsFile where
  content : FileContent
  stamp : Int := 0
  deriving DecidableEq, Repr

/-- Settings that were read.  The serial number tells them from others. -/
structure LoadedSettings where
  settings : Settings
  stamp : Int
  serial : Nat

/-- The settings of a file that are kept, and how often settings were read. -/
structure SettingsCache where
  kept : Option LoadedSettings := none
  reads : Nat := 0

namespace Settings

private def badMapping (v : Value) : Fault :=
  .type (.stated ("rule_pipeline.core.config.EngineConfig() argument after ** must be a mapping, not " ++
    v.fullTypeName))

/-- The members that a document gives as settings. -/
def membersOf : Value → Except Fault (List (String × Value))
  | .dict _ entries =>
    let members := namedMembers entries
    if members.length = entries.length then .ok members
    else .error (.type (.stated "keywords must be strings"))
  | v => .error (badMapping v)

/-- A document that says nothing says what an empty one does. -/
def orEmpty (v : Value) : Value := if v.truth then v else .dict none []

/-- The settings that the text of a file gives, and what is reported. -/
def ofText (vars : Variables) (path text : String) : Except Fault Settings × List LogRow :=
  match Yaml.readFrom (.file path) text with
  | .error f => (.error f, [])
  | .ok document =>
    let (expanded, rows) := vars.expandAll (orEmpty document)
    (do
      let members ← membersOf expanded
      let settings ← ofFields vars members
      .ok { settings with workflowsDirectory := FilePath.under (FilePath.parent path) settings.workflowsDirectory }, rows)

/-- The row that reports a missing file of settings. -/
def missingFileRow (path : String) : LogRow :=
  { logger := Variables.logger, level := .warning
    message :=
      "Config file not found: " ++ path ++ ". Using default configuration. To customize settings, create a config " ++
        "file at this path." }

/-- The fault of reading a directory as if it were a file. -/
def directoryFault (path : String) : Fault := .raised "IsADirectoryError" ("[Errno 21] Is a directory: " ++ Text.quoted path)

/-- What came of asking for settings: the serial number, if they come from a file, and what is reported. -/
structure Loading where
  outcome : Except Fault Settings
  serial : Option Nat := none
  rows : List LogRow := []
  cache : SettingsCache

/-- The settings of a file, which is asked for by a path and stands at a place; that is what the path leads to. -/
def load (vars : Variables) (path place : String) (file : Option SettingsFile) (cache : SettingsCache) : Loading :=
  match file with
  | none => { outcome := ofFields vars [], rows := [missingFileRow path], cache := cache }
  | some file =>
    match cache.kept.filter fun k => k.stamp = file.stamp with
    | some kept => { outcome := .ok kept.settings, serial := some kept.serial, cache := cache }
    | none =>
      if file.content = .directory then { outcome := .error (directoryFault place), cache := cache }
      else
        match FileTree.contentText file.content with
        | .error f => { outcome := .error f, cache := cache }
        | .ok text =>
          match ofText vars place text with
          | (.error f, rows) => { outcome := .error f, rows := rows, cache := cache }
          | (.ok settings, rows) =>
            { outcome := .ok settings, serial := some cache.reads, rows := rows
              cache := { kept := some ⟨settings, file.stamp, cache.reads⟩, reads := cache.reads + 1 } }

end Settings
end FlowRules
