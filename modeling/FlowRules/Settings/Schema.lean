import FlowRules.Json.Reader
import FlowRules.Settings.Basic
import FlowRules.Store.Files
import FlowRules.Workflow.Schema

/-!
# Settings from values

A setting is given by name; what is not given is taken from the environment, and what is not there either has its
default.  Settings of the log that are given are added to those of the environment one by one.  All problems are
reported together, in the order of the settings.
-/

namespace FlowRules

namespace Schema

def wantsTruth : String := "Input should be a valid boolean"
def wantsPlainTruth : String := "Input should be a valid boolean, unable to interpret input"
def wantsUnicode : String := "Input should be a valid string, unable to parse raw data as a unicode string"
def wantsPath : String := "Input is not a valid path for <class 'pathlib.Path'>"
def wantsItems : String := "Input should be a valid list"
def wantsLog : String := "Input should be a valid dictionary or instance of LoggingConfig"

/-- The text of a value, which may also be given as bytes. -/
def textOf : Value → Except String String
  | .text s => .ok s
  | .member _ _ (.text s) => .ok s
  | .bytes bs => (Text.ofUtf8 bs).mapError fun _ => wantsUnicode
  | _ => .error wantsText

/-- The words for truth values. -/
def truthWords : List (String × Bool) :=
  [("0", false), ("off", false), ("f", false), ("false", false), ("n", false), ("no", false), ("1", true),
    ("on", true), ("t", true), ("true", true), ("y", true), ("yes", true)]

/-- The letters of the basic alphabet as small ones. -/
private def basicLower (s : String) : String := String.ofList (s.toList.map Char.toLower)

/-- Only integers of 64 bits are taken for truth values that are out of range. -/
private def truthOfInt (n : Int) : Except String Bool :=
  if n = 0 then .ok false
  else if n = 1 then .ok true
  else if n < -2 ^ 63 ∨ 2 ^ 63 ≤ n then .error wantsTruth
  else .error wantsPlainTruth

/-- The truth value that a value is read as: words and the numbers zero and one are as good. -/
def truthOf : Value → Except String Bool
  | .bool b => .ok b
  | .int n => truthOfInt n
  | .float x =>
    match x.toInt? with
    | some n => truthOfInt n
    | none => .error wantsTruth
  | .text s =>
    match truthWords.lookup (basicLower s) with
    | some b => .ok b
    | none => .error wantsPlainTruth
  | _ => .error wantsTruth

def pathOf (v : Value) : Except String String :=
  match textOf v with
  | .ok s => .ok (FilePath.normalized s)
  | .error _ => .error wantsPath

/-- The items of a value that can be read as a list. -/
def itemsOf? : Value → Option (List Value)
  | .list _ vs | .tuple _ _ vs | .set _ vs | .source _ vs => some vs
  | _ => none

/-- Read a setting of a name. -/
def setting {α : Type} (fields : List (String × Value)) (name : String) (missing : α) (read : Value → Except String α) :
    Reading α :=
  match fields.lookup name with
  | none => ⟨missing, []⟩
  | some v =>
    match read v with
    | .ok a => ⟨a, []⟩
    | .error text => ⟨missing, [⟨[name], text⟩]⟩

/-- The name of a level, in capitals. -/
def levelOf (v : Value) : Except String String := do
  let s ← textOf v
  let level := Text.upper s
  if (LogLevel.all.map LogLevel.name).contains level then .ok level
  else .error ("Value error, level must be a standard logging level name, got '" ++ s ++ "'")

end Schema

/-- The settings of the log with these names. -/
def LogSettings.ofFields (fields : List (String × Value)) : Reading LogSettings :=
  let level := Schema.setting fields "level" "INFO" Schema.levelOf
  let usesFile := Schema.setting fields "use_file" false Schema.truthOf
  let usesRecords := Schema.setting fields "use_json" false Schema.truthOf
  let directory := Schema.setting fields "log_dir" "logs" Schema.pathOf
  { value := ⟨level.value, usesFile.value, usesRecords.value, directory.value⟩
    problems := level.problems ++ usesFile.problems ++ usesRecords.problems ++ directory.problems }

namespace Settings

/-- The fault of settings with problems. -/
def invalid (problems : List SchemaProblem) : Fault :=
  .raised "ValidationError" ("; ".intercalate (problems.map SchemaProblem.message))

/-- The names of the settings. -/
def names : List String := ["workflows_dir", "cache_definitions", "plugins", "log"]

/-- The members of a value whose names are texts. -/
def namedMembers (entries : List (Value × Value)) : List (String × Value) :=
  entries.filterMap fun e =>
    match e.1 with
    | .text s => some (s, e.2)
    | _ => none

/-! ### The environment -/

/-- How settings are looked for in the environment: what the names of their variables begin with, whether the case
of letters in them counts, and whether an empty variable counts. -/
structure VariableSearch where
  start : String := "RULE_PIPELINE_"
  exactCase : Bool := false
  skipsEmpty : Bool := false
  deriving DecidableEq, Repr

namespace VariableSearch

/-- Names that are no settings but say how settings are looked for. -/
def directives : List String :=
  ["_case_sensitive", "_nested_model_default_partial_update", "_env_prefix", "_env_file", "_env_file_encoding",
    "_env_ignore_empty", "_env_nested_delimiter", "_env_nested_max_split", "_env_parse_none_str", "_env_parse_enums",
    "_cli_prog_name", "_cli_parse_args", "_cli_settings_source", "_cli_parse_none_str", "_cli_hide_none_type",
    "_cli_avoid_json", "_cli_enforce_required", "_cli_use_class_docs_for_groups", "_cli_exit_on_error", "_cli_prefix",
    "_cli_flag_prefix_char", "_cli_implicit_flags", "_cli_ignore_unknown_args", "_cli_kebab_case", "_cli_shortcuts",
    "_secrets_dir"]

/-- What the members of some settings say about the search. -/
def ofFields (fields : List (String × Value)) : VariableSearch where
  start :=
    match fields.lookup "_env_prefix" with
    | some (.text s) => s
    | _ => "RULE_PIPELINE_"
  exactCase := ((fields.lookup "_case_sensitive").map Value.truth).getD false
  skipsEmpty := ((fields.lookup "_env_ignore_empty").map Value.truth).getD false

/-- The text of a setting in the environment. -/
def named? (search : VariableSearch) (vars : Variables) (name : String) : Option String :=
  let wanted := search.start ++ name
  (vars.filter fun v =>
    (if search.exactCase then v.1 == wanted else Text.lower v.1 == Text.lower wanted) &&
      !(search.skipsEmpty && v.2.isEmpty)).getLast?.map (·.2)

end VariableSearch

private def unreadable (name : String) : Fault :=
  .raised "SettingsError" ("error parsing value for field \"" ++ name ++ "\" from source \"EnvSettingsSource\"")

/-- A setting of the environment that is written as JSON; null is no setting. -/
def jsonVariable (search : VariableSearch) (vars : Variables) (name : String) : Except Fault (Option Value) :=
  match search.named? vars name with
  | none => .ok none
  | some s =>
    match Json.read s with
    | .ok .null => .ok none
    | .ok j => .ok (some j.toValue)
    | .error .tooDeep => .error (.value (.json .tooDeep))
    | .error _ => .error (unreadable name)

/-- The names of the settings of the log. -/
def logNames : List String := ["level", "use_file", "use_json", "log_dir"]

/-- Members of the log settings under their own names, whatever the case of letters. -/
def foldedNames : Value → Value
  | .dict id entries =>
    .dict id (entries.foldl (fun es e =>
      let key :=
        match e.1 with
        | .text s => Value.text ((logNames.find? (· == Text.lower s)).getD s)
        | k => k
      Value.putEntry key e.2 es) [])
  | v => v

/-- The settings that the environment gives. -/
def ofVariables (search : VariableSearch) (vars : Variables) : Except Fault (List (String × Value)) := do
  let directory := (search.named? vars "workflows_dir").map Value.text
  let keeps := (search.named? vars "cache_definitions").map Value.text
  let plugins ← jsonVariable search vars "plugins"
  let log ← jsonVariable search vars "log"
  let log := log.map fun v => if search.exactCase then v else foldedNames v
  .ok ([("workflows_dir", directory), ("cache_definitions", keeps), ("plugins", plugins),
    ("log", log)].filterMap fun e => e.2.map fun v => (e.1, v))

/-! ### Reading -/

private def readPlugins (fields : List (String × Value)) : Reading (List String) :=
  match fields.lookup "plugins" with
  | none => ⟨[], []⟩
  | some v =>
    match Schema.itemsOf? v with
    | none => ⟨[], [⟨["plugins"], Schema.wantsItems⟩]⟩
    | some items =>
      let read := items.map Schema.textOf
      { value := read.filterMap Except.toOption
        problems := read.zipIdx.filterMap fun e =>
          match e.1 with
          | .ok _ => none
          | .error text => some ⟨["plugins", toString e.2], text⟩ }

private def readLog (fields : List (String × Value)) : Reading LogSettings :=
  match fields.lookup "log" with
  | none => ⟨{}, []⟩
  | some (.dict _ entries) =>
    let read := LogSettings.ofFields (namedMembers entries)
    ⟨read.value, Schema.under ["log"] read.problems⟩
  | some _ => ⟨{}, [⟨["log"], Schema.wantsLog⟩]⟩

/-- The settings that are given by name over those of the environment. -/
def ofFields (vars : Variables) (fields : List (String × Value)) : Except Fault Settings := do
  let outer ← ofVariables (VariableSearch.ofFields fields) vars
  let given := names.filterMap fun name =>
    match outer.lookup name, fields.lookup name with
    | none, none => none
    | some v, none | none, some v => some (name, v)
    | some v, some w => some (name, Value.overlaid v w)
  let directory := Schema.setting given "workflows_dir" "workflows" Schema.pathOf
  let keeps := Schema.setting given "cache_definitions" true Schema.truthOf
  let plugins := readPlugins given
  let log := readLog given
  match directory.problems ++ keeps.problems ++ plugins.problems ++ log.problems with
  | [] =>
    .ok
      { workflowsDirectory := directory.value, keepsDefinitions := keeps.value, plugins := plugins.value,
        log := log.value, extra := fields.filter fun f => !names.contains f.1 && !VariableSearch.directives.contains f.1 }
  | problems => .error (invalid problems)

end Settings
end FlowRules
