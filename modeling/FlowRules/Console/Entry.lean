import FlowRules.Settings.Basic
import FlowRules.Store.Files
import FlowRules.Yaml.Value

/-!
# What a command is given to work on

An entry of the state is written as a key, an equals sign and a value in YAML; of several entries of one key the
last counts.  A flow object is read from a file, in YAML or in JSON by the ending of its name.
-/

namespace FlowRules

/-- Why entries of the state cannot be read. -/
inductive EntryFault where
  | malformed (entry : String)
  | unreadable (f : Fault)
  deriving DecidableEq, Repr

namespace StateEntry

/-- The key and the written value of an entry. -/
def cut? (entry : String) : Option (String × String) := do
  let (key, written) ← Text.cutAt? '=' entry
  if Text.isBlankText key then none else some (Text.trim key, written)

/-- The value that is written; where nothing is written it is the empty text. -/
def value (written : String) : Except Fault Value :=
  if Text.isBlankText written then .ok (.text "") else Yaml.read written

def read (entry : String) : Except EntryFault (String × Value) :=
  match cut? entry with
  | none => .error (.malformed entry)
  | some (key, written) =>
    match value written with
    | .ok v => .ok (key, v)
    | .error f => .error (.unreadable f)

/-- The state that some entries make. -/
def readAll (entries : List String) : Except EntryFault (List (String × Value)) :=
  entries.foldlM (fun state entry => (read entry).map fun e => setEntry e.1 e.2 state) []

end StateEntry

namespace FlowFile

/-- The ending of the name of a file, with its point, in small letters. -/
def ending (path : String) : String :=
  let reversed := (((FilePath.parts path).getLast?).getD "").toList.reverse
  let suffix := reversed.takeWhile (· ≠ '.')
  if suffix.isEmpty || reversed.length < suffix.length + 2 then ""
  else Text.lower (String.ofList ('.' :: suffix.reverse))

def isYaml (path : String) : Bool := ending path = ".yaml" || ending path = ".yml"

/-- The flow object in a file. -/
def read (path : String) (content : FileContent) : Except Fault Value := do
  let text ← FileTree.contentText content
  if isYaml path then Yaml.read text
  else
    match Json.read text with
    | .ok j => .ok j.toValue
    | .error f => .error (.value (.json f))

end FlowFile
end FlowRules
