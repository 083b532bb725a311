import FlowRules.Console.Invocation
import FlowRules.Console.Page
import FlowRules.Log.Setup
import FlowRules.Settings.Basic

/-!
# Reports

What a command leaves behind: what it has printed, the rows it has logged, and how it has ended.  A command is a
sequence of actions on a screen, each of which can end it.
-/

namespace FlowRules

structure Screen where
  printed : List PageItem := []
  /-- How the log is written, once that is known. -/
  log : Option LogSettings := none
  /-- The rows logged before that, which are not part of the log. -/
  earlyRows : List LogRow := []
  rows : List LogRow := []

/-- How a command ends. -/
inductive Ending where
  | done (status : Nat)
  | noCommand (why : NoCommand)
  | refused (message : String)
  /-- A fault that the command does not handle. -/
  | escaped (f : Fault)

namespace Ending

/-- The exit status. -/
def status : Ending → Nat
  | done n => n
  | noCommand (.helpWanted _) => 0
  | noCommand _ => 2
  | refused _ => 1
  | escaped _ => 1

/-- The line that says what is wrong. -/
def complaint? : Ending → Option String
  | noCommand (.wrong _ f) => some ("Error: " ++ f.message)
  | refused message => some ("Error: " ++ message)
  | _ => none

/-- The fault that is not handled. -/
def fault? : Ending → Option Fault
  | escaped f => some f
  | _ => none

end Ending

structure Report where
  screen : Screen
  ending : Ending

namespace Report

def status (r : Report) : Nat := r.ending.status

/-- The rows that the log takes, by their level. -/
def loggedRows (r : Report) : List LogRow :=
  match r.screen.log with
  | none => []
  | some log =>
    match ({ level := log.level } : LogSetup).rank with
    | .ok rank => r.screen.rows.filter fun row => LogSetup.admits rank row.level
    | .error _ => []

end Report

/-! ### Actions -/

/-- An action of a command, which may end it. -/
abbrev Shell := ExceptT Ending (StateM Screen)

namespace Shell

def finish {α : Type} (status : Nat) : Shell α := throw (.done status)

def orEscape {α : Type} : Except Fault α → Shell α
  | .ok a => pure a
  | .error f => throw (.escaped f)

def log (rows : List LogRow) : Shell Unit := modifyThe Screen fun s => { s with rows := s.rows ++ rows }

def logEarly (rows : List LogRow) : Shell Unit :=
  modifyThe Screen fun s => { s with earlyRows := s.earlyRows ++ rows }

/-- Put an item on the screen as it is. -/
def put (item : PageItem) : Shell Unit := modifyThe Screen fun s => { s with printed := s.printed ++ [item] }

/-- Print a marked-up text. -/
def print (render : Renderer) (markup : String) : Shell Unit := do
  let text ← orEscape (render.text markup)
  put (.text text)

/-- Print a table of marked-up texts. -/
def printTable (render : Renderer) (title : Option String) (columns : List String) (rows : List (List String)) :
    Shell Unit := do
  let table ← orEscape (render.table title columns rows)
  put (.table table)

/-- What a command leaves behind that starts on an empty screen; one that comes to its end has succeeded. -/
def report (s : Shell Unit) : Report :=
  match s.run {} with
  | (.ok (), screen) => ⟨screen, .done 0⟩
  | (.error ending, screen) => ⟨screen, ending⟩

end Shell
end FlowRules
