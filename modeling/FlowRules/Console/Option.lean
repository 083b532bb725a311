import FlowRules.Text.Quoted
import FlowRules.Text.Resemblance

/-!
# Options on a command line

An option is written with its long name or its letter.  Its value follows as the next word, behind an equals sign
after the long name, or right behind the letter; letters of options without a value can share a word.  Two hyphens
end the options.
-/

namespace FlowRules

/-- The names of an option, what its value is called if it has one, and what it is for. -/
structure OptionForm where
  long : String
  letter : Option Char := none
  value? : Option String
  purpose : String
  deriving DecidableEq, Repr

namespace OptionForm

def hasValue (f : OptionForm) : Bool := f.value?.isSome

/-- How an option is written. -/
def usage (f : OptionForm) : String :=
  (match f.letter with
    | none => ""
    | some c => String.ofList ['-', c, ',', ' ']) ++ f.long ++
    match f.value? with
    | none => ""
    | some v => " " ++ v

end OptionForm

/-- What can be wrong with the words of a command line as options. -/
inductive OptionFault where
  | unknown (name : String) (similar : List String)
  | needsValue (name : String)
  | takesNoValue (name : String)
  deriving DecidableEq, Repr

namespace OptionFault

private def suggestion : List String → String
  | [] => ""
  | [one] => " Did you mean " ++ one ++ "?"
  | several => " (Possible options: " ++ ", ".intercalate several ++ ")"

def message : OptionFault → String
  | unknown name similar => "No such option: " ++ name ++ suggestion similar
  | needsValue name => "Option " ++ Text.quoted name ++ " requires an argument."
  | takesNoValue name => "Option " ++ Text.quoted name ++ " does not take a value."

end OptionFault

/-- An option that is given, by its long name, and its value, which is empty if it has none. -/
structure GivenOption where
  name : String
  value : String := ""
  deriving DecidableEq, Repr

/-- The options and the other words of a command line. -/
structure GivenWords where
  options : List GivenOption := []
  words : List String := []
  deriving DecidableEq, Repr

namespace GivenWords

/-- All values of an option, in order. -/
def values (g : GivenWords) (name : String) : List String :=
  (g.options.filter fun o => o.name = name).map GivenOption.value

/-- The value of an option that counts: the last one. -/
def value? (g : GivenWords) (name : String) : Option String := (g.values name).getLast?

def has (g : GivenWords) (name : String) : Bool := g.options.any fun o => o.name = name

def cons (o : List GivenOption) (g : GivenWords) : GivenWords := { g with options := o ++ g.options }

end GivenWords

namespace OptionForm

/-- What one word says: options, and the name of one whose value is the next word, as it is written and in full. -/
abbrev Reading := List GivenOption × Option (String × String)

def isWord (arg : String) : Bool := Text.startsWith arg "-" && arg ≠ "-"

/-- Read the letters of a word. -/
def readLetters (forms : List OptionForm) : List Char → Except OptionFault Reading
  | [] => .ok ([], none)
  | c :: cs =>
    match forms.find? fun f => f.letter = some c with
    | none => .error (.unknown (String.ofList ['-', c]) [])
    | some f =>
      if f.hasValue then
        if cs.isEmpty then .ok ([], some (String.ofList ['-', c], f.long))
        else .ok ([⟨f.long, String.ofList cs⟩], none)
      else (readLetters forms cs).map fun (more, next) => (⟨f.long, ""⟩ :: more, next)

/-- Read a word that begins with a hyphen. -/
def readWord (forms : List OptionForm) (arg : String) : Except OptionFault Reading :=
  let (name, attached) :=
    match Text.cutAt? '=' arg with
    | none => (arg, none)
    | some (name, v) => (name, some v)
  match forms.find? fun f => f.long = name, attached with
  | some f, none => if f.hasValue then .ok ([], some (name, f.long)) else .ok ([⟨f.long, ""⟩], none)
  | some f, some v => if f.hasValue then .ok ([⟨f.long, v⟩], none) else .error (.takesNoValue name)
  | none, _ =>
    if Text.startsWith arg "--" then .error (.unknown name (Text.resembling name (forms.map OptionForm.long)))
    else readLetters forms (arg.toList.drop 1)

/-- Read a command line.  Options can stand behind other words only if they may be `mixed`. -/
def readAll (forms : List OptionForm) (mixed : Bool) : List String → Except OptionFault GivenWords
  | [] => .ok {}
  | arg :: rest =>
    if arg = "--" then .ok { words := rest }
    else if isWord arg then
      match readWord forms arg with
      | .error f => .error f
      | .ok (options, none) => (readAll forms mixed rest).map (GivenWords.cons options)
      | .ok (options, some (written, name)) =>
        match rest with
        | [] => .error (.needsValue written)
        | v :: rest => (readAll forms mixed rest).map (GivenWords.cons (options ++ [⟨name, v⟩]))
    else if mixed then (readAll forms mixed rest).map fun g => { g with words := arg :: g.words }
    else .ok { words := arg :: rest }

end OptionForm
end FlowRules
