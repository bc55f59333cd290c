import CellGrading.CommandLine.Switch

/-!
# Arguments of the command line

The arguments name one command with its settings.  Each argument is a divider, an
operand or a row of switches; a switch that takes a value has it in the same
argument or in the next one.
-/

namespace CellGrading.CommandLine

inductive OutputFormat where
  | text
  | html
  | json
  deriving DecidableEq, Repr

namespace OutputFormat

def all : List OutputFormat := [.text, .html, .json]

def name : OutputFormat → String
  | .text => "text"
  | .html => "html"
  | .json => "json"

def ofName? (name : String) : Option OutputFormat := all.find? fun format => format.name == name

end OutputFormat

inductive Command where
  | check (expected actual : String) (symbols : List String) (format : OutputFormat)
  | classify (spec : String)
  | run (file : String) (format : OutputFormat)
  deriving DecidableEq, Repr

/-! ## Errors -/

inductive Misuse where
  | noCommand
  | unknownCommand (name : String)
  | unknownSwitch (text : String)
  | needlessValue (switch : Switch)
  | noValue (switch : Switch)
  | repeated (switch : Switch)
  | badValue (name value : String)
  | needlessOperand (text : String)
  | missing (name : String)
  deriving DecidableEq, Repr

def Misuse.message : Misuse → String
  | .noCommand => "a command is required: check, classify or run"
  | .unknownCommand name => "unknown command '" ++ name ++ "'"
  | .unknownSwitch text => "unexpected argument '" ++ text ++ "'"
  | .needlessValue switch => "--" ++ switch.word ++ " takes no value"
  | .noValue switch => "--" ++ switch.word ++ " needs a value"
  | .repeated switch => "--" ++ switch.word ++ " may be given only once"
  | .badValue name value => "invalid value '" ++ value ++ "' for " ++ name
  | .needlessOperand text => "unexpected argument '" ++ text ++ "'"
  | .missing name => name ++ " is required"

inductive Stop where
  | help
  | version
  | misuse (fault : Misuse)
  deriving DecidableEq, Repr

def refuse {α : Type} (fault : Misuse) : Except Stop α := .error (.misuse fault)

/-! ## Single arguments -/

inductive Argument where
  /-- All arguments behind it are operands. -/
  | divider
  | operand (text : String)
  | switches (given : List (Switch × Option String))
  deriving DecidableEq, Repr

/-- The value behind the letter of a switch; an equals sign may lead to it. -/
def attachedValue? : List Char → Option String
  | [] => none
  | '=' :: value => some (.ofList value)
  | value => some (.ofList value)

def readLetters (known : List Switch) : List Char → Except Stop (List (Switch × Option String))
  | [] => .ok []
  | letter :: rest =>
      match known.find? fun switch => switch.letter == letter with
      | none => refuse (.unknownSwitch (.ofList ['-', letter]))
      | some switch =>
          if switch.takesValue then .ok [(switch, attachedValue? rest)]
          else if switch.endsReading then .ok [(switch, none)]
          else do return (switch, none) :: (← readLetters known rest)

def readWord (known : List Switch) (text : List Char) : Except Stop (Option (Switch × Option String)) :=
  let value := match text.dropWhile (· ≠ '=') with
    | [] => none
    | _ :: value => some (String.ofList value)
  match known.find? fun switch => switch.word.toList == text.takeWhile (· ≠ '=') with
  | none => .ok none
  | some switch =>
      if value.isSome && !switch.takesValue then refuse (.needlessValue switch)
      else .ok (some (switch, value))

/-- Takes an argument apart.  What holds no known switch is an operand, if an
operand may begin with a hyphen. -/
def Argument.read (known : List Switch) (hyphenated : Bool) (argument : String) :
    Except Stop Argument :=
  match argument.toList with
  | ['-', '-'] => .ok .divider
  | '-' :: '-' :: text => do
      match ← readWord known text with
      | some given => return .switches [given]
      | none => if hyphenated then return .operand argument else refuse (.unknownSwitch argument)
  | '-' :: letter :: rest =>
      let isKnown (letter : Char) := known.any fun switch => switch.letter == letter
      if hyphenated && !(letter :: rest).all isKnown then .ok (.operand argument)
      else (readLetters known (letter :: rest)).map .switches
  | _ => .ok (.operand argument)

/-- Whether an argument looks like switches or a divider; a single hyphen does not. -/
def isHyphenated (argument : String) : Bool :=
  match argument.toList with
  | '-' :: _ :: _ => true
  | _ => false

/-! ## Settings -/

structure Settings where
  operand : Option String := none
  expected : Option String := none
  actual : Option String := none
  symbols : List String := []
  format : Option OutputFormat := none
deriving DecidableEq, Repr

namespace Settings

def addOperand (verb : Verb) (settings : Settings) (text : String) : Except Stop Settings :=
  if verb.operand?.isSome && settings.operand.isNone then .ok { settings with operand := some text }
  else refuse (.needlessOperand text)

/-- Gives a value to a switch.  Only symbols may be given more than once. -/
def set (settings : Settings) (switch : Switch) (value : String) : Except Stop Settings :=
  match switch with
  | .expected =>
      if settings.expected.isSome then refuse (.repeated switch)
      else .ok { settings with expected := some value }
  | .actual =>
      if settings.actual.isSome then refuse (.repeated switch)
      else .ok { settings with actual := some value }
  | .symbol => .ok { settings with symbols := settings.symbols ++ [value] }
  | .format =>
      if settings.format.isSome then refuse (.repeated switch)
      else
        match OutputFormat.ofName? value with
        | some format => .ok { settings with format := some format }
        | none => refuse (.badValue "--format" value)
  | _ => .ok settings

/-- Takes note of a row of switches.  The result names the switch whose value is
still to come. -/
def apply (settings : Settings) :
    List (Switch × Option String) → Except Stop (Option Switch × Settings)
  | [] => .ok (none, settings)
  | (.help, _) :: _ => .error .help
  | (.version, _) :: _ => .error .version
  | (switch, some value) :: rest => do (← settings.set switch value).apply rest
  | (switch, none) :: rest =>
      if switch.takesValue then .ok (some switch, settings) else settings.apply rest

/-- Reads the arguments behind a verb.  `awaiting` is the switch that takes the
next argument for its value. -/
def read (verb : Verb) : Option Switch → Settings → List String → Except Stop Settings
  | none, settings, [] => .ok settings
  | some switch, _, [] => refuse (.noValue switch)
  | some switch, settings, argument :: rest =>
      if isHyphenated argument && !switch.takesHyphen then refuse (.noValue switch)
      else do read verb none (← settings.set switch argument) rest
  | none, settings, argument :: rest => do
      let hyphenated := verb == .classify && settings.operand.isNone
      match ← Argument.read verb.switches hyphenated argument with
      | .divider => rest.foldlM (addOperand verb) settings
      | .operand text => do read verb none (← settings.addOperand verb text) rest
      | .switches given => do
          let (awaiting, settings) ← settings.apply given
          read verb awaiting settings rest

end Settings

/-! ## Commands -/

def required (name : String) : Option String → Except Stop String
  | some value => .ok value
  | none => refuse (.missing name)

namespace Command

def ofSettings (settings : Settings) : Verb → Except Stop Command
  | .check => do
      let expected ← required "--expected" settings.expected
      let actual ← required "--actual" settings.actual
      return .check expected actual settings.symbols (settings.format.getD .text)
  | .classify => do return .classify (← required "SPEC" settings.operand)
  | .run => do
      let file ← required "FILE" settings.operand
      if file.isEmpty then refuse (.badValue "FILE" file)
      else return .run file (settings.format.getD .text)

def helpOn : List String → Except Stop Command
  | [] => .error .help
  | [name] =>
      if name == "help" || (Verb.ofName? name).isSome then .error .help
      else refuse (.unknownCommand name)
  | _ :: name :: _ => refuse (.unknownCommand name)

def ofArguments : List String → Except Stop Command
  | [] => refuse .noCommand
  | argument :: rest =>
      match Verb.ofName? argument with
      | some verb => do ofSettings (← Settings.read verb none {} rest) verb
      | none =>
          if argument == "help" then helpOn rest
          else do
            match ← Argument.read generalSwitches false argument with
            | .divider => refuse .noCommand
            | .operand text => refuse (.unknownCommand text)
            | .switches given => do
                let _ ← ({} : Settings).apply given
                ofArguments rest

end Command

end CellGrading.CommandLine
