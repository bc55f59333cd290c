/-!
# Switches of the command line

What can be switched on or set by an argument that begins with a hyphen, and
which of the switches each command knows.
-/

namespace CellGrading.CommandLine

inductive Switch where
  | verbose
  | help
  | version
  | expected
  | actual
  | symbol
  | format
  deriving DecidableEq, Repr

namespace Switch

def letter : Switch → Char
  | .verbose => 'v'
  | .help => 'h'
  | .version => 'V'
  | .expected => 'e'
  | .actual => 'a'
  | .symbol => 's'
  | .format => 'f'

def word : Switch → String
  | .verbose => "verbose"
  | .help => "help"
  | .version => "version"
  | .expected => "expected"
  | .actual => "actual"
  | .symbol => "symbol"
  | .format => "format"

def takesValue : Switch → Bool
  | .verbose | .help | .version => false
  | .expected | .actual | .symbol | .format => true

/-- Whether the argument behind a switch is its value even if it begins with a
hyphen. -/
def takesHyphen : Switch → Bool
  | .expected | .actual => true
  | _ => false

/-- Whether nothing behind a switch is looked at. -/
def endsReading : Switch → Bool
  | .help | .version => true
  | _ => false

end Switch

/-! ## Commands by name -/

inductive Verb where
  | check
  | classify
  | run
  deriving DecidableEq, Repr

namespace Verb

def all : List Verb := [.check, .classify, .run]

def name : Verb → String
  | .check => "check"
  | .classify => "classify"
  | .run => "run"

def ofName? (name : String) : Option Verb := all.find? fun verb => verb.name == name

def switches : Verb → List Switch
  | .check => [.verbose, .help, .expected, .actual, .symbol, .format]
  | .classify => [.verbose, .help]
  | .run => [.verbose, .help, .format]

def operand? : Verb → Option String
  | .check => none
  | .classify => some "SPEC"
  | .run => some "FILE"

end Verb

def generalSwitches : List Switch := [.verbose, .help, .version]

end CellGrading.CommandLine
