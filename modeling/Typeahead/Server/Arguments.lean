import Typeahead.Value.Access

namespace Typeahead.Server

/-! The server's command line. An option may be shortened as long as it is clear which one is meant. -/

structure Arguments where
  host : String := "localhost"
  port : Int := 0
  log : String := "info"
  idleSeconds : Int := 0
  optionsFile : String := ""
  output : Option String := none
  errors : Option String := none
  keepsLogs : Bool := false
  deriving DecidableEq, Repr

namespace Arguments

inductive Flag where
  | help
  | host
  | port
  | log
  | idleSeconds
  | optionsFile
  | output
  | errors
  | keepsLogs
  deriving DecidableEq, Repr

def flags : List (String × Flag) :=
  [("-h", .help), ("--help", .help), ("--host", .host), ("--port", .port), ("--log", .log),
   ("--idle_suicide_seconds", .idleSeconds), ("--options_file", .optionsFile), ("--stdout", .output),
   ("--stderr", .errors), ("--keep_logfiles", .keepsLogs)]

/-- What an argument is by its looks. -/
inductive Token where
  /-- A flag, perhaps with a value behind an equals sign. -/
  | flag (flag : Flag) (value : Option String)
  | plain (text : String)
  | unknown
  deriving DecidableEq, Repr

def isNegativeNumber (text : List Char) : Bool :=
  let isDigit (character : Char) : Bool := (Text.digit? character).isSome
  match text with
  | '-' :: digits =>
    let rest := digits.dropWhile isDigit
    match rest with
    | [] => !digits.isEmpty
    | '.' :: decimals => !decimals.isEmpty && decimals.all isDigit
    | _ => false
  | _ => false

/-- A text up to the first equals sign, and what is behind it. -/
def splitValue (text : String) : String × Option String :=
  let name := text.toList.takeWhile (· != '=')
  match text.toList.drop name.length with
  | [] => (text, none)
  | _ :: value => (String.ofList name, some (String.ofList value))

/-- The flags that a text may be short for. -/
def shortFor (text : String) : List Token :=
  if Text.startsWith text "--" then
    let (name, value) := splitValue text
    (flags.filter fun entry => Text.startsWith entry.1 name).map fun entry => .flag entry.2 value
  else (flags.filter fun entry => entry.1 == Text.take 2 text).map fun entry => .flag entry.2 (some (Text.drop 2 text))

def tokenOf (text : String) : Token :=
  if !Text.startsWith text "-" || text == "-" then .plain text
  else if text == "--" then .unknown
  else
    let (name, value) := splitValue text
    match flags.lookup text, value.bind fun _ => flags.lookup name with
    | some flag, _ => .flag flag none
    | none, some flag => .flag flag value
    | none, none =>
      match shortFor text with
      | [token] => token
      | [] => if isNegativeNumber text.toList || text.toList.contains ' ' then .plain text else .unknown
      | _ => .unknown

/-- Sets what a flag with a value is about. -/
def set? (arguments : Arguments) (flag : Flag) (value : String) : Option Arguments :=
  match flag with
  | .host => some { arguments with host := value }
  | .port => (Value.numeral? value).map fun port => { arguments with port }
  | .log => some { arguments with log := value }
  | .idleSeconds => (Value.numeral? value).map fun idleSeconds => { arguments with idleSeconds }
  | .optionsFile => some { arguments with optionsFile := value }
  | .output => some { arguments with output := some value }
  | .errors => some { arguments with errors := some value }
  | .help | .keepsLogs => none

/-- Reads the tokens of a command line into arguments. -/
def readTokens? (arguments : Arguments) : List Token → Option Arguments
  | [] => some arguments
  | .flag .keepsLogs none :: rest => readTokens? { arguments with keepsLogs := true } rest
  | .flag flag (some value) :: rest => do readTokens? (← arguments.set? flag value) rest
  | .flag flag none :: .plain value :: rest => do readTokens? (← arguments.set? flag value) rest
  | _ => none

/-- The arguments of a command line, if it is one the server takes. -/
def read? (line : List String) : Option Arguments := readTokens? {} (line.map tokenOf)

end Arguments

end Typeahead.Server
