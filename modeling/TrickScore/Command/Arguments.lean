import TrickScore.Decimal.Places
import TrickScore.Report.Format
import TrickScore.Text.Split

/-!
# Command line arguments

The arguments of one level of the command line, read from the left by the flags and settings that
the level knows. A setting takes its value from the same argument, behind an equals sign, or from
the next one, which must not look like an option. Nothing may be given twice, no value may be one
that its setting does not take, and behind a lone `--` everything is positional. The first argument
that does not fit, or that asks for help, ends the reading.

Model of the reader of arguments behind the commands; what it says about arguments that do not fit
is left out.
-/

namespace TrickScore.Command

/-! ## What may be given -/

/-- An option without a value. -/
inductive Flag where
  | debug
  | hasHeaders
  deriving DecidableEq

/-- An option with a value. -/
inductive Setting where
  | format
  | precision
  | delimiter
  | column
  | file
  deriving DecidableEq

/-- The long name of a flag. -/
def Flag.name : Flag → String
  | .debug => "debug"
  | .hasHeaders => "has-headers"

/-- The long name of a setting. -/
def Setting.name : Setting → String
  | .format => "format"
  | .precision => "precision"
  | .delimiter => "delimiter"
  | .column => "column"
  | .file => "file"

/-- The letter of a setting that has one. -/
def Setting.letter? : Setting → Option Char
  | .file => some 'f'
  | _ => none

/-- A count as it is written in an argument: decimal digits behind an optional plus sign, below `2 ^
64`. -/
def readCount? (written : String) : Option Nat :=
  let digits :=
    match written.toList with
    | '+' :: digits => digits
    | digits => digits
  if digits ≠ [] ∧ digits.all Char.isDigit = true ∧ Decimal.ofDigits digits < 2 ^ 64 then
    some (Decimal.ofDigits digits)
  else
    none

/-- A setting takes a value: the name of a format, a count, or any text. -/
def Setting.takes : Setting → String → Bool
  | .format, value => (OutputFormat.ofName? value).isSome
  | .precision, value | .column, value => (readCount? value).isSome
  | .delimiter, _ | .file, _ => true

/-- What may be given at one level of the command line. -/
structure Grammar where
  flags : List Flag
  settings : List Setting
  /-- Whether the level tells the version. -/
  hasVersion : Bool
  /-- How many positional arguments there may be, if that is limited. -/
  mostPositionals : Option Nat

/-- Why a command line is not carried out. -/
inductive Stop where
  /-- It asks for help. -/
  | help
  /-- It asks for the version. -/
  | version
  /-- It does not fit. -/
  | misuse
  deriving DecidableEq

/-! ## One argument -/

/-- What an argument is. -/
inductive Word where
  | positional
  | endOfOptions
  | flag (flag : Flag)
  | setting (setting : Setting) (attached : Option String)
  | stop (reason : Stop)
  deriving DecidableEq

/-- An argument looks like an option: it begins with a hyphen and is not one. -/
def looksLikeOption (arg : String) : Bool :=
  match arg.toList with
  | '-' :: _ :: _ => true
  | _ => false

/-- A long option, by its name and the value attached to it. -/
def Grammar.long (grammar : Grammar) (name : String) (attached : Option String) : Word :=
  match grammar.settings.find? fun setting => setting.name = name with
  | some setting => .setting setting attached
  | none =>
    if attached.isSome then .stop .misuse
    else
      match grammar.flags.find? fun flag => flag.name = name with
      | some flag => .flag flag
      | none =>
        if name = "help" then .stop .help
        else if name = "version" && grammar.hasVersion then .stop .version
        else .stop .misuse

/-- A short option, by its letter and the characters behind it. An equals sign before a value is
dropped. -/
def Grammar.short (grammar : Grammar) (letter : Char) (behind : List Char) : Word :=
  match grammar.settings.find? fun setting => setting.letter? = some letter with
  | some setting =>
    match behind with
    | [] => .setting setting none
    | '=' :: value => .setting setting (some (String.ofList value))
    | value => .setting setting (some (String.ofList value))
  | none =>
    if letter = 'h' then .stop .help
    else if letter = 'V' && grammar.hasVersion then .stop .version
    else .stop .misuse

/-- What an argument is, where options are still read. -/
def Grammar.word (grammar : Grammar) (arg : String) : Word :=
  match arg.toList with
  | ['-', '-'] => .endOfOptions
  | '-' :: '-' :: long =>
    match Text.split '=' long with
    | [] => .stop .misuse
    | [name] => grammar.long (String.ofList name) none
    | name :: value =>
      grammar.long (String.ofList name) (some (String.ofList (Text.join '=' value)))
  | '-' :: letter :: behind => grammar.short letter behind
  | _ => .positional

/-! ## All arguments -/

/-- The arguments that were read. -/
structure Arguments where
  flags : List Flag
  settings : List (Setting × String)
  positionals : List String
  deriving DecidableEq

namespace Arguments

/-- No arguments. -/
def none : Arguments :=
  ⟨[], [], []⟩

/-- A flag was given. -/
def has (args : Arguments) (flag : Flag) : Bool :=
  args.flags.contains flag

/-- The value of a setting that was given. -/
def value? (args : Arguments) (setting : Setting) : Option String :=
  args.settings.lookup setting

/-- One flag more, if it was not given before. -/
def addFlag (args : Arguments) (flag : Flag) : Except Stop Arguments :=
  if args.has flag then .error .misuse
  else .ok { args with flags := args.flags ++ [flag] }

/-- One setting more, if it was not given before and takes the value. -/
def addSetting (args : Arguments) (setting : Setting) (value : String) : Except Stop Arguments :=
  if (args.value? setting).isSome || !setting.takes value then .error .misuse
  else .ok { args with settings := args.settings ++ [(setting, value)] }

/-- More positional arguments, if there are then not more than `most`. -/
def addPositionals (args : Arguments) (most : Option Nat) (values : List String) :
    Except Stop Arguments :=
  let positionals := args.positionals ++ values
  if most.any (· < positionals.length) then .error .misuse
  else .ok { args with positionals := positionals }

end Arguments

/-- Reads arguments behind those already read. `waiting` is a setting whose value is the next
argument. -/
def Grammar.readFrom (grammar : Grammar) (read : Arguments) (waiting : Option Setting) :
    List String → Except Stop Arguments
  | [] => if waiting.isSome then .error .misuse else .ok read
  | arg :: args =>
    match waiting with
    | some setting =>
      if looksLikeOption arg then .error .misuse
      else do
        let read ← read.addSetting setting arg
        grammar.readFrom read none args
    | none =>
      match grammar.word arg with
      | .positional => do
        let read ← read.addPositionals grammar.mostPositionals [arg]
        grammar.readFrom read none args
      | .endOfOptions => read.addPositionals grammar.mostPositionals args
      | .flag flag => do
        let read ← read.addFlag flag
        grammar.readFrom read none args
      | .setting setting (some value) => do
        let read ← read.addSetting setting value
        grammar.readFrom read none args
      | .setting setting none => grammar.readFrom read (some setting) args
      | .stop reason => .error reason

/-- Reads all arguments of a level. -/
def Grammar.read (grammar : Grammar) (args : List String) : Except Stop Arguments :=
  grammar.readFrom .none none args

end TrickScore.Command
