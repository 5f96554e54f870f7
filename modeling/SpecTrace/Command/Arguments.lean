import SpecTrace.Command.Command

/-! Command lines: options with values, operands, and the commands they spell. -/

namespace SpecTrace

/-- An option; each takes a value. -/
inductive OptionName where
  | logLevel
  | root
  | pattern
  | output
  | mapping
  | report
  | format
deriving DecidableEq, Repr

namespace OptionName

/-- The name behind two dashes. -/
def long : OptionName → String
  | logLevel => "log-level"
  | root => "root"
  | pattern => "pattern"
  | output => "output"
  | mapping => "mapping"
  | report => "report"
  | format => "format"

/-- The letter behind one dash. -/
def short? : OptionName → Option Char
  | output => some 'o'
  | _ => none

/-- The option may be given any number of times. -/
def isRepeatable (name : OptionName) : Bool :=
  name = pattern

/-- The value of the option can be any text; paths are never empty, and formats have names. -/
def allows (name : OptionName) (value : String) : Bool :=
  match name with
  | logLevel => true
  | pattern => true
  | format => ["text", "json", "sarif"].contains value
  | _ => value ≠ ""

end OptionName

/-- Why a command line is refused. -/
inductive UsageFault where
  | unknownOption (text : String)
  | missingValue (option : OptionName)
  | invalidValue (option : OptionName) (value : String)
  | repeatedOption (option : OptionName)
  | missingOption (option : OptionName)
  | missingFile
  | emptyFile
  | unexpectedOperand (text : String)
  | missingCommand
  | unknownCommand (text : String)
deriving DecidableEq, Repr

/-- The wording of a fault. -/
def UsageFault.message : UsageFault → String
  | .unknownOption text => "unexpected argument '" ++ text ++ "'"
  | .missingValue option => "a value is required for '--" ++ option.long ++ "'"
  | .invalidValue option value =>
    "invalid value '" ++ value ++ "' for '--" ++ option.long ++ "'"
  | .repeatedOption option => "'--" ++ option.long ++ "' cannot be used multiple times"
  | .missingOption option => "'--" ++ option.long ++ "' is required"
  | .missingFile => "a file is required"
  | .emptyFile => "the name of a file cannot be empty"
  | .unexpectedOperand text => "unexpected argument '" ++ text ++ "'"
  | .missingCommand => "a command is required"
  | .unknownCommand text => "unrecognized command '" ++ text ++ "'"

/-- What an argument is by its form. -/
inductive ArgumentForm where
  | operand
  | endOfOptions
  | help
  /-- An option whose value is the next argument. -/
  | option (name : OptionName)
  /-- An option with its value. -/
  | valued (name : OptionName) (value : String)
  | unknown
deriving DecidableEq, Repr

/-- The argument starts with a dash and is more than one. -/
def isDashed (argument : String) : Bool :=
  argument.toList.head? = some '-' && argument ≠ "-"

/-- The form of a long option, its dashes taken away. -/
def longForm (known : List OptionName) (text : List Char) : ArgumentForm :=
  let name := text.takeWhile (· ≠ '=')
  match known.find? fun option => option.long.toList = name, text.dropWhile (· ≠ '=') with
  | some option, [] => .option option
  | some option, _ :: value => .valued option (String.ofList value)
  | none, _ => if text = "help".toList then .help else .unknown

/-- The form of a short option, its dash taken away. -/
def shortForm (known : List OptionName) : List Char → ArgumentForm
  | [] => .operand
  | letter :: attached =>
    match known.find? fun option => option.short? = some letter, attached with
    | some option, [] => .option option
    | some option, '=' :: value => .valued option (String.ofList value)
    | some option, value => .valued option (String.ofList value)
    | none, _ => if letter = 'h' then .help else .unknown

/-- The form of an argument where some options are known. -/
def argumentForm (known : List OptionName) (argument : String) : ArgumentForm :=
  match argument.toList with
  | ['-', '-'] => .endOfOptions
  | '-' :: '-' :: text => longForm known text
  | '-' :: text => shortForm known text
  | _ => .operand

/-- What a command line says, piece by piece. -/
inductive ArgumentItem where
  | option (name : OptionName) (value : String)
  | operand (text : String)
  | help
deriving DecidableEq, Repr

/-- Reads options and operands. A request for help ends the reading. -/
def readItems (known : List OptionName) :
    (operandsOnly : Bool) → List String → Except UsageFault (List ArgumentItem)
  | _, [] => .ok []
  | true, argument :: rest => do .ok (.operand argument :: (← readItems known true rest))
  | false, argument :: rest =>
    match argumentForm known argument with
    | .operand => do .ok (.operand argument :: (← readItems known false rest))
    | .endOfOptions => readItems known true rest
    | .help => .ok [.help]
    | .unknown => .error (.unknownOption argument)
    | .valued name value => do .ok (.option name value :: (← readItems known false rest))
    | .option name =>
      match rest with
      | [] => .error (.missingValue name)
      | value :: rest =>
        if isDashed value then .error (.missingValue name)
        else do .ok (.option name value :: (← readItems known false rest))

/-- The values of an option among items. -/
def valuesOf (name : OptionName) (items : List ArgumentItem) : List String :=
  items.filterMap fun
    | .option other value => if other = name then some value else none
    | _ => none

/-- The operands among items. -/
def operandsOf (items : List ArgumentItem) : List String :=
  items.filterMap fun
    | .operand text => some text
    | _ => none

/-- Values are allowed, and no option is repeated that cannot be. -/
def checkOptions (items : List ArgumentItem) : List OptionName → Except UsageFault Unit
  | [] => .ok ()
  | name :: rest =>
    let values := valuesOf name items
    match values.find? fun value => !name.allows value with
    | some value => .error (.invalidValue name value)
    | none =>
      if 1 < values.length && !name.isRepeatable then .error (.repeatedOption name)
      else checkOptions items rest

/-- Operands beyond the ones that a command takes, and empty ones, are refused. -/
def checkOperands (taken : Nat) (operands : List String) : Except UsageFault Unit :=
  match operands[taken]? with
  | some extra => .error (.unexpectedOperand extra)
  | none => if operands.contains "" then .error .emptyFile else .ok ()

/-- The format of a name. -/
def issueFormatOfName : Option String → IssueFormat
  | some "json" => .json
  | some "sarif" => .sarif
  | _ => .text

/-- What a command line asks for. -/
inductive Invocation where
  | run (command : Command)
  | help
  | version
deriving DecidableEq, Repr

namespace Invocation

/-- The command that takes a file of its own accord. -/
def requiredFile (items : List ArgumentItem) : Except UsageFault String :=
  match operandsOf items with
  | file :: _ => .ok file
  | [] => .error .missingFile

/-- Reads the arguments of a command with known options and a number of operands, and makes a
command of them unless they ask for help. -/
def ofArguments (known : List OptionName) (taken : Nat) (arguments : List String)
    (make : List ArgumentItem → Except UsageFault Command) : Except UsageFault Invocation := do
  let known := OptionName.logLevel :: known
  let items ← readItems known false arguments
  checkOptions items known
  checkOperands taken (operandsOf items)
  if items.contains .help then .ok .help else .ok (.run (← make items))

/-- The root that options and the environment give. -/
def rootOf (rootVariable : Option String) (items : List ArgumentItem) :
    Except UsageFault String :=
  match (valuesOf .root items).head?, rootVariable with
  | some root, _ => .ok root
  | none, some root =>
    if OptionName.root.allows root then .ok root else .error (.invalidValue .root root)
  | none, none => .ok "."

/-- Reads the arguments behind the name of a command. -/
def ofCommand (rootVariable : Option String) (name : String) (arguments : List String) :
    Except UsageFault Invocation :=
  match name with
  | "discover" =>
    ofArguments [.root, .pattern] 0 arguments fun items => do
      .ok (.discover (← rootOf rootVariable items) (valuesOf .pattern items))
  | "bundle" =>
    ofArguments [.output, .mapping] 1 arguments fun items => do
      .ok (.bundle (← requiredFile items) (valuesOf .output items).head?
        (valuesOf .mapping items).head?)
  | "locate" =>
    ofArguments [.report, .format, .output] 1 arguments fun items => do
      match valuesOf .report items with
      | [] => .error (.missingOption .report)
      | report :: _ =>
        .ok (.locate (← requiredFile items) report
          (issueFormatOfName (valuesOf .format items).head?) (valuesOf .output items).head?)
  | "help" => .ok .help
  | _ => .error (.unknownCommand name)

/-- Reads a command line. `rootVariable` is what the environment gives for the root directory. In
front of the command only the log level may be given, once. -/
def parse (rootVariable : Option String) : (leveled : Bool) → List String →
    Except UsageFault Invocation
  | _, [] => .error .missingCommand
  | leveled, argument :: rest =>
    if argument = "--version" ∨ argument = "-V" then .ok .version
    else
      match argumentForm [.logLevel] argument with
      | .operand => ofCommand rootVariable argument rest
      | .help => .ok .help
      | .valued name _ =>
        if leveled then .error (.repeatedOption name) else parse rootVariable true rest
      | .option name =>
        match rest with
        | [] => .error (.missingValue name)
        | value :: rest =>
          if isDashed value then .error (.missingValue name)
          else if leveled then .error (.repeatedOption name)
          else parse rootVariable true rest
      | _ => .error (.unknownOption argument)

end Invocation

end SpecTrace
