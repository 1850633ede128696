import BpfExporter.Assoc
import BpfExporter.Json

/-! Options on a command line. An option stands by its full name or by a beginning of it that no other
option has; its operand follows as the next argument or after an equals sign. Nothing but options is
taken, and of an option that is repeated the last operand counts. -/
namespace BpfExporter.Command

/-- What an option is followed by. -/
inductive Operand
  | nothing
  | real
  | integer
deriving DecidableEq, Repr

/-- An option: its name with the dashes, what follows it, and what it is for. -/
structure Flag where
  name : String
  operand : Operand
  purpose : String
deriving DecidableEq, Repr

/-- The command line asks for help, or it is malformed. -/
inductive Stop
  | help
  | usage
deriving DecidableEq, Repr

def Stop.exitCode : Stop → Nat
  | .help => 0
  | .usage => 2

/-- Every command has this option, and `-h` for it. -/
def helpFlag : Flag := ⟨"--help", .nothing, "show this help message and exit"⟩

def Flag.form (f : Flag) : String :=
  if f.operand = .nothing then f.name
  else f.name ++ " " ++ (String.ofList (f.name.toList.dropWhile (· == '-'))).toUpper

/-- The text that explains a command: its form, what it does, and its options in two columns. -/
def helpText (command purpose : String) (flags : List Flag) : String :=
  let rows := ("-h, " ++ helpFlag.form, helpFlag.purpose) :: flags.map fun f => (f.form, f.purpose)
  let width := (rows.map fun r => r.1.length).foldl max 0
  let row := fun (r : String × String) =>
    "  " ++ r.1 ++ String.ofList (List.replicate (width - r.1.length) ' ') ++ "  " ++ r.2 ++ "\n"
  "usage: " ++ command ++ String.join (" [-h]" :: flags.map fun f => " [" ++ f.form ++ "]") ++ "\n\n" ++
    purpose ++ "\n\noptions:\n" ++ String.join (rows.map row)

/-- What is written before the end: the text that explains the command, if it is asked for. -/
def Stop.output (help : String) : Stop → String
  | .help => help
  | .usage => ""

/-- An argument by its form. -/
inductive Word
  | plain (text : String)
  /-- Two dashes, after which nothing is an option. -/
  | separator
  | option (flag : Flag) (attached : Option String)
  /-- The short option for help, with what is written together with it. -/
  | shortHelp (rest : List Char)
  | unknown
  | ambiguous

/-- A dash and a number without a power of ten, which is no option; a newline may end it. -/
def isNegativeNumber (cs : List Char) : Bool :=
  let isDigit := fun (c : Char) => (Text.digitValue? c).isSome
  match (if cs.getLast? = some '\n' then cs.dropLast else cs) with
  | '-' :: ds => match ds.dropWhile isDigit with
    | [] => !ds.isEmpty
    | '.' :: fraction => !fraction.isEmpty && fraction.all isDigit
    | _ => false
  | _ => false

/-- The flags that a name with two dashes may stand for: the one of that name, or all that begin so. -/
def candidates (flags : List Flag) (name : List Char) : List Flag :=
  match flags.find? fun f => f.name.toList = name with
  | some f => [f]
  | none => flags.filter fun f => name.isPrefixOf f.name.toList

def Word.ofStranger (cs : List Char) : Word :=
  if isNegativeNumber cs || cs.contains ' ' then .plain (String.ofList cs) else .unknown

def Word.ofArgument (flags : List Flag) (arg : String) : Word :=
  let cs := arg.toList
  match cs with
  | '-' :: '-' :: _ =>
    let attached := match cs.dropWhile (· != '=') with
      | [] => none
      | _ :: text => some (String.ofList text)
    match candidates flags (cs.takeWhile (· != '=')) with
    | [] => .ofStranger cs
    | [f] => .option f attached
    | _ => .ambiguous
  | '-' :: 'h' :: rest => .shortHelp rest
  | '-' :: _ :: _ => .ofStranger cs
  | _ => .plain arg

def words (flags : List Flag) : List String → List Word
  | [] => []
  | arg :: args =>
    if arg = "--" then .separator :: args.map .plain else .ofArgument flags arg :: words flags args

/-- The value of an operand; two dashes stand for no value at all, which is an empty list. -/
def Operand.read? : Operand → String → Option Json
  | .nothing, _ => none
  | _, "--" => some (.arr [])
  | .real, text => (Binary64.readLenient? text).map .float
  | .integer, text => (Numeral.readLenient? text).map .int

/-- What `-h` and the text together with it come to: the option may be repeated, also after an equals
sign, and takes nothing else. -/
def shortHelpStop (rest : List Char) : Stop :=
  let repeated := match rest with
    | '=' :: cs => cs
    | cs => cs
  if rest.isEmpty || !repeated.isEmpty && repeated.all (· == 'h') then .help else .usage

/-- The operands by the names of their options, from left to right. What is no option is a fault only
when no option before or after it is one. -/
def consume (values : List (String × Json)) (strangers : Bool) :
    List Word → Except Stop (List (String × Json))
  | [] => if strangers then .error .usage else .ok values
  | .plain _ :: ws | .separator :: ws | .unknown :: ws => consume values true ws
  | .ambiguous :: _ => .error .usage
  | .shortHelp rest :: _ => .error (shortHelpStop rest)
  | .option f (some text) :: ws => match f.operand.read? text with
    | some v => consume (Assoc.set f.name v values) strangers ws
    | none => .error .usage
  | .option f none :: ws =>
    if f.operand = .nothing then .error .help
    else match ws with
      | .plain text :: ws => match f.operand.read? text with
        | some v => consume (Assoc.set f.name v values) strangers ws
        | none => .error .usage
      | _ => .error .usage

def Word.isAmbiguous : Word → Bool
  | .ambiguous => true
  | _ => false

def parse (flags : List Flag) (args : List String) : Except Stop (List (String × Json)) :=
  let ws := words (helpFlag :: flags) args
  if ws.any Word.isAmbiguous then .error .usage else consume [] false ws

end BpfExporter.Command
