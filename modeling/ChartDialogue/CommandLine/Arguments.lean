import ChartDialogue.Number.Word

/-! # Arguments

Arguments are options with a value and positional values. The value of an option is the rest of
its argument, with or without an equals sign before it, or else the next argument, which must then
not look like an option. Behind two dashes everything is positional.
-/

namespace ChartDialogue.CommandLine

structure OptionName where
  short : Char
  long : String
deriving DecidableEq

inductive UsageFault where
  | help
  | unknown (argument : String)
  | noValue (option : String)
  | repeated (option : String)
  | missing (what : String)
  | badNumber (text : String)
deriving DecidableEq

def UsageFault.message : UsageFault → String
  | .help => "help"
  | .unknown argument => "unexpected argument '" ++ argument ++ "' found"
  | .noValue option => "a value is required for '--" ++ option ++ "' but none was supplied"
  | .repeated option => "the argument '--" ++ option ++ "' cannot be used multiple times"
  | .missing what => "the following required arguments were not provided: " ++ what
  | .badNumber text => "invalid value '" ++ text ++ "': not a number"

/-- Arguments sorted into options, positional values, and what was not looked at. -/
structure Sorted where
  options : List (OptionName × String) := []
  positionals : List String := []
  unread : List String := []

inductive Piece where
  | option (name : OptionName) (attached : Option String)
  | positional (value : String)
  | help
  | unknown

def looksLikeOption (argument : String) : Bool :=
  match argument.toList with
  | '-' :: _ :: _ => true
  | _ => false

def splitEquals (characters : List Char) : List Char × Option (List Char) :=
  match characters.dropWhile (· ≠ '=') with
  | [] => (characters, none)
  | _ :: value => (characters.takeWhile (· ≠ '='), some value)

def longPiece (known : List OptionName) (characters : List Char) : Piece :=
  let (name, value) := splitEquals characters
  match known.find? fun option => option.long.toList == name with
  | some option => .option option (value.map String.ofList)
  | none => if characters = ['h', 'e', 'l', 'p'] then .help else .unknown

def shortPiece (known : List OptionName) (letter : Char) (rest : List Char) : Piece :=
  match known.find? fun option => option.short == letter with
  | some option =>
    match rest with
    | [] => .option option none
    | '=' :: value => .option option (some (String.ofList value))
    | value => .option option (some (String.ofList value))
  | none => if letter = 'h' then .help else .unknown

def piece (known : List OptionName) (argument : String) : Piece :=
  match argument.toList with
  | '-' :: '-' :: name => longPiece known name
  | '-' :: letter :: rest => shortPiece known letter rest
  | _ => .positional argument

def Sorted.add (sorted : Sorted) (option : OptionName) (value : String) :
    Except UsageFault Sorted :=
  if sorted.options.any fun entry => entry.1 == option then .error (.repeated option.long)
  else .ok { sorted with options := sorted.options ++ [(option, value)] }

/-- Sort arguments. Before a subcommand, the first positional value ends the work. -/
def sort (known : List OptionName) (beforeSubcommand : Bool) (sorted : Sorted) :
    List String → Except UsageFault Sorted
  | [] => .ok sorted
  | "--" :: rest =>
    if beforeSubcommand then
      match rest with
      | [] => .ok sorted
      | argument :: _ => .error (.unknown argument)
    else .ok { sorted with positionals := sorted.positionals ++ rest }
  | argument :: rest =>
    match piece known argument with
    | .help => .error .help
    | .unknown => .error (.unknown argument)
    | .option option (some value) => do
      sort known beforeSubcommand (← sorted.add option value) rest
    | .option option none =>
      match rest with
      | [] => .error (.noValue option.long)
      | next :: rest =>
        if looksLikeOption next then .error (.noValue option.long)
        else do sort known beforeSubcommand (← sorted.add option next) rest
    | .positional value =>
      if beforeSubcommand then .ok { sorted with unread := value :: rest }
      else sort known beforeSubcommand
        { sorted with positionals := sorted.positionals ++ [value] } rest

def Sorted.option? (sorted : Sorted) (option : OptionName) : Option String :=
  sorted.options.lookup option

def parseCount (text : String) : Except UsageFault Nat :=
  match Word.ofText? text with
  | some count => .ok count
  | none => .error (.badNumber text)

def Sorted.count (sorted : Sorted) (option : OptionName) (usual : Nat) : Except UsageFault Nat :=
  match sorted.option? option with
  | none => .ok usual
  | some text => parseCount text

def configOption : OptionName := ⟨'c', "config"⟩

end ChartDialogue.CommandLine
