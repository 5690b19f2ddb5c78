import TableScaffold.Sql.Dialect
import TableScaffold.Text.Digit
import TableScaffold.Text.Quoted

/-!
# Options of the command line

The program has options of its own and a command with options and an operand. A long option may be
cut short as long as no other one starts the same. What an argument is depends on the options of the
part that reads it.
-/

namespace TableScaffold.CommandLine

/-- What the options and operands of the command line belong to. -/
inductive Part where
  | program
  | generate
  deriving DecidableEq, Repr

/-- What an option does. -/
inductive Effect where
  | help
  | verbose
  /-- Takes a value, one of some words if there are any. -/
  | value (key : String) (choices : List String)
  deriving DecidableEq, Repr

/-- An option and its names. -/
structure Switch where
  names : List String
  effect : Effect
  deriving DecidableEq, Repr

/-- What an option is called in a message. -/
def Switch.title (o : Switch) : String := "/".intercalate o.names

/-- Whether an option takes a value. -/
def Switch.takesValue (o : Switch) : Bool :=
  match o.effect with
  | .value .. => true
  | _ => false

namespace Part

/-- The options of a part. -/
def switches : Part → List Switch
  | program => [⟨["-h", "--help"], .help⟩, ⟨["--verbose", "-v"], .verbose⟩]
  | generate =>
    [⟨["-h", "--help"], .help⟩, ⟨["--output-dir"], .value "output_dir" []⟩,
     ⟨["--dialect"], .value "dialect" (Sql.Dialect.all.map (·.name))⟩,
     ⟨["--template-dir"], .value "template_dir" []⟩, ⟨["--config"], .value "config" []⟩]

/-- The option with a name. -/
def switch? (p : Part) (name : String) : Option Switch :=
  p.switches.find? (·.names.contains name)

/-- All names of options, in order. -/
def switchNames (p : Part) : List String := p.switches.flatMap (·.names)

end Part

/-- A value in the same argument as an option. -/
structure Attached where
  text : String
  /-- Whether an equals sign stands in front of it. -/
  byEquals : Bool
  deriving DecidableEq, Repr

/-- What an argument is for a part of the command line. -/
inductive Mark where
  | operand
  /-- Everything behind it is an operand. -/
  | separator
  /-- An option by its name, perhaps with a value in the same argument. -/
  | option (name : String) (value : Option Attached)
  /-- An option that the part does not have. -/
  | unknown
  deriving DecidableEq, Repr

/-- The text in front of the first equals sign, and the text behind it. -/
def splitEquals (s : String) : String × Option Attached :=
  match s.toList.dropWhile (· != '=') with
  | [] => (s, none)
  | _ :: value =>
    (String.ofList (s.toList.takeWhile (· != '=')), some ⟨String.ofList value, true⟩)

/-- Whether one text starts with another one. -/
def startsWith (s start : String) : Bool := start.toList.isPrefixOf s.toList

/-- The options that an argument may be short for. -/
def candidates (p : Part) (arg : String) : List (String × Option Attached) :=
  if startsWith arg "--" then
    let (name, value) := splitEquals arg
    (p.switchNames.filter (startsWith · name)).map (·, value)
  else
    let letter := String.ofList (arg.toList.take 2)
    p.switchNames.filterMap fun name =>
      if name = letter then some (name, some ⟨String.ofList (arg.toList.drop 2), false⟩)
      else if startsWith name arg then some (name, none)
      else none

/-- Whether an argument is a negative number. -/
def isNegativeNumber (arg : String) : Bool :=
  let isDigit (c : Char) : Bool := (Text.decimalValue? c).isSome
  match arg.toList with
  | '-' :: body =>
    match body.dropWhile isDigit with
    | [] => !body.isEmpty
    | '.' :: fraction => !fraction.isEmpty && fraction.all isDigit
    | _ => false
  | _ => false

/-- What an argument in front of a separator is, unless more than one option fits. -/
def markOf (p : Part) (arg : String) : Except String Mark :=
  if !startsWith arg "-" || arg = "-" then .ok .operand
  else if (p.switch? arg).isSome then .ok (.option arg none)
  else
    let (name, value) := splitEquals arg
    if value.isSome && (p.switch? name).isSome then .ok (.option name value)
    else
      match candidates p arg with
      | [(name, value)] => .ok (.option name value)
      | [] =>
        .ok (if isNegativeNumber arg || arg.toList.contains ' ' then .operand else .unknown)
      | more =>
        .error ("ambiguous option: " ++ arg ++ " could match " ++
          ", ".intercalate (more.map (·.1)))

/-- What each argument is. -/
def marks (p : Part) : List String → Except String (List (String × Mark))
  | [] => .ok []
  | arg :: rest =>
    if arg = "--" then .ok ((arg, .separator) :: rest.map (·, .operand))
    else do
      let m ← markOf p arg
      return (arg, m) :: (← marks p rest)

end TableScaffold.CommandLine
