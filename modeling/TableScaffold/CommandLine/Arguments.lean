import TableScaffold.CommandLine.Switch

/-!
# Reading the command line

Options and operands are read from left to right. What no part understands is left over, and the
program refuses it once everything is read. Help ends the reading at once.
-/

namespace TableScaffold.CommandLine

/-- What the command line asks for. -/
structure Arguments where
  verbose : Bool := false
  /-- Whether the command is given. -/
  command : Bool := false
  /-- The values of options, the last one first. -/
  values : List (String × String) := []
  /-- The operand of the command. -/
  operand : Option String := none
  /-- What the program does not understand. -/
  leftOver : List String := []
  /-- What the command does not understand. -/
  leftOverInside : List String := []

/-- Why the reading ends early. -/
inductive Stop where
  | help (p : Part)
  | misuse (p : Part) (message : String)
  deriving DecidableEq, Repr

/-- The message about an option or operand. -/
def about (title message : String) : String := "argument " ++ title ++ ": " ++ message

/-- The message about a word that is none of the choices. -/
def invalidChoice (title word : String) (choices : List String) : String :=
  about title ("invalid choice: " ++ Text.quoted word ++ " (choose from " ++
    ", ".intercalate (choices.map Text.quoted) ++ ")")

/-- How a part takes operands. -/
structure Operand where
  /-- How many arguments make up the operand, if there is one. -/
  length? : List Mark → Option Nat
  take : List String → Arguments → Except Stop Arguments

/-- Takes the value of an option. -/
def takeValue (p : Part) (s : Switch) (key : String) (choices : List String) (word : String)
    (a : Arguments) : Except Stop Arguments :=
  if choices.isEmpty || choices.contains word then
    .ok { a with values := (key, word) :: a.values }
  else .error (.misuse p (invalidChoice s.title word choices))

/-- The options in one argument, the value of the last one, and what is not understood. -/
structure Cluster where
  switches : List Switch
  value : Option String := none
  leftOver : Option String := none

/-- The value that starts with some characters behind an option. -/
def attached : List Char → Option Attached
  | [] => none
  | '=' :: rest => some ⟨String.ofList rest, true⟩
  | cs => some ⟨String.ofList cs, false⟩

/-- The options of one argument: short ones without a value may stand together. -/
def cluster (p : Part) : Nat → Switch → String → Option Attached → Except Stop Cluster
  | 0, s, _, _ => .ok { switches := [s] }
  | fuel + 1, s, name, value =>
    match value with
    | none => .ok { switches := [s] }
    | some v =>
      if s.takesValue then .ok { switches := [s], value := v.text }
      else
        match v.text.toList with
        | c :: rest =>
          if startsWith name "--" || v.byEquals || c = '-' then refused s v
          else
            let next := String.ofList ['-', c]
            match p.switch? next with
            | none => .ok { switches := [s], leftOver := "-" ++ v.text }
            | some t => do
              let more ← cluster p fuel t next (attached rest)
              return { more with switches := s :: more.switches }
        | [] => refused s v
where
  /-- A value of an option that takes none. -/
  refused (s : Switch) (v : Attached) : Except Stop Cluster :=
    .error (.misuse p (about s.title ("ignored explicit argument " ++ Text.quoted v.text)))

/-- Carries out options that stand in one argument; the last one may have a value. -/
def carryOut (p : Part) (value : Option String) :
    List Switch → Arguments → Except Stop Arguments
  | [], a => .ok a
  | s :: rest, a =>
    match s.effect with
    | .help => .error (.help p)
    | .verbose => carryOut p value rest { a with verbose := true }
    | .value key choices =>
      match value with
      | none => .error (.misuse p (about s.title "expected one argument"))
      | some word => do carryOut p value rest (← takeValue p s key choices word a)

/-- Whether an argument is an option, known or not. -/
def isOption : String × Mark → Bool
  | (_, .option ..) | (_, .unknown) => true
  | (_, .operand) | (_, .separator) => false

/-- The operand in front of other arguments, whether it is still to come, and what follows. -/
def readOperand (operand : Operand) (pending : Bool) (args : List (String × Mark))
    (a : Arguments) : Except Stop (Arguments × Bool × Nat) :=
  match if pending then operand.length? (args.map (·.2)) else none with
  | none => .ok (a, pending, 0)
  | some n => do return (← operand.take ((args.take n).map (·.1)) a, false, n)

/-- Reads the option at the front of the arguments and gives what follows it. -/
def readOption (p : Part) (arg : String) (m : Mark) (rest : List (String × Mark))
    (a : Arguments) : Except Stop (Arguments × List (String × Mark)) :=
  match m with
  | .option name value =>
    match p.switch? name with
    | none => .ok ({ a with leftOver := a.leftOver ++ [arg] }, rest)
    | some s => do
      let c ← cluster p (arg.length + 1) s name value
      let a := { a with leftOver := a.leftOver ++ c.leftOver.toList }
      let needsValue := c.value.isNone && ((c.switches.getLast?.map Switch.takesValue).getD false)
      match needsValue, rest with
      | true, (word, .operand) :: rest => return (← carryOut p (some word) c.switches a, rest)
      | _, rest => return (← carryOut p c.value c.switches a, rest)
  | _ => .ok ({ a with leftOver := a.leftOver ++ [arg] }, rest)

/-- Reads marked arguments. -/
def readMarked (p : Part) (operand : Operand) :
    Nat → Bool → List (String × Mark) → Arguments → Except Stop Arguments
  | 0, _, _, a => .ok a
  | fuel + 1, pending, args, a =>
    match args with
    | (arg, .option name value) :: rest => do
      let (a, rest) ← readOption p arg (.option name value) rest a
      readMarked p operand fuel pending rest a
    | (arg, .unknown) :: rest => do
      let (a, rest) ← readOption p arg .unknown rest a
      readMarked p operand fuel pending rest a
    | args => do
      let (a, pending, n) ← readOperand operand pending args a
      let rest := args.drop n
      if n = 0 || !rest.any isOption then
        let skipped := rest.takeWhile (!isOption ·)
        let a := { a with leftOver := a.leftOver ++ skipped.map (·.1) }
        match rest.drop skipped.length with
        | [] => return a
        | rest => readMarked p operand fuel pending rest a
      else readMarked p operand fuel pending rest a

/-- Reads the arguments of a part. -/
def read (p : Part) (operand : Operand) (args : List String) (a : Arguments) :
    Except Stop Arguments := do
  let ms ← (marks p args).mapError (.misuse p)
  readMarked p operand (2 * args.length + 2) true ms a

/-- The operand of the command: one argument, which may be missing, with separators around it. -/
def fileOperand : Operand where
  length? ms :=
    let front := (ms.takeWhile (· = .separator)).length
    let inner := if (ms.drop front).head? = some .operand then 1 else 0
    let back := ((ms.drop (front + inner)).takeWhile (· = .separator)).length
    some (front + inner + back)
  take args a := .ok { a with operand := (args.erase "--").head? }

/-- The commands of the program. -/
def commands : List String := ["generate"]

/-- The operand of the program: a command with all that follows. -/
def commandOperand : Operand where
  length? ms :=
    if (ms.dropWhile (· = .separator)).head? = some .operand then some ms.length else none
  take args a :=
    match args with
    | [] => .ok a
    | name :: rest =>
      if commands.contains name then do
        let inside ← read .generate fileOperand rest { command := true }
        return { inside with
          verbose := a.verbose, leftOver := a.leftOver, leftOverInside := inside.leftOver }
      else .error (.misuse .program (invalidChoice "command" name commands))

/-- Reads the command line. -/
def Arguments.ofList (args : List String) : Except Stop Arguments := do
  let a ← read .program commandOperand args {}
  match a.leftOver ++ a.leftOverInside with
  | [] => return a
  | more =>
    .error (.misuse .program ("unrecognized arguments: " ++ " ".intercalate more))

end TableScaffold.CommandLine
