import TableScaffold.CommandLine.Arguments
import TableScaffold.CommandLine.Help
import TableScaffold.Generation
import TableScaffold.Settings.Load

/-!
# The command line

The command loads its settings, runs once, and ends with a code: zero after success, one after a
failure that is reported, two after a misuse. A failure that is not reported ends the program on the
spot.
-/

namespace TableScaffold.CommandLine

/-- A failure that no message reports. -/
inductive Crash where
  | settings (e : SettingsError)
  | run (e : RunError)
  deriving DecidableEq, Repr

/-- How the program ends. -/
inductive Ending where
  | exit (code : Nat)
  | crash (c : Crash)
  deriving DecidableEq, Repr

/-- What the program leaves behind beside its notices. -/
structure Outcome where
  ending : Ending
  output : String := ""
  errors : String := ""
  /-- Whether all notices are shown. -/
  verbose : Bool := false
  deriving DecidableEq, Repr

/-- The message of a failed run. -/
def failureMessage (e : RunError) (message : String) : String :=
  match e with
  | .generation _ => "Error: Failed to generate CRUD classes or Prisma model: " ++ message
  | _ => "Error: " ++ message

/-- The message of a successful run. -/
def successMessage (g : Generated) : String :=
  "CRUD classes and Prisma model have been generated successfully (" ++
    toString g.written.length ++ " files in " ++ g.outputDir ++ ")."

/-- The outcome of a failure that is reported if it has a message. -/
def failed (crash : Crash) (message? : Option String) : Outcome :=
  match message? with
  | some message => { ending := .exit 1, errors := message ++ "\n" }
  | none => { ending := .crash crash }

/-- The settings that options give; null stands for an option that is not there. -/
def overrides (a : Arguments) : List (String × Value) :=
  ["output_dir", "dialect", "template_dir"].map fun key =>
    (key, Value.ofOption (a.values.lookup key))

/-- The settings file that an option gives. -/
def settingsFile (a : Arguments) : Option String := a.values.lookup "config"

/-- The script to run: the operand, or the one from the settings. -/
def scriptPath (a : Arguments) (s : Settings) : String :=
  match a.operand with
  | some path => if path = "" then s.defaultSqlFile else path
  | none => s.defaultSqlFile

/-- Whether a notice is shown. -/
def isShown (verbose : Bool) (n : Notice) : Bool := verbose || n.level == .warning

/-- Notices and errors as one text. -/
def errorText (o : Outcome) (notices : List Notice) : String :=
  unlines ((notices.filter (isShown o.verbose)).map Notice.line) ++ o.errors

variable {m : Type → Type} [Monad m] [Host m]

/-- Carries out the command. -/
def generateCommand (y : Yaml.Reader) (g : Sql.Grammar) (a : Arguments) : m Outcome := do
  match ← (Settings.load y (settingsFile a) (overrides a)).run with
  | .error e => return failed (.settings e) (e.message?.map ("Error: " ++ ·))
  | .ok settings =>
    match ← (run g (scriptPath a settings) settings).run with
    | .error e => return failed (.run e) (e.message?.map (failureMessage e))
    | .ok made => return { ending := .exit 0, output := successMessage made ++ "\n" }

/-- Carries out the program with its arguments. -/
def program (y : Yaml.Reader) (g : Sql.Grammar) (args : List String) : m Outcome := do
  match Arguments.ofList args with
  | .error (.help p) => return { ending := .exit 0, output := p.help }
  | .error (.misuse p message) => return { ending := .exit 2, errors := p.misuse message }
  | .ok a =>
    if a.command then return { (← generateCommand y g a) with verbose := a.verbose }
    else return { ending := .exit 1, output := Part.program.help, verbose := a.verbose }

end TableScaffold.CommandLine
