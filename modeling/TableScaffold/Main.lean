import TableScaffold.CommandLine

/-!
# The program

The command line on the computer at hand. Notices are kept and shown at the end, in front of the
errors.
-/

namespace TableScaffold

/-- Work on the computer at hand. -/
abbrev AtHand := StateT (List Notice) IO

namespace AtHand

/-- The number of an error; some are told as negative 32-bit numbers. -/
def errorNumber (e : IO.Error) : Nat :=
  let code : UInt32 :=
    match e with
    | .noFileOrDirectory _ c _ | .alreadyExists _ c _ | .inappropriateType _ c _
    | .invalidArgument _ c _ | .permissionDenied _ c _ | .resourceExhausted _ c _ => c
    | _ => 0
  if code.toNat < Nat.pow 2 31 then code.toNat else Nat.pow 2 32 - code.toNat

/-- Work on files, its failure told as a fault. -/
def attempt {α : Type} (path : String) (work : IO α) : IO (Except FileFault α) :=
  if path.toList.contains '\x00' then return .error .nulInPath
  else
    try return .ok (← work)
    catch e => return .error (.ofNumber (errorNumber e))

/-- Whether work succeeds. -/
def succeeds {α : Type} (path : String) (work : IO α) : IO Bool :=
  return (← attempt path work).isOk

/-- The template in a file of a directory. -/
def readTemplate (directory file : String) :
    IO (Except Template.RenderFault Template.Body) := do
  match Template.filePath? directory file with
  | none => return .error .fileMissing
  | some path =>
    match ← attempt path (IO.FS.readBinFile path) with
    | .ok content => return Template.Body.ofContent content
    | .error _ => return .error .fileMissing

/-- Renders with the template files read so far; each further one is read when it is needed. -/
partial def renderReading (directory : String)
    (work : Template.Library → Except Template.RenderFault String)
    (known : List (String × Except Template.RenderFault Template.Body)) :
    IO (Except Template.RenderFault String) := do
  match work fun file => (known.lookup file).getD (.error (.unread file)) with
  | .error (.unread file) =>
    renderReading directory work ((file, ← readTemplate directory file) :: known)
  | outcome => return outcome

instance : Host AtHand where
  note n := modify (n :: ·)
  environment name := IO.getEnv name
  isThere path := succeeds path (IO.FS.realPath path)
  isDirectory path := succeeds path (IO.FS.realPath (path ++ "/."))
  read path := attempt path (IO.FS.readBinFile path)
  makeDirectory path := attempt path (IO.FS.createDir path)
  write path content := attempt path (IO.FS.writeBinFile path content)
  renderFrom directory work := renderReading directory work []

end AtHand

end TableScaffold

/-- Carries out the command line and ends with its code. -/
def main (args : List String) : IO UInt32 := do
  let work : TableScaffold.AtHand TableScaffold.CommandLine.Outcome :=
    TableScaffold.CommandLine.program TableScaffold.Yaml.reader TableScaffold.Sql.grammar args
  let (outcome, notices) ← work.run []
  IO.print outcome.output
  IO.eprint (TableScaffold.CommandLine.errorText outcome notices.reverse)
  match outcome.ending with
  | .exit code => return code.toUInt32
  | .crash _ =>
    IO.eprintln "The program ends at a defect of its input."
    return 1
