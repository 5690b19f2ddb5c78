import TableScaffold.Logged
import TableScaffold.Template.Library

/-!
# Hosts

A host gives the program what lies outside it: files, environment variables, and someone who takes
its notices. A machine is a host whose files and variables are plain data.
-/

namespace TableScaffold

/-- What a program may do outside itself. -/
class Host (m : Type → Type) where
  /-- Makes a notice. -/
  note : Notice → m Unit
  /-- The value of an environment variable. -/
  environment : String → m (Option String)
  /-- Whether a path leads to anything. -/
  isThere : String → m Bool
  /-- Whether a path leads to a directory. -/
  isDirectory : String → m Bool
  /-- The content of a file. -/
  read : String → m (Except FileFault ByteArray)
  /-- Makes one directory. -/
  makeDirectory : String → m (Except FileFault Unit)
  /-- Gives a file its content. -/
  write : String → ByteArray → m (Except FileFault Unit)
  /-- Renders with the template files of a directory. -/
  renderFrom : String → (Template.Library → Except Template.RenderFault String) →
    m (Except Template.RenderFault String)

/-- Files and environment variables as plain data, and the device that the files lie on. -/
structure Machine where
  disk : Disk
  environment : List (String × String)
  device : Device := .sound

/-- Where the device breaks off the content for the file at a path, and why. -/
def Machine.cut? (machine : Machine) (path : String) (content : ByteArray) :
    Option (Nat × DeviceFault) :=
  (machine.disk.locate path).toOption.bind (machine.device · content)

/-- Work on a machine. -/
abbrev OnMachine := StateT Machine Logged

namespace OnMachine

/-- Changes the disk, unless that fails. -/
def change (work : Disk → Except FileFault Disk) : OnMachine (Except FileFault Unit) := do
  let machine ← get
  match work machine.disk with
  | .ok disk =>
    set { machine with disk }
    return .ok ()
  | .error f => return .error f

/-- Gives a file its content, or the front of it if the device breaks off. -/
def store (path : String) (content : ByteArray) : OnMachine (Except FileFault Unit) := do
  match (← get).cut? path content with
  | none => change (·.write path content)
  | some (taken, f) =>
    return (← change (·.write path (content.extract 0 taken))).bind fun _ => .error f.fault

instance : Host OnMachine where
  note n := (Logged.note n : Logged Unit)
  environment name := return (← get).environment.lookup name
  isThere path := return ((← get).disk.find? path).isSome
  isDirectory path := return (← get).disk.find? path == some .directory
  read path := return (← get).disk.read path
  makeDirectory path := change (·.makeDirectory path)
  write path content := store path content
  renderFrom directory work := return work ((← get).disk.library directory)

end OnMachine

namespace Host

variable {m : Type → Type} [Monad m] [Host m] {ε α : Type}

/-- An attempt, whose notices are made. -/
def attempt (x : Attempt ε α) : m (Except ε α) := do
  x.notices.forM note
  return x.outcome

/-- Makes one directory; it may be there already. -/
def settleDirectory (path : String) : m (Except FileFault Unit) := do
  match ← makeDirectory path with
  | .ok () => return .ok ()
  | .error f => return if ← isDirectory path then .ok () else .error f

/-- Makes a directory and those that it lies in; the names come last one first. -/
def settlePath (root : String) : List String → m (Except FileError Unit)
  | [] => do
    let path := (Path.mk root []).text
    return (← settleDirectory path).mapError (⟨·, path⟩)
  | name :: parents => do
    let path := (Path.mk root (name :: parents).reverse).text
    match ← makeDirectory path with
    | .ok () => return .ok ()
    | .error .notFound =>
      match ← settlePath root parents with
      | .ok () => return (← settleDirectory path).mapError (⟨·, path⟩)
      | .error e => return .error e
    | .error f => return if ← isDirectory path then .ok () else .error ⟨f, path⟩

/-- Makes a directory and those that it lies in. They may be there already. -/
def makeDirectories (path : Path) : m (Except FileError Unit) :=
  settlePath path.root path.names.reverse

end Host

end TableScaffold
