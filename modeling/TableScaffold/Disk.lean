import TableScaffold.Path
import TableScaffold.Text.Quoted

/-!
# Disks

A disk holds directories and files at locations. Whatever exists lies in a directory. A path is
followed name by name, and `..` leads back to where the way came from. A new directory or file
changes nothing else. There are no links, so different locations are different files, and nobody is
denied anything.

The content of a file goes to the device that the disk lies on. It may break off in the middle, and then
the file is there with the front of the content. In anything else the device does not fail: directories
are made and files are read as far as the paths allow it.
-/

namespace TableScaffold

/-- Why a file operation fails. -/
inductive FileFault where
  | notFound
  | alreadyThere
  | notADirectory
  | isADirectory
  | nameTooLong
  /-- The operation is not allowed. -/
  | denied
  /-- The device is full. -/
  | noSpace
  /-- The device fails. -/
  | device
  /-- The path holds the NUL character, which no name may have. -/
  | nulInPath
  deriving DecidableEq, Repr

namespace FileFault

/-- The number of a fault. -/
def number : FileFault → Nat
  | notFound => 2
  | alreadyThere => 17
  | notADirectory => 20
  | isADirectory => 21
  | nameTooLong => 36
  | denied => 13
  | noSpace => 28
  | device => 5
  | nulInPath => 22

/-- What a fault is called. -/
def text : FileFault → String
  | notFound => "No such file or directory"
  | alreadyThere => "File exists"
  | notADirectory => "Not a directory"
  | isADirectory => "Is a directory"
  | nameTooLong => "File name too long"
  | denied => "Permission denied"
  | noSpace => "No space left on device"
  | device => "Input/output error"
  | nulInPath => "Invalid argument"

/-- Whether a fault is one of the device: then it is not told which file it is about. -/
def isOfDevice : FileFault → Bool
  | noSpace | device => true
  | _ => false

end FileFault

/-- The fault with a number. -/
def FileFault.ofNumber (n : Nat) : FileFault :=
  ([.notFound, .alreadyThere, .notADirectory, .isADirectory, .nameTooLong, .denied, .noSpace].find?
    fun f : FileFault => f.number = n).getD .device

/-- A failed file operation. -/
structure FileError where
  fault : FileFault
  path : String
  deriving DecidableEq, Repr

/-- The message of a failed file operation. -/
def FileError.message (e : FileError) : String :=
  "[Errno " ++ toString e.fault.number ++ "] " ++ e.fault.text ++
    if e.fault.isOfDevice then "" else ": " ++ Text.quoted e.path

/-- Where a directory or a file lies: the names that lead to it, the last one first. -/
abbrev Location := List String

/-- Why a device breaks off. -/
inductive DeviceFault where
  | full
  | broken
  deriving DecidableEq, Repr

/-- A fault of a device as the fault of the operation. -/
def DeviceFault.fault : DeviceFault → FileFault
  | full => .noSpace
  | broken => .device

theorem DeviceFault.fault_ne_nulInPath (f : DeviceFault) : f.fault ≠ .nulInPath := by
  cases f <;> decide

/-- What a device does with the content for the file at a location: it takes all of it, or as many bytes
of it as are told and then breaks off. -/
abbrev Device := Location → ByteArray → Option (Nat × DeviceFault)

/-- The device that takes everything. -/
def Device.sound : Device := fun _ _ => none

/-- What lies at a location. -/
inductive Node where
  | directory
  | file (content : ByteArray)

instance : DecidableEq Node
  | .directory, .directory => isTrue rfl
  | .file content, .file content' =>
    decidable_of_iff (content.data = content'.data)
      ⟨fun h => congrArg Node.file (ByteArray.ext h), fun h => congrArg ByteArray.data (Node.file.inj h)⟩
  | .directory, .file _ => isFalse fun h => Node.noConfusion h
  | .file _, .directory => isFalse fun h => Node.noConfusion h

/-- What lies at a location; the root is a directory. -/
def nodeAt (entries : List (Location × Node)) : Location → Option Node
  | [] => some .directory
  | loc => entries.lookup loc

/-- Everything that exists lies in a directory. -/
def Connected (entries : List (Location × Node)) : Prop :=
  ∀ name loc, nodeAt entries (name :: loc) ≠ none → nodeAt entries loc = some .directory

/-- Directories and files, and the directory that paths lead from. -/
structure Disk where
  entries : List (Location × Node)
  workingDirectory : Location
  connected : Connected entries

theorem nodeAt_cons (name : String) (parent loc : Location) (n : Node)
    (entries : List (Location × Node)) :
    nodeAt ((name :: parent, n) :: entries) loc =
      if loc = name :: parent then some n else nodeAt entries loc := by
  cases loc with
  | nil => simp [nodeAt]
  | cons a as =>
    by_cases h : a :: as = name :: parent
    · simp [nodeAt, h]
    · have h' : ((a :: as : Location) == name :: parent) = false := by simpa using h
      simp only [nodeAt, List.lookup_cons, h', h, if_false]

/-- A new entry in a directory leaves everything connected, if no directory is lost. -/
theorem Connected.cons {entries : List (Location × Node)} (h : Connected entries) {name : String}
    {parent : Location} {n : Node} (hp : nodeAt entries parent = some .directory)
    (hn : nodeAt entries (name :: parent) = some .directory → n = .directory) :
    Connected ((name :: parent, n) :: entries) := by
  intro a loc ha
  rw [nodeAt_cons] at ha ⊢
  by_cases hloc : loc = name :: parent
  · subst hloc
    by_cases hself : a :: name :: parent = name :: parent
    · exact absurd (congrArg List.length hself) (by simp)
    · rw [if_neg hself] at ha
      rw [if_pos rfl, hn (h a _ ha)]
  · rw [if_neg hloc]
    by_cases hself : a :: loc = name :: parent
    · obtain ⟨-, rfl⟩ := List.cons.inj hself
      exact hp
    · rw [if_neg hself] at ha
      exact h a loc ha

namespace Disk

/-- What lies at a location. -/
def node? (d : Disk) (loc : Location) : Option Node := nodeAt d.entries loc

/-- The disk without directories and files. -/
def empty : Disk where
  entries := []
  workingDirectory := []
  connected := by intro name loc h; simp [nodeAt] at h

/-- Adds a directory where nothing lies yet. -/
def addDirectory (d : Disk) : Location → Disk
  | [] => d
  | name :: parent =>
    if h : d.node? parent = some .directory ∧ d.node? (name :: parent) = none then
      { d with
        entries := (name :: parent, .directory) :: d.entries
        connected := d.connected.cons h.1 fun _ => rfl }
    else d

/-- Puts a file where no directory lies. -/
def putFile (d : Disk) (content : ByteArray) : Location → Disk
  | [] => d
  | name :: parent =>
    if h : d.node? parent = some .directory ∧ d.node? (name :: parent) ≠ some .directory then
      { d with
        entries := (name :: parent, .file content) :: d.entries
        connected := d.connected.cons h.1 fun h' => absurd h' h.2 }
    else d

theorem node?_addDirectory (d : Disk) (name : String) (parent loc : Location)
    (hp : d.node? parent = some .directory) (hn : d.node? (name :: parent) = none) :
    (d.addDirectory (name :: parent)).node? loc =
      if loc = name :: parent then some .directory else d.node? loc := by
  rw [addDirectory, dif_pos ⟨hp, hn⟩]
  exact nodeAt_cons ..

theorem node?_putFile (d : Disk) (content : ByteArray) (name : String) (parent loc : Location)
    (hp : d.node? parent = some .directory) (hn : d.node? (name :: parent) ≠ some .directory) :
    (d.putFile content (name :: parent)).node? loc =
      if loc = name :: parent then some (.file content) else d.node? loc := by
  rw [putFile, dif_pos ⟨hp, hn⟩]
  exact nodeAt_cons ..

/-! ## Following paths -/

/-- The longest name, in bytes. -/
def nameLimit : Nat := 255

/-- The longest path, in bytes. -/
def pathLimit : Nat := 4095

/-- Where the parts of a path lead from a location. Only the last part may lead to nothing. -/
def follow (d : Disk) : Location → List String → Except FileFault Location
  | loc, [] => .ok loc
  | loc, part :: rest =>
    match d.node? loc with
    | none => .error .notFound
    | some (.file _) => .error .notADirectory
    | some .directory =>
      if part = "" || part = "." then d.follow loc rest
      else if part = ".." then d.follow loc.tail rest
      else if nameLimit < part.utf8ByteSize then .error .nameTooLong
      else d.follow (part :: loc) rest

/-- Where a path leads. -/
def locate (d : Disk) (path : String) : Except FileFault Location :=
  if path.toList.contains '\x00' then .error .nulInPath
  else if pathLimit < path.utf8ByteSize then .error .nameTooLong
  else if path = "" then .error .notFound
  else d.follow (if path.startsWith "/" then [] else d.workingDirectory) (Path.parts path)

/-- What a path leads to. -/
def find? (d : Disk) (path : String) : Option Node :=
  match d.locate path with
  | .ok loc => d.node? loc
  | .error _ => none

/-- The content of the file that a path leads to. -/
def read (d : Disk) (path : String) : Except FileFault ByteArray := do
  match d.node? (← d.locate path) with
  | some (.file content) => .ok content
  | some .directory => .error .isADirectory
  | none => .error .notFound

/-- The disk with a new directory. -/
def makeDirectory (d : Disk) (path : String) : Except FileFault Disk := do
  let loc ← d.locate path
  match d.node? loc with
  | some _ => .error .alreadyThere
  | none => .ok (d.addDirectory loc)

/-- The disk with a new file, or with new content in a file. -/
def write (d : Disk) (path : String) (content : ByteArray) : Except FileFault Disk := do
  let loc ← d.locate path
  match d.node? loc with
  | some .directory => .error .isADirectory
  | _ => .ok (d.putFile content loc)

/-- A disk whose working directory is new. -/
def withWorkingDirectory (names : List String) : Disk :=
  { (names.foldl (fun (s : Disk × Location) name =>
      (s.1.addDirectory (name :: s.2), name :: s.2)) (empty, [])).1 with
    workingDirectory := names.reverse }

/-- The path from one location down to another one below it. -/
def below (base loc : Location) : Option String :=
  let names := loc.reverse
  let start := base.reverse
  if start.length < names.length && start.isPrefixOf names then
    some ("/".intercalate (names.drop start.length))
  else none

/-- The paths of everything below the working directory, in the order of their characters; those of
directories end in a slash. -/
def tree (d : Disk) : List String :=
  (d.entries.map (·.1)).eraseDups.filterMap (fun loc => do
    let path ← below d.workingDirectory loc
    match ← d.node? loc with
    | .directory => some (path ++ "/")
    | .file _ => some path)
  |>.mergeSort (fun s t => decide (s ≤ t))

end Disk

end TableScaffold
