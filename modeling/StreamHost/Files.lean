import StreamHost.IoError
import StreamHost.Bytes

/-!
The files that a program sees: a tree below its working directory. A path is read name by name; an
empty name and `.` stay where they are, `..` goes up, and a name that is followed by anything must be a
directory. Nothing above the working directory has a name here. Names and whole paths can be too long.
-/

namespace StreamHost

/-- What stands under a name. -/
inductive FileNode where
  | file (content : Bytes)
  | directory
  /-- The file of a domain socket, with the number of the listener that made it. -/
  | socket (listener : Nat)
  deriving DecidableEq, Repr

/-- A tree of files; each node with the names that lead to it. -/
structure Files where
  nodes : List (List String × FileNode) := []
  deriving Repr

namespace Files

/-- Where a walk stands: below the working directory, or above it. -/
inductive Place where
  | inside (names : List String)
  | outside
  deriving DecidableEq, Repr

/-- The names of a path between its slashes. -/
def names (path : String) : List String := path.splitOn "/"

/-- The node at some names; the working directory itself is a directory. -/
def nodeAt? (fs : Files) : List String → Option FileNode
  | [] => some .directory
  | ns => fs.nodes.lookup ns

/-- What stands at a place. Above the working directory there are only directories. -/
def Place.node? (fs : Files) : Place → Option FileNode
  | .inside ns => fs.nodeAt? ns
  | .outside => some .directory

/-- The most bytes that a name can have. -/
def nameLimit : Nat := 255

/-- The most bytes that a path can have, and one more. -/
def pathLimit : Nat := 4096

/-- One step of a walk. The place before must be a directory. -/
def step (fs : Files) (p : Place) (name : String) : Except OsError Place :=
  match p.node? fs with
  | none => .error .noEntry
  | some (.file _) | some (.socket _) => .error .notDirectory
  | some .directory =>
    if name = "" ∨ name = "." then .ok p
    else if name = ".." then
      match p with
      | .inside ns => .ok (if ns.isEmpty then .outside else .inside ns.dropLast)
      | .outside => .ok .outside
    else if nameLimit < name.utf8ByteSize then .error .nameTooLong
    else
      match p with
      | .inside ns => .ok (.inside (ns ++ [name]))
      | .outside => .error .noEntry

/-- The place that a path leads to; its last name need not exist. -/
def locate (fs : Files) (path : String) : Except OsError Place :=
  if path = "" then .error .noEntry
  else if pathLimit ≤ path.utf8ByteSize then .error .nameTooLong
  else
    (names path).foldlM (fs.step) (if path.startsWith "/" then .outside else .inside [])

/-- What a path leads to. -/
def find (fs : Files) (path : String) : Except OsError FileNode := do
  let p ← fs.locate path
  match p.node? fs with
  | some n => .ok n
  | none => .error .noEntry

/-- Whether a path leads anywhere. -/
def «exists» (fs : Files) (path : String) : Bool := (fs.find path).toBool

/-- The content of a file. A path with a null in it is refused before anyone looks for it. -/
def read (fs : Files) (path : String) : Except IoError Bytes :=
  if path.toList.contains '\x00' then
    .error (.fixed .invalidInput "file name contained an unexpected NUL byte")
  else
    match fs.find path with
    | .error e => .error (.os e)
    | .ok (.file content) => .ok content
    | .ok .directory => .error (.os .isDirectory)
    | .ok (.socket _) => .error (.os .noDevice)

/-- Puts a node at some names, in place of one that is there. -/
def set (fs : Files) (ns : List String) (n : FileNode) : Files :=
  ⟨(ns, n) :: fs.nodes.filter fun e => e.1 != ns⟩

/-- Makes the directories that lead to some names. -/
def withParents (fs : Files) (ns : List String) : Files :=
  (List.range (ns.length - 1)).foldl
    (fun fs i => if (fs.nodeAt? (ns.take (i + 1))).isSome then fs
      else fs.set (ns.take (i + 1)) .directory) fs

/-- Adds a node with the directories that lead to it. -/
def add (fs : Files) (path : String) (n : FileNode) : Files :=
  let ns := (names path).filter fun s => s != "" && s != "."
  (fs.withParents ns).set ns n

/-- Makes the file of a domain socket, where nothing stands yet. -/
def bindSocket (fs : Files) (path : String) (listener : Nat) : Except OsError Files :=
  match fs.locate path with
  | .error e => .error e
  | .ok p =>
    match p.node? fs with
    | some _ => .error .addressInUse
    | none =>
      match p with
      | .inside ns =>
        match fs.nodeAt? ns.dropLast with
        | some .directory => .ok (fs.set ns (.socket listener))
        | some _ => .error .notDirectory
        | none => .error .noEntry
      | .outside => .error .addressInUse

/-- Removes what is not a directory. -/
def remove (fs : Files) (path : String) : Except OsError Files :=
  match fs.locate path with
  | .error e => .error e
  | .ok p =>
    match p, p.node? fs with
    | _, none => .error .noEntry
    | _, some .directory => .error .isDirectory
    | .inside ns, some _ => .ok ⟨fs.nodes.filter fun e => e.1 != ns⟩
    | .outside, some _ => .error .isDirectory

end Files

end StreamHost
