import Inventory.Files.Job

/-!
A disk as a plain value, and jobs that are run on it. Work is done in a folder of its own; all there
is beside it are the usual directories of a system, without files, and two devices: one swallows
whatever is written to it, the other has no room for anything.
-/

set_option autoImplicit false

namespace Inventory

/-- A location on a disk: the names that lead to it from the root, last first. -/
abbrev Location := List String

inductive Entry where
  | directory
  | nullDevice
  | fullDevice
  | file (content : Bytes)
deriving DecidableEq

structure Disk where
  files : List (Location × Bytes)
deriving DecidableEq

inductive Target where
  | directory
  | name (folder : Location) (name : String) (slashed : Bool)
deriving DecidableEq

namespace Disk

def workFolder : Location := ["work", "tmp"]

def directories : List Location :=
  [] :: workFolder ::
    ["bin", "boot", "dev", "etc", "home", "lib", "media", "mnt", "opt", "proc", "root", "run",
      "sbin", "srv", "sys", "tmp", "usr", "var"].map fun name => [name]

def devices : List (Location × Entry) :=
  [(["null", "dev"], .nullDevice), (["full", "dev"], .fullDevice)]

def ofFiles (files : List (String × Bytes)) : Disk :=
  ⟨files.map fun file => (file.1 :: workFolder, file.2)⟩

def entry? (disk : Disk) (location : Location) : Option Entry :=
  if directories.contains location then some .directory
  else
    match devices.find? fun device => device.1 = location with
    | some device => some device.2
    | none => (disk.files.find? fun file => file.1 = location).map fun file => .file file.2

def put (disk : Disk) (location : Location) (content : Bytes) : Disk :=
  ⟨(location, content) :: disk.files.filter fun file => file.1 ≠ location⟩

def isTooLong (name : String) : Bool := name.utf8ByteSize > 255

def enter (disk : Disk) (location : Location) (name : String) : Except Obstacle Location :=
  if name = "." then .ok location
  else if name = ".." then .ok location.tail
  else if isTooLong name then .error .nameTooLong
  else
    match disk.entry? (name :: location) with
    | some .directory => .ok (name :: location)
    | some _ => .error .notDirectory
    | none => .error .notFound

def walk (disk : Disk) (slashed : Bool) (location : Location) : List String → Except Obstacle Target
  | [] => .ok .directory
  | [last] => .ok (if last = "." || last = ".." then .directory else .name location last slashed)
  | name :: next :: rest =>
    match disk.enter location name with
    | .ok location => walk disk slashed location (next :: rest)
    | .error obstacle => .error obstacle

def follow (disk : Disk) (path : String) : Except Obstacle Target :=
  let pieces := path.toList.splitOnP (· == '/')
  let names := (pieces.filter fun piece => !piece.isEmpty).map String.ofList
  if path.isEmpty then .error .notFound
  else if path.toList.contains (Char.ofNat 0) then .error .badName
  else if path.utf8ByteSize > 4095 then .error .nameTooLong
  else
    let start := if path.toList.head? = some '/' then [] else workFolder
    disk.walk (path.toList.getLast? = some '/') start names

def read (disk : Disk) (path : String) : Except ReadFailure Bytes :=
  match disk.follow path with
  | .error obstacle => .error (.opening obstacle)
  | .ok .directory => .error (.reading .isDirectory)
  | .ok (.name folder name slashed) =>
    if isTooLong name then .error (.opening .nameTooLong)
    else
      match disk.entry? (name :: folder) with
      | none => .error (.opening .notFound)
      | some .directory => .error (.reading .isDirectory)
      | some (.file content) => if slashed then .error (.opening .notDirectory) else .ok content
      | some _ => if slashed then .error (.opening .notDirectory) else .ok []

def write (disk : Disk) (path : String) (content : Bytes) : Except WriteFailure Disk :=
  match disk.follow path with
  | .error obstacle => .error (.creating obstacle)
  | .ok .directory => .error (.creating .isDirectory)
  | .ok (.name folder name slashed) =>
    -- A file cannot be made with a slash behind its name, whatever is there.
    if slashed then .error (.creating .isDirectory)
    else if isTooLong name then .error (.creating .nameTooLong)
    else
      match disk.entry? (name :: folder) with
      | some .directory => .error (.creating .isDirectory)
      | some .nullDevice => .ok disk
      | some .fullDevice => .error (.storing .noSpace)
      | _ => .ok (disk.put (name :: folder) content)

end Disk

structure Aftermath (α : Type) where
  result : α
  disk : Disk
  printed : List String
  warned : List String

namespace Job

def runOn {α : Type} : Job α → Disk → Aftermath α
  | done result, disk => ⟨result, disk, [], []⟩
  | read path next, disk => (next (disk.read path)).runOn disk
  | write path content next, disk =>
    match disk.write path content with
    | .ok disk => (next (.ok ())).runOn disk
    | .error failure => (next (.error failure)).runOn disk
  | print line next, disk =>
    let after := next.runOn disk
    { after with printed := line :: after.printed }
  | warn line next, disk =>
    let after := next.runOn disk
    { after with warned := line :: after.warned }

end Job

end Inventory
