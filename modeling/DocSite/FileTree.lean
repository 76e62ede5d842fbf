import DocSite.Dict
import DocSite.Path
import DocSite.Text.Quoted
import DocSite.Text.Utf8

/-! A tree of files, and the operations on it that a run makes: reading, writing,
making directories, copying. An operation that fails names the cause and the
path as it was given. Places in the tree are lists of names from the root. A run
has a current directory, where relative paths begin.

The tree lies on a device, which may refuse what a path allows (no permission, no room
for an entry) or break off a write when the file is open and empty already. Left out
are symbolic links, so that a path is resolved by its parts alone; directories and
files that may not be read; paths that hold lone surrogates; and the times and
permissions that a copy takes along. -/

namespace DocSite

open Text (Bytes)

/-- What stands at a place in the tree. -/
inductive FileEntry
  | file (content : Bytes)
  | directory
deriving DecidableEq, Repr

/-- Why a device does not take what a path allows. -/
inductive DeviceFault
  | failing
  | denied
  | tooLarge
  | noSpace
  | readOnly
  | quota
deriving DecidableEq, Repr

namespace DeviceFault

def number : DeviceFault → Nat
  | .failing => 5
  | .denied => 13
  | .tooLarge => 27
  | .noSpace => 28
  | .readOnly => 30
  | .quota => 122

def wording : DeviceFault → String
  | .failing => "Input/output error"
  | .denied => "Permission denied"
  | .tooLarge => "File too large"
  | .noSpace => "No space left on device"
  | .readOnly => "Read-only file system"
  | .quota => "Disk quota exceeded"

end DeviceFault

/-- What a device makes of the entries that it has and a place. It may refuse to open a file for
writing or to make a directory there, and it may break off after some of the bytes of a file. -/
structure Device where
  refuses? : Dict (List String) FileEntry → List String → Option DeviceFault
  breaksOff? : Dict (List String) FileEntry → List String → Bytes → Option (Nat × DeviceFault)

/-- A device that takes everything. -/
def Device.sound : Device := ⟨fun _ _ => none, fun _ _ _ => none⟩

/-- Files and directories by place, the current directory, and the device that they are on.
The root is a directory without an entry. -/
structure FileTree where
  entries : Dict (List String) FileEntry
  current : List String
  device : Device := .sound

/-- No files, seen from the root. -/
def FileTree.empty : FileTree := { entries := [], current := [] }

inductive PathFault
  | notFound
  | fileExists
  | notDirectory
  | isDirectory
  | nameTooLong
deriving DecidableEq, Repr

namespace PathFault

def number : PathFault → Nat
  | .notFound => 2
  | .fileExists => 17
  | .notDirectory => 20
  | .isDirectory => 21
  | .nameTooLong => 36

def wording : PathFault → String
  | .notFound => "No such file or directory"
  | .fileExists => "File exists"
  | .notDirectory => "Not a directory"
  | .isDirectory => "Is a directory"
  | .nameTooLong => "File name too long"

end PathFault

/-- Why an operation on files failed. Source and target of a copy onto itself are
kept as they are shown. A write that is broken off does not tell its path. A path with
a null character is no path. -/
inductive FileError
  | refused (fault : PathFault) (path : String)
  | denied (fault : DeviceFault) (path : String)
  | brokenOff (fault : DeviceFault)
  | sameFile (source target : String)
  | nullCharacter
deriving DecidableEq, Repr

namespace FileError

/-- An error of the system by its number. -/
def numbered (number : Nat) (wording : String) : String :=
  "[Errno " ++ toString number ++ "] " ++ wording

def message : FileError → String
  | .refused fault path => numbered fault.number fault.wording ++ ": " ++ Text.quoted path
  | .denied fault path => numbered fault.number fault.wording ++ ": " ++ Text.quoted path
  | .brokenOff fault => numbered fault.number fault.wording
  | .sameFile source target => source ++ " and " ++ target ++ " are the same file"
  | .nullCharacter => "embedded null byte"

/-- Whether the file system failed the operation, so that a run goes on without it. -/
def isRefusal : FileError → Bool
  | .nullCharacter => false
  | _ => true

end FileError

/-- An operation that may change the tree and may fail. What it did before it
failed stays done. -/
abbrev FileM := ExceptT FileError (StateM FileTree)

namespace FileTree

def nameLimit : Nat := 255

/-- The number of bytes that the text of a path must stay below. -/
def pathLimit : Nat := 4096

variable (t : FileTree)

def entryAt? (place : List String) : Option FileEntry :=
  if place.isEmpty then some .directory else t.entries.get? place

/-- Goes from a directory along the parts of a path, and tells the place that they
lead to and what stands there. Only the last part may lead to nothing. -/
def walk (place : List String) : List String → Except PathFault (List String × Option FileEntry)
  | [] => .ok (place, some .directory)
  | part :: rest =>
    if part == ".." then walk place.dropLast rest
    else if nameLimit < part.utf8ByteSize then .error .nameTooLong
    else
      let next := place ++ [part]
      match t.entryAt? next with
      | some .directory => walk next rest
      | some (.file content) =>
        if rest.isEmpty then .ok (next, some (.file content)) else .error .notDirectory
      | none => if rest.isEmpty then .ok (next, none) else .error .notFound

/-- The place at which a path begins. -/
def startOf (p : Path) : List String := if p.isAbsolute then [] else t.current

def locate (p : Path) : Except PathFault (List String × Option FileEntry) :=
  if pathLimit ≤ p.text.utf8ByteSize then .error .nameTooLong else t.walk (t.startOf p) p.parts

/-- The place that a path names when every double point goes back by one part. -/
def resolve (p : Path) : List String :=
  p.parts.foldl (fun place part => if part == ".." then place.dropLast else place ++ [part])
    (t.startOf p)

def hasNull (p : Path) : Bool := p.parts.any fun part => part.toList.contains '\x00'

/-- The place that a path names, unless it is no path. -/
def resolve? (p : Path) : Except FileError (List String) :=
  if hasNull p then .error .nullCharacter else .ok (t.resolve p)

/-- What a path leads to, if anything. Only a name that is too long is an error. -/
def find? (p : Path) : Except FileError (Option FileEntry) :=
  if hasNull p then .ok none
  else match t.locate p with
    | .ok (_, entry) => .ok entry
    | .error .nameTooLong => .error (.refused .nameTooLong p.text)
    | .error _ => .ok none

def isFile (p : Path) : Except FileError Bool :=
  return match ← t.find? p with
    | some (.file _) => true
    | _ => false

def isDirectory (p : Path) : Except FileError Bool :=
  return match ← t.find? p with
    | some .directory => true
    | _ => false

def read (p : Path) : Except FileError Bytes :=
  if hasNull p then .error .nullCharacter
  else match t.locate p with
    | .error fault => .error (.refused fault p.text)
    | .ok (_, none) => .error (.refused .notFound p.text)
    | .ok (_, some .directory) => .error (.refused .isDirectory p.text)
    | .ok (_, some (.file content)) => .ok content

/-- The place of the file that a path leads to, or at which one may be made. -/
def writablePlace (p : Path) : Except FileError (List String) :=
  if hasNull p then .error .nullCharacter
  else match t.locate p with
    | .error fault => .error (.refused fault p.text)
    | .ok (_, some .directory) => .error (.refused .isDirectory p.text)
    | .ok (place, _) => .ok place

def putFile (place : List String) (content : Bytes) : FileTree :=
  { t with entries := t.entries.put place (.file content) }

/-- The tree with directories at a place and at all places that it is in. -/
def putDirectories (place : List String) : FileTree :=
  let add (entries : Dict (List String) FileEntry) (n : Nat) :=
    entries.putNew (place.take (n + 1)) .directory
  { t with entries := (List.range place.length).foldl add t.entries }

/-- The names in the directory at a place. -/
def namesAt (place : List String) : List String :=
  t.entries.filterMap fun (key, _) =>
    match place.isPrefixOf? key with
    | some [name] => some name
    | _ => none

/-- What stands below a place: the parts that lead there, and the entry. -/
def below (place : List String) : List (List String × FileEntry) :=
  t.entries.filterMap fun (key, entry) =>
    match place.isPrefixOf? key with
    | some (part :: parts) => some (part :: parts, entry)
    | _ => none

@[simp] theorem entryAt?_root : t.entryAt? [] = some .directory := rfl

/-- Putting a file changes what stands at its place, unless that is the root, and
nothing else. -/
theorem entryAt?_putFile {place : List String} (h : place ≠ []) (content : Bytes)
    (other : List String) :
    (t.putFile place content).entryAt? other =
      if place = other then some (.file content) else t.entryAt? other := by
  unfold entryAt? putFile
  by_cases ho : other = []
  · subst ho; simp [h]
  · simp [ho, Dict.get?_put]

@[simp] theorem current_putFile (place : List String) (content : Bytes) :
    (t.putFile place content).current = t.current := rfl

end FileTree

namespace FileM

/-- Reads what depends on the tree. -/
def reading {α : Type} (f : FileTree → Except FileError α) : FileM α := do
  match f (← get) with
  | .ok a => return a
  | .error e => throw e

/-- Opens a file whose directory is there for writing, which leaves it empty, and tells its
place. -/
def openFile (p : Path) : FileM (List String) := do
  let place ← reading (·.writablePlace p)
  let t ← get
  match t.device.refuses? t.entries place with
  | some fault => throw (.denied fault p.text)
  | none =>
    set (t.putFile place [])
    return place

/-- Fills the open file at a place, as far as the device takes the bytes. -/
def fill (place : List String) (content : Bytes) : FileM Unit := do
  let t ← get
  match t.device.breaksOff? t.entries place content with
  | some (taken, fault) =>
    set (t.putFile place (content.take taken))
    throw (.brokenOff fault)
  | none => set (t.putFile place content)

def write (p : Path) (content : Bytes) : FileM Unit := do
  let place ← openFile p
  fill place content

def makeDirectory (p : Path) : FileM Unit := do
  if FileTree.hasNull p then throw .nullCharacter
  let t ← get
  match t.locate p with
  | .error fault => throw (.refused fault p.text)
  | .ok (_, some _) => throw (.refused .fileExists p.text)
  | .ok (place, none) =>
    match t.device.refuses? t.entries place with
    | some fault => throw (.denied fault p.text)
    | none => set { t with entries := t.entries.put place .directory }

/-- Whether an operation failed because a directory is missing. -/
def isNotFound : FileError → Bool
  | .refused .notFound _ => true
  | _ => false

/-- Makes one directory, unless it is there. -/
def ensureDirectory (p : Path) : FileM Unit :=
  tryCatch (makeDirectory p) fun e => do
    if isNotFound e || !e.isRefusal then throw e
    if ← reading (·.isDirectory p) then return else throw e

/-- Makes the directory whose parts are given in reverse order, and those that it
is in. -/
def makeDirectoriesFrom (start : PathStart) : List String → FileM Unit
  | [] => ensureDirectory ⟨start, []⟩
  | part :: parents => do
    let p : Path := ⟨start, (part :: parents).reverse⟩
    tryCatch (ensureDirectory p) fun e => do
      if isNotFound e then
        makeDirectoriesFrom start parents
        ensureDirectory p
      else throw e

/-- Makes a directory and those that it is in, as far as they are not there. -/
def makeDirectories (p : Path) : FileM Unit := makeDirectoriesFrom p.start p.parts.reverse

/-- A path as an error about a copy shows it. -/
def shownPath (p : Path) : String := "PosixPath(" ++ Text.quoted p.text ++ ")"

/-- Copies a file to a path, or into the directory that the path leads to. -/
def copy (source target : Path) : FileM Unit := do
  let t ← get
  let into := (t.isDirectory target).toOption.getD false
  let goal := if into then target.child source.name else target
  let samePlace := match t.locate source, t.locate goal with
    | .ok (a, some _), .ok (b, some _) => a == b
    | _, _ => false
  if samePlace then
    throw (.sameFile (shownPath source) (if into then Text.quoted goal.text else shownPath goal))
  let content ← reading (·.read source)
  write goal content

end FileM

end DocSite
