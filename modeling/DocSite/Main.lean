import DocSite.CommandLine.Run

/-! The program. It takes the files below the current directory, and below the
directories of the paths that its line names, as they are; carries out the line on
them; and writes back the files that are new or changed. -/

namespace DocSite.CommandLine

def partsOf (path : String) : List String := (Path.ofString path).parts

/-- Adds what stands at a place and below it to a tree. -/
partial def takeIn (t : FileTree) (place : List String) : IO FileTree := do
  let path := (← IO.currentDir) / ("/" ++ "/".intercalate place)
  if ← path.isDir then
    let entries ← path.readDir
    entries.foldlM (fun t e => takeIn t (place ++ [e.fileName])) (t.putDirectories place)
  else if ← path.pathExists then
    let content ← IO.FS.readBinFile path
    return (t.putDirectories place.dropLast).putFile place content.toList
  else return t

def Command.paths : Command → List Path
  | .publish doclets destination config readme tutorials template _ _ _ =>
    [doclets, destination] ++ [config, readme, tutorials, template].filterMap id
  | .toc doclets _ _ => [doclets]

/-- The places that a line may read from, apart from those below the current directory. -/
def placesOf (t : FileTree) (words : List String) : List (List String) :=
  match parse words with
  | .error _ => []
  | .ok command =>
    let places := command.paths.map fun p =>
      if p.isAbsolute || p.parts.contains ".." then (t.resolve p).dropLast else t.current
    (places.filter fun place => !place.isEmpty && !t.current.isPrefixOf place).eraseDups

def snapshot (words : List String) : IO FileTree := do
  let current := partsOf (← IO.currentDir).toString
  let bare : FileTree := { entries := [], current }
  let t ← takeIn bare current
  return Template.install (← (placesOf t words).foldlM takeIn t)

def writeBack (before after : FileTree) : IO Unit := do
  for (place, entry) in after.entries do
    if before.entryAt? place != some entry then
      let path := "/" ++ "/".intercalate place
      match entry with
      | .directory => IO.FS.createDirAll path
      | .file content => IO.FS.writeBinFile path (ByteArray.mk content.toArray)

def environment : IO Config.Environment := do
  let names := [Config.sourcesVariable, Config.encodingVariable, Config.titleVariable,
    Config.pathsVariable]
  return (← names.mapM fun name => return (← IO.getEnv name).map (name, ·)).filterMap id

def Crash.message : Crash → String
  | .build (.index e) => e.message
  | .build (.link e) => e.message
  | .build (.text e) => e.message
  | .build .unfinished => "the index is not finished"
  | .build (.view _) => "a view could not be shown"
  | .build (.raised _ message) => message
  | .build (.reference e) => e.message
  | .config e => e.message
  | .doclets e => e.message
  | .tutorials e => e.message
  | .outside written _ => written.text ++ " is not in the destination"

end DocSite.CommandLine

open DocSite.CommandLine

def main (words : List String) : IO UInt32 := do
  let before ← snapshot words
  let outcome := run words (← environment) before
  writeBack before outcome.files
  match outcome.ending with
  | .exit code output =>
    IO.print output
    return UInt32.ofNat code
  | .crash cause =>
    IO.eprintln cause.message
    return 1
