import CallContext.CommandLine.Run

/-!
# The program

The files that a command can ask for are read from the disk into a `FileSystem`; then
`CommandLine.run` does the work, and what it says is printed and written.
-/

namespace CallContext

namespace Disk

/-- What is in a file with these bytes. -/
def contentOf (bytes : ByteArray) : Content :=
  match String.fromUTF8? bytes with
  | some s => .text s
  | none => .bytes bytes.size

/-- Reads an entry of a directory, with everything below it if `whole`.  A link leads to where it
ends; one that leads nowhere is left out. -/
partial def readEntry (whole : Bool) (entry : IO.FS.DirEntry) : IO (Option FileTree) := do
  try
    match (← entry.path.symlinkMetadata).type with
    | .file => return some (.file (contentOf (← IO.FS.readBinFile entry.path)))
    | .symlink => return some (.link ⟨(← IO.FS.realPath entry.path).toString⟩)
    | .dir =>
      let inner ← if whole then entry.path.readDir else pure #[]
      let entries ← inner.toList.filterMapM fun e => do
        return (← readEntry whole e).map (e.fileName, ·)
      return some (.directory entries)
    | .other => return none
  catch _ => return none

/-- The targets of the links in some entries. -/
def linkTargets : Entries → List Path
  | [] => []
  | (_, .link target) :: more => target :: linkTargets more
  | (_, .directory inner) :: more => linkTargets inner ++ linkTargets more
  | (_, .file _) :: more => linkTargets more

/-- The names on the way to a path without dots and links. -/
def namesOf (path : Path) : List String := path.parts.filter fun part => !Path.isIdle part

/-- Adds what stands at a path of the disk, and what its links lead to. -/
partial def add (whole : Bool) (fs : FileSystem) (path : Path) : IO FileSystem := do
  try
    let real ← IO.FS.realPath path.text
    match real.parent, real.fileName with
    | some directory, some name =>
      match ← readEntry whole ⟨directory, name⟩ with
      | none => return fs
      | some tree =>
        let place : Path := ⟨real.toString⟩
        let fs := fs.set (namesOf place) (some tree)
        let fs := if fs.exists? path then fs else (fs.placeLink path place).toOption.getD fs
        (linkTargets [(name, tree)]).foldlM (fun fs target =>
          if fs.exists? target then return fs else add whole fs target) fs
    | _, _ => return fs
  catch _ => return fs

/-- Adds the paths that are not there yet, without what is below them. -/
def addMissing (fs : FileSystem) (paths : List Path) : IO FileSystem :=
  paths.foldlM (fun fs path => if fs.exists? path then return fs else add false fs path) fs

/-- The paths that a command names. -/
def pathsOf : Arguments.Command → List Path
  | .elements path => [path]
  | .callers _ => []
  | .analyze path _ _ none => [path]
  | .analyze path _ _ (some file) =>
    [path, ((file.parent?.filter (·.text ≠ "")).getD ⟨"."⟩), file]

/-- The file system that a request sees. -/
def load : Arguments.Request → IO FileSystem
  | .run options command => do
    let here : Path := ⟨(← IO.FS.realPath ".").toString⟩
    let start : FileSystem := ⟨[], namesOf here, rfl⟩
    let fs ← add true (start.set (namesOf here) (some (.directory []))) options.root
    addMissing fs (pathsOf command)
  | _ => return ⟨[], [], rfl⟩

end Disk

end CallContext

open CallContext in
/-- Runs the program. -/
def main (arguments : List String) : IO UInt32 := do
  let files ← match Arguments.parse? arguments with
    | some request => Disk.load request
    | none => pure ⟨[], [], rfl⟩
  let effect := CommandLine.run files arguments
  if let some (path, text) := effect.written then
    IO.FS.writeFile path.text text
  (← IO.getStdout).putStr effect.stdout
  (← IO.getStderr).putStr effect.stderr
  return UInt32.ofNat effect.code
