import CallContext.Files.FileSystem
import CallContext.Model.Error
import CallContext.Model.Sorted
import CallContext.Project.Settings

/-!
# Projects

A `Project` is a directory with the settings of its scan.  It holds no files: every question is
asked of a file system.

* `Project.sourceFiles` lists the files that are scanned,
* `Project.locate` finds the file that a path means,
* `Project.resolveModule` finds the file of an imported module.
-/

namespace CallContext

/-- A directory of source files. -/
structure Project where
  /-- The directory, as an absolute path without dots and links. -/
  root : Path
  isAbsolute_root : root.isAbsolute = true
  scan : ScanSettings
deriving DecidableEq, Repr

namespace Project

/-- The project at a path, which has to be a directory. -/
def load (fs : FileSystem) (root : Path) (scan : ScanSettings) : Except AnalysisError Project :=
  match canonical : fs.canonicalize root with
  | .error e => .error (.io root e.message)
  | .ok path =>
    if fs.isDirectory path then
      .ok ⟨path, FileSystem.isAbsolute_of_canonicalize canonical, scan⟩
    else .error (.io path "not a directory")

/-! ### Source files -/

/-- A file that a scan has met. -/
structure Found where
  path : Path
  size : Nat
deriving DecidableEq, Repr

/-- The scan does not enter directories of this name. -/
def excludes (p : Project) (name : String) : Bool := p.scan.excludedDirectories.contains name

/-- A directory on the way of a scan: its path, and the names on the way to where it really is. -/
structure Visit where
  path : Path
  names : List String

/-- What a link leads to in a scan.  Directories that the scan is inside of already, those of
`inside`, are left out; other directories are scanned by `enter`. -/
def scanLink (p : Project) (fs : FileSystem)
    (enter : List (List String) → Visit → Entries → List Found)
    (inside : List (List String)) (path : Path) (name : String) : List Found :=
  if p.scan.followLinks then
    match fs.resolve path with
    | .ok (_, .file content) => [⟨path, content.size⟩]
    | .ok (names, .directory entries) =>
      if inside.contains names || p.excludes name then []
      else enter inside ⟨path, names⟩ entries
    | _ => []
  else []

mutual

/-- The files at an entry of a directory. -/
def scanTree (p : Project) (fs : FileSystem)
    (enter : List (List String) → Visit → Entries → List Found)
    (inside : List (List String)) (path : Path) (names : List String) (name : String) :
    FileTree → List Found
  | .file content => [⟨path, content.size⟩]
  | .directory entries =>
    if p.excludes name then []
    else scanEntries p fs enter (names :: inside) ⟨path, names⟩ entries
  | .link _ => p.scanLink fs enter inside path name

/-- The files at the entries of a directory. -/
def scanEntries (p : Project) (fs : FileSystem)
    (enter : List (List String) → Visit → Entries → List Found)
    (inside : List (List String)) (visit : Visit) : List (String × FileTree) → List Found
  | [] => []
  | (name, tree) :: more =>
    scanTree p fs enter inside (visit.path.join ⟨name⟩) (visit.names ++ [name]) name tree ++
      scanEntries p fs enter inside visit more

end

/-- The files in a directory, where at most `links` links are followed one after the other. -/
def scanDirectory (p : Project) (fs : FileSystem) :
    (links : Nat) → List (List String) → Visit → Entries → List Found
  | 0, inside, visit, entries =>
    scanEntries p fs (fun _ _ _ => []) (visit.names :: inside) visit entries
  | links + 1, inside, visit, entries =>
    scanEntries p fs (scanDirectory p fs links) (visit.names :: inside) visit entries

/-- A file counts as a source file. -/
def accepts (p : Project) (f : Found) : Bool :=
  f.path.extension?.any p.scan.extensions.contains && f.size ≤ p.scan.effectiveMaxFileBytes

/-- The source files of the project, in increasing order. -/
def sourceFiles (p : Project) (fs : FileSystem) : List Path :=
  match fs.resolve p.root with
  | .ok (names, .directory entries) =>
    let found := p.scanDirectory fs 40 [] ⟨p.root, names⟩ entries
    sortStable Path.compare ((found.filter p.accepts).map (·.path))
  | _ => []

/-! ### Paths -/

/-- The file that a path means: one in the project if there is one, else as it is written. -/
def locate (p : Project) (fs : FileSystem) (path : Path) : Path :=
  let candidate :=
    if path.isAbsolute then path
    else if fs.exists? (p.root.join path) then p.root.join path
    else path
  match fs.canonicalize candidate with
  | .ok canonical => canonical
  | .error _ => candidate

/-- The path from the root of the project; a path outside stays as it is. -/
def relativePath (p : Project) (path : Path) : Path := (path.stripDirectory? p.root).getD path

/-- The path lies in the project. -/
def contains (p : Project) (path : Path) : Bool := path.startsWith p.root

/-! ### Imported modules -/

/-- The relative path of a module: the parts of the reference between dots. -/
def modulePath (reference : String) : Path :=
  let parts := splitParts '.' (reference.toList.dropWhile (· = '.'))
  (parts.filter (!·.isEmpty)).foldl (fun path part => path.join ⟨String.ofList part⟩) ⟨""⟩

/-- The files that a module can be: one of its name, or the beginning of a package. -/
def candidates (base relative : Path) : List Path :=
  let target := base.join relative
  let package := target.join ⟨"__init__.py"⟩
  if relative.text = "" then [package] else [target.withExtension "py", package]

/-- The first file in the project that a module can be. -/
def probe (p : Project) (fs : FileSystem) (base relative : Path) : Option Path :=
  ((candidates base relative).find? fun c => fs.isFile c && p.contains c.normalize).map
    Path.normalize

/-- Goes up from a path to the directory above it, `count` times. -/
def climb : (count : Nat) → Path → Option Path
  | 0, path => some path
  | count + 1, path => path.parent?.bind (climb count)

/-- The file that a reference with `level` dots means in a module.  Without dots the reference is
looked up from the root of the project, then from the directory of the module; the first dot means
that directory, and each further dot the one above. -/
def resolveModule (p : Project) (fs : FileSystem) (reference : String) (level : Nat)
    (importer : Path) : Option Path :=
  let relative := modulePath reference
  if 0 < level then (climb level importer).bind fun base => p.probe fs base relative
  else if relative.text = "" then none
  else
    p.probe fs p.root relative <|>
      importer.parent?.bind fun directory => p.probe fs directory relative

end Project

end CallContext
