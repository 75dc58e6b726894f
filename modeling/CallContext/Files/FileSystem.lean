import CallContext.Files.Path

/-!
# File systems

A `FileSystem` is a value: a tree of directories, files and symbolic links, with a current
directory.  The entries of its directories have different names (`FileSystem.wellNamed`).  A path
is followed part by part (`FileSystem.resolve`); links on the way are replaced by their targets, at
most 40 of them.
-/

namespace CallContext

/-- Why a file cannot be used. -/
inductive FileError where
  | notFound
  /-- Something on the way is no directory. -/
  | notDirectory
  | isDirectory
  | tooManyLinks
  /-- The bytes of the file are no text. -/
  | notText
deriving DecidableEq, Repr

/-- The words for a failure. -/
def FileError.message : FileError → String
  | notFound => "No such file or directory (os error 2)"
  | notDirectory => "Not a directory (os error 20)"
  | isDirectory => "Is a directory (os error 21)"
  | tooManyLinks => "Too many levels of symbolic links (os error 40)"
  | notText => "stream did not contain valid UTF-8"

/-- What is in a file. -/
inductive Content where
  | text (s : String)
  /-- Bytes that are not the UTF-8 form of a text. -/
  | bytes (size : Nat)
deriving DecidableEq, Repr

/-- The size in bytes. -/
def Content.size : Content → Nat
  | text s => s.utf8ByteSize
  | bytes n => n

/-- What stands under a name in a directory. -/
inductive FileTree where
  | file (content : Content)
  | directory (entries : List (String × FileTree))
  | link (target : Path)

/-- The entries of a directory. -/
abbrev Entries := List (String × FileTree)

namespace FileTree

/-- A name that an entry can have. -/
def isName (s : String) : Bool := !Path.isIdle s && s ≠ ".." && !s.toList.contains '/'

mutual

/-- The entries in the tree have names that entries can have, different ones in each directory. -/
def isWellNamed : FileTree → Bool
  | .file _ => true
  | .directory entries => areWellNamed entries
  | .link _ => true

/-- The entries of a directory have different names, and so on inside. -/
def areWellNamed : List (String × FileTree) → Bool
  | [] => true
  | (name, tree) :: more =>
    isName name && more.all (·.1 ≠ name) && isWellNamed tree && areWellNamed more

end

/-- Puts something under a name, or takes the name away. -/
def setEntry (name : String) (tree : Option FileTree) : Entries → Entries
  | [] =>
    match tree with
    | some t => [(name, t)]
    | none => []
  | (n, old) :: more =>
    if n = name then
      match tree with
      | some t => (n, t) :: more
      | none => more
    else (n, old) :: setEntry name tree more

/-- The entries of the directory under a name; none if there is no such directory. -/
def entriesAt (name : String) (entries : Entries) : Entries :=
  match entries.lookup name with
  | some (.directory inner) => inner
  | _ => []

/-- Puts something under a way of names, or takes it away; directories on the way are made. -/
def set (tree : Option FileTree) : List String → Entries → Entries
  | [], entries => entries
  | [name], entries => setEntry name tree entries
  | name :: more, entries =>
    setEntry name (some (.directory (set tree more (entriesAt name entries)))) entries

end FileTree

/-- A tree of files with a current directory. -/
structure FileSystem where
  /-- The entries of the root directory. -/
  entries : Entries
  /-- The names on the way from the root to the current directory. -/
  current : List String
  wellNamed : FileTree.areWellNamed entries = true

namespace FileSystem

/-- A directory with all directories above it: names and entries, the innermost first. -/
abbrev Chain := List (String × Entries)

/-- The names on the way to a directory. -/
def chainNames (chain : Chain) : List String := (chain.map (·.1)).reverse.tail

/-- The entries of a directory. -/
def chainEntries (chain : Chain) : Entries := (chain.head?.map (·.2)).getD []

/-- The directory above; the root stays. -/
def leave : Chain → Chain
  | _ :: above :: more => above :: more
  | chain => chain

/-- Where a path leads to if links are not followed. -/
inductive Step where
  /-- The file or directory at the end of some names. -/
  | arrived (names : List String) (tree : FileTree)
  /-- A link that stands in a directory, with the parts of the path after it. -/
  | atLink (directory : Chain) (target : Path) (rest : List String)
  /-- A name that the directory does not have, with the parts of the path after it. -/
  | absent (names : List String) (rest : List String)
  /-- A file where a directory should be. -/
  | blocked

/-- Follows the parts of a path from a directory up to the first link. -/
def follow (chain : Chain) : List String → Step
  | [] => .arrived (chainNames chain) (.directory (chainEntries chain))
  | part :: rest =>
    if Path.isIdle part then follow chain rest
    else if part = ".." then follow (leave chain) rest
    else
      match (chainEntries chain).lookup part with
      | none => .absent (chainNames chain ++ [part]) rest
      | some (.directory inner) => follow ((part, inner) :: chain) rest
      | some (.link target) => .atLink chain target rest
      | some (.file content) =>
        if rest.isEmpty then .arrived (chainNames chain ++ [part]) (.file content) else .blocked

/-- The root directory. -/
def rootChain (fs : FileSystem) : Chain := [("", fs.entries)]

/-- Follows the parts of a path from a directory, and at most `links` links. -/
def followLinks (fs : FileSystem) : (links : Nat) → Chain → List String → Except FileError Step
  | 0, chain, parts =>
    match follow chain parts with
    | .atLink .. => .error .tooManyLinks
    | step => .ok step
  | links + 1, chain, parts =>
    match follow chain parts with
    | .atLink directory target rest =>
      let start := if target.isAbsolute then fs.rootChain else directory
      followLinks fs links start (target.parts ++ rest)
    | step => .ok step

/-- The path from the root along some names. -/
def absolute (names : List String) : Path := ⟨"/" ++ joinTexts "/" names⟩

/-- Where a path leads to: from the root, along the current directory if it is relative. -/
def reach (fs : FileSystem) (p : Path) : Except FileError Step :=
  if p.text = "" then .error .notFound
  else
    fs.followLinks 40 fs.rootChain
      (if p.isAbsolute then p.parts else (absolute fs.current).parts ++ p.parts)

/-- The file or directory that a path leads to, with the names on the way from the root. -/
def resolve (fs : FileSystem) (p : Path) : Except FileError (List String × FileTree) :=
  match fs.reach p with
  | .error e => .error e
  | .ok (.arrived names tree) => .ok (names, tree)
  | .ok .blocked => .error .notDirectory
  | .ok _ => .error .notFound

theorem isAbsolute_absolute (names : List String) : (absolute names).isAbsolute = true := by
  simp [absolute, Path.isAbsolute]

/-- The path without dots and links. -/
def canonicalize (fs : FileSystem) (p : Path) : Except FileError Path :=
  match fs.resolve p with
  | .ok (names, _) => .ok (absolute names)
  | .error e => .error e

theorem isAbsolute_of_canonicalize {fs : FileSystem} {p q : Path}
    (h : fs.canonicalize p = .ok q) : q.isAbsolute = true := by
  unfold canonicalize at h
  split at h
  · cases h
    exact isAbsolute_absolute _
  · cases h

/-- Something is there. -/
def exists? (fs : FileSystem) (p : Path) : Bool :=
  match fs.resolve p with
  | .ok _ => true
  | .error _ => false

def isFile (fs : FileSystem) (p : Path) : Bool :=
  match fs.resolve p with
  | .ok (_, .file _) => true
  | _ => false

def isDirectory (fs : FileSystem) (p : Path) : Bool :=
  match fs.resolve p with
  | .ok (_, .directory _) => true
  | _ => false

/-- The text of a file. -/
def read (fs : FileSystem) (p : Path) : Except FileError String :=
  match fs.resolve p with
  | .error e => .error e
  | .ok (_, .file (.text s)) => .ok s
  | .ok (_, .file (.bytes _)) => .error .notText
  | .ok _ => .error .isDirectory

/-- Puts something under a way of names; nothing changes if they are no names for entries. -/
def set (fs : FileSystem) (names : List String) (tree : Option FileTree) : FileSystem :=
  let entries := FileTree.set tree names fs.entries
  if h : FileTree.areWellNamed entries = true then ⟨entries, fs.current, h⟩ else fs

/-- Writes a file; the directory has to be there. -/
def write (fs : FileSystem) (p : Path) (s : String) : Except FileError FileSystem :=
  match fs.reach p with
  | .error e => .error e
  | .ok (.arrived names (.file _)) => .ok (fs.set names (some (.file (.text s))))
  | .ok (.arrived ..) => .error .isDirectory
  | .ok .blocked => .error .notDirectory
  | .ok (.absent names rest) =>
    if rest.isEmpty then .ok (fs.set names (some (.file (.text s))))
    else if rest.all (· = "") then .error .isDirectory
    else .error .notFound
  | .ok (.atLink ..) => .error .tooManyLinks

/-- Where something new at a path would stand: links on the way are followed, and directories that
are missing are counted as there. -/
def wayTo (fs : FileSystem) (p : Path) : Except FileError (List String) :=
  match fs.reach p with
  | .error e => .error e
  | .ok (.arrived names _) => .ok names
  | .ok .blocked => .error .notDirectory
  | .ok (.absent names rest) => .ok (names ++ rest.filter fun part => !Path.isIdle part)
  | .ok (.atLink ..) => .error .tooManyLinks

/-- Puts a file or a directory at a path and makes the directories above it.  A directory that is
there already stays. -/
def place (fs : FileSystem) (p : Path) (tree : FileTree) : Except FileError FileSystem :=
  match fs.wayTo p with
  | .error e => .error e
  | .ok names =>
    match tree with
    | .directory _ => if fs.isDirectory p then .ok fs else .ok (fs.set names (some tree))
    | _ => .ok (fs.set names (some tree))

/-- The names on the way to what stands at a path itself, which may be a link. -/
def ownWay (fs : FileSystem) (p : Path) : Except FileError (List String) :=
  match p.fileName? with
  | none => .error .notFound
  | some name =>
    let above := ((p.parent?.filter (·.text ≠ "")).getD ⟨"."⟩)
    (fs.wayTo above).map (· ++ [name])

/-- Puts a symbolic link at a path. -/
def placeLink (fs : FileSystem) (p target : Path) : Except FileError FileSystem :=
  (fs.ownWay p).map fun names => fs.set names (some (.link target))

/-- Takes away what stands at a path. -/
def remove (fs : FileSystem) (p : Path) : Except FileError FileSystem :=
  (fs.ownWay p).map fun names => fs.set names none

end FileSystem

end CallContext
