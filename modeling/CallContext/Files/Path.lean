/-!
# Paths

A `Path` is kept as it is written.  Two paths are the same for the program if they have the same
components: repeated and trailing slashes and dots in the middle do not count.  The order of paths
is that of their components, so a directory comes right before what is in it.
-/

namespace CallContext

/-- A path as it is written. -/
structure Path where
  text : String
deriving DecidableEq, Repr

/-- A part of a path. -/
inductive Component where
  /-- The slash at the beginning of an absolute path. -/
  | root
  /-- A dot at the beginning of a relative path. -/
  | current
  | parent
  | name (s : String)
deriving DecidableEq, Repr

namespace Component

/-- The text of a component. -/
def text : Component → String
  | root => "/"
  | current => "."
  | parent => ".."
  | name s => s

/-- Components of different kinds are ordered by this number. -/
def rank : Component → Nat
  | root => 0
  | current => 1
  | parent => 2
  | name _ => 3

/-- The order of components: by kind, then by name. -/
def compare (a b : Component) : Ordering :=
  (Ord.compare a.rank b.rank).then (Ord.compare a.text b.text)

end Component

/-- The parts of a text between the occurrences of a character. -/
def splitParts (mark : Char) : List Char → List (List Char)
  | [] => [[]]
  | c :: cs =>
    if c = mark then [] :: splitParts mark cs
    else
      match splitParts mark cs with
      | [] => [[c]]
      | part :: parts => (c :: part) :: parts

/-- Joins texts with something between them. -/
def joinTexts (between : String) : List String → String
  | [] => ""
  | [s] => s
  | s :: ss => s ++ between ++ joinTexts between ss

namespace Path

/-- The path starts at the root of the file system. -/
def isAbsolute (p : Path) : Bool := p.text.toList.head? = some '/'

/-- The parts between slashes. -/
def parts (p : Path) : List String := (splitParts '/' p.text.toList).map String.ofList

/-- Parts that do not count. -/
def isIdle (part : String) : Bool := part = "" || part = "."

/-- The component of a part that counts. -/
def component (part : String) : Component := if part = ".." then .parent else .name part

/-- The components that count. -/
def components (p : Path) : List Component :=
  match p.parts with
  | [] => []
  | first :: more =>
    let others := (more.filter (!isIdle ·)).map component
    if first = "" then
      if p.isAbsolute then .root :: others else others
    else if first = "." then .current :: others
    else component first :: others

/-- The shortest path with some components. -/
def ofComponents : List Component → Path
  | .root :: more => ⟨"/" ++ joinTexts "/" (more.map Component.text)⟩
  | cs => ⟨joinTexts "/" (cs.map Component.text)⟩

/-- Two paths have the same components. -/
def same (p q : Path) : Bool := p.components = q.components

/-- The order of lists of components: a shorter list comes before a longer one that it begins. -/
def compareComponents : List Component → List Component → Ordering
  | [], [] => .eq
  | [], _ :: _ => .lt
  | _ :: _, [] => .gt
  | a :: as, b :: bs => (a.compare b).then (compareComponents as bs)

/-- The order of paths. -/
def compare (p q : Path) : Ordering := compareComponents p.components q.components

/-- A path taken from a directory; an absolute path stays as it is. -/
def join (directory p : Path) : Path :=
  if p.isAbsolute then p
  else if directory.text = "" || directory.text.toList.getLast? = some '/' then
    ⟨directory.text ++ p.text⟩
  else ⟨directory.text ++ "/" ++ p.text⟩

/-- The directory that a path lies in. -/
def parent? (p : Path) : Option Path :=
  match p.components.getLast? with
  | none => none
  | some .root => none
  | some _ => some (ofComponents p.components.dropLast)

/-- The last component, if it is a name. -/
def fileName? (p : Path) : Option String :=
  match p.components.getLast? with
  | some (.name s) => some s
  | _ => none

/-- The name before its last dot and the part after it; a dot at the beginning does not count. -/
def splitExtension (name : String) : String × Option String :=
  match (splitParts '.' name.toList).reverse with
  | [] => (name, none)
  | last :: before =>
    let stem := joinTexts "." (before.reverse.map String.ofList)
    if stem = "" then (name, none) else (stem, some (String.ofList last))

/-- What stands after the last dot of the file name. -/
def extension? (p : Path) : Option String := p.fileName?.bind fun name => (splitExtension name).2

/-- The path with another extension; a path without a file name stays as it is. -/
def withExtension (p : Path) (extension : String) : Path :=
  match p.fileName? with
  | some name =>
    let changed := (splitExtension name).1 ++ "." ++ extension
    ofComponents (p.components.dropLast ++ [.name changed])
  | none => p

/-- The components of one path begin those of another. -/
def startsWith (p directory : Path) : Bool := directory.components.isPrefixOf p.components

/-- Drops the parts of `count` components. -/
def dropParts : Nat → List String → List String
  | 0, parts => parts
  | _, [] => []
  | count + 1, part :: parts =>
    if isIdle part then dropParts (count + 1) parts else dropParts count parts

/-- What remains of an absolute path behind a directory that it lies in. -/
def stripDirectory? (p directory : Path) : Option Path :=
  if p.startsWith directory then
    let rest := dropParts (directory.components.length - 1) p.parts.tail
    let trimmed := ((rest.dropWhile isIdle).reverse.dropWhile isIdle).reverse
    some ⟨joinTexts "/" trimmed⟩
  else none

/-- One more component of a path without dots: two dots take the component before them away, if
that is not the root. -/
def foldComponent (folded : List Component) : Component → List Component
  | .current => folded
  | .parent =>
    match folded.getLast? with
    | some (.name _) => folded.dropLast
    | _ => folded
  | c => folded ++ [c]

/-- The path without dots, as far as that can be said without looking at the files. -/
def normalize (p : Path) : Path := ofComponents (p.components.foldl foldComponent [])

end Path

end CallContext
