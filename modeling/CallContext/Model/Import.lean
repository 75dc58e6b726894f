import CallContext.Files.Path

/-!
# Imports
-/

namespace CallContext

/-- What an import takes from a module. -/
inductive ImportKind where
  /-- The module as a whole. -/
  | wholeModule
  /-- Some of its names. -/
  | names
  /-- All of its public names. -/
  | wildcard
deriving DecidableEq, Repr

/-- The word for a kind. -/
def ImportKind.name : ImportKind → String
  | wholeModule => "Module"
  | names => "From"
  | wildcard => "Wildcard"

/-- One module that an import names, as it is written. -/
structure ImportRecord where
  /-- The module; a relative one keeps its dots. -/
  reference : String
  /-- The number of dots before a relative module. -/
  level : Nat
  /-- The imported names, sorted; aliases do not count. -/
  names : List String
  kind : ImportKind
  /-- The text of the whole statement. -/
  source : String
  line : Nat
deriving DecidableEq, Repr

/-- An import with what it means in a project. -/
structure ImportStatement where
  reference : String
  names : List String
  kind : ImportKind
  level : Nat
  /-- It takes something from the project. -/
  isLocal : Bool
  source : String
  line : Nat
  /-- The file that the reference leads to. -/
  resolved : Option Path
  /-- The module that the statement stands in. -/
  origin : Path
deriving DecidableEq, Repr

end CallContext
