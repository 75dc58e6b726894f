import CallContext.Files.FileSystem
import CallContext.Project.Settings
import CallContext.Toml.Reader

/-!
# The configuration file

Settings are read from a TOML file in the root directory of the project.  What the file does not
name keeps its usual value, what it names must have the right type, and keys that mean nothing
here are passed over.
-/

namespace CallContext

/-- Why the configuration file cannot be used. -/
inductive ConfigError where
  | unreadable (cause : FileError)
  /-- The file at a path is not TOML, or a setting has the wrong type. -/
  | invalid (path : Path)
deriving DecidableEq, Repr

/-- The words for an error. -/
def ConfigError.message : ConfigError → String
  | unreadable cause => cause.message
  | invalid path => "invalid " ++ path.text

namespace Config

open Toml

/-- A truth value. -/
def bool? : Item → Option Bool
  | .boolean b => some b
  | _ => none

/-- A number that is not negative. -/
def nat? : Item → Option Nat
  | .integer n => if 0 ≤ n then some n.toNat else none
  | _ => none

def string? : Item → Option String
  | .string s => some s
  | _ => none

/-- A list of strings. -/
def strings? : Item → Option (List String)
  | .array items => items.mapM string?
  | _ => none

/-- The value of a setting: the usual one if it is not given, none if it has the wrong type. -/
def setting {α : Type} (decode : Item → Option α) (usual : α) : Option Item → Option α
  | none => some usual
  | some item => decode item

/-- The settings of the scan, from what is given for each of them. -/
def scanOf (extensions excluded maxBytes followLinks : Option Item) : Option ScanSettings := do
  let usual : ScanSettings := {}
  let extensions ← setting strings? usual.extensions extensions
  let excluded ← setting strings? usual.excludedDirectories excluded
  let maxBytes ← setting nat? usual.maxFileBytes maxBytes
  let followLinks ← setting bool? usual.followLinks followLinks
  return ⟨extensions, excluded, maxBytes, followLinks⟩

/-- The settings of the scan in a table. -/
def scanOfMembers (ms : Members) : Option ScanSettings :=
  scanOf (ms.lookup "extensions") (ms.lookup "exclude_dir_names") (ms.lookup "max_file_bytes")
    (ms.lookup "follow_links")

/-- The settings of the scan: a table, or an array with the settings in their order.  A date
counts as a table that names none of them. -/
def scan? : Item → Option ScanSettings
  | .table _ _ ms => scanOfMembers ms
  | .inline _ ms => scanOfMembers ms
  | .array items => scanOf items[0]? items[1]? items[2]? items[3]?
  | .datetime => some {}
  | _ => none

/-- The settings in a document. -/
def ofMembers (ms : Members) : Option Settings := do
  let scan ← setting scan? {} (ms.lookup "scan")
  let parallel ← setting bool? true (ms.lookup "parallel")
  return ⟨scan, parallel⟩

/-- The settings in the text of a configuration file. -/
def ofText? (s : String) : Option Settings := (Toml.parse? s).bind ofMembers

/-- The name of the configuration file. -/
def fileName : Path := ⟨"pyqa.toml"⟩

/-- The settings of the project at a path; without a configuration file the usual ones. -/
def load (fs : FileSystem) (root : Path) : Except ConfigError Settings :=
  let path := root.join fileName
  if fs.isFile path then
    match fs.read path with
    | .error e => .error (.unreadable e)
    | .ok s =>
      match ofText? s with
      | some settings => .ok settings
      | none => .error (.invalid path)
  else .ok {}

end Config

end CallContext
