/-!
# Settings

What the scan of a project looks at.
-/

namespace CallContext

/-- Which files of a project are scanned. -/
structure ScanSettings where
  /-- The extensions of source files, without the dot. -/
  extensions : List String := ["py"]
  /-- Names of directories that are left out wherever they stand. -/
  excludedDirectories : List String :=
    [".git", "__pycache__", ".venv", "venv", "env", ".tox", ".mypy_cache", ".pytest_cache",
      "node_modules", "site-packages"]
  /-- Larger files are left out. -/
  maxFileBytes : Nat := 1024 * 1024
  /-- Symbolic links are followed. -/
  followLinks : Bool := false
deriving DecidableEq, Repr

/-- Larger files are left out whatever the settings say. -/
def absoluteMaxFileBytes : Nat := 8 * 1024 * 1024

/-- The size above which files are left out. -/
def ScanSettings.effectiveMaxFileBytes (s : ScanSettings) : Nat :=
  min s.maxFileBytes absoluteMaxFileBytes

/-- All settings. -/
structure Settings where
  scan : ScanSettings := {}
  /-- Files are scanned side by side, which changes no result. -/
  parallel : Bool := true
deriving DecidableEq, Repr

end CallContext
