import CallContext.Project.Imports
import CallContext.Proofs.Analysis.Targets

/-!
# Imports of modules with the same tokens

* `Module.layoutFree_imports` : the records of an import statement say what its tokens say exactly
  if no gap is inside a dotted name and no gap between the dots before a name has a dot in it; so
  modules with the same tokens in their import statements, spaced like this, import the same,
* `Module.spaced_imports` : statements with the same tokens that import different modules.
-/

namespace CallContext

theorem Node.kind_of_tag_eq_importing {text : List Char} {n : Node text}
    (h : n.tag = .importing) (parts : n.hasParts = true) : n.kind = Symbol.importStatement ∨
      n.kind = Symbol.importFromStatement ∨ n.kind = Symbol.futureImportStatement := by
  have own := tag_eq_ofKind parts (by simp [h])
  rw [h] at own
  unfold Tag.ofKind at own
  grind

/-- The record without the text and the line of its statement. -/
def ImportRecord.bare (r : ImportRecord) : ImportRecord := { r with source := "", line := 0 }

/-- The record of what a statement says, without its text and its line. -/
def Spelling.record (s : Spelling) : ImportRecord :=
  ⟨s.reference, s.level, nameSet s.names, s.kind, "", 0⟩

/-- What a statement imports in a project. -/
def ImportStatement.target (s : ImportStatement) :
    String × Nat × List String × ImportKind × Bool × Option CallContext.Path :=
  (s.reference, s.level, s.names, s.kind, s.isLocal, s.resolved)

namespace Module

/-- The import statements of a module, in the order of the text. -/
def importNodes (m : Module) : List (Node m.text) := m.root.preorder.filter (·.tag = .importing)

/-- The text and the line of a statement have no part in what it imports. -/
theorem map_target_resolveParsed (p : Project) (fs : FileSystem) (path : CallContext.Path)
    (m : Module) :
    (p.resolveParsed fs path m).statements.map ImportStatement.target =
      (m.imports.map ImportRecord.bare).map fun r => (p.resolveRecord fs path r).target := by
  rw [Project.resolveParsed, List.map_map, List.map_map]
  rfl

theorem modules_resolveParsed (p : Project) (fs : FileSystem) (path : CallContext.Path)
    (m : Module) :
    (p.resolveParsed fs path m).modules =
      nameSet ((m.imports.map ImportRecord.bare).map (·.reference)) := by
  rw [Project.resolveParsed, List.map_map]
  rfl

theorem bare_imports (m : Module) :
    m.imports.map ImportRecord.bare = m.importNodes.flatMap fun n => n.spellings.map (·.record) := by
  rw [imports, Node.walk_eq_preorder, ← importNodes, List.map_flatMap]
  refine List.flatMap_congr fun n _ => ?_
  rw [n.imports_eq, List.map_map]
  rfl

theorem spellings_iff_of_mem {m : Module} {n : Node m.text} (h : n ∈ m.importNodes) :
    n.spellings = readImport n.tokens ↔ n.WellSpaced := by
  obtain ⟨inside, tagged⟩ := List.mem_filter.1 h
  obtain ⟨parts, built⟩ := shapely_of_mem inside
  have kind := Node.kind_of_tag_eq_importing (of_decide_eq_true tagged) parts
  refine Node.spellings_iff (m.nested.of_mem inside) ?_ kind
  rcases kind with kind | kind | kind <;>
    · rw [Node.isBuilt, kind] at built
      exact built

/-- If all import statements are spaced, then the records are read off the tokens. -/
theorem bare_imports_of_wellSpaced {m : Module} (spaced : ∀ n ∈ m.importNodes, n.WellSpaced) :
    m.imports.map ImportRecord.bare =
      (m.importNodes.map Node.tokens).flatMap fun ts => (readImport ts).map (·.record) := by
  rw [bare_imports, List.flatMap_map]
  refine List.flatMap_congr fun n hn => ?_
  rw [(spellings_iff_of_mem hn).2 (spaced n hn)]

/-- The records of an import statement are what it spells, which is what its tokens say exactly if
there is no gap inside a dotted name, and no dot in a gap between the dots before a name.  So modules
whose import statements have the same tokens, spaced like this, import the same in every project. -/
theorem layoutFree_imports (m : Module) :
    (m.imports.map ImportRecord.bare =
      m.importNodes.flatMap fun n => n.spellings.map (·.record)) ∧
    (∀ n ∈ m.importNodes, (n.spellings = readImport n.tokens ↔ n.WellSpaced)) ∧
    ∀ m' : Module,
      m.importNodes.map Node.tokens = m'.importNodes.map Node.tokens →
      (∀ n ∈ m.importNodes, n.WellSpaced) → (∀ n ∈ m'.importNodes, n.WellSpaced) →
      ∀ (p : Project) (fs : FileSystem) (path : CallContext.Path),
        (p.resolveParsed fs path m).modules = (p.resolveParsed fs path m').modules ∧
        (p.resolveParsed fs path m).statements.map ImportStatement.target =
          (p.resolveParsed fs path m').statements.map ImportStatement.target := by
  refine ⟨m.bare_imports, fun n hn => spellings_iff_of_mem hn, ?_⟩
  intro m' same spaced spaced' p fs path
  have records : m.imports.map ImportRecord.bare = m'.imports.map ImportRecord.bare := by
    rw [bare_imports_of_wellSpaced spaced, same, bare_imports_of_wellSpaced spaced']
  rw [modules_resolveParsed, modules_resolveParsed, map_target_resolveParsed,
    map_target_resolveParsed, records]
  exact ⟨rfl, rfl⟩

/-- The tokens of the import statements of a module, if these say what the tokens say. -/
def spacedTokens (m : Module) : Option (List (List (Symbol × String))) :=
  if m.importNodes.all fun n => n.spellings = readImport n.tokens then
    some (m.importNodes.map Node.tokens)
  else none

/-- An import with a comment, line ends and blank space between its tokens. -/
def spread : String := "from  . a.b import (\n  c, # x.y\n  d as e\n)\n"

/-- The same tokens with nothing between them that can be left out. -/
def tight : String := "from .a.b import(c,d as e)"

/-- The tokens of both. -/
def spreadTokens : List (Symbol × String) :=
  [(Symbol.fromKeyword, "from"), (Symbol.dot, "."), (Symbol.identifier, "a"), (Symbol.dot, "."),
    (Symbol.identifier, "b"), (Symbol.importKeyword, "import"), (Symbol.openParenthesis, "("),
    (Symbol.identifier, "c"), (Symbol.comma, ","), (Symbol.identifier, "d"),
    (Symbol.asKeyword, "as"), (Symbol.identifier, "e"), (Symbol.closeParenthesis, ")")]

/-- The tokens of the import statements of a text, with the modules that these refer to. -/
def references (source : String) : Option (List (List String) × List (String × Nat)) :=
  (parse source).toOption.map fun m =>
    (m.importNodes.map fun n => n.tokens.map (·.2),
      m.imports.map fun r => (r.reference, r.level))

theorem computed_tokens :
    [spread, tight].map (fun source => (parse source).toOption.bind spacedTokens) =
      [some [spreadTokens], some [spreadTokens]] ∧
    readImport spreadTokens = [⟨".a.b", 1, ["c", "d"], .names⟩] ∧
    ["import a.b", "import a . b", "from .. import a", "from . # x.y\n. import a"].map references =
      [some ([["import", "a", ".", "b"]], [("a.b", 0)]),
        some ([["import", "a", ".", "b"]], [("a . b", 0)]),
        some ([["from", ".", ".", "import", "a"]], [("..", 2)]),
        some ([["from", ".", ".", "import", "a"]], [("...", 3)])] := by
  decide +kernel

/-- Both say what their tokens say, and import the same. -/
theorem layoutFree_imports_spread : ∃ m m', parse spread = .ok m ∧ parse tight = .ok m' ∧
    m.importNodes.map Node.tokens = m'.importNodes.map Node.tokens ∧
    readImport spreadTokens = [⟨".a.b", 1, ["c", "d"], .names⟩] ∧
    ∀ (p : Project) (fs : FileSystem) (path : CallContext.Path),
      (p.resolveParsed fs path m).statements.map ImportStatement.target =
        (p.resolveParsed fs path m').statements.map ImportStatement.target := by
  obtain ⟨computed, read, -⟩ := computed_tokens
  obtain ⟨first, second, -⟩ := List.cons_eq_cons.1 computed |>.imp_right List.cons_eq_cons.1
  obtain ⟨m, opened, values⟩ := Option.bind_eq_some_iff.1 first
  obtain ⟨m', opened', values'⟩ := Option.bind_eq_some_iff.1 second
  have parsed := ok_of_toOption opened
  have parsed' := ok_of_toOption opened'
  obtain ⟨said, tokens⟩ := Option.ite_none_right_eq_some.1 values
  obtain ⟨said', tokens'⟩ := Option.ite_none_right_eq_some.1 values'
  obtain ⟨-, exact, free⟩ := m.layoutFree_imports
  obtain ⟨-, exact', -⟩ := m'.layoutFree_imports
  have same : m.importNodes.map Node.tokens = m'.importNodes.map Node.tokens :=
    (Option.some.inj tokens).trans (Option.some.inj tokens').symm
  have spaced : ∀ n ∈ m.importNodes, n.WellSpaced := fun n hn =>
    (exact n hn).1 (of_decide_eq_true (List.all_eq_true.1 said n hn))
  have spaced' : ∀ n ∈ m'.importNodes, n.WellSpaced := fun n hn =>
    (exact' n hn).1 (of_decide_eq_true (List.all_eq_true.1 said' n hn))
  exact ⟨m, m', parsed, parsed', same, read, fun p fs path =>
    (free m' same spaced spaced' p fs path).2⟩

/-- Blank space around a dot is part of the module's name, and the dots of a comment count among
those before a name. -/
theorem spaced_imports :
    ["import a.b", "import a . b", "from .. import a", "from . # x.y\n. import a"].map references =
      [some ([["import", "a", ".", "b"]], [("a.b", 0)]),
        some ([["import", "a", ".", "b"]], [("a . b", 0)]),
        some ([["from", ".", ".", "import", "a"]], [("..", 2)]),
        some ([["from", ".", ".", "import", "a"]], [("...", 3)])] :=
  computed_tokens.2.2

end Module

end CallContext
