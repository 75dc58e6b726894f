import CallContext.Proofs.Analysis.Records
import CallContext.Proofs.Project.Analysis
import CallContext.Report.Context
import Mathlib.Data.List.Destutter

/-!
# Imports in the context block

The context block lists the import statements of a module.  It is made from the records of the
imports, of which a statement can have several, and tells statements apart by their lines and texts.

* `ContextFormat.render_imports` : the block lists the statements in the order of the text, but of
  neighbours with one text on one line only the first; so it lists each statement once exactly if
  there are no such neighbours,
* `ContextFormat.render_repeated` : a statement that is left out.
-/

namespace CallContext

/-! ### Neighbours -/

section Neighbours

variable {α β : Type} [DecidableEq β] {key : α → β}

theorem destutter'_replicate_append (b : β) (count : Nat) (rest : List β) :
    (List.replicate count b ++ rest).destutter' (· ≠ ·) b = rest.destutter' (· ≠ ·) b := by
  induction count with
  | zero => rfl
  | succ count ih =>
    rw [List.replicate_succ, List.cons_append, List.destutter'_cons, if_neg (by simp), ih]

theorem destutter'_flatMap_replicate {as : List α} {count : α → Nat} (h : ∀ a ∈ as, count a ≠ 0)
    (b : β) : (as.flatMap fun a => List.replicate (count a) (key a)).destutter' (· ≠ ·) b =
      (as.map key).destutter' (· ≠ ·) b := by
  induction as generalizing b with
  | nil => rfl
  | cons a as ih =>
    rw [List.forall_mem_cons] at h
    obtain ⟨rest, more⟩ := Nat.exists_eq_succ_of_ne_zero h.1
    rw [List.flatMap_cons, List.map_cons, more, List.replicate_succ, List.cons_append,
      List.destutter'_cons, List.destutter'_cons, destutter'_replicate_append, ih h.2]
    by_cases same : b = key a
    · rw [if_neg (not_not.2 same), if_neg (not_not.2 same), same, destutter'_replicate_append,
        ih h.2]
    · rw [if_pos same, if_pos same]

/-- Repeating things in place makes no difference to what is left of neighbours. -/
theorem destutter_flatMap_replicate {as : List α} {count : α → Nat}
    (h : ∀ a ∈ as, count a ≠ 0) :
    (as.flatMap fun a => List.replicate (count a) (key a)).destutter (· ≠ ·) =
      (as.map key).destutter (· ≠ ·) := by
  cases as with
  | nil => rfl
  | cons a as =>
    rw [List.forall_mem_cons] at h
    obtain ⟨rest, more⟩ := Nat.exists_eq_succ_of_ne_zero h.1
    rw [List.flatMap_cons, List.map_cons, more, List.replicate_succ, List.cons_append,
      List.destutter_cons', List.destutter_cons', destutter'_replicate_append,
      destutter'_flatMap_replicate h.2]

end Neighbours

/-! ### Lines -/

/-- Texts one below the other. -/
def linesOf (texts : List String) : String := String.join (texts.map (· ++ "\n"))

theorem linesOf_cons (s : String) (texts : List String) :
    linesOf (s :: texts) = s ++ "\n" ++ linesOf texts := by
  rw [linesOf, List.map_cons, String.join_cons, linesOf]

/-- Each text that is left out makes the whole shorter. -/
theorem length_linesOf_of_sublist {few all : List String} (h : few.Sublist all) :
    (linesOf few).length + all.length ≤ (linesOf all).length + few.length := by
  have one : ("\n" : String).length = 1 := rfl
  induction h with
  | slnil => exact Nat.le_refl _
  | cons s h ih =>
    rw [linesOf_cons, String.length_append, String.length_append, List.length_cons]
    omega
  | cons_cons s h ih =>
    simp only [linesOf_cons, String.length_append, List.length_cons]
    omega

theorem linesOf_eq_iff_of_sublist {few all : List String} (h : few.Sublist all) :
    linesOf few = linesOf all ↔ few = all := by
  refine ⟨fun same => h.eq_of_length_le ?_, congrArg _⟩
  have := length_linesOf_of_sublist h
  rw [same] at this
  omega

/-! ### The section of imports -/

/-- What tells import statements apart. -/
def ImportStatement.lineAndText (s : ImportStatement) : Nat × String := (s.line, s.source)

namespace Node

variable {text : List Char}

/-- The line that the node starts on and its text. -/
def lineAndText (n : Node text) : Nat × String := (n.startLine, n.source)

/-- The texts of nodes, without those of nodes that have a neighbour with the same line and text in
front of them. -/
def distinctTexts (ns : List (Node text)) : List String :=
  ((ns.map lineAndText).destutter (· ≠ ·)).map (·.2)

/-- Nothing is left out exactly if no neighbours are alike. -/
theorem linesOf_distinctTexts_eq_iff {ns : List (Node text)} :
    linesOf (distinctTexts ns) = linesOf (ns.map source) ↔
      ns.IsChain fun a b => a.lineAndText ≠ b.lineAndText := by
  have texts : ns.map source = (ns.map lineAndText).map (·.2) := by
    rw [List.map_map]
    rfl
  have sublist := List.destutter_sublist (· ≠ ·) (ns.map lineAndText)
  rw [distinctTexts, texts, linesOf_eq_iff_of_sublist (sublist.map _),
    ← List.isChain_map lineAndText, ← List.destutter_eq_self_iff]
  refine ⟨fun same => sublist.eq_of_length ?_, congrArg _⟩
  simpa using congrArg List.length same

end Node

namespace ContextFormat

theorem sameStatement_iff {a b : ImportStatement} (h : a.origin = b.origin) :
    sameStatement a b = true ↔ a.lineAndText = b.lineAndText := by
  rw [sameStatement, h, Path.same_self, Bool.true_and, Bool.and_eq_true, decide_eq_true_eq,
    decide_eq_true_eq, ImportStatement.lineAndText, ImportStatement.lineAndText, Prod.mk.injEq]

theorem importLines_some {origin : Path} {s : ImportStatement} {more : List ImportStatement}
    (h : ∀ t ∈ s :: more, t.origin = origin) :
    s.source :: importLines (some s) more =
      ((more.map (·.lineAndText)).destutter' (· ≠ ·) s.lineAndText).map (·.2) := by
  induction more generalizing s with
  | nil => rfl
  | cons t more ih =>
    rw [List.forall_mem_cons, List.forall_mem_cons] at h
    obtain ⟨hs, ht, rest⟩ := h
    rw [importLines, Option.any_some, List.map_cons, List.destutter'_cons]
    have same := sameStatement_iff (hs.trans ht.symm)
    by_cases equal : s.lineAndText = t.lineAndText
    · rw [if_pos (same.2 equal), if_neg (not_not.2 equal)]
      exact ih (List.forall_mem_cons.2 ⟨hs, rest⟩)
    · rw [if_neg (mt same.1 equal), if_pos equal, List.map_cons,
        ih (List.forall_mem_cons.2 ⟨ht, rest⟩)]
      rfl

/-- Of the records of one module, neighbours with one line and text are listed once. -/
theorem importLines_none {origin : Path} {statements : List ImportStatement}
    (h : ∀ s ∈ statements, s.origin = origin) :
    importLines none statements =
      ((statements.map (·.lineAndText)).destutter (· ≠ ·)).map (·.2) := by
  cases statements with
  | nil => rfl
  | cons s more =>
    rw [List.map_cons, List.destutter_cons', ← importLines_some h]
    rfl

theorem join_flatMap_newline (texts : List String) :
    String.join (texts.flatMap fun s => [s, "\n"]) = linesOf texts := by
  induction texts with
  | nil => rfl
  | cons s texts ih =>
    rw [List.flatMap_cons, String.join_append, ih, linesOf_cons]
    rfl

theorem join_importSection {statements : List ImportStatement} (h : statements ≠ []) :
    String.join (importSection statements) =
      "Import Statements:\n" ++ linesOf (importLines none statements) ++ "\n" := by
  rw [importSection, if_neg (by simpa using h), List.cons_append, String.join_cons,
    String.join_append, join_flatMap_newline, String.append_assoc]
  rfl

/-- The block is the one without imports with the section of the imports put in. -/
theorem render_eq_insert {f : ContextFormat} (h : f.imports = true) (a : Analysis) :
    ∃ rest, { f with imports := false }.render a = "--CODE STARTING--\n\n" ++ rest ∧
      f.render a = "--CODE STARTING--\n\n" ++ String.join (importSection a.importStatements) ++
        rest := by
  refine ⟨String.join ((if f.localSources then localSection a.localSources else []) ++
      (if f.callers then callerSection a.callers else []) ++ calleeSection a.callees ++
      ["------\n", "Code to perform QA Checks on:\n", a.element.source, "\n"]), ?_, ?_⟩
  · simp [render, String.join_append, String.join_cons]
  · simp [render, h, String.join_append, String.join_cons, String.append_assoc]

end ContextFormat

/-! ### Statements of a module -/

namespace Module

/-- Each import statement has one line and text in all its records. -/
theorem lineAndText_resolveParsed (p : Project) (fs : FileSystem) (path : CallContext.Path)
    (m : Module) : (p.resolveParsed fs path m).statements.map (·.lineAndText) =
      m.importNodes.flatMap fun n => List.replicate n.imports.length n.lineAndText := by
  rw [Project.resolveParsed, imports_eq_flatMap, List.map_map, List.map_flatMap]
  refine List.flatMap_congr fun n _ => ?_
  refine List.eq_replicate_iff.2 ⟨List.length_map _, fun key found => ?_⟩
  obtain ⟨r, hr, rfl⟩ := List.mem_map.1 found
  obtain ⟨source, line⟩ := Node.source_of_mem_imports hr
  exact Prod.ext line source

theorem imports_length_ne_zero {m : Module} {n : Node m.text} (h : n ∈ m.importNodes) :
    n.imports.length ≠ 0 := by
  obtain ⟨importing, parts, built⟩ := built_of_mem_importNodes h
  exact mt List.length_eq_zero_iff.1 (Node.imports_ne_nil parts built importing)

theorem origin_of_mem_resolveParsed {p : Project} {fs : FileSystem} {path : CallContext.Path}
    {m : Module} {s : ImportStatement} (h : s ∈ (p.resolveParsed fs path m).statements) :
    s.origin = path := by
  obtain ⟨r, -, rfl⟩ := List.mem_map.1 h
  rfl

/-- The lines of the section, whatever the number of records of each statement. -/
theorem importLines_resolveParsed (p : Project) (fs : FileSystem) (path : CallContext.Path)
    (m : Module) : ContextFormat.importLines none (p.resolveParsed fs path m).statements =
      Node.distinctTexts m.importNodes := by
  rw [ContextFormat.importLines_none fun s => origin_of_mem_resolveParsed,
    lineAndText_resolveParsed, destutter_flatMap_replicate fun n => imports_length_ne_zero,
    Node.distinctTexts]

theorem statements_resolveParsed_eq_nil (p : Project) (fs : FileSystem) (path : CallContext.Path)
    (m : Module) : (p.resolveParsed fs path m).statements = [] ↔ m.importNodes = [] := by
  rw [← List.map_eq_nil_iff (f := (·.lineAndText)), lineAndText_resolveParsed,
    List.flatMap_eq_nil_iff]
  constructor
  · intro none
    refine List.eq_nil_iff_forall_not_mem.2 fun n hn => imports_length_ne_zero hn ?_
    simpa using none n hn
  · intro none n hn
    rw [none] at hn
    cases hn

end Module

namespace ContextFormat

variable {p : Project} {fs : FileSystem} {path : Path} {name : String} {a : Analysis}

/-- An analysis has the import statements of the module that it is about. -/
theorem exists_module_of_analyze (analyzed : p.analyze fs path name = .ok a) :
    ∃ m, fs.module (p.locate fs path) = .ok m ∧
      a.importStatements = (p.resolveParsed fs (p.locate fs path) m).statements := by
  have composed := Project.composed_of_analyze analyzed
  obtain ⟨m, read, -⟩ := composed.callees_eq
  obtain ⟨imports, resolved, -, statements⟩ := composed.imports_eq
  rw [Project.resolveImports_of_module read] at resolved
  obtain rfl := Except.ok.inj resolved
  exact ⟨m, read, statements⟩

/-- The block lists the texts of the import statements at any depth in the order of the text, but of
neighbours with one text on one line only the first.  So it lists each statement exactly if there
are no such neighbours. -/
theorem render_imports {f : ContextFormat} (analyzed : p.analyze fs path name = .ok a)
    (listed : f.imports = true) :
    ∃ m, fs.module (p.locate fs path) = .ok m ∧
    ∃ rest, { f with imports := false }.render a = "--CODE STARTING--\n\n" ++ rest ∧
    (m.root.preorder.filter Node.isImporting = [] →
      f.render a = "--CODE STARTING--\n\n" ++ rest) ∧
    (m.root.preorder.filter Node.isImporting ≠ [] →
      f.render a = "--CODE STARTING--\n\n" ++ ("Import Statements:\n" ++
        linesOf (Node.distinctTexts (m.root.preorder.filter Node.isImporting)) ++ "\n") ++ rest) ∧
    (linesOf (Node.distinctTexts (m.root.preorder.filter Node.isImporting)) =
        linesOf ((m.root.preorder.filter Node.isImporting).map Node.source) ↔
      (m.root.preorder.filter Node.isImporting).IsChain
        fun n next => n.lineAndText ≠ next.lineAndText) := by
  obtain ⟨m, read, statements⟩ := exists_module_of_analyze analyzed
  obtain ⟨rest, without, inserted⟩ := render_eq_insert listed a
  have nil := Module.statements_resolveParsed_eq_nil p fs (p.locate fs path) m
  rw [← statements, Module.importNodes_eq] at nil
  refine ⟨m, read, rest, without, fun none => ?_, fun some => ?_,
    Node.linesOf_distinctTexts_eq_iff⟩
  · rw [inserted, nil.2 none]
    rfl
  · rw [inserted, join_importSection (mt nil.1 some), statements,
      Module.importLines_resolveParsed, Module.importNodes_eq]

/-- A module with an import of several modules and imports on one line, and one with the same import
twice on a line. -/
def oftenImporting : FileSystem :=
  ⟨[("p", .directory [("m.py",
    .file (.text "import a, b; from c import d\ndef f():\n  import b; import b\n"))]),
    ("q", .directory [("m.py", .file (.text "import os; import os\n\ndef f(): pass\n"))])], [], rfl⟩

theorem computed_oftenImporting :
    (((Project.load oftenImporting ⟨"p"⟩ {}).toOption.bind fun p =>
      (p.analyze oftenImporting ⟨"m.py"⟩ "f").toOption).map ({} : ContextFormat).render =
        some ("--CODE STARTING--\n\nImport Statements:\nimport a, b\nfrom c import d\nimport b\n\n" ++
          "------\nCode to perform QA Checks on:\ndef f():\n  import b; import b\n")) ∧
    (((Project.load oftenImporting ⟨"q"⟩ {}).toOption.bind fun p =>
      (p.analyze oftenImporting ⟨"m.py"⟩ "f").toOption).map ({} : ContextFormat).render =
        some ("--CODE STARTING--\n\nImport Statements:\nimport os\n\n" ++
          "------\nCode to perform QA Checks on:\ndef f(): pass\n")) ∧
    (((Project.load oftenImporting ⟨"q"⟩ {}).toOption.bind fun p =>
      (oftenImporting.module (p.locate oftenImporting ⟨"m.py"⟩)).toOption).map fun m =>
        (m.root.preorder.filter Node.isImporting).map Node.source) =
      some ["import os", "import os"] := by
  decide +kernel

/-- The imports of the first module are listed once for each statement, but for the last one. -/
theorem render_imports_oftenImporting : ∃ p a m rest,
    Project.load oftenImporting ⟨"p"⟩ {} = .ok p ∧
    p.analyze oftenImporting ⟨"m.py"⟩ "f" = .ok a ∧
    oftenImporting.module (p.locate oftenImporting ⟨"m.py"⟩) = .ok m ∧
    ContextFormat.render {} a =
      "--CODE STARTING--\n\nImport Statements:\nimport a, b\nfrom c import d\nimport b\n\n" ++
        "------\nCode to perform QA Checks on:\ndef f():\n  import b; import b\n" ∧
    ContextFormat.render { imports := false } a = "--CODE STARTING--\n\n" ++ rest ∧
    (m.root.preorder.filter Node.isImporting ≠ [] →
      ContextFormat.render {} a = "--CODE STARTING--\n\n" ++ ("Import Statements:\n" ++
        linesOf (Node.distinctTexts (m.root.preorder.filter Node.isImporting)) ++ "\n") ++ rest) := by
  obtain ⟨a, found, block⟩ := Option.map_eq_some_iff.1 computed_oftenImporting.1
  obtain ⟨p, loaded, analyzed⟩ := Option.bind_eq_some_iff.1 found
  have analyzed := ok_of_toOption analyzed
  obtain ⟨m, read, rest, without, -, listed, -⟩ := render_imports (f := {}) analyzed rfl
  exact ⟨p, a, m, rest, ok_of_toOption loaded, analyzed, read, block, without, listed⟩

/-- A statement is left out if the one in front of it is the same on the same line. -/
theorem render_repeated : ∃ p a m, Project.load oftenImporting ⟨"q"⟩ {} = .ok p ∧
    p.analyze oftenImporting ⟨"m.py"⟩ "f" = .ok a ∧
    oftenImporting.module (p.locate oftenImporting ⟨"m.py"⟩) = .ok m ∧
    (m.root.preorder.filter Node.isImporting).map Node.source = ["import os", "import os"] ∧
    ContextFormat.render {} a = "--CODE STARTING--\n\nImport Statements:\nimport os\n\n" ++
      "------\nCode to perform QA Checks on:\ndef f(): pass\n" := by
  obtain ⟨-, block, texts⟩ := computed_oftenImporting
  obtain ⟨a, found, block⟩ := Option.map_eq_some_iff.1 block
  obtain ⟨p, loaded, analyzed⟩ := Option.bind_eq_some_iff.1 found
  obtain ⟨m, found', texts⟩ := Option.map_eq_some_iff.1 texts
  obtain ⟨p', loaded', read⟩ := Option.bind_eq_some_iff.1 found'
  obtain rfl : p = p' := Option.some.inj (loaded.symm.trans loaded')
  exact ⟨p, a, m, ok_of_toOption loaded, ok_of_toOption analyzed,
    ok_of_toOption read, texts, block⟩

end ContextFormat

end CallContext
