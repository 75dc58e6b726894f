import CallContext.Project.Modules
import CallContext.Proofs.Analysis.Calls
import CallContext.Proofs.Analysis.Definitions
import CallContext.Proofs.Project.SourceFiles
import Mathlib.Algebra.GroupWithZero.Nat

/-!
# The search for callers is exact

`Project.Caller` says which elements of a file the search for a name should find: those of the
surviving definitions that call the name and do not have it themselves.  No two of them have the
same identity (`Project.distinct_callers`), because the files of a project have different paths and
the definitions of a module different names.  So the map of the report loses nothing, and the files
can be taken in any order (`Project.exact_findCallers`).
-/

namespace CallContext

open Std

instance : TransCmp fun a b : ElementId × Element => a.1.compare b.1 :=
  transCmp_on ElementId.compare Prod.fst

namespace Project

variable {p : Project} {fs : FileSystem} {target : String} {path : Path}

/-! ### Outcomes -/

/-- The callers in the outcome of a file. -/
def found (outcome : Except Diagnostic ElementMap) : ElementMap := outcome.toOption.getD []

/-- The problem with a file. -/
def problem? : Except Diagnostic ElementMap → Option Diagnostic
  | .ok _ => none
  | .error d => some d

/-- A report collects the callers and the problems of all outcomes. -/
theorem foldl_addOutcome (report : CallerReport) (outcomes : List (Except Diagnostic ElementMap)) :
    outcomes.foldl addOutcome report =
      ⟨(outcomes.flatMap found).foldl ElementMap.insert report.callers,
        report.diagnostics ++ outcomes.filterMap problem?, report.filesScanned⟩ := by
  induction outcomes generalizing report with
  | nil => simp
  | cons outcome outcomes ih =>
    rw [List.foldl_cons, ih, List.flatMap_cons, List.foldl_append]
    cases outcome with
    | ok callers => rfl
    | error d => simp [addOutcome, found, problem?, Except.toOption]

/-! ### Callers -/

/-- The element, under this identity, is a caller of the name in a file. -/
def Caller (p : Project) (fs : FileSystem) (target : String) (path : Path)
    (entry : ElementId × Element) : Prop :=
  ∃ m, fs.module path = .ok m ∧ ∃ d, m.Survives d ∧
    entry = (⟨p.relativePath path, d.element.name⟩, d.element) ∧
      d.node.Calls target ∧ target ≠ d.element.name

theorem mem_found_callersIn {entry : ElementId × Element} :
    entry ∈ found (p.callersIn fs target path) ↔ p.Caller fs target path entry := by
  unfold callersIn Caller
  match fs.module path with
  | .error e => simp [found, Except.toOption]
  | .ok m =>
    simp only [found, Except.toOption, Option.getD_some, List.mem_map, List.mem_filter,
      Node.contains_callees, Module.mem_definitions, Except.ok.injEq, exists_eq_left']
    refine exists_congr fun d => ?_
    rw [and_assoc, eq_comm (a := entry)]
    exact and_congr_right fun _ => and_comm

theorem Caller.name_ne {entry : ElementId × Element} (h : p.Caller fs target path entry) :
    entry.1.name ≠ target := by
  obtain ⟨m, -, d, -, rfl, -, other⟩ := h
  exact other.symm

theorem Caller.path_eq {entry : ElementId × Element} (h : p.Caller fs target path entry) :
    entry.1.path = p.relativePath path := by
  obtain ⟨m, -, d, -, rfl, -, -⟩ := h
  rfl

/-- In one file the name tells which element it is. -/
theorem Caller.eq_of_name {entry entry' : ElementId × Element}
    (h : p.Caller fs target path entry) (h' : p.Caller fs target path entry')
    (same : entry.1.name = entry'.1.name) : entry = entry' := by
  obtain ⟨m, parsed, d, survives, rfl, -, -⟩ := h
  obtain ⟨m', parsed', d', survives', rfl, -, -⟩ := h'
  obtain rfl : m = m' := Except.ok.inj (parsed.symm.trans parsed')
  rw [survives.eq_of_name survives' same]

/-- Callers of one identity are the same element of the same file. -/
theorem Caller.eq_of_compare {path path' : Path} {entry entry' : ElementId × Element}
    (hp : path ∈ p.sourceFiles fs) (hp' : path' ∈ p.sourceFiles fs)
    (h : p.Caller fs target path entry) (h' : p.Caller fs target path' entry')
    (same : entry.1.compare entry'.1 = .eq) : path = path' ∧ entry = entry' := by
  obtain ⟨components, name⟩ := ElementId.compare_eq_iff.1 same
  rw [h.path_eq, h'.path_eq] at components
  obtain rfl := eq_of_components_relativePath hp hp' components
  exact ⟨rfl, h.eq_of_name h' name⟩

theorem distinct_found_callersIn :
    Distinct (fun a b => a.1.compare b.1) (found (p.callersIn fs target path)) := by
  unfold callersIn
  match fs.module path with
  | .error e => exact .nil
  | .ok m =>
    refine List.pairwise_map.2 (List.Pairwise.filter _ ?_)
    refine (List.pairwise_map.1 m.nodup_definitions).imp fun different same => ?_
    exact different (ElementId.compare_eq_iff.1 same).2

/-- No two callers of a name have the same identity. -/
theorem distinct_callers :
    Distinct (fun a b => a.1.compare b.1)
      ((p.sourceFiles fs).flatMap fun path => found (p.callersIn fs target path)) := by
  -- within a file names differ, and between files paths do
  refine List.pairwise_flatMap.2 ⟨fun path _ => distinct_found_callersIn, ?_⟩
  refine increasing_sourceFiles.distinct.imp_of_mem ?_
  intro path path' hp hp' different entry he entry' he' same
  obtain ⟨rfl, -⟩ := Caller.eq_of_compare hp hp' (mem_found_callersIn.1 he)
    (mem_found_callersIn.1 he') same
  exact different ReflCmp.compare_self

/-! ### The report -/

theorem callers_findCallers : (p.findCallers fs target).callers =
    ((p.sourceFiles fs).flatMap fun path => found (p.callersIn fs target path)).foldl
      ElementMap.insert [] := by
  rw [findCallers, foldl_addOutcome, List.flatMap_map]

/-- The report has every caller, and nothing else. -/
theorem perm_callers_findCallers : (p.findCallers fs target).callers.Perm
    ((p.sourceFiles fs).flatMap fun path => found (p.callersIn fs target path)) := by
  rw [callers_findCallers]
  exact perm_foldl_insertSorted distinct_callers

theorem mem_callers_findCallers {entry : ElementId × Element} :
    entry ∈ (p.findCallers fs target).callers ↔
      ∃ path ∈ p.sourceFiles fs, p.Caller fs target path entry := by
  rw [perm_callers_findCallers.mem_iff, List.mem_flatMap]
  exact exists_congr fun path => and_congr_right fun _ => mem_found_callersIn

/-- Outcomes can be added to a report in any order. -/
theorem callers_foldl_addOutcome {outcomes : List (Except Diagnostic ElementMap)}
    (h : outcomes.Perm ((p.sourceFiles fs).map (p.callersIn fs target))) (scanned : Nat) :
    (outcomes.foldl addOutcome ⟨[], [], scanned⟩).callers = (p.findCallers fs target).callers := by
  rw [callers_findCallers, foldl_addOutcome]
  refine foldl_insertSorted_of_perm distinct_callers ?_
  rw [← List.flatMap_map]
  exact (h.flatMap_right found).symm

theorem diagnostics_findCallers : (p.findCallers fs target).diagnostics =
    (p.sourceFiles fs).filterMap fun path =>
      match fs.module path with
      | .ok _ => none
      | .error e => some (Diagnostic.ofError path e) := by
  rw [findCallers, foldl_addOutcome, List.nil_append, List.filterMap_map]
  refine List.filterMap_congr fun path _ => ?_
  rw [Function.comp_apply, callersIn]
  cases fs.module path <;> rfl

end Project

/-- A report has exactly the callers of a name in a project, in the order of their identities, and
the problems with the files that are no modules, in the order of the files. -/
structure CallerReport.Exact (report : CallerReport) (p : Project) (fs : FileSystem)
    (target : String) : Prop where
  mem_callers : ∀ entry, entry ∈ report.callers ↔
    ∃ path ∈ p.sourceFiles fs, p.Caller fs target path entry
  increasing_callers : Increasing (fun a b => a.1.compare b.1) report.callers
  /-- Callers do not collide. -/
  eq_of_compare : ∀ path ∈ p.sourceFiles fs, ∀ path' ∈ p.sourceFiles fs, ∀ entry entry',
    p.Caller fs target path entry → p.Caller fs target path' entry' →
      entry.1.compare entry'.1 = .eq → path = path' ∧ entry = entry'
  length_callers : report.callers.length =
    ((p.sourceFiles fs).map fun path => (Project.found (p.callersIn fs target path)).length).sum
  /-- The order in which the files are done does not matter. -/
  callers_of_perm : ∀ outcomes : List (Except Diagnostic ElementMap),
    outcomes.Perm ((p.sourceFiles fs).map (p.callersIn fs target)) → ∀ scanned,
      (outcomes.foldl Project.addOutcome ⟨[], [], scanned⟩).callers = report.callers
  name_ne : ∀ entry ∈ report.callers, entry.1.name ≠ target
  filesScanned_eq : report.filesScanned = (p.sourceFiles fs).length
  /-- Every file that cannot be read or parsed is noted down once. -/
  diagnostics_eq : report.diagnostics = (p.sourceFiles fs).filterMap fun path =>
    match fs.module path with
    | .ok _ => none
    | .error e => some (Diagnostic.ofError path e)

/-- The search for callers is exact, whatever the files of the project are. -/
theorem Project.exact_findCallers (p : Project) (fs : FileSystem) (target : String) :
    (p.findCallers fs target).Exact p fs target where
  mem_callers _ := mem_callers_findCallers
  increasing_callers := by
    rw [callers_findCallers]
    exact Increasing.foldl_insertSorted .nil _
  eq_of_compare _ hp _ hp' _ _ h h' := Caller.eq_of_compare hp hp' h h'
  length_callers := perm_callers_findCallers.length_eq.trans List.length_flatMap
  callers_of_perm _ perm scanned := callers_foldl_addOutcome perm scanned
  name_ne entry he := by
    obtain ⟨path, -, caller⟩ := mem_callers_findCallers.1 he
    exact caller.name_ne
  filesScanned_eq := by rw [findCallers, foldl_addOutcome]
  diagnostics_eq := diagnostics_findCallers

end CallContext
