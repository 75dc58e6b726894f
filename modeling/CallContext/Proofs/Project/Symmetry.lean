import CallContext.Proofs.Analysis.Excerpts
import CallContext.Proofs.Project.Callers

/-!
# Callers and callees

What calls a name can be asked in two ways: the search for callers goes through the trees of the
modules of a project, and `Element.callees` reads the text of one element alone.  The search always
reports an element for exactly the callees of its node in the module
(`Project.reports_findCallers`).  Both ways agree exactly if the text alone has the same call
targets (`Project.symmetric_catalog`), which it has if it is given the same tree, but not always
(`Project.asymmetric_splat`).
-/

namespace CallContext

/-- The report has an element of this identity. -/
def CallerReport.Reports (report : CallerReport) (id : ElementId) : Prop :=
  ∃ entry ∈ report.callers, entry.1.compare id = .eq

/-- A node that is no call has the call targets of its only child. -/
theorem Node.callTargets_of_children {text : List Char} {n child : Node text} (h : n.tag ≠ .call)
    (only : n.children = [child]) : n.callTargets = child.callTargets := by
  rw [callTargets, callTargets, walk_eq_preorder, walk_eq_preorder, preorder_eq, only, preorderAll,
    preorderAll, List.append_nil, List.filter_cons_of_neg (by simpa using h)]

/-- Read alone, the text of the definition calls the same names in the same order as in its module;
its own name and repeated names do not count in this order. -/
def Definition.CallsAlike {text : List Char} (d : Definition text) : Prop :=
  ∃ m, Module.parse d.element.source = .ok m ∧
    (m.root.callTargets.filter (· ≠ d.element.name)).eraseDups =
      (d.node.callTargets.filter (· ≠ d.element.name)).eraseDups ∧
    (m.root.Calls d.element.name ↔ d.node.Calls d.element.name)

theorem Definition.ReadsAlike.callsAlike {text : List Char} {d : Definition text}
    (h : d.ReadsAlike) : d.CallsAlike := by
  obtain ⟨m, parsed, root, all⟩ := h
  obtain ⟨n, only, alike⟩ := Node.allAlike_singleton.1 all
  have targets : m.root.callTargets = d.node.callTargets := by
    rw [Node.callTargets_of_children (by simp [root]) only, alike.callTargets_eq]
  refine ⟨m, parsed, by rw [targets], ?_⟩
  rw [← Node.mem_callTargets, targets, Node.mem_callTargets]

/-- The callees of the text alone are those of the node in the module. -/
theorem Definition.callees_eq_iff {text : List Char} {d : Definition text} :
    d.element.callees = .ok (d.node.callees d.element.name) ↔ d.CallsAlike := by
  unfold Element.callees CallsAlike
  match Module.parse d.element.source with
  | .error fault => simp
  | .ok m =>
    simp only [Node.callees_eq, Except.ok.injEq, CalleeSet.mk.injEq, exists_eq_left']
    rw [Bool.eq_iff_iff, List.contains_iff_mem, List.contains_iff_mem, Node.mem_callTargets,
      Node.mem_callTargets]

namespace Project

variable {p : Project} {fs : FileSystem} {path : Path} {name : String}

/-- The search reports an element for exactly the callees of its node. -/
theorem reports_findCallers {m : Module} {d : Definition m.text} (hp : path ∈ p.sourceFiles fs)
    (hm : fs.module path = .ok m) (hd : m.Survives d) :
    (p.findCallers fs name).Reports ⟨p.relativePath path, d.element.name⟩ ↔
      (d.node.callees d.element.name).contains name = true := by
  rw [Node.contains_callees]
  constructor
  · rintro ⟨entry, he, same⟩
    obtain ⟨path', hp', m', hm', d', hd', rfl, calls, other⟩ := mem_callers_findCallers.1 he
    -- the identity leads back to the file, and in the file to the definition
    obtain ⟨components, names⟩ := ElementId.compare_eq_iff.1 same
    obtain rfl := eq_of_components_relativePath hp' hp components
    obtain rfl : m' = m := Except.ok.inj (hm'.symm.trans hm)
    obtain rfl := hd'.eq_of_name hd names
    exact ⟨calls, other⟩
  · rintro ⟨calls, other⟩
    refine ⟨(⟨p.relativePath path, d.element.name⟩, d.element), ?_, Std.ReflCmp.compare_self⟩
    exact mem_callers_findCallers.2 ⟨path, hp, m, hm, d, hd, rfl, calls, other⟩

/-- The callees of the text of a definition alone are the names for which the search reports the
definition, and they are those of its node in the module. -/
def SymmetricAt (p : Project) (fs : FileSystem) (path : Path) {text : List Char}
    (d : Definition text) : Prop :=
  ∃ callees, d.element.callees = .ok callees ∧
    (∀ name, callees.contains name = true ↔
      (p.findCallers fs name).Reports ⟨p.relativePath path, d.element.name⟩) ∧
    callees = d.node.callees d.element.name

theorem symmetricAt_iff {m : Module} {d : Definition m.text} (hp : path ∈ p.sourceFiles fs)
    (hm : fs.module path = .ok m) (hd : m.Survives d) :
    p.SymmetricAt fs path d ↔ d.CallsAlike := by
  rw [← Definition.callees_eq_iff]
  constructor
  · rintro ⟨callees, ok, -, rfl⟩
    exact ok
  · intro ok
    exact ⟨_, ok, fun name => (reports_findCallers hp hm hd).symm, rfl⟩

/-- The search always reports an element for the callees of its node in the module.  The callees of
its text alone are the same exactly if the text alone calls alike, and they are so if it reads
alike. -/
theorem symmetric_catalog {c : Catalog} {e : Element} (hp : path ∈ p.sourceFiles fs)
    (hc : fs.catalog path = .ok c) (he : e ∈ c.elements) :
    ∃ m, fs.module path = .ok m ∧ ∃ d, m.Survives d ∧ d.element = e ∧
      (∀ name, (p.findCallers fs name).Reports ⟨p.relativePath path, e.name⟩ ↔
        (d.node.callees e.name).contains name = true) ∧
      (p.SymmetricAt fs path d ↔ d.CallsAlike) ∧ (d.ReadsAlike → p.SymmetricAt fs path d) := by
  unfold FileSystem.catalog at hc
  split at hc
  · cases hc
  · next m hm =>
    cases hc
    rw [Module.elements_catalog] at he
    obtain ⟨d, hd, rfl⟩ := List.mem_map.1 he
    have survives := Module.mem_definitions.1 hd
    have symmetric := symmetricAt_iff hp hm survives
    exact ⟨m, hm, d, survives, rfl, fun name => reports_findCallers hp hm survives, symmetric,
      fun alike => symmetric.2 alike.callsAlike⟩

/-! ### A project with one file -/

/-- A file system with one file, in the directory `/p`. -/
def oneFile (source : String) : FileSystem :=
  ⟨[("p", .directory [("a.py", .file (.text source))])], [], rfl⟩

/-- The project in the directory `/p`. -/
def atP : Project := ⟨⟨"/p"⟩, by decide, {}⟩

theorem module_oneFile {source : String} {m : Module} (h : Module.parse source = .ok m) :
    (oneFile source).module ⟨"/p/a.py"⟩ = .ok m := by
  have read : (oneFile source).read ⟨"/p/a.py"⟩ = .ok source := by rfl
  rw [FileSystem.module, read]
  simp [Module.ofText, h]

/-- A function that calls itself and another one, behind another line. -/
theorem symmetric_catalog_recursive : ∃ fs, fs = oneFile "x\ndef f(): g(f())" ∧
    ∃ path ∈ atP.sourceFiles fs, ∃ m, fs.module path = .ok m ∧ ∃ d, m.Survives d ∧
      d.element.callees = .ok ⟨["g"], true⟩ ∧ d.ReadsAlike ∧ atP.SymmetricAt fs path d := by
  have computed : (Module.parse "x\ndef f(): g(f())").toOption.map (fun m =>
        (m.definitions.map fun d => d.node.callees d.element.name,
          m.definitions.all (decide ·.ReadsAlike))) = some ([⟨["g"], true⟩], true) := by
    decide +kernel
  obtain ⟨m, parsed, values⟩ := Module.exists_of_map_parse computed
  obtain ⟨only, all⟩ := Prod.mk.inj values
  obtain ⟨d, only, callees⟩ := List.map_eq_singleton_iff.1 only
  have hm := module_oneFile parsed
  have hp : ⟨"/p/a.py"⟩ ∈ atP.sourceFiles (oneFile "x\ndef f(): g(f())") := by decide +kernel
  have hc : (oneFile "x\ndef f(): g(f())").catalog ⟨"/p/a.py"⟩ = .ok m.catalog := by
    rw [FileSystem.catalog, hm]
  have he : d.element ∈ m.catalog.elements := by
    rw [Module.elements_catalog, only]
    exact List.mem_cons_self
  obtain ⟨m', hm', d', survives, element, -, -, alike⟩ := symmetric_catalog hp hc he
  obtain rfl : m = m' := Except.ok.inj (hm.symm.trans hm')
  obtain rfl : d' = d := List.mem_singleton.1 (only ▸ Module.mem_definitions.2 survives)
  have reads : d'.ReadsAlike :=
    of_decide_eq_true (List.all_eq_true.1 all d' (Module.mem_definitions.2 survives))
  obtain ⟨_, ok, reports, rfl⟩ := alike reads
  exact ⟨_, rfl, _, hp, m, hm, d', survives, callees ▸ ok, reads, _, ok, reports, rfl⟩

/-- The calls in this decorator are read differently when it stands alone: then `h` is called, but
in the module it is not. -/
theorem asymmetric_splat : ∃ fs, fs = oneFile "type-x\n@[*g(*h(),*x[a])]\ndef f():" ∧
    ∃ path ∈ atP.sourceFiles fs, ∃ m, fs.module path = .ok m ∧ ∃ d, m.Survives d ∧
      d.element.callees = .ok ⟨["h"], false⟩ ∧ d.node.callees d.element.name = ⟨[], false⟩ ∧
      ¬ (atP.findCallers fs "h").Reports ⟨atP.relativePath path, d.element.name⟩ ∧
      ¬ atP.SymmetricAt fs path d := by
  have computed : (Module.parse "type-x\n@[*g(*h(),*x[a])]\ndef f():").toOption.map (fun m =>
        m.definitions.map fun d =>
          (d.element.callees.toOption, d.node.callees d.element.name)) =
      some [(some ⟨["h"], false⟩, ⟨[], false⟩)] := by
    decide +kernel
  obtain ⟨m, parsed, values⟩ := Module.exists_of_map_parse computed
  obtain ⟨d, only, values⟩ := List.map_eq_singleton_iff.1 values
  obtain ⟨alone, within⟩ := Prod.mk.inj values
  have hm := module_oneFile parsed
  have hp : ⟨"/p/a.py"⟩ ∈ atP.sourceFiles (oneFile "type-x\n@[*g(*h(),*x[a])]\ndef f():") := by
    decide +kernel
  have survives : m.Survives d := Module.mem_definitions.1 (only ▸ List.mem_cons_self)
  have callees := ok_of_toOption alone
  have unreported : ¬ (d.node.callees d.element.name).contains "h" = true := by
    rw [within]
    decide
  rw [← reports_findCallers hp hm survives] at unreported
  refine ⟨_, rfl, _, hp, m, hm, d, survives, callees, within, unreported, ?_⟩
  rintro ⟨s, ok, reports, -⟩
  obtain rfl : s = ⟨["h"], false⟩ := Except.ok.inj (ok.symm.trans callees)
  exact unreported ((reports "h").1 (by decide))

end Project

end CallContext
