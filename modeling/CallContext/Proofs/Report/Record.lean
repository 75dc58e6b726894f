import CallContext.Proofs.Files.Identifier
import CallContext.Proofs.Project.Analysis
import CallContext.Proofs.Project.Imports
import CallContext.Proofs.Report.Json
import CallContext.Report.Record

/-!
# Reports can be read back

The full report of an analysis loses nothing but the modules that import statements stand in and the
order of what imports bring in.  `Analysis.ofValue?` gets the rest back.  The callers of a name are
written under texts made of their paths and names; these differ, for a name is an identifier and has
no colons.
-/

namespace CallContext

/-! ### Parts of values -/

namespace Value

variable {α : Type}

/-- The value of a key. -/
def get? (key : String) : Value → Option Value
  | obj members => members.lookup key
  | _ => none

/-- What is read from the value of a key. -/
def field? (read : Value → Option α) (key : String) (v : Value) : Option α :=
  (v.get? key).bind read

def str? : Value → Option String
  | str s => some s
  | _ => none

def bool? : Value → Option Bool
  | bool b => some b
  | _ => none

/-- A natural number. -/
def nat? : Value → Option Nat
  | num q => if q.den = 1 ∧ 0 ≤ q.num then some q.num.toNat else none
  | _ => none

@[simp] theorem str?_str (s : String) : str? (str s) = some s := rfl

@[simp] theorem bool?_bool (b : Bool) : bool? (bool b) = some b := rfl

@[simp] theorem nat?_natCast (n : Nat) : nat? (num n) = some n := by simp [nat?]

/-- What is read from the items of an array. -/
def list? (read : Value → Option α) : Value → Option (List α)
  | arr items => items.mapM read
  | _ => none

/-- What is read from the members of an object. -/
def entries? (read : String × Value → Option α) : Value → Option (List α)
  | obj members => members.mapM read
  | _ => none

/-- The object under a key has some number of members. -/
def HasEntries (v : Value) (key : String) (n : Nat) : Prop :=
  ∃ members, v.get? key = some (obj members) ∧ members.length = n

/-- No object in the value has a key twice. -/
inductive Clear : Value → Prop
  | null : Clear null
  | bool (b : Bool) : Clear (bool b)
  | num (q : Rat) : Clear (num q)
  | str (s : String) : Clear (str s)
  | arr {items : List Value} (h : ∀ v ∈ items, Clear v) : Clear (arr items)
  | obj {members : List (String × Value)} (nodup : (members.map (·.1)).Nodup)
      (h : ∀ m ∈ members, Clear m.2) : Clear (obj members)

end Value

open Value

/-! ### Reading a report -/

def ElementKind.ofName? (s : String) : Option ElementKind :=
  [functionDefinition, classDefinition].find? (·.name = s)

def ImportKind.ofName? (s : String) : Option ImportKind :=
  [wholeModule, names, wildcard].find? (·.name = s)

def DiagnosticKind.ofName? (s : String) : Option DiagnosticKind :=
  [parse, unresolvedImport, elementNotFound, io].find? (·.name = s)

def Element.ofValue? (v : Value) : Option Element := do
  let name ← v.field? str? "name"
  let kind ← v.field? str? "kind"
  let kind ← ElementKind.ofName? kind
  let source ← v.field? str? "source_text"
  let startLine ← v.field? nat? "start_line"
  let endLine ← v.field? nat? "end_line"
  let startByte ← v.field? nat? "start_byte"
  let endByte ← v.field? nat? "end_byte"
  some ⟨name, kind, source, startLine, endLine, startByte, endByte, v.field? str? "docstring"⟩

/-- The statement is read without the module that it stands in. -/
def ImportStatement.ofValue? (v : Value) : Option ImportStatement := do
  let reference ← v.field? str? "module_reference"
  let names ← v.field? (list? str?) "imported_names"
  let kind ← v.field? str? "kind"
  let kind ← ImportKind.ofName? kind
  let level ← v.field? nat? "level"
  let isLocal ← v.field? bool? "is_local"
  let source ← v.field? str? "raw_text"
  let line ← v.field? nat? "line"
  some ⟨reference, names, kind, level, isLocal, source, line,
    (v.field? str? "resolved_path").map Path.mk, ⟨""⟩⟩

def Diagnostic.ofValue? (v : Value) : Option Diagnostic := do
  let path ← v.field? str? "path"
  let kind ← v.field? str? "kind"
  let kind ← DiagnosticKind.ofName? kind
  let message ← v.field? str? "message"
  some ⟨⟨path⟩, kind, message⟩

/-- The identity that is displayed so: its name stands behind the last colon. -/
def ElementId.ofDisplay? (s : String) : Option ElementId :=
  match s.toList.reverse.dropWhile (· ≠ ':') with
  | ':' :: ':' :: path =>
    some ⟨⟨String.ofList path.reverse⟩,
      String.ofList (s.toList.reverse.takeWhile (· ≠ ':')).reverse⟩
  | _ => none

/-- A caller with its identity. -/
def ElementMap.entry? (m : String × Value) : Option (ElementId × Element) := do
  let id ← ElementId.ofDisplay? m.1
  let e ← Element.ofValue? m.2
  some (id, e)

/-- Reads the full report of an analysis. -/
def Analysis.ofValue? (v : Value) : Option Analysis := do
  let path ← v.field? str? "module"
  let element ← v.field? Element.ofValue? "element"
  let callees ← v.field? (list? str?) "callees"
  let recursive ← v.field? bool? "recursive"
  let callers ← v.field? (entries? ElementMap.entry?) "callers"
  let importedModules ← v.field? (list? str?) "imported_modules"
  let importStatements ← v.field? (list? ImportStatement.ofValue?) "import_statements"
  let sources ← v.field? (entries? fun m => Element.ofValue? m.2) "local_import_sources"
  let diagnostics ← v.field? (list? Diagnostic.ofValue?) "diagnostics"
  some
    { path := ⟨path⟩
      element
      callees
      recursive
      callers := sortedSet (fun a b => a.1.compare b.1) callers
      importedModules
      importStatements
      localSources := Catalog.ofList sources
      diagnostics }

/-! ### Sorted objects -/

open Std

/-- The order of members by their keys. -/
instance : TransCmp fun a b : String × Json => compare a.1 b.1 :=
  transCmp_on compare Prod.fst

section Lookup

variable {β : Type} {as bs : List (String × β)}

/-- Among members with different keys each is found under its key. -/
theorem lookup_eq_some_of_mem (h : (as.map (·.1)).Nodup) {key : String} {b : β}
    (hm : (key, b) ∈ as) : as.lookup key = some b := by
  obtain ⟨before, after, rfl⟩ := List.append_of_mem hm
  refine List.lookup_eq_some_iff.2 ⟨before, after, rfl, fun m hb => ?_⟩
  rw [List.map_append, List.map_cons, List.nodup_append] at h
  have other := h.2.2 m.1 (List.mem_map_of_mem hb) key List.mem_cons_self
  simpa using other.symm

/-- What is found under a key does not depend on the order. -/
theorem lookup_of_perm (h : (as.map (·.1)).Nodup) (perm : as.Perm bs) (key : String) :
    bs.lookup key = as.lookup key := by
  have h' : (bs.map (·.1)).Nodup := (perm.map (·.1)).nodup h
  have mem {cs : List (String × β)} {b : β} (found : cs.lookup key = some b) : (key, b) ∈ cs := by
    obtain ⟨before, after, rfl, -⟩ := List.lookup_eq_some_iff.1 found
    exact List.mem_append_right _ List.mem_cons_self
  refine Option.ext fun b => ⟨fun found => ?_, fun found => ?_⟩
  · exact lookup_eq_some_of_mem h (perm.mem_iff.2 (mem found))
  · exact lookup_eq_some_of_mem h' (perm.mem_iff.1 (mem found))

end Lookup

namespace Json

variable {members : List (String × Json)}

theorem perm_sortedSet (h : (members.map (·.1)).Nodup) :
    (sortedSet (fun a b => compare a.1 b.1) members).Perm members := by
  refine perm_foldl_insertSorted ?_
  exact (List.pairwise_map.1 h).imp fun different same => different (Std.compare_eq_iff_eq.1 same)

/-- A sorted object has the members that were put in, in some order. -/
theorem exists_perm_value_sorted (h : (members.map (·.1)).Nodup) :
    ∃ ms, (sorted members).value = .obj ms ∧ ms.Perm (namedValues members) ∧
      (ms.map (·.1)).Nodup := by
  refine ⟨namedValues (sortedSet (fun a b => compare a.1 b.1) members), rfl, ?_, ?_⟩
  · rw [namedValues_eq_map, namedValues_eq_map]
    exact (perm_sortedSet h).map _
  · rw [namedValues_eq_map, List.map_map]
    exact ((perm_sortedSet h).map (·.1)).symm.nodup h

theorem get?_sorted (h : (members.map (·.1)).Nodup) (key : String) :
    (sorted members).value.get? key = (namedValues members).lookup key := by
  obtain ⟨ms, value, perm, nodup⟩ := exists_perm_value_sorted h
  rw [value, get?, lookup_of_perm nodup perm]

/-- An array is read item by item. -/
theorem list?_arr {α β : Type} {read : Value → Option α} {write : β → Json} {result : β → α}
    (h : ∀ b, read (write b).value = some (result b)) (bs : List β) :
    list? read (arr (bs.map write)).value = some (bs.map result) := by
  rw [value, list?, values_eq_map, List.map_map]
  induction bs with
  | nil => rfl
  | cons b bs ih => simp [h, ih]

@[simp] theorem list?_strings (items : List String) :
    list? str? (strings items).value = some items := by
  have read : ∀ s, str? (str s).value = some (id s) := fun _ => rfl
  rw [strings, list?_arr read, List.map_id]

end Json

/-! ### Records -/

@[simp] theorem ElementKind.ofName?_name (k : ElementKind) : ofName? k.name = some k := by
  cases k <;> rfl

@[simp] theorem ImportKind.ofName?_name (k : ImportKind) : ofName? k.name = some k := by
  cases k <;> rfl

@[simp] theorem DiagnosticKind.ofName?_name (k : DiagnosticKind) : ofName? k.name = some k := by
  cases k <;> rfl

theorem Element.nodup_members (e : Element) : (e.members.map (·.1)).Nodup := by
  cases docstring : e.docstring <;> simp [members, docstring, Json.optional]

/-- An element is read as it was written. -/
theorem Element.ofValue?_toJson (e : Element) : Element.ofValue? e.toJson.value = some e := by
  simp only [ofValue?, field?, toJson, Json.get?_sorted e.nodup_members]
  obtain ⟨name, kind, source, startLine, endLine, startByte, endByte, docstring⟩ := e
  cases docstring <;> simp [members, Json.optional, Json.namedValues, List.lookup_cons]

/-- The statement without the module that it stands in. -/
def ImportStatement.withoutOrigin (s : ImportStatement) : ImportStatement :=
  { s with origin := ⟨""⟩ }

/-- A statement is read as it was written, without the module that it stands in. -/
theorem ImportStatement.ofValue?_toJson (s : ImportStatement) :
    ImportStatement.ofValue? s.toJson.value = some s.withoutOrigin := by
  obtain ⟨reference, names, kind, level, isLocal, source, line, resolved, origin⟩ := s
  cases resolved <;>
  simp (disch := simp [Json.optional]) only [ofValue?, field?, toJson, Json.get?_sorted] <;>
  simp [withoutOrigin, Json.optional, Json.namedValues, List.lookup_cons]

theorem Diagnostic.ofValue?_toJson (d : Diagnostic) :
    Diagnostic.ofValue? d.toJson.value = some d := by
  simp (disch := simp) only [ofValue?, field?, toJson, Json.get?_sorted]
  simp [Json.namedValues, List.lookup_cons]

/-! ### Identities -/

/-- The name of an element has no colons, so the last ones in what is displayed end the path. -/
theorem ElementId.ofDisplay?_display {id : ElementId} (h : Identifier.isWord id.name = true) :
    ofDisplay? id.display = some id := by
  have plain : ∀ c ∈ id.name.toList.reverse, decide (c ≠ ':') = true := by
    intro c hc
    rw [decide_eq_true_eq]
    rintro rfl
    exact Identifier.colon_not_mem h (List.mem_reverse.1 hc)
  have text : id.display.toList.reverse =
      id.name.toList.reverse ++ ':' :: ':' :: id.path.text.toList.reverse := by
    simp [display]
  rw [ofDisplay?, text, List.dropWhile_append_of_pos plain, List.takeWhile_append_of_pos plain]
  simp

/-- Callers in increasing order are displayed differently. -/
theorem ElementMap.nodup_display {callers : ElementMap}
    (h : Increasing (fun a b => a.1.compare b.1) callers)
    (words : ∀ entry ∈ callers, Identifier.isWord entry.1.name = true) :
    (callers.map (·.1.display)).Nodup := by
  refine List.pairwise_map.2 (h.imp_of_mem ?_)
  intro a b ha hb lt same
  have ids := ElementId.ofDisplay?_display (words a ha)
  rw [same, ElementId.ofDisplay?_display (words b hb), Option.some_inj] at ids
  have eq : a.1.compare b.1 = .eq := ElementId.compare_eq_iff.2 (by simp [ids])
  cases eq.symm.trans lt

/-! ### Objects as maps -/

theorem mapM_eq_some_filterMap {α β : Type} {read : α → Option β} {as : List α}
    (h : ∀ a ∈ as, (read a).isSome = true) : as.mapM read = some (as.filterMap read) := by
  induction as with
  | nil => rfl
  | cons a as ih =>
    obtain ⟨first, others⟩ := List.forall_mem_cons.1 h
    obtain ⟨b, hb⟩ := Option.isSome_iff_exists.1 first
    simp [hb, ih others]

/-- All members of a sorted object are read, in some order. -/
theorem Json.entries?_sorted {α : Type} {members : List (String × Json)}
    (h : (members.map (·.1)).Nodup) {read : String × Value → Option α} {as : List α}
    (all : (namedValues members).map read = as.map some) :
    ∃ as', as'.Perm as ∧ entries? read (sorted members).value = some as' := by
  obtain ⟨ms, value, perm, -⟩ := exists_perm_value_sorted h
  have readAll : ∀ m ∈ ms, (read m).isSome = true := by
    intro m hm
    have mem := List.mem_map_of_mem (f := read) (perm.mem_iff.1 hm)
    rw [all] at mem
    obtain ⟨a, -, same⟩ := List.mem_map.1 mem
    rw [← same]
    rfl
  refine ⟨ms.filterMap read, ?_, ?_⟩
  · have results : (namedValues members).filterMap read = as := by
      have kept := congrArg (List.filterMap id) all
      simpa [List.filterMap_map] using kept
    rw [← results]
    exact perm.filterMap read
  · rw [value, entries?, mapM_eq_some_filterMap readAll]

theorem Json.hasEntries_of_get? {v : Value} {key : String} {members : List (String × Json)}
    (h : (members.map (·.1)).Nodup) (found : v.get? key = some (sorted members).value) :
    v.HasEntries key members.length := by
  obtain ⟨ms, value, perm, -⟩ := exists_perm_value_sorted h
  rw [value] at found
  refine ⟨ms, found, ?_⟩
  rw [perm.length_eq, namedValues_eq_map, List.length_map]

/-! ### No key is there twice -/

namespace Json

/-- A sorted object has no key twice, whatever was put in. -/
theorem clear_sorted {members : List (String × Json)} (h : ∀ m ∈ members, m.2.value.Clear) :
    (sorted members).value.Clear := by
  rw [sorted, value, namedValues_eq_map]
  refine .obj ?_ ?_
  · rw [List.map_map]
    refine List.pairwise_map.2 ((increasing_sortedSet members).imp ?_)
    intro a b lt same
    have eq : compare a.1 b.1 = .eq := Std.compare_eq_iff_eq.2 same
    cases eq.symm.trans lt
  · intro m hm
    obtain ⟨member, mem, rfl⟩ := List.mem_map.1 hm
    exact h member (mem_of_mem_sortedSet mem)

theorem clear_arr {items : List Json} (h : ∀ v ∈ items, v.value.Clear) :
    (arr items).value.Clear := by
  rw [value, values_eq_map]
  exact .arr (List.forall_mem_map.2 h)

theorem clear_strings (items : List String) : (strings items).value.Clear :=
  clear_arr (List.forall_mem_map.2 fun s _ => by simp [Clear.str])

end Json

theorem Element.clear_toJson (e : Element) : e.toJson.value.Clear := by
  refine Json.clear_sorted ?_
  cases docstring : e.docstring <;>
  simp [members, docstring, Json.optional, Clear.str, Clear.num]

theorem ImportStatement.clear_toJson (s : ImportStatement) : s.toJson.value.Clear := by
  refine Json.clear_sorted ?_
  cases s.resolved <;>
  simp [Json.optional, Clear.str, Clear.num, Clear.bool, Json.clear_strings]

theorem Diagnostic.clear_toJson (d : Diagnostic) : d.toJson.value.Clear :=
  Json.clear_sorted (by simp [Clear.str])

/-! ### Analyses -/

namespace Analysis

/-- The callers in a report. -/
def callerMembers (a : Analysis) : List (String × Json) :=
  a.callers.map fun entry => (entry.1.display, entry.2.toJson)

/-- What imports bring in, in a report. -/
def sourceMembers (a : Analysis) : List (String × Json) :=
  a.localSources.elements.map fun e => (e.name, e.toJson)

/-- The members of the full report. -/
def members (a : Analysis) : List (String × Json) :=
  [("module", .str a.path.text), ("element", a.element.toJson), ("callees", .strings a.callees),
    ("recursive", .bool a.recursive), ("callers", .sorted a.callerMembers),
    ("imported_modules", .strings a.importedModules),
    ("import_statements", .arr (a.importStatements.map ImportStatement.toJson)),
    ("local_import_sources", .sorted a.sourceMembers),
    ("diagnostics", .arr (a.diagnostics.map Diagnostic.toJson))]

theorem toJson_eq (a : Analysis) : a.toJson = .sorted a.members := rfl

theorem get?_toJson (a : Analysis) (key : String) :
    a.toJson.value.get? key = (Json.namedValues a.members).lookup key := by
  rw [toJson_eq, Json.get?_sorted (by simp [members])]

theorem clear_toJson (a : Analysis) : a.toJson.value.Clear := by
  have callers : (Json.sorted a.callerMembers).value.Clear :=
    Json.clear_sorted (List.forall_mem_map.2 fun entry _ => entry.2.clear_toJson)
  have sources : (Json.sorted a.sourceMembers).value.Clear :=
    Json.clear_sorted (List.forall_mem_map.2 fun e _ => e.clear_toJson)
  have statements : (Json.arr (a.importStatements.map ImportStatement.toJson)).value.Clear :=
    Json.clear_arr (List.forall_mem_map.2 fun s _ => s.clear_toJson)
  have diagnostics : (Json.arr (a.diagnostics.map Diagnostic.toJson)).value.Clear :=
    Json.clear_arr (List.forall_mem_map.2 fun d _ => d.clear_toJson)
  rw [toJson_eq]
  refine Json.clear_sorted ?_
  simp [members, Clear.str, Clear.bool, a.element.clear_toJson, Json.clear_strings, callers,
    sources, statements, diagnostics]

/-- The full report is JSON in both forms, with one value. -/
theorem isText_render_iff {a : Analysis} {f : JsonFormat} (full : f.minimal = false) {v : Value} :
    v.IsText (f.render a) ↔ v = a.toJson.value := by
  have written : a.toJson.value.IsText (f.render a) := by
    rw [JsonFormat.render, full]
    cases f.pretty with
    | false => exact a.toJson.isText_compact
    | true => exact a.toJson.isText_pretty
  exact ⟨fun h => h.unique written, fun same => same ▸ written⟩

/-- The analyses are the same but for the modules that import statements stand in, and for the order
of what imports bring in. -/
structure Agrees (a b : Analysis) : Prop where
  path_eq : a.path = b.path
  element_eq : a.element = b.element
  callees_eq : a.callees = b.callees
  recursive_eq : a.recursive = b.recursive
  callers_eq : a.callers = b.callers
  importedModules_eq : a.importedModules = b.importedModules
  importStatements_eq : a.importStatements.map ImportStatement.withoutOrigin =
    b.importStatements.map ImportStatement.withoutOrigin
  localSources_perm : a.localSources.elements.Perm b.localSources.elements
  diagnostics_eq : a.diagnostics = b.diagnostics

theorem Agrees.symm {a b : Analysis} (h : a.Agrees b) : b.Agrees a :=
  ⟨h.1.symm, h.2.symm, h.3.symm, h.4.symm, h.5.symm, h.6.symm, h.7.symm, h.8.symm, h.9.symm⟩

theorem Agrees.trans {a b c : Analysis} (h : a.Agrees b) (h' : b.Agrees c) : a.Agrees c :=
  ⟨h.1.trans h'.1, h.2.trans h'.2, h.3.trans h'.3, h.4.trans h'.4, h.5.trans h'.5,
    h.6.trans h'.6, h.7.trans h'.7, h.8.trans h'.8, h.9.trans h'.9⟩

/-- What the maps of an analysis satisfy. -/
structure Regular (a : Analysis) : Prop where
  increasing_callers : Increasing (fun a b => a.1.compare b.1) a.callers
  isWord_callers : ∀ entry ∈ a.callers, Identifier.isWord entry.1.name = true
  indexed_localSources : a.localSources.Indexed

namespace Regular

variable {a : Analysis} (h : a.Regular)

include h

theorem nodup_callerMembers : (a.callerMembers.map (·.1)).Nodup := by
  rw [callerMembers, List.map_map]
  exact ElementMap.nodup_display h.increasing_callers h.isWord_callers

theorem nodup_sourceMembers : (a.sourceMembers.map (·.1)).Nodup := by
  rw [sourceMembers, List.map_map]
  exact h.indexed_localSources.nodup

theorem hasEntries_callers : a.toJson.value.HasEntries "callers" a.callers.length := by
  have found := Json.hasEntries_of_get? h.nodup_callerMembers (a.get?_toJson "callers")
  rwa [callerMembers, List.length_map] at found

theorem hasEntries_localSources :
    a.toJson.value.HasEntries "local_import_sources" a.localSources.elements.length := by
  have found := Json.hasEntries_of_get? h.nodup_sourceMembers (a.get?_toJson "local_import_sources")
  rwa [sourceMembers, List.length_map] at found

/-- The callers are read, and then sorted again. -/
theorem exists_callers : ∃ callers,
    entries? ElementMap.entry? (Json.sorted a.callerMembers).value = some callers ∧
      sortedSet (fun a b => a.1.compare b.1) callers = a.callers := by
  have all : (Json.namedValues a.callerMembers).map ElementMap.entry? = a.callers.map some := by
    rw [Json.namedValues_eq_map, callerMembers, List.map_map, List.map_map]
    refine List.map_congr_left fun entry he => ?_
    simp [ElementMap.entry?, ElementId.ofDisplay?_display (h.isWord_callers entry he),
      Element.ofValue?_toJson]
  obtain ⟨callers, perm, read⟩ := Json.entries?_sorted h.nodup_callerMembers all
  refine ⟨callers, read, ?_⟩
  have distinct := h.increasing_callers.distinct
  rw [sortedSet, foldl_insertSorted_of_perm distinct perm.symm]
  exact (Increasing.foldl_insertSorted .nil _).eq_of_perm h.increasing_callers
    (perm_foldl_insertSorted distinct)

/-- What imports bring in is read, in some order. -/
theorem exists_localSources : ∃ sources,
    entries? (fun m => Element.ofValue? m.2) (Json.sorted a.sourceMembers).value = some sources ∧
      (Catalog.ofList sources).elements.Perm a.localSources.elements := by
  have all : (Json.namedValues a.sourceMembers).map (fun m => Element.ofValue? m.2) =
      a.localSources.elements.map some := by
    rw [Json.namedValues_eq_map, sourceMembers, List.map_map, List.map_map]
    exact List.map_congr_left fun e _ => e.ofValue?_toJson
  obtain ⟨sources, perm, read⟩ := Json.entries?_sorted h.nodup_sourceMembers all
  refine ⟨sources, read, ?_⟩
  have nodup : (sources.map (·.name)).Nodup :=
    (perm.map Element.name).symm.nodup h.indexed_localSources.nodup
  rwa [Catalog.elements_ofList nodup]

/-- An analysis is read back from its full report. -/
theorem exists_ofValue? : ∃ b, Analysis.ofValue? a.toJson.value = some b ∧ b.Agrees a := by
  obtain ⟨callers, readCallers, sorted⟩ := h.exists_callers
  obtain ⟨sources, readSources, perm⟩ := h.exists_localSources
  have statements := Json.list?_arr ImportStatement.ofValue?_toJson a.importStatements
  have same : ∀ d : Diagnostic, Diagnostic.ofValue? d.toJson.value = some (id d) :=
    Diagnostic.ofValue?_toJson
  have diagnostics := Json.list?_arr same a.diagnostics
  rw [List.map_id] at diagnostics
  refine ⟨⟨a.path, a.element, a.callees, a.recursive, a.callers, a.importedModules,
    a.importStatements.map ImportStatement.withoutOrigin, Catalog.ofList sources, a.diagnostics⟩,
    ?_, rfl, rfl, rfl, rfl, rfl, rfl, ?_, perm, rfl⟩
  · simp only [Analysis.ofValue?, field?, get?_toJson]
    simp [members, Json.namedValues, List.lookup_cons, Element.ofValue?_toJson, readCallers, sorted,
      readSources, statements, diagnostics]
  · rw [List.map_map]
    rfl

end Regular

end Analysis

namespace Project

variable {p : Project} {fs : FileSystem} {path : Path} {name : String} {a : Analysis}

theorem regular_of_analyze (h : p.analyze fs path name = .ok a) : a.Regular := by
  have composed := composed_of_analyze h
  obtain ⟨imports, resolved, -, statements⟩ := composed.imports_eq
  refine ⟨?_, ?_, ?_⟩
  · rw [composed.callers_eq, callers_findCallers]
    exact Increasing.foldl_insertSorted .nil _
  · intro entry he
    rw [composed.callers_eq] at he
    obtain ⟨file, -, m, -, d, survives, rfl, -, -⟩ := mem_callers_findCallers.1 he
    exact Module.isWord_of_mem (Module.mem_definitions.2 survives)
  · rw [composed.localSources_eq, statements, (localSources_resolveImports resolved).1]
    exact Catalog.indexed_ofList _

/-- The full report of an analysis loses nothing of it.  Its text is JSON, on one line and on
several, and both have the same value, in which no key is there twice.  The value has an entry for
each caller and for each element that imports bring in, and the analysis can be read back from it.
So analyses whose texts have the same value agree. -/
theorem lossless_render (h : p.analyze fs path name = .ok a) :
    (∃ v : Value, v.Clear ∧
      (∀ f : JsonFormat, f.minimal = false → ∀ w : Value, w.IsText (f.render a) ↔ w = v) ∧
      v.HasEntries "callers" a.callers.length ∧
      v.HasEntries "local_import_sources" a.localSources.elements.length ∧
      ∃ b, Analysis.ofValue? v = some b ∧ b.Agrees a) ∧
    ∀ (p' : Project) (fs' : FileSystem) (path' : Path) (name' : String) (a' : Analysis),
      p'.analyze fs' path' name' = .ok a' →
        ∀ f f' : JsonFormat, f.minimal = false → f'.minimal = false →
          ∀ w : Value, w.IsText (f.render a) → w.IsText (f'.render a') → a.Agrees a' := by
  have regular := regular_of_analyze h
  refine ⟨⟨a.toJson.value, a.clear_toJson, fun f full w => Analysis.isText_render_iff full,
    regular.hasEntries_callers, regular.hasEntries_localSources, regular.exists_ofValue?⟩, ?_⟩
  intro p' fs' path' name' a' h' f f' full full' w text text'
  obtain ⟨b, read, agrees⟩ := regular.exists_ofValue?
  obtain ⟨b', read', agrees'⟩ := (regular_of_analyze h').exists_ofValue?
  rw [← (Analysis.isText_render_iff full).1 text] at read
  rw [← (Analysis.isText_render_iff full').1 text', read, Option.some_inj] at read'
  rw [read'] at agrees
  exact agrees.symm.trans agrees'

/-- A project with a function that another module calls, and whose own module imports one.  Its text
has a quote, a tab and a letter beyond ASCII in it. -/
def quotedText : FileSystem :=
  ⟨[("p", .directory [("a.py", .file (.text "import c\ndef f(): \"é\t'\"")),
    ("b.py", .file (.text "def g(): f()")), ("c.py", .file (.text "class C: pass"))])], [], rfl⟩

/-- The report of the function has one caller, and one element that its module imports. -/
theorem lossless_render_quotedText : ∃ p, load quotedText ⟨"/p"⟩ {} = .ok p ∧
    ∃ a, p.analyze quotedText ⟨"a.py"⟩ "f" = .ok a ∧ a.element.docstring = some "é" ∧
      a.callers.map (·.1.display) = ["b.py::g"] ∧ a.localSources.names = ["C"] ∧
      ∃ v : Value, v.Clear ∧ v.IsText (JsonFormat.render {} a) ∧
        v.IsText (JsonFormat.render { pretty := true } a) ∧ v.HasEntries "callers" 1 ∧
        v.HasEntries "local_import_sources" 1 ∧ ∃ b, Analysis.ofValue? v = some b ∧ b.Agrees a := by
  have computed : (load quotedText ⟨"/p"⟩ {}).toOption.map (fun p =>
      (p.analyze quotedText ⟨"a.py"⟩ "f").toOption.map fun a =>
        (a.element.docstring, a.callers.map (·.1.display), a.localSources.names)) =
      some (some (some "é", ["b.py::g"], ["C"])) := by
    decide +kernel
  obtain ⟨p, opened, values⟩ := Option.map_eq_some_iff.1 computed
  obtain ⟨a, analysed, values⟩ := Option.map_eq_some_iff.1 values
  obtain ⟨docstring, values⟩ := Prod.mk.inj values
  obtain ⟨callers, sources⟩ := Prod.mk.inj values
  have done := ok_of_toOption analysed
  obtain ⟨v, clear, texts, hasCallers, hasSources, read⟩ := (lossless_render done).1
  have one : a.callers.length = 1 := by simpa using congrArg List.length callers
  have one' : a.localSources.elements.length = 1 := by
    simpa [Catalog.names] using congrArg List.length sources
  rw [one] at hasCallers
  rw [one'] at hasSources
  exact ⟨p, ok_of_toOption opened, a, done, docstring, callers, sources, v, clear,
    (texts {} rfl v).2 rfl, (texts { pretty := true } rfl v).2 rfl, hasCallers, hasSources, read⟩

end Project

end CallContext
