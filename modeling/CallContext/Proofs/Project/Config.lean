import CallContext.Project.Config
import CallContext.Proofs.Toml.Spelling

/-!
# Settings in the configuration file

The configuration file replaces the settings that it names and no others.

* `Config.load_exact` : what the settings are, and when the file is refused, for all its contents.
-/

namespace CallContext

namespace Toml

/-- The members of a table, however it is written. -/
def Item.members? : Item → Option Members
  | .table _ _ ms => some ms
  | .inline _ ms => some ms
  | _ => none

/-- The item at the end of a way through tables. -/
def Members.at? : List String → Members → Option Item
  | [], _ => none
  | [key], ms => ms.lookup key
  | key :: way, ms => ((ms.lookup key).bind Item.members?).bind (at? way)

end Toml

namespace Config

open Toml

/-! ### Types of settings -/

theorem bool?_eq_some {item : Item} {b : Bool} : bool? item = some b ↔ item = .boolean b := by
  cases item <;> simp [bool?]

theorem nat?_eq_some {item : Item} {n : Nat} : nat? item = some n ↔ item = .integer n := by
  cases item with
  | integer i =>
    simp only [nat?, Option.ite_none_right_eq_some, Option.some.injEq, Item.integer.injEq]
    omega
  | _ => simp [nat?]

theorem string?_eq_some {item : Item} {s : String} : string? item = some s ↔ item = .string s := by
  cases item <;> simp [string?]

theorem mapM_string?_eq_some {items : List Item} {l : List String} :
    items.mapM string? = some l ↔ items = l.map Item.string := by
  induction items generalizing l with
  | nil => cases l <;> simp
  | cons item items ih =>
    cases l <;>
      simp [List.mapM_cons, Option.bind_eq_some_iff, string?_eq_some, ih]

theorem strings?_eq_some {item : Item} {l : List String} :
    strings? item = some l ↔ item = .array (l.map Item.string) := by
  cases item with
  | array items => rw [strings?, mapM_string?_eq_some, Item.array.injEq]
  | _ => simp [strings?]

/-- The setting has its usual value if nothing is given, and else the value of what is given. -/
theorem setting_eq_some {α : Type} {decode : Item → Option α} {write : α → Item} {usual a : α}
    (h : ∀ item a, decode item = some a ↔ item = write a) {given : Option Item} :
    setting decode usual given = some a ↔ (given = none ∧ a = usual) ∨ given = some (write a) := by
  cases given with
  | none => simp [setting, eq_comm]
  | some item => simp [setting, h]

/-! ### Settings -/

/-- The settings that the configuration file can name. -/
inductive Name where
  | parallel
  | extensions
  | excludedDirectories
  | maxFileBytes
  | followLinks
deriving DecidableEq

namespace Name

/-- The values of the setting. -/
abbrev Value : Name → Type
  | parallel => Bool
  | extensions => List String
  | excludedDirectories => List String
  | maxFileBytes => Nat
  | followLinks => Bool

/-- The value that the setting has. -/
def value (settings : Settings) : (n : Name) → n.Value
  | parallel => settings.parallel
  | extensions => settings.scan.extensions
  | excludedDirectories => settings.scan.excludedDirectories
  | maxFileBytes => settings.scan.maxFileBytes
  | followLinks => settings.scan.followLinks

/-- How a value of the setting is written. -/
def item : (n : Name) → n.Value → Item
  | parallel, b => .boolean b
  | extensions, l => .array (l.map .string)
  | excludedDirectories, l => .array (l.map .string)
  | maxFileBytes, size => .integer size
  | followLinks, b => .boolean b

/-- Where the setting stands in a document. -/
def way : Name → List String
  | parallel => ["parallel"]
  | extensions => ["scan", "extensions"]
  | excludedDirectories => ["scan", "exclude_dir_names"]
  | maxFileBytes => ["scan", "max_file_bytes"]
  | followLinks => ["scan", "follow_links"]

/-- The setting has the value that is given, or its usual value if none is. -/
def Takes (settings : Settings) (n : Name) (given : Option Item) : Prop :=
  (given = none ∧ n.value settings = n.value {}) ∨ given = some (n.item (n.value settings))

/-- Whatever a well-typed document gives, some settings take it. -/
theorem exists_takes {given : Name → Option Item}
    (typed : ∀ n i, given n = some i → ∃ v, i = n.item v) :
    ∃ settings, ∀ n, Takes settings n (given n) := by
  have (n : Name) :
      ∃ v : n.Value, (given n = none ∧ v = n.value {}) ∨ given n = some (n.item v) := by
    cases h : given n with
    | none => exact ⟨_, .inl ⟨rfl, rfl⟩⟩
    | some i =>
      obtain ⟨v, rfl⟩ := typed n i h
      exact ⟨v, .inr rfl⟩
  choose v hv using this
  refine ⟨⟨⟨v extensions, v excludedDirectories, v maxFileBytes, v followLinks⟩, v parallel⟩,
    fun n => ?_⟩
  cases n <;> exact hv _

end Name

open Name

theorem scanOf_eq_some {e x m f : Option Item} {settings : Settings} :
    scanOf e x m f = some settings.scan ↔ extensions.Takes settings e ∧
      excludedDirectories.Takes settings x ∧ maxFileBytes.Takes settings m ∧
      followLinks.Takes settings f := by
  have strings {usual l : List String} {given : Option Item} :
      setting strings? usual given = some l ↔
        (given = none ∧ l = usual) ∨ given = some (.array (l.map .string)) :=
    setting_eq_some fun _ _ => strings?_eq_some
  have nat {usual n : Nat} {given : Option Item} : setting nat? usual given = some n ↔
      (given = none ∧ n = usual) ∨ given = some (.integer n) :=
    setting_eq_some fun _ _ => nat?_eq_some
  have bool {usual b : Bool} {given : Option Item} : setting bool? usual given = some b ↔
      (given = none ∧ b = usual) ∨ given = some (.boolean b) :=
    setting_eq_some fun _ _ => bool?_eq_some
  simp only [scanOf, Option.bind_eq_bind, Option.bind_eq_some_iff, strings, nat, bool]
  obtain ⟨scan, parallel⟩ := settings
  constructor
  · rintro ⟨e', he, x', hx, m', hm, f', hf, same⟩
    cases same
    exact ⟨he, hx, hm, hf⟩
  · rintro ⟨he, hx, hm, hf⟩
    exact ⟨scan.extensions, he, scan.excludedDirectories, hx, scan.maxFileBytes, hm,
      scan.followLinks, hf, rfl⟩

theorem ofMembers_eq_some {ms : Members} {settings : Settings} :
    ofMembers ms = some settings ↔ setting scan? {} (ms.lookup "scan") = some settings.scan ∧
      parallel.Takes settings (ms.lookup "parallel") := by
  simp only [ofMembers, Option.bind_eq_bind, Option.bind_eq_some_iff,
    setting_eq_some fun _ _ => bool?_eq_some]
  obtain ⟨scan, parallel⟩ := settings
  constructor
  · rintro ⟨scan', hs, parallel', hp, same⟩
    cases same
    exact ⟨hs, hp⟩
  · rintro ⟨hs, hp⟩
    exact ⟨scan, hs, parallel, hp, rfl⟩

/-! ### Documents -/

/-- The settings of the scan, if the document has any, stand in a table. -/
def IsTabular (ms : Members) : Prop :=
  ∀ item, ms.lookup "scan" = some item → item.members?.isSome = true

theorem scan?_of_isTabular {ms : Members} (h : IsTabular ms) :
    setting scan? {} (ms.lookup "scan") =
      scanOf (ms.at? extensions.way) (ms.at? excludedDirectories.way) (ms.at? maxFileBytes.way)
        (ms.at? followLinks.way) := by
  simp only [way, Members.at?]
  cases found : ms.lookup "scan" with
  | none => rfl
  | some item =>
    have table := h item found
    cases item with
    | table => rfl
    | inline => rfl
    | _ => cases table

/-- The settings of a document are those that take what it gives for each of them. -/
theorem ofMembers_eq_some_iff {ms : Members} (h : IsTabular ms) {settings : Settings} :
    ofMembers ms = some settings ↔ ∀ n : Name, n.Takes settings (ms.at? n.way) := by
  rw [ofMembers_eq_some, scan?_of_isTabular h, scanOf_eq_some]
  constructor
  · rintro ⟨⟨he, hx, hm, hf⟩, hp⟩ n
    cases n <;> assumption
  · intro all
    exact ⟨⟨all _, all _, all _, all _⟩, all parallel⟩

theorem ofMembers_eq_none_iff {ms : Members} (h : IsTabular ms) :
    ofMembers ms = none ↔ ∃ (n : Name) (i : Item), ms.at? n.way = some i ∧ ∀ v, i ≠ n.item v := by
  constructor
  · intro failed
    by_contra untyped
    have typed (n : Name) (i : Item) (given : ms.at? n.way = some i) : ∃ v, i = n.item v := by
      by_contra none
      exact untyped ⟨n, i, given, fun v same => none ⟨v, same⟩⟩
    obtain ⟨settings, taken⟩ := @exists_takes (fun n => ms.at? n.way) typed
    rw [(ofMembers_eq_some_iff h).2 taken] at failed
    cases failed
  · rintro ⟨n, i, given, untyped⟩
    refine Option.eq_none_iff_forall_ne_some.2 fun settings made => ?_
    rcases (ofMembers_eq_some_iff h).1 made n with ⟨none, -⟩ | some
    · rw [given] at none
      cases none
    · rw [given] at some
      exact untyped _ (Option.some.inj some)

theorem ofMembers_congr {ms ms' : Members}
    (scan : setting scan? {} (ms.lookup "scan") = setting scan? {} (ms'.lookup "scan"))
    (parallel : ms.lookup "parallel" = ms'.lookup "parallel") : ofMembers ms = ofMembers ms' := by
  rw [ofMembers, ofMembers, scan, parallel]

/-- The settings of the scan in the order in which an array gives them. -/
def scanNames : List String := ["extensions", "exclude_dir_names", "max_file_bytes", "follow_links"]

theorem scan?_array (items : List Item) :
    scan? (.array items) = scan? (.inline false (scanNames.zip items)) := by
  rcases items with _ | ⟨e, _ | ⟨x, _ | ⟨m, _ | ⟨f, more⟩⟩⟩⟩ <;> rfl

/-- The settings of the scan may stand in another item. -/
theorem ofMembers_set {ms : Members} {item item' : Item} (found : ms.lookup "scan" = some item)
    (same : scan? item = scan? item') : ofMembers ms = ofMembers (ms.set "scan" item') := by
  refine ofMembers_congr ?_ ?_
  · rw [found, Members.lookup_set, if_pos rfl, setting, setting, same]
  · rw [Members.lookup_set, if_neg (by decide)]

/-! ### Ways to write the settings of the scan -/

theorem isBare_scan : IsBare "scan".toList := ⟨by decide, List.all_eq_true.1 rfl⟩

/-- A table is no value of a setting, however it is written. -/
theorem setting_braced {α : Type} (decode : Item → Option α)
    (h : ∀ ms, decode (.inline true ms) = none) (h' : ∀ ms, decode (.table true true ms) = none)
    (usual : α) (given : Option Item) :
    setting decode usual (given.map Item.braced) = setting decode usual given := by
  cases given with
  | none => rfl
  | some item =>
    show decode item.braced = decode item
    fun_cases Item.braced item with
    | case1 ms => rw [h, h']
    | case2 => rfl

theorem scanOfMembers_bracedAll (ms : Members) :
    scanOfMembers (bracedAll ms) = scanOfMembers ms := by
  simp only [scanOfMembers, scanOf, lookup_bracedAll,
    setting_braced strings? (fun _ => rfl) (fun _ => rfl),
    setting_braced nat? (fun _ => rfl) (fun _ => rfl),
    setting_braced bool? (fun _ => rfl) (fun _ => rfl)]

theorem scan?_item? {es : List TableEntry} {ms : Members} (empty : es = [] → ms = [])
    (s : TableStyle) : setting scan? {} (s.item? es ms) = scanOfMembers ms := by
  cases s with
  | header => rfl
  | inline => exact scanOfMembers_bracedAll ms
  | dotted =>
    cases es with
    | nil =>
      rw [empty rfl]
      rfl
    | cons e es => rfl

/-- The settings are the same however those of the scan are written. -/
theorem ofText?_document {front : List Line} (es : List TableEntry) {back : List Section}
    (before : ∀ l ∈ front, l.IsOutside "scan") (behind : ∀ s ∈ back, s.IsOutside "scan")
    (s s' : TableStyle) : ofText? (String.ofList (s.document isBare_scan front es back)) =
      ofText? (String.ofList (s'.document isBare_scan front es back)) := by
  have name : String.ofList "scan".toList = "scan" := String.ofList_toList
  have before' : ∀ l ∈ front, l.IsOutside (String.ofList "scan".toList) := by rwa [name]
  have behind' : ∀ s ∈ back, s.IsOutside (String.ofList "scan".toList) := by rwa [name]
  obtain ⟨ms, empty, alike⟩ := rel_parse?_document isBare_scan es before' behind' s s'
  rw [ofText?, ofText?]
  generalize parse? (String.ofList (s.document isBare_scan front es back)) = read at alike ⊢
  generalize parse? (String.ofList (s'.document isBare_scan front es back)) = read' at alike ⊢
  cases alike with
  | none => rfl
  | some alike =>
    rw [name] at alike
    refine ofMembers_congr ?_ (alike.others _ (by decide))
    rw [alike.left, alike.right, scan?_item? empty, scan?_item? empty]

/-! ### The file -/

section

variable {fs : FileSystem} {root : Path} {names : List String}

theorem exists_resolve_of_read {path : Path} {source : String} (h : fs.read path = .ok source) :
    ∃ names, fs.resolve path = .ok (names, .file (.text source)) := by
  unfold FileSystem.read at h
  split at h <;> cases h
  next names found => exact ⟨names, found⟩

theorem load_of_text {source : String}
    (found : fs.resolve (root.join fileName) = .ok (names, .file (.text source))) :
    load fs root = (ofText? source).elim (.error (.invalid (root.join fileName))) .ok := by
  simp only [load, FileSystem.isFile, FileSystem.read, found, if_true]
  cases ofText? source <;> rfl

theorem load_of_bytes {size : Nat}
    (found : fs.resolve (root.join fileName) = .ok (names, .file (.bytes size))) :
    load fs root = .error (.unreadable .notText) := by
  simp only [load, FileSystem.isFile, FileSystem.read, found, if_true]

end

/-- The settings are the usual ones but for those that the document names, or one of these has the
wrong type. -/
structure Decoded (path : Path) (ms : Members) (result : Except ConfigError Settings) : Prop where
  ok_iff : ∀ settings, result = .ok settings ↔ ∀ n : Name, n.Takes settings (ms.at? n.way)
  error_iff : result = .error (.invalid path) ↔
    ∃ (n : Name) (i : Item), ms.at? n.way = some i ∧ ∀ v, i ≠ n.item v

theorem decoded {ms : Members} (h : IsTabular ms) (path : Path) :
    Decoded path ms ((ofMembers ms).elim (.error (.invalid path)) .ok) where
  ok_iff settings := by
    rw [← ofMembers_eq_some_iff h]
    cases ofMembers ms <;> simp
  error_iff := by
    rw [← ofMembers_eq_none_iff h]
    cases ofMembers ms <;> simp

/-- What a configuration file is used for, by what stands under the name of the scan. -/
structure Loaded (path : Path) (ms : Members) (result : Except ConfigError Settings) : Prop where
  table : IsTabular ms → Decoded path ms result
  /-- An array gives the settings in their order. -/
  array : ∀ items, ms.lookup "scan" = some (.array items) →
    Decoded path (ms.set "scan" (.inline false (scanNames.zip items))) result
  /-- A date gives no settings. -/
  date : ms.lookup "scan" = some .datetime → Decoded path (ms.set "scan" (.inline false [])) result
  other : ∀ item, ms.lookup "scan" = some item → item.members? = none →
    (∀ items, item ≠ .array items) → item ≠ .datetime → result = .error (.invalid path)

theorem isTabular_set (ms inner : Members) : IsTabular (ms.set "scan" (.inline false inner)) := by
  intro item found
  rw [Members.lookup_set, if_pos rfl] at found
  cases found
  rfl

theorem loaded (ms : Members) (path : Path) :
    Loaded path ms ((ofMembers ms).elim (.error (.invalid path)) .ok) where
  table h := decoded h path
  array items found := by
    rw [ofMembers_set found (scan?_array items)]
    exact decoded (isTabular_set _ _) path
  date found := by
    rw [ofMembers_set found (show scan? .datetime = scan? (.inline false []) from rfl)]
    exact decoded (isTabular_set _ _) path
  other item found noTable noArray noDate := by
    have failed : scan? item = none := by
      cases item with
      | table => cases noTable
      | inline => cases noTable
      | array items => exact absurd rfl (noArray items)
      | datetime => exact absurd rfl noDate
      | _ => rfl
    have : ofMembers ms = none := by
      rw [ofMembers, found, setting, failed]
      rfl
    rw [this]
    rfl

/-- The configuration file replaces the settings that it names and no others.  It is refused if it
is no text, no TOML, or if a setting has the wrong type.  The settings of the scan may be written in
any of the ways to write a table. -/
theorem load_exact (fs : FileSystem) (root : Path) :
    (fs.isFile (root.join fileName) = false → load fs root = .ok {}) ∧
    (∀ names size, fs.resolve (root.join fileName) = .ok (names, .file (.bytes size)) →
      load fs root = .error (.unreadable .notText)) ∧
    (∀ names source, fs.resolve (root.join fileName) = .ok (names, .file (.text source)) →
      (parse? source = none → load fs root = .error (.invalid (root.join fileName))) ∧
      ∀ ms, parse? source = some ms → Loaded (root.join fileName) ms (load fs root)) ∧
    ∀ (front : List Line) (es : List TableEntry) (back : List Section),
      (∀ l ∈ front, l.IsOutside "scan") → (∀ s ∈ back, s.IsOutside "scan") →
      ∀ (s s' : TableStyle) (fs' : FileSystem) (names names' : List String),
      fs.resolve (root.join fileName) =
        .ok (names, .file (.text (String.ofList (s.document isBare_scan front es back)))) →
      fs'.resolve (root.join fileName) =
        .ok (names', .file (.text (String.ofList (s'.document isBare_scan front es back)))) →
      load fs' root = load fs root := by
  refine ⟨fun absent => ?_, fun names size => load_of_bytes, fun names source found => ⟨?_, ?_⟩, ?_⟩
  · rw [load, absent]
    rfl
  · intro failed
    rw [load_of_text found, ofText?, failed]
    rfl
  · intro ms read
    rw [load_of_text found, ofText?, read]
    exact loaded ms _
  · intro front es back before behind s s' fs' names names' found found'
    rw [load_of_text found, load_of_text found', ofText?_document es before behind s s']

/-- A configuration file with settings and with other keys of the same names. -/
def sampleText : String :=
  "parallel = false # one by one\nother.max_file_bytes = [1.5, \x7b\x7d]\n[scan]\n" ++
    "extensions = [\"py\", 'pyi']\nmax_file_bytes = 0x10\nsymlinks = 1\n[[x]]\nfollow_links = true\n"

def sample : FileSystem :=
  ⟨[("p", .directory [("pyqa.toml", .file (.text sampleText))])], [], rfl⟩

theorem computed_sample : sample.read (Path.join ⟨"p"⟩ fileName) = .ok sampleText ∧
    (load sample ⟨"p"⟩).toOption =
      some ⟨{ extensions := ["py", "pyi"], maxFileBytes := 16 }, false⟩ ∧
    (parse? sampleText).map (fun ms => (ms.lookup "scan").all fun i => i.members?.isSome) =
      some true := by
  decide +kernel

/-- The settings that the sample names are replaced. -/
theorem load_exact_sample : ∃ ms, parse? sampleText = some ms ∧
    load sample ⟨"p"⟩ = .ok ⟨{ extensions := ["py", "pyi"], maxFileBytes := 16 }, false⟩ ∧
    ∀ n : Name,
      n.Takes ⟨{ extensions := ["py", "pyi"], maxFileBytes := 16 }, false⟩ (ms.at? n.way) := by
  obtain ⟨read, loaded, tabular⟩ := computed_sample
  obtain ⟨ms, parsed, tabular⟩ := Option.map_eq_some_iff.1 tabular
  obtain ⟨names, found⟩ := exists_resolve_of_read read
  have loaded : load sample ⟨"p"⟩ =
      .ok ⟨{ extensions := ["py", "pyi"], maxFileBytes := 16 }, false⟩ := by
    cases result : load sample ⟨"p"⟩ <;> rw [result] at loaded <;> cases loaded
    rfl
  have isTabular : IsTabular ms := fun item found => by simpa [found] using tabular
  have decoded :=
    (((load_exact sample ⟨"p"⟩).2.2.1 names sampleText found).2 ms parsed).table isTabular
  exact ⟨ms, parsed, loaded, (decoded.ok_iff _).1 loaded⟩

end Config

end CallContext
