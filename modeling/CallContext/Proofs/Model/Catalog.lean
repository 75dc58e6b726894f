import CallContext.Model.Catalog

/-!
# Catalogs are lists of elements with different names

A catalog is `Indexed` if its index lists the names of its elements with their positions, and no
name stands twice.  `Catalog.remove` and `Catalog.insert` keep that, and act on the elements as
filtering out a name and adding an element at the end (`Catalog.Indexed.remove`,
`Catalog.Indexed.insert`).
-/

namespace CallContext

/-! ### The last one of a key wins -/

section PutLast

variable {α κ : Type} [DecidableEq κ] (key : α → κ)

/-- Adds something behind others, in place of what has its key. -/
def putLast (found : List α) (a : α) : List α := found.filter (key · ≠ key a) ++ [a]

theorem filter_key_of_not_mem {as : List α} {k : κ} (h : k ∉ as.map key) :
    as.filter (key · ≠ k) = as := by
  refine List.filter_eq_self.2 fun a ha => ?_
  simp only [decide_eq_true_eq]
  rintro rfl
  exact h (List.mem_map_of_mem ha)

/-- Taking out the only one of a key is filtering the key out. -/
theorem eraseIdx_eq_filter {before after : List α} {a : α} (hb : key a ∉ before.map key)
    (ha : key a ∉ after.map key) :
    (before ++ a :: after).eraseIdx before.length =
      (before ++ a :: after).filter (key · ≠ key a) := by
  rw [List.eraseIdx_append_of_length_le (Nat.le_refl _), List.filter_append, List.filter_cons,
    filter_key_of_not_mem key hb, filter_key_of_not_mem key ha]
  simp

theorem foldl_putLast_sublist (as found : List α) :
    (as.foldl (putLast key) found).Sublist (found ++ as) := by
  induction as generalizing found with
  | nil => simp
  | cons a as ih =>
    refine (ih (putLast key found a)).trans ?_
    rw [putLast, List.append_assoc]
    exact List.filter_sublist.append_right _

theorem nodup_putLast {found : List α} (h : (found.map key).Nodup) (a : α) :
    ((putLast key found a).map key).Nodup := by
  rw [putLast, List.map_append, List.map_singleton]
  refine List.nodup_append.2 ⟨h.sublist (List.filter_sublist.map key), by simp, ?_⟩
  rintro k hk l hl rfl
  obtain ⟨b, hb, rfl⟩ := List.mem_map.1 hk
  exact of_decide_eq_true (List.mem_filter.1 hb).2 (List.mem_singleton.1 hl)

theorem nodup_foldl_putLast {found : List α} (h : (found.map key).Nodup) (as : List α) :
    ((as.foldl (putLast key) found).map key).Nodup := by
  induction as generalizing found with
  | nil => exact h
  | cons a as ih => exact ih (nodup_putLast key h a)

/-- Of what was found before and what comes then, that stays which nothing after it replaces. -/
theorem mem_foldl_putLast {a : α} {as found : List α} :
    a ∈ as.foldl (putLast key) found ↔
      (a ∈ found ∧ ∀ b ∈ as, key b ≠ key a) ∨
        ∃ before after, as = before ++ a :: after ∧ ∀ b ∈ after, key b ≠ key a := by
  induction as generalizing found with
  | nil => simp
  | cons c as ih =>
    have added : a ∈ putLast key found c ↔ (a ∈ found ∧ key c ≠ key a) ∨ a = c := by
      rw [putLast, List.mem_append, List.mem_filter, List.mem_singleton, decide_eq_true_eq,
        ne_comm]
    rw [List.foldl_cons, ih, added, List.forall_mem_cons]
    constructor
    · rintro (⟨⟨ha, first⟩ | rfl, rest⟩ | ⟨before, after, rfl, rest⟩)
      · exact .inl ⟨ha, first, rest⟩
      · exact .inr ⟨[], as, rfl, rest⟩
      · exact .inr ⟨c :: before, after, rfl, rest⟩
    · rintro (⟨ha, first, rest⟩ | ⟨before, after, split, rest⟩)
      · exact .inl ⟨.inl ⟨ha, first⟩, rest⟩
      · -- the place of `a` is that of the new one, or one behind it
        rcases List.cons_eq_append_iff.1 split with ⟨-, here⟩ | ⟨before', -, behind⟩
        · obtain ⟨rfl, rfl⟩ := List.cons.inj here
          exact .inl ⟨.inr rfl, rest⟩
        · exact .inr ⟨before', after, behind, rest⟩

/-- Those members of a list that have another key than all behind them. -/
def keepLast : List α → List α
  | [] => []
  | a :: as => if key a ∈ as.map key then keepLast as else a :: keepLast as

/-- What was found before stays where its key does not come again, and of what comes then the last
of each key. -/
theorem foldl_putLast_eq (as found : List α) :
    as.foldl (putLast key) found = found.filter (key · ∉ as.map key) ++ keepLast key as := by
  induction as generalizing found with
  | nil =>
    have all : found.filter (key · ∉ ([] : List α).map key) = found :=
      List.filter_eq_self.2 fun _ _ => by simp
    rw [all, keepLast, List.append_nil, List.foldl_nil]
  | cons a as ih =>
    have kept : (found.filter (key · ≠ key a)).filter (key · ∉ as.map key) =
        found.filter (key · ∉ (a :: as).map key) := by
      rw [List.filter_filter]
      refine List.filter_congr fun b _ => Bool.eq_iff_iff.2 ?_
      rw [Bool.and_eq_true, decide_eq_true_iff, decide_eq_true_iff, decide_eq_true_iff,
        List.map_cons, List.mem_cons, not_or, and_comm]
    have added : [a].filter (key · ∉ as.map key) ++ keepLast key as = keepLast key (a :: as) := by
      rw [keepLast]
      split <;> simp_all
    rw [List.foldl_cons, ih, putLast, List.filter_append, kept, List.append_assoc, added]

theorem mem_keepLast {a : α} {as : List α} :
    a ∈ keepLast key as ↔
      ∃ before after, as = before ++ a :: after ∧ ∀ b ∈ after, key b ≠ key a := by
  have kept : as.foldl (putLast key) [] = keepLast key as := foldl_putLast_eq key as []
  rw [← kept, mem_foldl_putLast]
  simp

/-- Of a key only one is kept. -/
theorem nodup_keepLast (as : List α) : ((keepLast key as).map key).Nodup := by
  have kept : as.foldl (putLast key) [] = keepLast key as := foldl_putLast_eq key as []
  have none : (([] : List α).map key).Nodup := List.nodup_nil
  rw [← kept]
  exact nodup_foldl_putLast key none as

variable {key} in
/-- What is kept does not depend on how the keys are written. -/
theorem map_keepLast {β μ : Type} [DecidableEq μ] {as : List α} (other : β → μ) (f : α → β)
    (h : ∀ a ∈ as, ∀ b ∈ as, other (f a) = other (f b) ↔ key a = key b) :
    (keepLast key as).map f = keepLast other (as.map f) := by
  induction as with
  | nil => rfl
  | cons a as ih =>
    have rest := ih fun b hb c hc => h b (List.mem_cons_of_mem a hb) c (List.mem_cons_of_mem a hc)
    have again : other (f a) ∈ (as.map f).map other ↔ key a ∈ as.map key := by
      simp only [List.map_map, List.mem_map, Function.comp_apply]
      refine exists_congr fun b => and_congr_right fun hb => ?_
      exact h b (List.mem_cons_of_mem a hb) a List.mem_cons_self
    rw [List.map_cons, keepLast, keepLast]
    by_cases repeated : key a ∈ as.map key
    · rw [if_pos repeated, if_pos (again.2 repeated), rest]
    · rw [if_neg repeated, if_neg (mt again.1 repeated), List.map_cons, rest]

/-- Where no key stands twice nothing is replaced. -/
theorem foldl_putLast_of_nodup {found as : List α} (h : ((found ++ as).map key).Nodup) :
    as.foldl (putLast key) found = found ++ as := by
  induction as generalizing found with
  | nil => simp
  | cons a as ih =>
    have fresh : key a ∉ found.map key := by
      rw [List.map_append, List.map_cons, List.nodup_append] at h
      exact fun ha => h.2.2 _ ha _ List.mem_cons_self rfl
    rw [List.foldl_cons, putLast, filter_key_of_not_mem key fresh, ih]
    · simp
    · simpa using h

end PutLast

namespace Catalog

/-- The index lists the names with their positions, and no name stands twice. -/
structure Indexed (c : Catalog) : Prop where
  index_eq : c.index = c.names.zipIdx
  nodup : c.names.Nodup

theorem indexed_empty : empty.Indexed := ⟨rfl, List.nodup_nil⟩

/-! ### Names with positions -/

theorem lookup_zipIdx_of_not_mem {names : List String} {name : String} (h : name ∉ names)
    (k : Nat) : (names.zipIdx k).lookup name = none := by
  induction names generalizing k with
  | nil => rfl
  | cons n ns ih =>
    rw [List.mem_cons, not_or] at h
    rw [List.zipIdx_cons, List.lookup_cons, beq_false_of_ne h.1]
    exact ih h.2 _

theorem lookup_zipIdx_append {before : List String} {name : String} (h : name ∉ before)
    (after : List String) (k : Nat) :
    ((before ++ name :: after).zipIdx k).lookup name = some (k + before.length) := by
  rw [List.zipIdx_append, List.lookup_append, lookup_zipIdx_of_not_mem h]
  simp

theorem filter_zipIdx_of_not_mem {names : List String} {name : String} (h : name ∉ names)
    (k : Nat) : (names.zipIdx k).filter (·.1 ≠ name) = names.zipIdx k := by
  refine List.filter_eq_self.2 fun p hp => ?_
  have := List.fst_mem_of_mem_zipIdx hp
  simp only [decide_eq_true_eq]
  rintro rfl
  exact h this

theorem closeGap_cons (position slot : Nat) (name : String) (index : List (String × Nat)) :
    closeGap position ((name, slot) :: index) =
      (name, if position < slot then slot - 1 else slot) :: closeGap position index :=
  rfl

theorem closeGap_append (position : Nat) (front back : List (String × Nat)) :
    closeGap position (front ++ back) = closeGap position front ++ closeGap position back :=
  List.map_append

/-- Positions up to the gap stay. -/
theorem closeGap_zipIdx_before {names : List String} {k position : Nat}
    (h : names.length + k ≤ position + 1) :
    closeGap position (names.zipIdx k) = names.zipIdx k := by
  induction names generalizing k with
  | nil => rfl
  | cons n ns ih =>
    simp only [List.length_cons] at h
    have : ¬ position < k := by omega
    rw [List.zipIdx_cons, closeGap_cons, if_neg this, ih (by omega)]

/-- Positions behind the gap move up. -/
theorem closeGap_zipIdx_after {names : List String} {k position : Nat} (h : position ≤ k) :
    closeGap position (names.zipIdx (k + 1)) = names.zipIdx k := by
  induction names generalizing k with
  | nil => rfl
  | cons n ns ih =>
    have : position < k + 1 := by omega
    rw [List.zipIdx_cons, closeGap_cons, if_pos this, ih (by omega), List.zipIdx_cons]
    rfl

/-- Taking a name out of the index and closing the gap gives the index of the other names. -/
theorem closeGap_filter_zipIdx {before after : List String} {name : String} (hb : name ∉ before)
    (ha : name ∉ after) :
    closeGap before.length ((before ++ name :: after).zipIdx.filter (·.1 ≠ name)) =
      (before ++ after).zipIdx := by
  rw [List.zipIdx_append, List.zipIdx_append, List.filter_append, filter_zipIdx_of_not_mem hb,
    List.zipIdx_cons, List.filter_cons, if_neg (by simp), filter_zipIdx_of_not_mem ha,
    closeGap_append, closeGap_zipIdx_before (by simp), closeGap_zipIdx_after (by simp)]

/-! ### Operations -/

/-- The element of a name stands once. -/
theorem Indexed.split {c : Catalog} (h : c.Indexed) {name : String} (hn : name ∈ c.names) :
    ∃ before e after, c.elements = before ++ e :: after ∧ e.name = name ∧
      name ∉ before.map (·.name) ∧ name ∉ after.map (·.name) := by
  obtain ⟨e, he, rfl⟩ := List.mem_map.1 hn
  obtain ⟨before, after, split⟩ := List.append_of_mem he
  have nodup := h.nodup
  rw [names, split, List.map_append, List.map_cons, List.nodup_append, List.nodup_cons] at nodup
  obtain ⟨-, ⟨fresh, -⟩, apart⟩ := nodup
  refine ⟨before, e, after, split, rfl, fun hb => ?_, fresh⟩
  exact apart e.name hb e.name List.mem_cons_self rfl

theorem Indexed.lookup_of_split {c : Catalog} (h : c.Indexed) {before after : List Element}
    {e : Element} (split : c.elements = before ++ e :: after) (hb : e.name ∉ before.map (·.name)) :
    c.index.lookup e.name = some before.length := by
  rw [h.index_eq, names, split, List.map_append, List.map_cons, lookup_zipIdx_append hb]
  simp

theorem Indexed.lookup_of_not_mem {c : Catalog} (h : c.Indexed) {name : String}
    (hn : name ∉ c.names) : c.index.lookup name = none := by
  rw [h.index_eq, lookup_zipIdx_of_not_mem hn]

theorem find?_name_of_not_mem {es : List Element} {name : String}
    (h : name ∉ es.map (·.name)) : es.find? (·.name = name) = none := by
  refine List.find?_eq_none.2 fun e he => ?_
  simp only [decide_eq_true_eq]
  rintro rfl
  exact h (List.mem_map_of_mem he)

/-- Removing a name gives its element and leaves the others in order. -/
theorem Indexed.remove {c : Catalog} (h : c.Indexed) (name : String) :
    (c.remove name).1 = c.elements.find? (·.name = name) ∧
      (c.remove name).2.elements = c.elements.filter (·.name ≠ name) ∧
      (c.remove name).2.Indexed := by
  by_cases hn : name ∈ c.names
  · obtain ⟨before, e, after, split, rfl, hb, ha⟩ := h.split hn
    have names_eq : c.names = before.map (·.name) ++ e.name :: after.map (·.name) := by
      rw [names, split, List.map_append, List.map_cons]
    have found := h.lookup_of_split split hb
    have rest : c.elements.eraseIdx before.length = before ++ after := by
      rw [split, List.eraseIdx_append_of_length_le (Nat.le_refl _)]
      simp
    -- what stands behind the element moves one place forward
    have index : closeGap before.length (c.index.filter (·.1 ≠ e.name)) =
        (before.map (·.name) ++ after.map (·.name)).zipIdx := by
      rw [h.index_eq, names_eq, ← closeGap_filter_zipIdx hb ha, List.length_map]
    simp only [Catalog.remove, found]
    refine ⟨?_, ?_, ?_, ?_⟩
    · rw [split, List.find?_append, find?_name_of_not_mem hb]
      simp
    · rw [split, eraseIdx_eq_filter _ hb ha]
    · rw [names, rest, List.map_append]
      exact index
    · have nodup := h.nodup
      rw [names_eq] at nodup
      rw [names, rest, List.map_append]
      exact nodup.sublist (List.Sublist.append_left (List.sublist_cons_self ..) _)
  · have missing := h.lookup_of_not_mem hn
    simp only [Catalog.remove, missing]
    exact ⟨(find?_name_of_not_mem hn).symm, (filter_key_of_not_mem _ hn).symm, h⟩

/-- Inserting puts an element in the place of the one of its name, at the end. -/
theorem Indexed.insert {c : Catalog} (h : c.Indexed) (e : Element) :
    (c.insert e).1 = c.elements.find? (·.name = e.name) ∧
      (c.insert e).2.elements = putLast (·.name) c.elements e ∧ (c.insert e).2.Indexed := by
  obtain ⟨removed, elements, indexed⟩ := h.remove e.name
  have inserted : (c.insert e).2.elements = putLast (·.name) c.elements e :=
    congrArg (· ++ [e]) elements
  refine ⟨removed, inserted, ?_, ?_⟩
  · simp only [Catalog.insert, names, List.map_append, List.zipIdx_append, indexed.index_eq]
    simp
  · rw [names, inserted]
    exact nodup_putLast _ h.nodup e

theorem Indexed.insertAll {c : Catalog} (h : c.Indexed) (es : List Element) :
    (c.insertAll es).Indexed ∧
      (c.insertAll es).elements = es.foldl (putLast (·.name)) c.elements := by
  induction es generalizing c with
  | nil => exact ⟨h, rfl⟩
  | cons e es ih =>
    obtain ⟨-, elements, indexed⟩ := h.insert e
    obtain ⟨indexed', elements'⟩ := ih indexed
    refine ⟨indexed', elements'.trans ?_⟩
    rw [elements, List.foldl_cons]

theorem indexed_ofList (es : List Element) : (ofList es).Indexed :=
  (indexed_empty.insertAll es).1

/-- The element of a name is the one that has it. -/
theorem Indexed.get? {c : Catalog} (h : c.Indexed) (name : String) :
    c.get? name = c.elements.find? (·.name = name) := by
  by_cases hn : name ∈ c.names
  · obtain ⟨before, e, after, split, rfl, hb, -⟩ := h.split hn
    rw [Catalog.get?, h.lookup_of_split split hb, split, List.find?_append,
      find?_name_of_not_mem hb]
    simp
  · rw [Catalog.get?, h.lookup_of_not_mem hn, find?_name_of_not_mem hn]
    rfl

theorem Indexed.contains {c : Catalog} (h : c.Indexed) {name : String} :
    c.contains name = true ↔ name ∈ c.names := by
  by_cases hn : name ∈ c.names
  · obtain ⟨before, e, after, split, rfl, hb, -⟩ := h.split hn
    simp [Catalog.contains, h.lookup_of_split split hb, hn]
  · simp [Catalog.contains, h.lookup_of_not_mem hn, hn]

/-- Of the elements that a catalog is made of, the last of each name stays. -/
theorem elements_ofList_eq (es : List Element) :
    (ofList es).elements = keepLast (·.name) es :=
  (indexed_empty.insertAll es).2.trans (foldl_putLast_eq _ es [])

/-- Elements with different names stay in their order. -/
theorem elements_ofList {es : List Element} (h : (es.map (·.name)).Nodup) :
    (ofList es).elements = es :=
  (indexed_empty.insertAll es).2.trans (foldl_putLast_of_nodup _ h)

end Catalog

end CallContext
