import CallContext.Toml.Item
import Mathlib.Data.List.Basic
import Mathlib.Data.Option.Defs

/-!
# Members of tables

Whatever is entered into a table goes under one key of it and looks at nothing else there.

* `local_addDotted?`, `local_changeAt?`, `local_openTable?`, `local_openArray?` : the operations on
  tables are of this kind,
* `Local.avoids` : so they do not see what stands under another key,
* `addInline?_bracedAll` : dotted keys make the same tables inside braces as outside.
-/

namespace CallContext.Toml

namespace Members

variable {ms ms' : Members} {key : String} {item : Item}

theorem lookup_cons_eq (k : String) (key : String) (item : Item) (ms : Members) :
    List.lookup k ((key, item) :: ms) = if k = key then some item else ms.lookup k := by
  by_cases h : k = key
  · rw [if_pos h, h, List.lookup_cons_self]
  · rw [if_neg h, List.lookup_cons, beq_eq_false_iff_ne.2 h]

theorem lookup_set (ms : Members) (key : String) (item : Item) (k : String) :
    (ms.set key item).lookup k = if k = key then some item else ms.lookup k := by
  induction ms with
  | nil => rw [set, lookup_cons_eq]
  | cons entry ms ih =>
    obtain ⟨first, old⟩ := entry
    rw [set]
    by_cases same : first = key
    · rw [if_pos same, lookup_cons_eq, lookup_cons_eq, same]
      split <;> rfl
    · rw [if_neg same, lookup_cons_eq, lookup_cons_eq, ih]
      by_cases h : k = first
      · rw [if_pos h, if_neg (h ▸ same), if_pos h]
      · rw [if_neg h, if_neg h]

theorem set_of_lookup_eq_none (h : ms.lookup key = none) (item : Item) :
    ms.set key item = ms ++ [(key, item)] := by
  induction ms with
  | nil => rfl
  | cons entry ms ih =>
    obtain ⟨first, old⟩ := entry
    rw [lookup_cons_eq] at h
    split at h
    · cases h
    · next other => rw [set, if_neg (Ne.symm other), ih h, List.cons_append]

theorem add?_of_lookup_eq_none (h : ms.lookup key = none) :
    ms.add? key item = some (ms.set key item) := by
  rw [add?, h, set_of_lookup_eq_none h]
  rfl

theorem set_set (ms : Members) (key : String) (a b : Item) :
    (ms.set key a).set key b = ms.set key b := by
  induction ms with
  | nil => simp [set]
  | cons entry ms ih =>
    obtain ⟨first, old⟩ := entry
    by_cases same : first = key <;> simp [set, same, ih]

end Members

/-! ### Operations at one key -/

/-- The operation puts something under the key, or fails, by what stands there. -/
def Local (key : String) (op : Members → Option Members) : Prop :=
  ∀ ms ms' : Members, ms.lookup key = ms'.lookup key →
    (op ms = none ∧ op ms' = none) ∨
      ∃ item, op ms = some (ms.set key item) ∧ op ms' = some (ms'.set key item)

/-- What is put under the key may be found from what stands there. -/
theorem local_of_outcome {key : String} {op : Members → Option Members}
    (h : ∀ found : Option Item, ∃ outcome : Option Item, ∀ ms : Members,
      ms.lookup key = found → op ms = outcome.map (ms.set key)) : Local key op := by
  intro ms ms' same
  obtain ⟨outcome, eq⟩ := h (ms'.lookup key)
  rw [eq ms same, eq ms' rfl]
  cases outcome with
  | none => exact .inl ⟨rfl, rfl⟩
  | some item => exact .inr ⟨item, rfl, rfl⟩

/-- The first part of a dotted key. -/
def topKey (way : List String) (key : String) : String := way.headD key

theorem local_add? (key : String) (item : Item) : Local key fun ms => ms.add? key item := by
  refine local_of_outcome fun found => ?_
  cases found with
  | none =>
    exact ⟨some item, fun ms h => Members.add?_of_lookup_eq_none h⟩
  | some old =>
    refine ⟨none, fun ms h => ?_⟩
    rw [Members.add?, h]
    rfl

theorem local_addDotted? (key : String) (item : Item) (way : List String) :
    Local (topKey way key) (Members.addDotted? key item way) := by
  cases way with
  | nil => exact local_add? key item
  | cons k way =>
    show Local k _
    refine local_of_outcome fun found => ?_
    cases found with
    | none =>
      refine ⟨(Members.addDotted? key item way []).map (.table true true ·), fun ms h => ?_⟩
      simp only [Members.addDotted?, h, Option.map_map, Function.comp_def,
        Members.set_of_lookup_eq_none h]
    | some old =>
      cases old with
      | table implicit dotted inner =>
        refine ⟨if implicit && (dotted || !way.isEmpty) then
          (Members.addDotted? key item way inner).map (.table implicit dotted ·) else none,
          fun ms h => ?_⟩
        simp only [Members.addDotted?, h]
        split
        · rw [Option.map_map]
          rfl
        · rfl
      | tables items =>
        refine ⟨if way.isEmpty then none else
          (Members.changeLast? (Members.addDotted? key item way) items).map (.tables ·),
          fun ms h => ?_⟩
        simp only [Members.addDotted?, h]
        split
        · rfl
        · rw [Option.map_map]
          rfl
      | _ => exact ⟨none, fun ms h => by simp only [Members.addDotted?, h, Option.map_none]⟩

theorem local_changeAt? (f : Members → Option Members) (k : String) (way : List String) :
    Local k (Members.changeAt? f (k :: way)) := by
  refine local_of_outcome fun found => ?_
  cases found with
  | none =>
    refine ⟨(Members.changeAt? f way []).map (.table true false ·), fun ms h => ?_⟩
    simp only [Members.changeAt?, h, Option.map_map, Function.comp_def,
      Members.set_of_lookup_eq_none h]
  | some old =>
    cases old with
    | table implicit dotted inner =>
      refine ⟨(Members.changeAt? f way inner).map (.table implicit dotted ·), fun ms h => ?_⟩
      simp only [Members.changeAt?, h, Option.map_map, Function.comp_def]
    | tables items =>
      refine ⟨(Members.changeLast? (Members.changeAt? f way) items).map (.tables ·), fun ms h => ?_⟩
      simp only [Members.changeAt?, h, Option.map_map, Function.comp_def]
    | _ => exact ⟨none, fun ms h => by simp only [Members.changeAt?, h, Option.map_none]⟩

theorem local_openTable? (key : String) : Local key (Members.openTable? key) := by
  refine local_of_outcome fun found => ?_
  cases found with
  | none =>
    refine ⟨some (.table false false []), fun ms h => ?_⟩
    simp only [Members.openTable?, h, Option.map_some, Members.set_of_lookup_eq_none h]
  | some old =>
    cases old with
    | table implicit dotted inner =>
      refine ⟨if implicit && !dotted then some (.table false false inner) else none,
        fun ms h => ?_⟩
      cases implicit <;> cases dotted <;> simp [Members.openTable?, h]
    | _ => exact ⟨none, fun ms h => by simp only [Members.openTable?, h, Option.map_none]⟩

theorem local_openArray? (key : String) : Local key (Members.openArray? key) := by
  refine local_of_outcome fun found => ?_
  cases found with
  | none =>
    refine ⟨some (.tables [[]]), fun ms h => ?_⟩
    simp only [Members.openArray?, h, Option.map_some, Members.set_of_lookup_eq_none h]
  | some old =>
    cases old with
    | tables items =>
      exact ⟨some (.tables (items ++ [[]])),
        fun ms h => by simp only [Members.openArray?, h, Option.map_some]⟩
    | _ => exact ⟨none, fun ms h => by simp only [Members.openArray?, h, Option.map_none]⟩

/-! ### Members under another key -/

/-- The members are the same but for those under the key. -/
structure AlikeBut (key : String) (item item' : Option Item) (ms ms' : Members) : Prop where
  others : ∀ k ≠ key, ms.lookup k = ms'.lookup k
  left : ms.lookup key = item
  right : ms'.lookup key = item'

/-- The operation neither sees nor changes what stands under the key. -/
def Avoids (key : String) (op : Members → Option Members) : Prop :=
  ∀ ⦃item item' : Option Item⦄ ⦃ms ms' : Members⦄, AlikeBut key item item' ms ms' →
    Option.Rel (AlikeBut key item item') (op ms) (op ms')

theorem Local.avoids {k key : String} {op : Members → Option Members} (h : Local k op)
    (ne : k ≠ key) : Avoids key op := by
  intro item item' ms ms' alike
  rcases h ms ms' (alike.others k ne) with ⟨failed, failed'⟩ | ⟨put, done, done'⟩
  · rw [failed, failed']
    exact .none
  · rw [done, done']
    refine .some ⟨fun j hj => ?_, ?_, ?_⟩
    · rw [Members.lookup_set, Members.lookup_set, alike.others j hj]
    · rw [Members.lookup_set, if_neg (Ne.symm ne), alike.left]
    · rw [Members.lookup_set, if_neg (Ne.symm ne), alike.right]

theorem avoids_some (key : String) : Avoids key some := fun _ _ _ _ alike => .some alike

theorem rel_bind {α β : Type} {r : α → α → Prop} {r' : β → β → Prop} {x y : Option α}
    {f g : α → Option β} (h : Option.Rel r x y) (next : ∀ a b, r a b → Option.Rel r' (f a) (g b)) :
    Option.Rel r' (x.bind f) (y.bind g) := by
  cases h with
  | none => exact .none
  | some h => exact next _ _ h

theorem Avoids.bind {key : String} {op next : Members → Option Members} (h : Avoids key op)
    (h' : Avoids key next) : Avoids key fun ms => (op ms).bind next :=
  fun _ _ _ _ alike => rel_bind (h alike) fun _ _ alike => h' alike

theorem avoids_foldlM {α : Type} {key : String} {op : Members → α → Option Members} {as : List α}
    (h : ∀ a ∈ as, Avoids key fun ms => op ms a) : Avoids key fun ms => as.foldlM op ms := by
  induction as with
  | nil => exact avoids_some key
  | cons a as ih =>
    rw [List.forall_mem_cons] at h
    simp only [List.foldlM_cons]
    exact h.1.bind (ih h.2)

/-! ### Dotted keys inside braces -/

mutual

/-- Tables made by dotted keys, as they are made inside braces. -/
def Item.braced : Item → Item
  | .table true true ms => .inline true (bracedAll ms)
  | item => item

def bracedAll : Members → Members
  | [] => []
  | (key, item) :: ms => (key, item.braced) :: bracedAll ms

end

/-- What may stand behind an equals sign. -/
def Item.isValue : Item → Bool
  | .table .. => false
  | .tables _ => false
  | .inline dotted _ => !dotted
  | _ => true

mutual

/-- The item is a value or a table of such items that was made by dotted keys. -/
def Item.isWritten : Item → Bool
  | .table implicit dotted ms => implicit && dotted && areWritten ms
  | item => item.isValue

def areWritten : Members → Bool
  | [] => true
  | (_, item) :: ms => item.isWritten && areWritten ms

end

theorem lookup_bracedAll (ms : Members) (k : String) :
    (bracedAll ms).lookup k = (ms.lookup k).map Item.braced := by
  induction ms with
  | nil => rfl
  | cons entry ms ih =>
    obtain ⟨first, old⟩ := entry
    rw [bracedAll, Members.lookup_cons_eq, Members.lookup_cons_eq, ih]
    split <;> rfl

theorem bracedAll_set (ms : Members) (key : String) (item : Item) :
    bracedAll (ms.set key item) = (bracedAll ms).set key item.braced := by
  induction ms with
  | nil => rfl
  | cons entry ms ih =>
    obtain ⟨first, old⟩ := entry
    rw [Members.set, bracedAll, Members.set]
    split
    · rw [bracedAll]
    · rw [bracedAll, ih]

theorem areWritten_set {ms : Members} {key : String} {item : Item} (h : areWritten ms = true)
    (hi : item.isWritten = true) : areWritten (ms.set key item) = true := by
  induction ms with
  | nil => simp [Members.set, areWritten, hi]
  | cons entry ms ih =>
    obtain ⟨first, old⟩ := entry
    rw [areWritten, Bool.and_eq_true] at h
    rw [Members.set]
    split
    · rw [areWritten, hi, h.2, Bool.and_self]
    · rw [areWritten, h.1, ih h.2, Bool.and_self]

theorem isWritten_of_lookup {ms : Members} {key : String} {item : Item} (h : areWritten ms = true)
    (found : ms.lookup key = some item) : item.isWritten = true := by
  induction ms with
  | nil => cases found
  | cons entry ms ih =>
    obtain ⟨first, old⟩ := entry
    rw [areWritten, Bool.and_eq_true] at h
    rw [Members.lookup_cons_eq] at found
    split at found
    · cases found
      exact h.1
    · exact ih h.2 found

theorem braced_of_isValue {item : Item} (h : item.isValue = true) : item.braced = item := by
  cases item with
  | table => cases h
  | _ => rfl

theorem isWritten_of_isValue {item : Item} (h : item.isValue = true) : item.isWritten = true := by
  cases item with
  | table => cases h
  | _ => exact h

theorem cases_of_isWritten {item : Item} (h : item.isWritten = true) :
    item.isValue = true ∨ ∃ ms, item = .table true true ms ∧ areWritten ms = true := by
  cases item with
  | table implicit dotted ms =>
    obtain ⟨⟨rfl, rfl⟩, written⟩ : (implicit = true ∧ dotted = true) ∧ areWritten ms = true := by
      simpa [Item.isWritten] using h
    exact .inr ⟨ms, rfl, written⟩
  | _ => exact .inl h

section AddWritten

variable {ms ms' : Members} {key : String} {item : Item}

/-- A dotted key cannot go through a value. -/
theorem addDotted?_of_isValue {k : String} {old : Item} {way : List String}
    (found : ms.lookup k = some old) (value : old.isValue = true) :
    ms.addDotted? key item (k :: way) = none ∧ ms.addInline? key item (k :: way) = none := by
  rw [Members.addDotted?, Members.addInline?, found]
  cases old with
  | table => cases value
  | tables => cases value
  | inline dotted inner =>
    obtain rfl : dotted = false := by simpa [Item.isValue] using value
    exact ⟨rfl, rfl⟩
  | _ => exact ⟨rfl, rfl⟩

theorem areWritten_of_addDotted? (value : item.isValue = true) {way : List String}
    (written : areWritten ms = true) (added : ms.addDotted? key item way = some ms') :
    areWritten ms' = true := by
  induction way generalizing ms ms' with
  | nil =>
    rw [Members.addDotted?] at added
    cases found : ms.lookup key with
    | none =>
      rw [Members.add?_of_lookup_eq_none found] at added
      cases added
      exact areWritten_set written (isWritten_of_isValue value)
    | some old =>
      rw [Members.add?, found] at added
      cases added
  | cons k way ih =>
    cases found : ms.lookup k with
    | none =>
      simp only [Members.addDotted?, found, ← Members.set_of_lookup_eq_none found] at added
      obtain ⟨inner, made, rfl⟩ := Option.map_eq_some_iff.1 added
      exact areWritten_set written (ih rfl made)
    | some old =>
      rcases cases_of_isWritten (isWritten_of_lookup written found) with
        old_value | ⟨old, rfl, inside⟩
      · rw [(addDotted?_of_isValue found old_value).1] at added
        cases added
      · simp only [Members.addDotted?, found, Bool.true_or, Bool.and_self, if_true] at added
        obtain ⟨inner, made, rfl⟩ := Option.map_eq_some_iff.1 added
        exact areWritten_set written (ih inside made)

theorem add?_bracedAll (value : item.isValue = true) :
    (bracedAll ms).add? key item = (ms.add? key item).map bracedAll := by
  cases found : ms.lookup key with
  | none =>
    have none : (bracedAll ms).lookup key = none := by rw [lookup_bracedAll, found, Option.map_none]
    rw [Members.add?_of_lookup_eq_none found, Members.add?_of_lookup_eq_none none, Option.map_some, bracedAll_set,
      braced_of_isValue value]
  | some old =>
    rw [Members.add?, Members.add?, lookup_bracedAll, found]
    rfl

/-- Putting a table under a key, whichever way it was made. -/
theorem map_set_bracedAll (k : String) (made : Option Members) :
    ((made.map bracedAll).map fun inner => (bracedAll ms).set k (.inline true inner)) =
      (made.map fun inner => ms.set k (.table true true inner)).map bracedAll := by
  rw [Option.map_map, Option.map_map]
  refine congrArg (Option.map · made) (funext fun inner => ?_)
  rw [Function.comp_apply, Function.comp_apply, bracedAll_set, Item.braced]

/-- A dotted key makes the same tables inside braces. -/
theorem addInline?_bracedAll (value : item.isValue = true) (way : List String)
    (written : areWritten ms = true) :
    (bracedAll ms).addInline? key item way = (ms.addDotted? key item way).map bracedAll := by
  induction way generalizing ms with
  | nil => exact add?_bracedAll value
  | cons k way ih =>
    cases found : ms.lookup k with
    | none =>
      have none : (bracedAll ms).lookup k = none := by rw [lookup_bracedAll, found, Option.map_none]
      have empty : Members.addInline? key item way [] = _ := @ih [] rfl
      simp only [Members.addInline?, Members.addDotted?, found, none, empty,
        ← Members.set_of_lookup_eq_none found, ← Members.set_of_lookup_eq_none none]
      exact map_set_bracedAll k _
    | some old =>
      have found' : (bracedAll ms).lookup k = some old.braced := by
        rw [lookup_bracedAll, found, Option.map_some]
      rcases cases_of_isWritten (isWritten_of_lookup written found) with
        old_value | ⟨old, rfl, inside⟩
      · rw [braced_of_isValue old_value] at found'
        rw [(addDotted?_of_isValue found old_value).1, (addDotted?_of_isValue found' old_value).2,
          Option.map_none]
      · simp only [Members.addInline?, Members.addDotted?, found, found', Item.braced, ih inside,
          Bool.true_or, Bool.and_self, if_true]
        exact map_set_bracedAll k _

end AddWritten

end CallContext.Toml
