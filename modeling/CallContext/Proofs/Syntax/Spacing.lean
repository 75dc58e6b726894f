import CallContext.Files.Path
import CallContext.Proofs.Syntax.Form
import CallContext.Proofs.Syntax.Nesting
import CallContext.Proofs.Text.Cursor

/-!
# Space between the parts of a node

The text of a node that starts with its first part and ends with its last one is made of the texts
of the parts and of the gaps between them (`Node.source_eq_textOf`).  So a dotted name is written as
its identifiers with dots between them exactly if it has no gaps (`Node.source_eq_joinTexts_iff`),
and the dots before a name are as many as its text has exactly if no gap has a dot in it
(`Node.count_dot_iff`).
-/

namespace CallContext

/-! ### Stretches of a text -/

namespace Cursor

variable {text : List Char}

/-- Cursors with the same number of bytes before them stand at one place. -/
theorem rest_eq_of_offset {a b : Cursor text} (h : a.offset = b.offset) : a.rest = b.rest := by
  obtain ⟨front, whole, offset, -⟩ := a.split
  obtain ⟨front', whole', offset', -⟩ := b.split
  rcases List.append_eq_append_iff.1 (whole.symm.trans whole') with ⟨mid, hm, hr⟩ | ⟨mid, hm, hr⟩
  · have none : mid = [] := utf8Length_eq_zero.1 (by simp [hm] at offset'; omega)
    rw [hr, none, List.nil_append]
  · have none : mid = [] := utf8Length_eq_zero.1 (by simp [hm] at offset; omega)
    rw [hr, none, List.nil_append]

theorem between_congr {a b a' b' : Cursor text} (ha : a.offset = a'.offset)
    (hb : b.offset = b'.offset) : a.between b = a'.between b' := by
  rw [between, between, rest_eq_of_offset ha, ha, hb]

/-- What stands between two cursors is what the first has still to read before the second. -/
theorem exists_mid {a b : Cursor text} (h : a.offset ≤ b.offset) :
    ∃ mid, a.rest = mid ++ b.rest ∧ b.offset = a.offset + utf8Length mid ∧
      a.between b = String.ofList mid := by
  obtain ⟨front, mid, back, whole, start, -, stop, -, between⟩ := exists_stretch h
  obtain ⟨before, split, offset, -⟩ := a.split
  obtain ⟨before', split', offset', -⟩ := b.split
  have same {xs ys xs' ys' : List Char} (h : xs ++ ys = xs' ++ ys')
      (size : utf8Length xs = utf8Length xs') : xs = xs' ∧ ys = ys' := by
    rcases List.append_eq_append_iff.1 h with ⟨mid, hm, hr⟩ | ⟨mid, hm, hr⟩
    · have none : mid = [] := utf8Length_eq_zero.1 (by simp [hm] at size; omega)
      simp [hm, hr, none]
    · have none : mid = [] := utf8Length_eq_zero.1 (by simp [hm] at size; omega)
      simp [hm, hr, none]
  obtain ⟨-, rest⟩ := same (split.symm.trans (whole.trans (List.append_assoc ..)))
    (offset.symm.trans start)
  obtain ⟨-, rest'⟩ := same (split'.symm.trans whole) (offset'.symm.trans stop)
  refine ⟨mid, by rw [rest, rest'], ?_, between⟩
  rw [stop, start, utf8Length_append]

/-- A stretch that is cut at a place in it. -/
theorem between_append {a b c : Cursor text} (h : a.offset ≤ b.offset) (h' : b.offset ≤ c.offset) :
    a.between b ++ b.between c = a.between c := by
  obtain ⟨mid, rest, size, first⟩ := exists_mid h
  obtain ⟨mid', rest', size', second⟩ := exists_mid h'
  have bytes : c.offset - a.offset = utf8Length (mid ++ mid') := by
    rw [utf8Length_append]
    omega
  have all : a.rest = mid ++ mid' ++ c.rest := by rw [rest, rest', List.append_assoc]
  rw [first, second, between, bytes, all, takeBytes_utf8Length_append, String.ofList_append]

end Cursor

/-! ### Texts of nodes -/

namespace Node

variable {text : List Char}

/-- What stands between nodes that follow each other. -/
def gapsOf : List (Node text) → List String
  | [] => []
  | [_] => []
  | m :: n :: ns => m.stop.between n.start :: gapsOf (n :: ns)

/-- What stands between the parts of a node. -/
def gaps (n : Node text) : List String := gapsOf n.parts

/-- The texts of some nodes. -/
def joined : List (Node text) → String
  | [] => ""
  | n :: ns => n.source ++ joined ns

/-- The texts of some nodes with what stands between them. -/
def textOf : List (Node text) → String
  | [] => ""
  | [n] => n.source
  | m :: n :: ns => m.source ++ m.stop.between n.start ++ textOf (n :: ns)

theorem Between.filter {low high : Nat} {ns : List (Node text)} (h : Between low ns high)
    (p : Node text → Bool) : Between low (ns.filter p) high := by
  induction ns generalizing low with
  | nil => exact h
  | cons n ns ih =>
    obtain ⟨start, nested, rest⟩ := h
    by_cases hp : p n = true
    · rw [List.filter_cons_of_pos hp]
      exact ⟨start, nested, ih rest⟩
    · rw [List.filter_cons_of_neg hp]
      exact (ih rest).mono (Nat.le_trans start nested.start_le_stop)

/-- The text from the start of the first to the end of the last of some nodes. -/
theorem between_eq_textOf {first last : Node text} {ns : List (Node text)} {low high : Nat}
    (ordered : Between low ns high) (hf : ns.head? = some first) (hl : ns.getLast? = some last) :
    first.start.between last.stop = textOf ns := by
  induction ns generalizing low first with
  | nil => cases hf
  | cons m ns ih =>
    cases hf
    obtain ⟨-, nested, rest⟩ := ordered
    cases ns with
    | nil =>
      cases hl
      rfl
    | cons n ns =>
      have final : (n :: ns).getLast? = some last := by rwa [List.getLast?_cons_cons] at hl
      have inside := rest.of_mem (List.mem_of_getLast? final)
      have end_le := inside.2.1.start_le_stop
      have start := rest.1
      have within : n.start.offset ≤ last.stop.offset := by
        have nested' := rest.2.1.start_le_stop
        rcases List.mem_cons.1 (List.mem_of_getLast? final) with rfl | later
        · exact nested'
        · have := (rest.2.2.of_mem later).1
          omega
      rw [textOf, ← ih rest rfl final, String.append_assoc, Cursor.between_append start within,
        source, Cursor.between_append nested.start_le_stop (Nat.le_trans start within)]

/-- A node that starts with its first part and ends with its last one is written as these. -/
theorem source_eq_textOf {n : Node text} (nested : n.Nested) (filled : n.isFilled = true) :
    n.source = textOf n.parts := by
  rw [isFilled, Bool.and_eq_true] at filled
  obtain ⟨first, hf, starts⟩ := (Option.any_eq_true _ _).1 filled.1
  obtain ⟨last, hl, ends⟩ := (Option.any_eq_true _ _).1 filled.2
  have ordered : Between n.start.offset n.parts n.stop.offset := nested.between_children.filter _
  rw [← between_eq_textOf ordered hf hl, source]
  exact Cursor.between_congr (of_decide_eq_true starts).symm (of_decide_eq_true ends).symm

section Count

variable {f : String → Nat} (append : ∀ s t, f (s ++ t) = f s + f t)

include append

/-- What is counted in the nodes is counted in the text. -/
theorem count_joined_le (ns : List (Node text)) : f (joined ns) ≤ f (textOf ns) := by
  induction ns with
  | nil => exact Nat.le_refl _
  | cons m ns ih =>
    cases ns with
    | nil => simp [textOf, joined]
    | cons n ns =>
      rw [textOf, joined, append, append, append]
      omega

/-- All that is counted in the text stands in the nodes exactly if none of it stands in gaps. -/
theorem count_textOf_iff (ns : List (Node text)) :
    f (textOf ns) = f (joined ns) ↔ ∀ gap ∈ gapsOf ns, f gap = 0 := by
  induction ns with
  | nil => simp [textOf, joined, gapsOf]
  | cons m ns ih =>
    cases ns with
    | nil => simp [textOf, joined, gapsOf]
    | cons n ns =>
      have rest := count_joined_le append (n :: ns)
      rw [textOf, joined, gapsOf, append, append, append, List.forall_mem_cons, ← ih]
      omega

end Count

theorem textOf_eq_joined_iff (ns : List (Node text)) :
    textOf ns = joined ns ↔ ∀ gap ∈ gapsOf ns, gap = "" := by
  constructor
  · intro same gap hg
    have lengths := count_textOf_iff String.length_append ns
    simpa using lengths.1 (congrArg _ same) gap hg
  · intro empty
    induction ns with
    | nil => rfl
    | cons m ns ih =>
      cases ns with
      | nil => simp [textOf, joined]
      | cons n ns =>
        rw [gapsOf, List.forall_mem_cons] at empty
        rw [textOf, joined, ih empty.2, empty.1, String.append_empty]

/-! ### Dotted names -/

/-- The texts of the identifiers among some nodes. -/
def identifiers (ns : List (Node text)) : List String :=
  (ns.filter (·.kind = Symbol.identifier)).map source

theorem isIdentifier_iff {n : Node text} : n.isIdentifier = true ↔
    n.kind = Symbol.identifier ∧ n.children = [] ∧ Identifier.isWord n.source = true := by
  simp [isIdentifier, and_assoc]

theorem isToken_iff {kind : Symbol} {n : Node text} : n.isToken kind = true ↔
    n.kind = kind ∧ n.children = [] ∧ n.field = none := by
  simp [isToken, and_assoc]

theorem isDot_iff {n : Node text} : n.isDot = true ↔
    n.kind = Symbol.dot ∧ n.children = [] ∧ n.field = none ∧ n.source = "." := by
  simp [isDot, isToken_iff, and_assoc]

theorem ne_nil_of_alternate {ns : List (Node text)} (h : alternate ns = true) :
    identifiers ns ≠ [] := by
  fun_cases alternate ns with
  | case1 => cases h
  | case2 n =>
    have kind := (isIdentifier_iff.1 h).1
    simp [identifiers, kind]
  | case3 n dot rest =>
    simp only [alternate, Bool.and_eq_true] at h
    have kind := (isIdentifier_iff.1 h.1.1).1
    simp [identifiers, kind]

/-- Identifiers with dots between them are written as such. -/
theorem joined_of_alternate {ns : List (Node text)} (h : alternate ns = true) :
    joined ns = joinTexts "." (identifiers ns) := by
  fun_induction alternate ns with
  | case1 => cases h
  | case2 n =>
    have kind := (isIdentifier_iff.1 h).1
    simp [identifiers, kind, joined, joinTexts]
  | case3 n dot rest ih =>
    simp only [Bool.and_eq_true] at h
    obtain ⟨⟨word, dotted⟩, rest_alternate⟩ := h
    have kind := (isIdentifier_iff.1 word).1
    obtain ⟨dot_kind, -, -, written⟩ := isDot_iff.1 dotted
    have other : Symbol.dot ≠ Symbol.identifier := by decide
    have split : identifiers (n :: dot :: rest) = n.source :: identifiers rest := by
      simp [identifiers, kind, dot_kind, other]
    obtain ⟨s, ss, some⟩ := List.exists_cons_of_ne_nil (ne_nil_of_alternate rest_alternate)
    have unfolded : joinTexts "." (n.source :: s :: ss) =
        n.source ++ "." ++ joinTexts "." (s :: ss) := rfl
    rw [joined, joined, written, ih rest_alternate, split, some, unfolded, String.append_assoc]

/-- A dotted name is written as its identifiers with dots between them exactly if it has no
gaps. -/
theorem source_eq_joinTexts_iff {n : Node text} (nested : n.Nested) (dotted : n.isDotted = true) :
    n.source = joinTexts "." (identifiers n.parts) ↔ ∀ gap ∈ n.gaps, gap = "" := by
  simp only [isDotted, Bool.and_eq_true] at dotted
  rw [source_eq_textOf nested dotted.2, ← joined_of_alternate dotted.1.2]
  exact textOf_eq_joined_iff n.parts

/-! ### Dots before names -/

theorem count_joined_of_all_isDot {ns : List (Node text)} (h : ns.all isDot = true) :
    (joined ns).toList.count '.' = ns.length := by
  induction ns with
  | nil => rfl
  | cons n ns ih =>
    rw [List.all_cons, Bool.and_eq_true] at h
    obtain ⟨-, -, -, written⟩ := isDot_iff.1 h.1
    rw [joined, String.toList_append, List.count_append, ih h.2, written, List.length_cons,
      Nat.add_comm]
    rfl

/-- Dots are as many as the text of the node has exactly if no gap has a dot in it. -/
theorem count_dot_iff {n : Node text} (nested : n.Nested) (dots : n.isImportDots = true) :
    n.source.toList.count '.' = n.parts.length ↔ ∀ gap ∈ n.gaps, '.' ∉ gap.toList := by
  simp only [isImportDots, Bool.and_eq_true] at dots
  have counted := count_textOf_iff (f := fun s => s.toList.count '.')
    (fun s t => by rw [String.toList_append, List.count_append]) n.parts
  rw [source_eq_textOf nested dots.2, ← count_joined_of_all_isDot dots.1.2, counted]
  exact forall₂_congr fun gap _ => List.count_eq_zero

end Node

end CallContext
