import CallContext.Parsing.Machine
import CallContext.Proofs.Text.Cursor

/-!
# The order of subtrees

Every token starts where the one before it has ended, or later, and what the parser builds keeps
that order: the children of a node follow each other inside the node.  `Subtree.Ordered` says so of
a subtree, and `Subtree.InOrder` of a run of subtrees between two offsets.  The lemmas are about
everything that makes subtrees: reading tokens (`Token.le_start_read`, `Token.start_le_stop_read`),
building nodes (`Subtree.InOrder.build`) and the root of a whole text (`Machine.ordered_of_root?`).
-/

namespace CallContext

variable {text : List Char}

/-! ### Tokens -/

theorem Layout.start_le_stop_of_scanLine? {l : Layout} {e : Expectation} {n : Nat} {m : Margin}
    {rest : List Char} {t : LayoutToken} (h : l.scanLine? e n m rest = some t) :
    t.start ≤ t.stop := by
  dsimp only [scanLine?] at h
  split at h
  · cases h; exact Nat.zero_le _
  · split at h
    · cases h; exact Nat.zero_le _
    · split at h
      · cases h; exact Nat.zero_le _
      · split at h
        · obtain ⟨⟨d, size⟩, -, rfl⟩ := Option.map_eq_some_iff.1 h
          exact Nat.le_add_right _ _
        · cases h

theorem Layout.start_le_stop_of_scanMargin? {l : Layout} {e : Expectation} {n : Nat}
    {cs : List Char} {t : LayoutToken} (h : l.scanMargin? e n cs = some t) :
    t.start ≤ t.stop := by
  obtain ⟨m, -, hm⟩ := Option.bind_eq_some_iff.1 h
  exact start_le_stop_of_scanLine? hm

theorem Layout.start_le_stop_of_scan? {l : Layout} {e : Expectation} {cs : List Char}
    {t : LayoutToken} (h : l.scan? e cs = some t) : t.start ≤ t.stop := by
  unfold scan? at h
  split at h
  · unfold scanString? at h
    split at h
    · cases h; exact Nat.zero_le _
    · cases h; exact Nat.zero_le _
    · cases h
    · cases h
    · split at h
      · cases h; exact Nat.zero_le _
      · cases h; exact Nat.zero_le _
      · cases h
      · exact start_le_stop_of_scanMargin? h
  · exact start_le_stop_of_scanMargin? h

namespace Token

theorem le_pastMark (place : Cursor text) : place.offset ≤ (pastMark place).offset := by
  unfold pastMark
  split
  · exact place.offset_le_next
  · exact Nat.le_refl _

/-- The token stands behind an offset and does not end before it starts. -/
structure Follows (token : Token text) (offset : Nat) : Prop where
  le_start : offset ≤ token.start.offset
  start_le_stop : token.start.offset ≤ token.stop.offset

theorem follows_of_layout? {search : Search} {layout : Option Layout} {place : Cursor text}
    {token : Token text} (h : layout? search layout place = some token) :
    token.Follows place.offset := by
  dsimp only [layout?] at h
  split at h
  · cases h
  · next found hf =>
    split at h
    · cases h
    · cases h
      exact ⟨Nat.le_trans (le_pastMark place) (Cursor.offset_le_skip _ _),
        Cursor.skip_le_skip (Layout.start_le_stop_of_scan? hf) _⟩

theorem follows_of_find {search : Search} {layout : Option Layout} {place : Cursor text}
    {token : Token text} (h : find search layout place = .ok token) :
    token.Follows place.offset := by
  dsimp only [find] at h
  split at h
  · next found hf =>
    cases h
    exact follows_of_layout? hf
  · split at h
    · cases h
      exact ⟨Nat.le_trans (le_pastMark place) (Cursor.offset_le_skip _ _),
        Cursor.offset_le_skip _ _⟩
    · cases h

theorem le_of_find_error {search : Search} {layout : Option Layout}
    {place start reached : Cursor text} (h : find search layout place = .error (start, reached)) :
    place.offset ≤ start.offset ∧ start.offset ≤ reached.offset := by
  dsimp only [find] at h
  split at h
  · cases h
  · split at h
    · cases h
    · cases h
      exact ⟨Nat.le_trans (le_pastMark place) (Cursor.offset_le_skip _ _),
        Cursor.offset_le_skip _ _⟩

theorem le_passOver (search : Search) (layout : Option Layout) (fuel : Nat)
    {stop reached : Cursor text} (h : stop.offset ≤ reached.offset) :
    stop.offset ≤ (passOver search layout fuel stop reached).offset := by
  induction fuel generalizing stop reached with
  | zero => exact Nat.le_refl _
  | succ fuel ih =>
    unfold passOver
    split
    · exact Nat.le_refl _
    · dsimp only
      have step : stop.offset ≤
          (if stop.offset = reached.offset then reached.next else reached).offset := by
        split
        · exact Nat.le_trans h reached.offset_le_next
        · exact h
      split
      · exact step
      · next hf =>
        have ⟨h₁, h₂⟩ := le_of_find_error hf
        exact Nat.le_trans step (ih (Nat.le_trans h₁ h₂))

theorem follows_readAny (state : Nat) (layout : Option Layout) (place : Cursor text) :
    (readAny state layout place).Follows place.offset := by
  unfold readAny
  dsimp only
  split
  · next hf => exact follows_of_find hf
  · next hf =>
    have ⟨h₁, h₂⟩ := le_of_find_error hf
    exact ⟨h₁, le_passOver _ _ _ h₂⟩

theorem follows_read (state : Nat) (progress : Bool) (layout : Option Layout)
    (place : Cursor text) : (read state progress layout place).Follows place.offset := by
  unfold read
  split
  · exact follows_readAny state layout place
  · split
    · next hf => exact follows_of_find hf
    · exact follows_readAny state layout place

theorem Follows.asIdentifier {token : Token text} {offset : Nat} (h : token.Follows offset) :
    token.asIdentifier.Follows offset :=
  ⟨h.le_start, h.start_le_stop⟩

end Token

/-! ### Subtrees -/

namespace Subtree

mutual

/-- The subtree does not end before it starts, and its children follow each other inside it. -/
def Ordered : Subtree text → Prop
  | leaf token _ => token.start.offset ≤ token.stop.offset
  | missing .. => True
  | node _ _ _ tally children => InOrder tally.start.offset children tally.stop.offset

/-- The subtrees follow each other between two offsets. -/
def InOrder : Nat → List (Subtree text) → Nat → Prop
  | low, [], high => low ≤ high
  | low, t :: ts, high => low ≤ t.start.offset ∧ t.Ordered ∧ InOrder t.stop.offset ts high

end

mutual

theorem Ordered.start_le_stop : ∀ {t : Subtree text}, t.Ordered → t.start.offset ≤ t.stop.offset
  | leaf .., h => h
  | missing .., _ => Nat.le_refl _
  | node .., h => InOrder.le h

theorem InOrder.le : ∀ {low high : Nat} {ts : List (Subtree text)}, InOrder low ts high → low ≤ high
  | _, _, [], h => h
  | _, _, _ :: _, ⟨first, ordered, rest⟩ =>
    Nat.le_trans first (Nat.le_trans ordered.start_le_stop rest.le)

end

theorem InOrder.mono {low low' high high' : Nat} {ts : List (Subtree text)}
    (h : InOrder low ts high) (hl : low' ≤ low) (hh : high ≤ high') : InOrder low' ts high' := by
  induction ts generalizing low low' with
  | nil => exact Nat.le_trans hl (Nat.le_trans h hh)
  | cons t ts ih => exact ⟨Nat.le_trans hl h.1, h.2.1, ih h.2.2 (Nat.le_refl _)⟩

/-- Two runs follow each other if they meet at some offset. -/
theorem inOrder_append {low high : Nat} {front back : List (Subtree text)} :
    InOrder low (front ++ back) high ↔ ∃ mid, InOrder low front mid ∧ InOrder mid back high := by
  induction front generalizing low with
  | nil =>
    exact ⟨fun h => ⟨low, Nat.le_refl _, h⟩, fun ⟨_, hm, h⟩ => h.mono hm (Nat.le_refl _)⟩
  | cons t ts ih =>
    simp only [List.cons_append, InOrder, ih]
    exact ⟨fun ⟨h₁, h₂, mid, h₃, h₄⟩ => ⟨mid, ⟨h₁, h₂, h₃⟩, h₄⟩,
      fun ⟨mid, ⟨h₁, h₂, h₃⟩, h₄⟩ => ⟨h₁, h₂, mid, h₃, h₄⟩⟩

theorem Ordered.inOrder_children {t : Subtree text} (h : t.Ordered) :
    InOrder t.start.offset t.children t.stop.offset := by
  cases t with
  | leaf token extra => exact h
  | missing symbol place => exact Nat.le_refl _
  | node symbol labels extra tally children => exact h

theorem Ordered.withExtra {t : Subtree text} (h : t.Ordered) (extra : Bool) :
    (t.withExtra extra).Ordered := by
  cases t <;> exact h

/-! ### Building nodes -/

theorem foldl_addChild_start (symbol : Symbol) (labels : Labels) (children : List (Subtree text))
    (sum : Tally text × Nat) :
    (children.foldl (addChild symbol labels) sum).1.start = sum.1.start := by
  induction children generalizing sum with
  | nil => rfl
  | cons c cs ih => exact ih _

/-- Children that follow what was added before end where the sum ends. -/
theorem inOrder_foldl_addChild (symbol : Symbol) (labels : Labels) {high : Nat}
    {children : List (Subtree text)} (sum : Tally text × Nat)
    (h : InOrder sum.1.stop.offset children high) :
    InOrder sum.1.stop.offset children
        (children.foldl (addChild symbol labels) sum).1.stop.offset ∧
      (children.foldl (addChild symbol labels) sum).1.stop.offset ≤ high := by
  induction children generalizing sum with
  | nil => exact ⟨Nat.le_refl _, h⟩
  | cons c cs ih =>
    have ⟨inside, le⟩ := ih (addChild symbol labels sum c) h.2.2
    exact ⟨⟨h.1, h.2.1, inside⟩, le⟩

/-- The fault of a node is paid for, which leaves its place as it is. -/
theorem tally_places (symbol : Symbol) (labels : Labels) (precedence : Int) (place : Cursor text)
    (c : Subtree text) (cs : List (Subtree text)) :
    (tally symbol labels precedence place (c :: cs)).start = c.start ∧
      (tally symbol labels precedence place (c :: cs)).stop =
        ((c :: cs).foldl (addChild symbol labels)
          (⟨c.left, c.start, c.stop, 0, 0, 0, precedence⟩, 0)).1.stop := by
  dsimp only [tally]
  split
  · exact ⟨foldl_addChild_start .., rfl⟩
  · exact ⟨foldl_addChild_start .., rfl⟩

theorem tally_places_nil (symbol : Symbol) (labels : Labels) (precedence : Int)
    (place : Cursor text) :
    (tally symbol labels precedence place []).start = place ∧
      (tally symbol labels precedence place []).stop = place := by
  dsimp only [tally]
  split <;> exact ⟨rfl, rfl⟩

theorem ordered_build (symbol : Symbol) (labels : Labels) (precedence : Int) (place : Cursor text)
    {children : List (Subtree text)} {low high : Nat} (h : InOrder low children high) :
    (build symbol labels precedence place children).Ordered := by
  cases children with
  | nil =>
    have ⟨start, stop⟩ := tally_places_nil symbol labels precedence place
    simp only [build, Ordered, start, stop]
    exact Nat.le_refl _
  | cons c cs =>
    have ⟨start, stop⟩ := tally_places symbol labels precedence place c cs
    have ⟨inside, _⟩ := inOrder_foldl_addChild symbol labels
      (addChild symbol labels (⟨c.left, c.start, c.stop, 0, 0, 0, precedence⟩, 0) c) h.2.2
    simp only [build, Ordered, start, stop]
    exact ⟨Nat.le_refl _, h.2.1, inside⟩

/-- What is built of a run takes its place. -/
theorem inOrder_build_cons (symbol : Symbol) (labels : Labels) (precedence : Int)
    (place : Cursor text) {c : Subtree text} {cs : List (Subtree text)} {low high : Nat}
    (h : InOrder low (c :: cs) high) :
    InOrder low [build symbol labels precedence place (c :: cs)] high := by
  have ⟨start, stop⟩ := tally_places symbol labels precedence place c cs
  have ⟨_, le⟩ := inOrder_foldl_addChild symbol labels
    (addChild symbol labels (⟨c.left, c.start, c.stop, 0, 0, 0, precedence⟩, 0) c) h.2.2
  refine ⟨Nat.le_trans h.1 (Nat.le_of_eq (congrArg Cursor.offset start.symm)),
    ordered_build symbol labels precedence place h, ?_⟩
  change (tally symbol labels precedence place (c :: cs)).stop.offset ≤ high
  rw [stop]
  exact le

theorem inOrder_build (symbol : Symbol) (labels : Labels) (precedence : Int) (place : Cursor text)
    {children : List (Subtree text)} {high : Nat} (h : InOrder place.offset children high) :
    InOrder place.offset [build symbol labels precedence place children] high := by
  cases children with
  | nil =>
    have ⟨start, stop⟩ := tally_places_nil symbol labels precedence place
    refine ⟨Nat.le_of_eq (congrArg Cursor.offset start.symm),
      ordered_build symbol labels precedence place h, ?_⟩
    change (tally symbol labels precedence place []).stop.offset ≤ high
    rw [stop]
    exact h
  | cons c cs => exact inOrder_build_cons symbol labels precedence place h

/-- A node takes the place of its children in a run. -/
theorem InOrder.build {place : Cursor text} {children after : List (Subtree text)} {high : Nat}
    (h : InOrder place.offset (children ++ after) high) (symbol : Symbol) (labels : Labels)
    (precedence : Int) :
    InOrder place.offset (Subtree.build symbol labels precedence place children :: after) high := by
  obtain ⟨mid, front, back⟩ := inOrder_append.1 h
  exact inOrder_append.2 ⟨mid, inOrder_build symbol labels precedence place front, back⟩

theorem splitExtras_append (run : List (Subtree text)) :
    (splitExtras run).1 ++ (splitExtras run).2 = run := by
  have last : (run.reverse.takeWhile isExtra).reverse <:+ run := by
    have := List.reverse_suffix.2 (List.takeWhile_prefix isExtra (l := run.reverse))
    rwa [List.reverse_reverse] at this
  exact List.suffix_iff_eq_append.1 last

end Subtree

/-! ### Reductions and the root -/

namespace Machine

open Subtree

/-- A reduction turns a run above a place into a subtree and the extras behind it. -/
theorem inOrder_subtree (r : Reduction) {place : Cursor text} {run : List (Subtree text)}
    {high : Nat} (h : InOrder place.offset run high) :
    InOrder place.offset ((subtree r place run).1 :: (subtree r place run).2) high := by
  rw [← splitExtras_append run] at h
  exact h.build r.result r.labels r.precedence

theorem inOrder_bestSubtree (r : Reduction) {place : Cursor text} {run : List (Subtree text)}
    {runs : List (List (Subtree text))} {high : Nat} (h : InOrder place.offset run high)
    (hs : ∀ run ∈ runs, InOrder place.offset run high) :
    InOrder place.offset ((bestSubtree r place run runs).1 :: (bestSubtree r place run runs).2)
      high := by
  let Fits (best : Subtree text × List (Subtree text)) : Prop :=
    InOrder place.offset (best.1 :: best.2) high
  refine List.foldlRecOn runs _ (motive := Fits) (inOrder_subtree r h) fun best hb run hr => ?_
  dsimp only
  split
  · exact inOrder_subtree r (hs run hr)
  · exact hb

/-- The root of the text keeps the order of the subtrees that it is made of. -/
theorem ordered_of_root? {trees : List (Subtree text)} {low high : Nat} {root : Subtree text}
    (h : InOrder low trees high) (hr : root? trees = some root) : root.Ordered := by
  dsimp only [root?] at hr
  split at hr
  · cases hr
  · next t before hd =>
    cases hr
    have whole : before.reverse ++ t :: (trees.reverse.takeWhile isExtra).reverse = trees := by
      have := List.takeWhile_append_dropWhile (p := isExtra) (l := trees.reverse)
      rw [hd] at this
      simpa using congrArg List.reverse this
    rw [← whole, inOrder_append] at h
    obtain ⟨mid, first, start, ordered, last⟩ := h
    -- the children of the last node that is no extra stand in its place between the others
    have inner := ordered.inOrder_children.mono start (Nat.le_refl _)
    have all := inOrder_append.2 ⟨_, inOrder_append.2 ⟨_, first, inner⟩, last⟩
    exact ordered_build _ _ _ _ all

end Machine

end CallContext
