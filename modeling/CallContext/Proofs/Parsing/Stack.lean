import CallContext.Proofs.Parsing.Height
import CallContext.Proofs.Parsing.Order

/-!
# The order of subtrees on a stack

A stack holds subtrees in the order of the text: the subtree on a link starts behind the vertex
below it and ends before the vertex above it.  Since vertices that were changed are known again by
their serial numbers, that is only kept if all vertices of one serial number stand at one offset.
A `Chart` lists these offsets, and `Stack.Charted` says that a stack agrees with a chart.  Pushing
extends the chart by the new vertex, so that no stack is as high as there are vertices in the chart
(`Stack.Placed`).  Joining keeps this (`Stack.Placed.join`), and what is popped off a stack is in
order (`Stack.Placed.fits_pop`, `Stack.Placed.fits_popAll`).
-/

namespace CallContext

/-- Where the vertices of a machine stand, by their serial numbers. -/
structure Chart where
  /-- The serial numbers below are in use. -/
  bound : Nat
  offset : Nat → Nat

namespace Chart

/-- A chart that has been extended. -/
instance : LE Chart where
  le c d := c.bound ≤ d.bound ∧ ∀ n, n < c.bound → d.offset n = c.offset n

theorem le_refl (c : Chart) : c ≤ c := ⟨Nat.le_refl _, fun _ _ => rfl⟩

theorem le_trans {c d e : Chart} (h : c ≤ d) (k : d ≤ e) : c ≤ e :=
  ⟨Nat.le_trans h.1 k.1, fun n hn => (k.2 n (Nat.lt_of_lt_of_le hn h.1)).trans (h.2 n hn)⟩

/-- The chart with one more vertex. -/
def add (c : Chart) (offset : Nat) : Chart :=
  ⟨c.bound + 1, fun n => if n = c.bound then offset else c.offset n⟩

@[simp] theorem bound_add (c : Chart) (offset : Nat) : (c.add offset).bound = c.bound + 1 := rfl

@[simp] theorem offset_add (c : Chart) (offset : Nat) : (c.add offset).offset c.bound = offset :=
  if_pos rfl

theorem le_add (c : Chart) (offset : Nat) : c ≤ c.add offset :=
  ⟨Nat.le_succ _, fun _ hn => if_neg (Nat.ne_of_lt hn)⟩

end Chart

namespace Stack

open Subtree

variable {text : List Char} {c : Chart}

/-! ### Charted stacks -/

/-- The subtree of a link stands between the vertex below and an offset. -/
def Fits (high : Nat) (link : Link text) : Prop :=
  InOrder link.1.place.offset link.2.toList high

/-- The stack stands where the chart says, with its subtrees in order. -/
inductive Charted (c : Chart) : Stack text → Prop
  | vertex {serial state : Nat} {place : Cursor text} {cost weight : Nat} {precedence : Int}
      {links : List (Link text)} (known : serial < c.bound)
      (stands : c.offset serial = place.offset) (below : ∀ l ∈ links, Charted c l.1)
      (fits : ∀ l ∈ links, Fits place.offset l) :
      Charted c (vertex serial state place cost weight precedence links)

namespace Charted

theorem link {s : Stack text} (h : s.Charted c) {l : Link text} (hl : l ∈ s.links) :
    l.1.Charted c := by
  cases h with
  | vertex _ _ below _ => exact below l hl

theorem fits_link {s : Stack text} (h : s.Charted c) {l : Link text} (hl : l ∈ s.links) :
    Fits s.place.offset l := by
  cases h with
  | vertex _ _ _ fits => exact fits l hl

theorem offset_eq {s : Stack text} (h : s.Charted c) : c.offset s.serial = s.place.offset := by
  cases h with
  | vertex _ stands _ _ => exact stands

/-- Vertices of one serial number stand at one place. -/
theorem place_eq {s t : Stack text} (hs : s.Charted c) (ht : t.Charted c)
    (h : s.serial = t.serial) : s.place.offset = t.place.offset := by
  rw [← hs.offset_eq, ← ht.offset_eq, h]

theorem mono {d : Chart} {s : Stack text} (h : s.Charted c) (hcd : c ≤ d) : s.Charted d := by
  induction h with
  | vertex known stands _ fits ih =>
    exact .vertex (Nat.lt_of_lt_of_le known hcd.1) ((hcd.2 _ known).trans stands) ih fits

end Charted

/-- A new vertex gets the next serial number. -/
theorem Charted.push {s : Stack text} (h : s.Charted c) {tree : Option (Subtree text)}
    {high : Nat} (ht : InOrder s.place.offset tree.toList high) (state : Nat) :
    (s.push c.bound state tree).Charted (c.add (s.push c.bound state tree).place.offset) := by
  have charted := h.mono (c.le_add (s.push c.bound state tree).place.offset)
  cases tree with
  | none =>
    refine .vertex (Nat.lt_succ_self _) (c.offset_add _) ?_ ?_ <;>
      simp only [List.mem_singleton, forall_eq]
    · exact charted
    · exact Nat.le_refl _
  | some t =>
    refine .vertex (Nat.lt_succ_self _) (c.offset_add _) ?_ ?_ <;>
      simp only [List.mem_singleton, forall_eq]
    · exact charted
    · exact ⟨ht.1, ht.2.1, Nat.le_refl _⟩

theorem place_push_le {s : Stack text} {tree : Option (Subtree text)} {high : Nat}
    (ht : InOrder s.place.offset tree.toList high) (serial state : Nat) :
    (s.push serial state tree).place.offset ≤ high := by
  cases tree with
  | none => exact ht
  | some t => exact ht.2.2

/-! ### Joining -/

theorem Charted.change {s t : Stack text} (h : s.Charted c) (serial : t.serial = s.serial)
    (place : t.place = s.place)
    (links : ∀ l ∈ t.links, l.1.Charted c ∧ Fits s.place.offset l) : t.Charted c := by
  cases t
  cases h with
  | vertex known stands _ _ =>
    subst serial place
    exact .vertex known stands (fun l hl => (links l hl).1) fun l hl => (links l hl).2

theorem Charted.insertLink {join : Stack text → Stack text} {target top : Stack text}
    {tree : Option (Subtree text)} (htop : top.Charted c) (htarget : target.Charted c)
    (hfits : Fits top.place.offset (target, tree))
    (hjoin : ∀ s, s.Charted c → s.place.offset = target.place.offset →
      (join s).Charted c ∧ (join s).place = s.place) :
    (insertLink join target tree top).Charted c := by
  obtain ⟨serial, -, place, links⟩ := insertLink_eq join target tree top
  refine htop.change serial place fun l hl => ?_
  rcases links l hl with hl | rfl | ⟨k, hk, -, ⟨same, rfl⟩ | ⟨⟨-, same⟩, rfl⟩⟩
  · exact ⟨htop.link hl, htop.fits_link hl⟩
  · exact ⟨htarget, hfits⟩
  · -- the vertex below is the target, so the subtree fits on it
    have charted : k.1.Charted c := htop.link hk
    refine ⟨charted, ?_⟩
    unfold Fits
    rwa [charted.place_eq htarget same]
  · obtain ⟨charted, place⟩ := hjoin k.1 (htop.link hk) same
    refine ⟨charted, ?_⟩
    have := htop.fits_link hk
    unfold Fits at this ⊢
    rwa [place]

mutual

theorem Charted.addLink : ∀ {target top : Stack text} {tree : Option (Subtree text)},
    top.Charted c → target.Charted c → Fits top.place.offset (target, tree) →
      (addLink target tree top).Charted c ∧ (addLink target tree top).place = top.place
  | .vertex serial state place cost weight precedence links, top, tree, htop, htarget, hfits => by
    refine ⟨htop.insertLink htarget hfits fun s hs hp => ?_, (insertLink_eq ..).2.2.1⟩
    refine Charted.addLinks hs fun l hl => ⟨htarget.link hl, ?_⟩
    rw [hp]
    exact htarget.fits_link hl

theorem Charted.addLinks : ∀ {links : List (Link text)} {top : Stack text},
    top.Charted c → (∀ l ∈ links, l.1.Charted c ∧ Fits top.place.offset l) →
      (addLinks links top).Charted c ∧ (addLinks links top).place = top.place
  | [], _, htop, _ => ⟨htop, rfl⟩
  | (target, tree) :: more, top, htop, hlinks => by
    obtain ⟨htarget, hfits⟩ := hlinks (target, tree) List.mem_cons_self
    obtain ⟨charted, place⟩ := Charted.addLink htop htarget hfits
    have rest : ∀ l ∈ more, l.1.Charted c ∧ Fits (Stack.addLink target tree top).place.offset l := by
      rw [place]
      exact fun l hl => hlinks l (List.mem_cons_of_mem _ hl)
    obtain ⟨charted', place'⟩ := Charted.addLinks charted rest
    exact ⟨charted', place'.trans place⟩

end

theorem Charted.join {s t : Stack text} (hs : s.Charted c) (ht : t.Charted c)
    (h : s.place.offset = t.place.offset) :
    (s.join t).Charted c ∧ (s.join t).place = s.place := by
  refine hs.addLinks fun l hl => ⟨ht.link hl, ?_⟩
  rw [h]
  exact ht.fits_link hl

/-! ### Placed stacks -/

/-- The stack stands where the chart says, and no way down has as many links as there are vertices
in the chart. -/
structure Placed (c : Chart) (s : Stack text) : Prop where
  charted : s.Charted c
  low : s.height single < c.bound

theorem placed_bottom (text : List Char) : (bottom text).Placed ⟨1, fun _ => 0⟩ :=
  ⟨.vertex Nat.zero_lt_one rfl (by simp) (by simp), Nat.zero_lt_one⟩

namespace Placed

variable {s t : Stack text}

theorem link (h : s.Placed c) {l : Link text} (hl : l ∈ s.links) : l.1.Placed c :=
  ⟨h.charted.link hl, Nat.lt_of_le_of_lt (Nat.le_trans (Nat.le_add_right _ _) (height_link hl)) h.low⟩

theorem fits_link (h : s.Placed c) {l : Link text} (hl : l ∈ s.links) : Fits s.place.offset l :=
  h.charted.fits_link hl

theorem place_eq (hs : s.Placed c) (ht : t.Placed c) (h : s.serial = t.serial) :
    s.place.offset = t.place.offset :=
  hs.charted.place_eq ht.charted h

theorem mono {d : Chart} (h : s.Placed c) (hcd : c ≤ d) : s.Placed d :=
  ⟨h.charted.mono hcd, Nat.lt_of_lt_of_le h.low hcd.1⟩

theorem push (h : s.Placed c) {tree : Option (Subtree text)} {high : Nat}
    (ht : InOrder s.place.offset tree.toList high) (state : Nat) :
    (s.push c.bound state tree).Placed (c.add (s.push c.bound state tree).place.offset) := by
  refine ⟨h.charted.push ht state, ?_⟩
  rw [height_push]
  exact Nat.succ_lt_succ h.low

/-- Stacks that have come to one place can be joined. -/
theorem join (hs : s.Placed c) (ht : t.Placed c) (h : s.place.offset = t.place.offset) :
    (s.join t).Placed c ∧ (s.join t).place = s.place := by
  obtain ⟨charted, place⟩ := hs.charted.join ht.charted h
  have height : (s.join t).height single ≤ max (s.height single) (t.height single) :=
    height_join_le (fun _ _ _ => rfl) s t
  exact ⟨⟨charted, Nat.lt_of_le_of_lt height (Nat.max_lt.2 ⟨hs.low, ht.low⟩)⟩, place⟩

end Placed

/-! ### Climbing down -/

/-- What was climbed past is in order between the vertex that was reached and an offset. -/
structure Climb.Fits (c : Chart) (high : Nat) (climb : Climb text) : Prop where
  placed : climb.stack.Placed c
  inOrder : InOrder climb.stack.place.offset climb.trees high

theorem Climb.Fits.follow {high : Nat} {climb : Climb text} (h : climb.Fits c high)
    {l : Link text} (hl : l ∈ climb.stack.links) : (climb.follow l).Fits c high := by
  have placed := h.placed.link hl
  have fits := h.placed.fits_link hl
  obtain ⟨below, _ | t⟩ := l
  · exact ⟨placed, h.inOrder.mono fits (Nat.le_refl _)⟩
  · exact ⟨placed, fits.1, fits.2.1, h.inOrder.mono fits.2.2 (Nat.le_refl _)⟩

/-- All runs of a slice are in order between its base and an offset. -/
structure Slice.Fits (c : Chart) (high : Nat) (slice : Slice text) : Prop where
  placed : slice.base.Placed c
  inOrder : ∀ run ∈ slice.runs, InOrder slice.base.place.offset run high

theorem Slice.Fits.mono {d : Chart} {high : Nat} {slice : Slice text} (h : slice.Fits c high)
    (hcd : c ≤ d) : slice.Fits d high :=
  ⟨h.placed.mono hcd, h.inOrder⟩

theorem fits_addRun {high : Nat} {climb : Climb text} (h : climb.Fits c high)
    {slices : List (Slice text)} (hs : ∀ s ∈ slices, s.Fits c high) :
    ∀ s ∈ addRun climb.stack climb.trees slices, s.Fits c high := by
  induction slices with
  | nil =>
    simp only [addRun, List.mem_singleton, forall_eq]
    exact ⟨h.placed, by simpa using h.inOrder⟩
  | cons s more ih =>
    obtain ⟨first, rest⟩ := List.forall_mem_cons.1 hs
    unfold addRun
    split
    · next same =>
      refine List.forall_mem_cons.2 ⟨⟨first.placed, fun run hr => ?_⟩, rest⟩
      rcases List.mem_append.1 hr with hr | hr
      · exact first.inOrder run hr
      · -- vertices of one number stand at one place
        rw [List.mem_singleton.1 hr, first.placed.place_eq h.placed same]
        exact h.inOrder
    · exact List.forall_mem_cons.2 ⟨first, ih rest⟩

theorem fits_descend {σ : Type} {visit : σ → Climb text → σ × Decision} {high fuel : Nat}
    {memory : σ} {slices : List (Slice text)} {ways : List (Climb text)}
    (hs : ∀ s ∈ slices, s.Fits c high) (hw : ∀ climb ∈ ways, climb.Fits c high) :
    ∀ s ∈ (descend visit fuel memory slices ways).2, s.Fits c high :=
  forall_mem_descend (fun _ _ _ hc _ hl => hc.follow hl) (fun _ _ _ hc _ => fits_addRun hc) hs hw

theorem Placed.fits_climb {top : Stack text} (h : top.Placed c) :
    ∀ climb ∈ [(⟨top, [], 0⟩ : Climb text)], climb.Fits c top.place.offset := by
  simp only [List.mem_singleton, forall_eq]
  exact ⟨h, Nat.le_refl _⟩

/-- What is popped off lies in order below the top. -/
theorem Placed.fits_pop {top : Stack text} (h : top.Placed c) (fuel count : Nat) :
    ∀ s ∈ top.pop fuel count, s.Fits c top.place.offset :=
  fits_descend (by simp) h.fits_climb

theorem Placed.fits_popAll {top : Stack text} (h : top.Placed c) (fuel : Nat) :
    ∀ s ∈ top.popAll fuel, s.Fits c top.place.offset :=
  fits_descend (by simp) h.fits_climb

end Stack

end CallContext
