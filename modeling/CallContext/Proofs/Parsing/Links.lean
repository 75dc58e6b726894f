import CallContext.Proofs.Parsing.Conformity
import CallContext.Proofs.Parsing.Stack

/-!
# Stacks that follow the automaton

The subtree on a link takes the automaton from the state of the vertex below to that of the vertex
above (`Subtree.Law`): an extra leaves the state as it is, skipped text leads to the state of the
error recovery, and any other subtree is a step of the automaton, which conforms to the grammar if
it costs nothing.  `Stack.Lawful` says that this holds of all links of a stack.  As for the order
of subtrees, vertices are known again by their serial numbers, so a `Chart` lists their states.

Since no step leads out of the state of the error recovery, whatever is popped off such a stack
from another state is a walk of the automaton (`Stack.Lawful.lawful_pop`).
-/

namespace CallContext

variable {text : List Char} {d : Chart}

open Subtree

/-- What a subtree does to the state of the automaton. -/
structure Subtree.Law (t : Subtree text) (before after : Nat) : Prop extends Fair t where
  extra : t.isExtra = true → after = before
  step : t.isExtra = false → after ≠ 0 → Automaton.Step before t.symbol after
  lost : t.symbol = Symbol.skipped → after = 0

namespace Stack

/-- What a link does to the state of the automaton; the place of an error leads to the state of the
error recovery. -/
def Law (after : Nat) (link : Link text) : Prop :=
  match link.2 with
  | none => after = 0
  | some t => t.Law link.1.state after

/-- All links of the stack do what the automaton says, and its vertices have the states that the
chart lists. -/
inductive Lawful (d : Chart) : Stack text → Prop
  | vertex {serial state : Nat} {place : Cursor text} {cost weight : Nat} {precedence : Int}
      {links : List (Link text)} (known : serial < d.bound) (stands : d.offset serial = state)
      (below : ∀ l ∈ links, Lawful d l.1) (law : ∀ l ∈ links, Law state l) :
      Lawful d (vertex serial state place cost weight precedence links)

namespace Lawful

theorem link {s : Stack text} (h : s.Lawful d) {l : Link text} (hl : l ∈ s.links) :
    l.1.Lawful d := by
  cases h with
  | vertex _ _ below _ => exact below l hl

theorem law_link {s : Stack text} (h : s.Lawful d) {l : Link text} (hl : l ∈ s.links) :
    Law s.state l := by
  cases h with
  | vertex _ _ _ law => exact law l hl

theorem offset_eq {s : Stack text} (h : s.Lawful d) : d.offset s.serial = s.state := by
  cases h with
  | vertex _ stands _ _ => exact stands

/-- Vertices of one serial number have one state. -/
theorem state_eq {s t : Stack text} (hs : s.Lawful d) (ht : t.Lawful d)
    (h : s.serial = t.serial) : s.state = t.state := by
  rw [← hs.offset_eq, ← ht.offset_eq, h]

theorem mono {e : Chart} {s : Stack text} (h : s.Lawful d) (hde : d ≤ e) : s.Lawful e := by
  induction h with
  | vertex known stands _ law ih =>
    exact .vertex (Nat.lt_of_lt_of_le known hde.1) ((hde.2 _ known).trans stands) ih law

end Lawful

theorem lawful_bottom (text : List Char) : (bottom text).Lawful ⟨1, fun _ => 1⟩ :=
  .vertex Nat.zero_lt_one rfl (by simp) (by simp)

/-- A new vertex gets the next serial number. -/
theorem Lawful.push {s : Stack text} (h : s.Lawful d) {tree : Option (Subtree text)} {state : Nat}
    (law : Law state (s, tree)) : (s.push d.bound state tree).Lawful (d.add state) := by
  have lawful := h.mono (d.le_add state)
  cases tree with
  | none =>
    refine .vertex (Nat.lt_succ_self _) (d.offset_add _) ?_ ?_ <;>
      simp only [List.mem_singleton, forall_eq]
    · exact lawful
    · exact law
  | some t =>
    refine .vertex (Nat.lt_succ_self _) (d.offset_add _) ?_ ?_ <;>
      simp only [List.mem_singleton, forall_eq]
    · exact lawful
    · exact law

/-! ### Joining -/

theorem Law.of_state {after : Nat} {l k : Link text} (h : Law after l)
    (state : k.1.state = l.1.state) (tree : k.2 = l.2) : Law after k := by
  unfold Law at h ⊢
  rwa [state, tree]

theorem Lawful.change {s t : Stack text} (h : s.Lawful d) (serial : t.serial = s.serial)
    (state : t.state = s.state) (links : ∀ l ∈ t.links, l.1.Lawful d ∧ Law s.state l) :
    t.Lawful d := by
  cases t
  cases h with
  | vertex known stands _ _ =>
    subst serial state
    exact .vertex known stands (fun l hl => (links l hl).1) fun l hl => (links l hl).2

theorem Lawful.insertLink {join : Stack text → Stack text} {target top : Stack text}
    {tree : Option (Subtree text)} (htop : top.Lawful d) (htarget : target.Lawful d)
    (law : Law top.state (target, tree))
    (hjoin : ∀ s, s.Lawful d → s.state = target.state →
      (join s).Lawful d ∧ (join s).state = s.state) :
    (insertLink join target tree top).Lawful d := by
  obtain ⟨serial, state, -, links⟩ := insertLink_eq join target tree top
  refine htop.change serial state fun l hl => ?_
  rcases links l hl with hl | rfl | ⟨k, hk, -, ⟨same, rfl⟩ | ⟨⟨same, -⟩, rfl⟩⟩
  · exact ⟨htop.link hl, htop.law_link hl⟩
  · exact ⟨htarget, law⟩
  · -- the vertex below is the target, so it has the state of the target
    have lawful : k.1.Lawful d := htop.link hk
    exact ⟨lawful, law.of_state (lawful.state_eq htarget same) rfl⟩
  · obtain ⟨lawful, state⟩ := hjoin k.1 (htop.link hk) same
    exact ⟨lawful, (htop.law_link hk).of_state state rfl⟩

mutual

theorem Lawful.addLink : ∀ {target top : Stack text} {tree : Option (Subtree text)},
    top.Lawful d → target.Lawful d → Law top.state (target, tree) →
      (addLink target tree top).Lawful d ∧ (addLink target tree top).state = top.state
  | .vertex serial state place cost weight precedence links, top, tree, htop, htarget, law => by
    refine ⟨htop.insertLink htarget law fun s hs same => ?_, (insertLink_eq ..).2.1⟩
    refine Lawful.addLinks hs fun l hl => ⟨htarget.link hl, ?_⟩
    rw [same]
    exact htarget.law_link hl

theorem Lawful.addLinks : ∀ {links : List (Link text)} {top : Stack text},
    top.Lawful d → (∀ l ∈ links, l.1.Lawful d ∧ Law top.state l) →
      (addLinks links top).Lawful d ∧ (addLinks links top).state = top.state
  | [], _, htop, _ => ⟨htop, rfl⟩
  | (target, tree) :: more, top, htop, hlinks => by
    obtain ⟨htarget, law⟩ := hlinks (target, tree) List.mem_cons_self
    obtain ⟨lawful, state⟩ := Lawful.addLink htop htarget law
    have rest : ∀ l ∈ more, l.1.Lawful d ∧ Law (Stack.addLink target tree top).state l := by
      rw [state]
      exact fun l hl => hlinks l (List.mem_cons_of_mem _ hl)
    obtain ⟨lawful', state'⟩ := Lawful.addLinks lawful rest
    exact ⟨lawful', state'.trans state⟩

end

/-- Stacks that have come to one state can be joined. -/
theorem Lawful.join {s t : Stack text} (hs : s.Lawful d) (ht : t.Lawful d)
    (h : s.state = t.state) : (s.join t).Lawful d ∧ (s.join t).state = s.state := by
  refine hs.addLinks fun l hl => ⟨ht.link hl, ?_⟩
  rw [h]
  exact ht.law_link hl

/-! ### Climbing down -/

/-- What was climbed past is a walk of the automaton to a state, unless that is the state of the
error recovery. -/
structure Climb.Lawful (d : Chart) (after : Nat) (climb : Climb text) : Prop where
  stack : climb.stack.Lawful d
  fair : ∀ t ∈ climb.trees, t.Fair
  walk : after ≠ 0 → Walk climb.stack.state after climb.depth climb.trees

theorem Lawful.climb {top : Stack text} (h : top.Lawful d) :
    Climb.Lawful d top.state ⟨top, [], 0⟩ :=
  ⟨h, by simp, fun hn => ⟨hn, rfl, fun _ seen => seen, by simp, by simp⟩⟩

/-- A walk can be followed further down over a link with a subtree. -/
theorem Climb.Lawful.walk_follow {after : Nat} {climb : Climb text}
    (h : climb.Lawful d after) {below : Stack text} {t : Subtree text}
    (hl : (below, some t) ∈ climb.stack.links) (hn : after ≠ 0) :
    Walk below.state after (climb.follow (below, some t)).depth (t :: climb.trees) := by
  have walk := h.walk hn
  have law : t.Law below.state climb.stack.state := h.stack.law_link hl
  have unskipped : ∀ u ∈ t :: climb.trees, u.symbol ≠ Symbol.skipped :=
    List.forall_mem_cons.2 ⟨fun skipped => walk.before_ne (law.lost skipped), walk.unskipped⟩
  have fair := List.forall_mem_cons.2 ⟨law.toFair, walk.fair⟩
  cases extra : t.isExtra with
  | true =>
    have state := law.extra extra
    have same : symbols (t :: climb.trees) = symbols climb.trees := by
      rw [symbols, solid_cons_of_extra extra, symbols]
    refine ⟨state ▸ walk.before_ne, ?_, fun symbols seen => ?_, unskipped, fair⟩
    · rw [solid_cons_of_extra extra, ← walk.count]
      exact if_pos extra
    · rw [same]
      exact walk.sees symbols (state ▸ seen)
  | false =>
    have step := law.step extra walk.before_ne
    refine ⟨step.ne_zero, ?_, fun below seen => ?_, unskipped, fair⟩
    · rw [solid_cons_of_solid extra, List.length_cons, ← walk.count]
      exact if_neg (by simp [extra])
    · rw [symbols, solid_cons_of_solid extra, List.map_cons, List.reverse_cons, List.append_assoc]
      exact walk.sees _ (step.sees seen)

theorem Climb.Lawful.follow {after : Nat} {climb : Climb text} (h : climb.Lawful d after)
    {l : Link text} (hl : l ∈ climb.stack.links) : (climb.follow l).Lawful d after := by
  obtain ⟨below, _ | t⟩ := l
  · -- the place of an error is never on the way to another state
    have lost : climb.stack.state = 0 := h.stack.law_link hl
    exact ⟨h.stack.link hl, h.fair, fun hn => absurd lost (h.walk hn).before_ne⟩
  · have law : t.Law below.state climb.stack.state := h.stack.law_link hl
    exact ⟨h.stack.link hl, List.forall_mem_cons.2 ⟨law.toFair, h.fair⟩, h.walk_follow hl⟩

/-- A walk that starts with a subtree that is no extra. -/
structure Cut (before after depth : Nat) (run : List (Subtree text)) : Prop extends
    Walk before after depth run where
  first : ∀ t ∈ run.head?, t.isExtra = false

/-- All runs of a slice are walks of the automaton to a state. -/
structure Slice.Lawful (d : Chart) (after depth : Nat) (slice : Slice text) : Prop where
  base : slice.base.Lawful d
  fair : ∀ run ∈ slice.runs, ∀ t ∈ run, t.Fair
  cut : after ≠ 0 → ∀ run ∈ slice.runs, Cut slice.base.state after depth run

theorem Slice.Lawful.mono {e : Chart} {after depth : Nat} {slice : Slice text}
    (h : slice.Lawful d after depth) (hde : d ≤ e) : slice.Lawful e after depth :=
  ⟨h.base.mono hde, h.fair, h.cut⟩

/-- Runs are added to the slice of a vertex with the same serial number. -/
theorem forall_mem_addRun {Q : Nat → List (Subtree text) → Prop} {base : Stack text}
    (hb : base.Lawful d) {run : List (Subtree text)} (hr : Q base.state run)
    {slices : List (Slice text)}
    (hs : ∀ s ∈ slices, s.base.Lawful d ∧ ∀ run ∈ s.runs, Q s.base.state run) :
    ∀ s ∈ addRun base run slices, s.base.Lawful d ∧ ∀ run ∈ s.runs, Q s.base.state run := by
  induction slices with
  | nil =>
    simp only [addRun, List.mem_singleton, forall_eq]
    exact ⟨hb, hr⟩
  | cons s more ih =>
    obtain ⟨first, rest⟩ := List.forall_mem_cons.1 hs
    unfold addRun
    split
    · next same =>
      refine List.forall_mem_cons.2 ⟨⟨first.1, fun run' hr' => ?_⟩, rest⟩
      rcases List.mem_append.1 hr' with hr' | hr'
      · exact first.2 run' hr'
      · rw [List.mem_singleton.1 hr']
        change Q s.base.state run
        rwa [first.1.state_eq hb same]
    · exact List.forall_mem_cons.2 ⟨first, ih rest⟩

/-- What is popped off for a reduction is a walk that starts with one of the subtrees that were
counted. -/
theorem Lawful.lawful_pop {top : Stack text} (h : top.Lawful d) (fuel count : Nat) :
    ∀ s ∈ top.pop fuel count, s.Lawful d top.state count := by
  let Started (climb : Climb text) : Prop := climb.Lawful d top.state ∧
    (climb.depth = count → top.state ≠ 0 → ∀ t ∈ climb.trees.head?, t.isExtra = false)
  let Taken (s : Slice text) : Prop := s.base.Lawful d ∧
    ∀ run ∈ s.runs, (∀ t ∈ run, t.Fair) ∧
      (top.state ≠ 0 → Cut s.base.state top.state count run)
  have all : ∀ s ∈ top.pop fuel count, Taken s := by
    refine forall_mem_descend (P := Started) (Q := Taken) ?_ ?_ (by simp) ?_
    · rintro - climb ⟨below, tree⟩ ⟨lawful, -⟩ going hl
      refine ⟨lawful.follow hl, fun full hn => ?_⟩
      have short : climb.depth ≠ count := by simpa using going
      cases tree with
      | none =>
        have lost : climb.stack.state = 0 := lawful.stack.law_link hl
        exact absurd lost (lawful.walk hn).before_ne
      | some t =>
        -- an extra does not count, so that the walk would have ended before
        intro u hu
        cases hu
        cases extra : t.isExtra with
        | false => rfl
        | true => exact absurd ((if_pos extra).symm.trans full) short
    · rintro - climb slices ⟨lawful, first⟩ taken hs
      have full : climb.depth = count := by simpa using taken
      refine forall_mem_addRun (Q := fun before run => (∀ t ∈ run, t.Fair) ∧
        (top.state ≠ 0 → Cut before top.state count run)) lawful.stack
        ⟨lawful.fair, fun hn => ?_⟩ hs
      exact ⟨full ▸ lawful.walk hn, first full hn⟩
    · simp only [List.mem_singleton, forall_eq]
      exact ⟨h.climb, by simp⟩
  exact fun s hs => ⟨(all s hs).1, fun run hr => ((all s hs).2 run hr).1,
    fun hn run hr => ((all s hs).2 run hr).2 hn⟩

/-! ### Popping everything -/

theorem mem_runs_addRun {base : Stack text} {run run' : List (Subtree text)}
    {slices : List (Slice text)} {s : Slice text} (hs : s ∈ addRun base run slices)
    (hr : run' ∈ s.runs) : run' = run ∨ ∃ s' ∈ slices, run' ∈ s'.runs := by
  induction slices with
  | nil =>
    obtain rfl := List.mem_singleton.1 hs
    exact .inl (List.mem_singleton.1 hr)
  | cons first more ih =>
    unfold addRun at hs
    split at hs
    · rcases List.mem_cons.1 hs with rfl | hs
      · rcases List.mem_append.1 hr with hr | hr
        · exact .inr ⟨first, List.mem_cons_self, hr⟩
        · exact .inl (List.mem_singleton.1 hr)
      · exact .inr ⟨s, List.mem_cons_of_mem _ hs, hr⟩
    · rcases List.mem_cons.1 hs with rfl | hs
      · exact .inr ⟨s, List.mem_cons_self, hr⟩
      · rcases ih hs with same | ⟨s', hs', hr'⟩
        · exact .inl same
        · exact .inr ⟨s', List.mem_cons_of_mem _ hs', hr'⟩

/-- What holds along all ways to the bottom holds of the runs that are popped off. -/
theorem exists_climb_of_popAll {P : Climb text → Prop} {top : Stack text}
    (start : P ⟨top, [], 0⟩)
    (follow : ∀ climb l, P climb → l ∈ climb.stack.links → P (climb.follow l)) {fuel : Nat}
    {s : Slice text} (hs : s ∈ top.popAll fuel) {run : List (Subtree text)} (hr : run ∈ s.runs) :
    ∃ climb, P climb ∧ climb.stack.links = [] ∧ climb.trees = run := by
  let Reached (run : List (Subtree text)) : Prop :=
    ∃ climb, P climb ∧ climb.stack.links = [] ∧ climb.trees = run
  have all : ∀ s ∈ top.popAll fuel, ∀ run ∈ s.runs, Reached run := by
    refine forall_mem_descend (P := P) (Q := fun s => ∀ run ∈ s.runs, Reached run)
      (fun _ climb l hc _ hl => follow climb l hc hl) ?_ (by simp) (by simpa using start)
    intro _ climb slices hc taken hs s hs' run hr
    rcases mem_runs_addRun hs' hr with rfl | ⟨s', member, hr'⟩
    · exact ⟨climb, hc, by simpa using taken, rfl⟩
    · exact hs s' member run hr'
  exact all s hs run hr

/-- What is popped off below an extra that was put on last is a walk. -/
theorem Lawful.walk_of_popAll {top : Stack text} (h : top.Lawful d) (hn : top.state ≠ 0)
    {t : Subtree text} (extra : t.isExtra = true) {serial state fuel : Nat} {s : Slice text}
    (hs : s ∈ (top.push serial state (some t)).popAll fuel) {run : List (Subtree text)}
    (hr : run ∈ s.runs) :
    ∃ before depth front, run = front ++ [t] ∧ Walk before top.state depth front := by
  -- a way down is the new vertex, or a way down from the old one with the extra at its end
  let Beyond (climb : Climb text) : Prop :=
    climb = ⟨top.push serial state (some t), [], 0⟩ ∨
      ∃ c : Climb text, c.Lawful d top.state ∧ climb = ⟨c.stack, c.trees ++ [t], c.depth⟩
  have follow (climb : Climb text) (l : Link text) (hc : Beyond climb)
      (hl : l ∈ climb.stack.links) : Beyond (climb.follow l) := by
    rcases hc with rfl | ⟨c, lawful, rfl⟩
    · obtain rfl : l = (top, some t) := List.mem_singleton.1 hl
      refine .inr ⟨⟨top, [], 0⟩, h.climb, ?_⟩
      simp only [Climb.follow, extra, if_true, List.nil_append]
    · refine .inr ⟨c.follow l, lawful.follow hl, ?_⟩
      obtain ⟨below, _ | u⟩ := l <;> rfl
  obtain ⟨climb, beyond, bottom, rfl⟩ := exists_climb_of_popAll (.inl rfl) follow hs hr
  rcases beyond with rfl | ⟨c, lawful, rfl⟩
  · cases bottom
  · exact ⟨_, _, c.trees, rfl, lawful.walk hn⟩

/-- Below two subtrees that were put on last there may be anything. -/
theorem suffix_of_popAll {top : Stack text} {t u : Subtree text}
    {serial serial' state state' fuel : Nat} {s : Slice text}
    (hs : s ∈ ((top.push serial state (some t)).push serial' state' (some u)).popAll fuel)
    {run : List (Subtree text)} (hr : run ∈ s.runs) : [t, u] <:+ run := by
  let pushed := top.push serial state (some t)
  let Beyond (climb : Climb text) : Prop :=
    climb = ⟨pushed.push serial' state' (some u), [], 0⟩ ∨
      (climb.stack = pushed ∧ climb.trees = [u]) ∨ [t, u] <:+ climb.trees
  have follow (climb : Climb text) (l : Link text) (hc : Beyond climb)
      (hl : l ∈ climb.stack.links) : Beyond (climb.follow l) := by
    rcases hc with rfl | ⟨stack, trees⟩ | suffix
    · obtain rfl : l = (pushed, some u) := List.mem_singleton.1 hl
      exact .inr (.inl ⟨rfl, rfl⟩)
    · rw [stack] at hl
      obtain rfl : l = (top, some t) := List.mem_singleton.1 hl
      refine .inr (.inr ?_)
      change [t, u] <:+ t :: climb.trees
      rewrite [trees]
      exact List.suffix_refl _
    · obtain ⟨below, _ | v⟩ := l
      · exact .inr (.inr suffix)
      · exact .inr (.inr (suffix.trans (List.suffix_cons v climb.trees)))
  obtain ⟨climb, beyond, bottom, rfl⟩ := exists_climb_of_popAll (.inl rfl) follow hs hr
  rcases beyond with rfl | ⟨stack, -⟩ | suffix
  · cases bottom
  · rw [stack] at bottom
    cases bottom
  · exact suffix

end Stack

end CallContext
