import CallContext.Parsing.Stack

/-!
# Heights of stacks

What joining stacks and climbing down from them can lead to is said here once, for all that is kept
by both: a vertex that gets a link keeps its own links or joins one of them with the new one
(`Stack.insertLink_eq`), and what holds of a way down at its start and is kept along links holds of
all that is taken off (`Stack.forall_mem_descend`).

The first such thing is the height of a stack, the greatest weight of a way down.  A join is as
high as the higher one of the two stacks (`Stack.height_join_le`), and nothing more is found below a
vertex by climbing for longer than it is high (`Stack.descend_add`).
-/

namespace CallContext

namespace Stack

variable {text : List Char}

/-! ### Joining -/

/-- What the links are after one was joined with them. -/
theorem mem_of_joinLink? {join : Stack text → Stack text} {target : Stack text}
    {tree : Option (Subtree text)} {precedence : Int} {links : List (Link text)}
    {result : List (Link text) × Int}
    (h : joinLink? join target tree precedence links = some result) {l : Link text}
    (hl : l ∈ result.1) :
    l ∈ links ∨ ∃ k ∈ links, interchangeable k.2 tree = true ∧
      (k.1.serial = target.serial ∧ l = (k.1, tree) ∨
        (k.1.state = target.state ∧ k.1.place.offset = target.place.offset) ∧
          l = (join k.1, k.2)) := by
  induction links generalizing result with
  | nil => cases h
  | cons k more ih =>
    obtain ⟨below, old⟩ := k
    dsimp only [joinLink?] at h
    split at h
    · -- a link to the same vertex: one of the two trees stays
      next same =>
      simp only [Bool.and_eq_true, decide_eq_true_eq] at same
      split at h <;> cases h <;> rcases List.mem_cons.1 hl with rfl | hl
      · exact .inr ⟨_, List.mem_cons_self, same.1, .inl ⟨same.2, rfl⟩⟩
      · exact .inl (List.mem_cons_of_mem _ hl)
      · exact .inl List.mem_cons_self
      · exact .inl (List.mem_cons_of_mem _ hl)
    · split at h
      · -- a link to a vertex like it: the two vertices are joined below
        next same =>
        simp only [Bool.and_eq_true, decide_eq_true_eq] at same
        cases h
        rcases List.mem_cons.1 hl with rfl | hl
        · exact .inr ⟨_, List.mem_cons_self, same.1.1.1, .inr ⟨⟨same.1.1.2, same.1.2⟩, rfl⟩⟩
        · exact .inl (List.mem_cons_of_mem _ hl)
      · obtain ⟨⟨links, p⟩, hr, rfl⟩ := Option.map_eq_some_iff.1 h
        rcases List.mem_cons.1 hl with rfl | hl
        · exact .inl List.mem_cons_self
        · rcases ih hr hl with hl | ⟨k, hk, h⟩
          · exact .inl (List.mem_cons_of_mem _ hl)
          · exact .inr ⟨k, List.mem_cons_of_mem _ hk, h⟩

/-- A vertex that has got a link is still the same vertex. -/
theorem insertLink_eq (join : Stack text → Stack text) (target : Stack text)
    (tree : Option (Subtree text)) (top : Stack text) :
    (insertLink join target tree top).serial = top.serial ∧
      (insertLink join target tree top).state = top.state ∧
      (insertLink join target tree top).place = top.place ∧
      ∀ l ∈ (insertLink join target tree top).links, l ∈ top.links ∨ l = (target, tree) ∨
        ∃ k ∈ top.links, interchangeable k.2 tree = true ∧
          (k.1.serial = target.serial ∧ l = (k.1, tree) ∨
            (k.1.state = target.state ∧ k.1.place.offset = target.place.offset) ∧
              l = (join k.1, k.2)) := by
  obtain ⟨serial, state, place, cost, weight, precedence, links⟩ := top
  dsimp only [insertLink]
  split
  · exact ⟨rfl, rfl, rfl, fun l hl => .inl hl⟩
  · split
    · next hj =>
      refine ⟨rfl, rfl, rfl, fun l hl => ?_⟩
      rcases mem_of_joinLink? hj hl with h | h
      · exact .inl h
      · exact .inr (.inr h)
    · split
      · exact ⟨rfl, rfl, rfl, fun l hl => .inl hl⟩
      · refine ⟨rfl, rfl, rfl, fun l hl => ?_⟩
        rcases List.mem_append.1 hl with hl | hl
        · exact .inl hl
        · exact .inr (.inl (List.mem_singleton.1 hl))

/-! ### Climbing down -/

/-- What holds of all ways and of all slices of a descent. -/
structure Descent.All {σ : Type} (P : Climb text → Prop) (Q : Slice text → Prop)
    (d : Descent text σ) : Prop where
  slices : ∀ s ∈ d.slices, Q s
  going : ∀ climb ∈ d.going, P climb
  branched : ∀ climb ∈ d.branched, P climb

section Descending

variable {σ : Type} {visit : σ → Climb text → σ × Decision} {P R : Climb text → Prop}
  {Q : Slice text → Prop}

theorem Descent.All.step
    (follow : ∀ memory climb l, P climb → (visit memory climb).2.stop = false →
      l ∈ climb.stack.links → R (climb.follow l))
    (take : ∀ memory climb slices, P climb → (visit memory climb).2.take = true →
      (∀ s ∈ slices, Q s) → ∀ s ∈ addRun climb.stack climb.trees slices, Q s)
    {d : Descent text σ} (h : d.All R Q) {climb : Climb text} (hc : P climb) :
    (d.step visit climb).All R Q := by
  have slices : ∀ s ∈ (if (visit d.memory climb).2.take then
      addRun climb.stack climb.trees d.slices else d.slices), Q s := by
    split
    · next taken => exact take d.memory climb d.slices hc taken h.slices
    · exact h.slices
  dsimp only [Descent.step]
  split
  · next first more going links =>
    have followed : ∀ l ∈ first :: more, R (climb.follow l) := by
      rw [← links]
      exact fun l hl => follow d.memory climb l hc going hl
    obtain ⟨followFirst, followMore⟩ := List.forall_mem_cons.1 followed
    -- the climb goes on along the first link, and the other links branch off
    refine List.foldlRecOn more _ (motive := Descent.All R Q) ?_ fun d hd l hl => ?_
    · exact ⟨slices, List.forall_mem_cons.2 ⟨followFirst, h.going⟩, h.branched⟩
    · split
      · exact ⟨hd.slices, hd.going, List.forall_mem_cons.2 ⟨followMore l hl, hd.branched⟩⟩
      · exact hd
  · exact ⟨slices, h.going, h.branched⟩

/-- All ways are followed one link further. -/
theorem Descent.All.steps
    (follow : ∀ memory climb l, P climb → (visit memory climb).2.stop = false →
      l ∈ climb.stack.links → R (climb.follow l))
    (take : ∀ memory climb slices, P climb → (visit memory climb).2.take = true →
      (∀ s ∈ slices, Q s) → ∀ s ∈ addRun climb.stack climb.trees slices, Q s)
    {memory : σ} {slices : List (Slice text)} {ways : List (Climb text)} {count : Nat}
    (hs : ∀ s ∈ slices, Q s) (hw : ∀ climb ∈ ways, P climb) :
    let d := ways.foldl (Descent.step visit) ⟨memory, slices, [], [], count⟩
    (∀ s ∈ d.slices, Q s) ∧ ∀ climb ∈ d.going.reverse ++ d.branched.reverse, R climb := by
  have start : (⟨memory, slices, [], [], count⟩ : Descent text σ).All R Q :=
    ⟨hs, by simp, by simp⟩
  have all := List.foldlRecOn ways (Descent.step visit)
    (motive := Descent.All R Q) start fun d hd climb hc => hd.step follow take (hw climb hc)
  refine ⟨all.slices, fun climb hc => ?_⟩
  rcases List.mem_append.1 hc with hc | hc
  · exact all.going climb (List.mem_reverse.1 hc)
  · exact all.branched climb (List.mem_reverse.1 hc)

/-- What holds of the ways down at their start and is kept along links gives what holds of the
slices. -/
theorem forall_mem_descend
    (follow : ∀ memory climb l, P climb → (visit memory climb).2.stop = false →
      l ∈ climb.stack.links → P (climb.follow l))
    (take : ∀ memory climb slices, P climb → (visit memory climb).2.take = true →
      (∀ s ∈ slices, Q s) → ∀ s ∈ addRun climb.stack climb.trees slices, Q s)
    {fuel : Nat} {memory : σ} {slices : List (Slice text)} {ways : List (Climb text)}
    (hs : ∀ s ∈ slices, Q s) (hw : ∀ climb ∈ ways, P climb) :
    ∀ s ∈ (descend visit fuel memory slices ways).2, Q s := by
  induction fuel generalizing memory slices ways with
  | zero => exact hs
  | succ fuel ih =>
    cases ways with
    | nil => exact hs
    | cons way more =>
      unfold descend
      obtain ⟨slices', ways'⟩ := Descent.All.steps follow take hs hw
      exact ih slices' ways'

end Descending

/-! ### Heights -/

section Height

variable (weigh : Option (Subtree text) → Nat)

mutual

/-- The greatest weight of the links on a way down. -/
def height : Stack text → Nat
  | vertex _ _ _ _ _ _ links => heightOver links

/-- The greatest weight of the links on a way down that starts with one of some links. -/
def heightOver : List (Link text) → Nat
  | [] => 0
  | (below, tree) :: more => max (height below + weigh tree) (heightOver more)

end

variable {weigh}

theorem heightOver_le {links : List (Link text)} {n : Nat} :
    heightOver weigh links ≤ n ↔ ∀ l ∈ links, l.1.height weigh + weigh l.2 ≤ n := by
  induction links with
  | nil => simp [heightOver]
  | cons l more ih => rw [heightOver, Nat.max_le, ih, List.forall_mem_cons]

theorem height_le {s : Stack text} {n : Nat} :
    s.height weigh ≤ n ↔ ∀ l ∈ s.links, l.1.height weigh + weigh l.2 ≤ n := by
  cases s
  exact heightOver_le

theorem height_link {s : Stack text} {l : Link text} (hl : l ∈ s.links) :
    l.1.height weigh + weigh l.2 ≤ s.height weigh :=
  height_le.1 (Nat.le_refl _) l hl

theorem height_push (serial state : Nat) (tree : Option (Subtree text)) (s : Stack text) :
    (s.push serial state tree).height weigh = s.height weigh + weigh tree := by
  cases tree <;> exact Nat.max_eq_left (Nat.zero_le _)

mutual

/-- A stack is not higher if each of its links weighs less. -/
theorem height_mono {lighter : Option (Subtree text) → Nat}
    (le : ∀ tree, lighter tree ≤ weigh tree) :
    ∀ s : Stack text, s.height lighter ≤ s.height weigh
  | vertex _ _ _ _ _ _ links => heightOver_mono le links

theorem heightOver_mono {lighter : Option (Subtree text) → Nat}
    (le : ∀ tree, lighter tree ≤ weigh tree) :
    ∀ links : List (Link text), heightOver lighter links ≤ heightOver weigh links
  | [] => Nat.le_refl _
  | (below, tree) :: more => by
    have first := Nat.add_le_add (height_mono le below) (le tree)
    have rest := heightOver_mono le more
    rw [heightOver, heightOver]
    omega

end

theorem height_insertLink_le (fair : ∀ a b, interchangeable a b = true → weigh a = weigh b)
    {join : Stack text → Stack text} {target top : Stack text} {tree : Option (Subtree text)}
    (hjoin : ∀ s, (join s).height weigh ≤ max (s.height weigh) (target.height weigh)) :
    (insertLink join target tree top).height weigh ≤
      max (top.height weigh) (target.height weigh + weigh tree) := by
  obtain ⟨-, -, -, links⟩ := insertLink_eq join target tree top
  refine height_le.2 fun l hl => ?_
  rcases links l hl with hl | rfl | ⟨k, hk, same, ⟨-, rfl⟩ | ⟨-, rfl⟩⟩
  · exact Nat.le_trans (height_link hl) (Nat.le_max_left _ _)
  · exact Nat.le_max_right _ _
  · have old : k.1.height weigh + weigh k.2 ≤ top.height weigh := height_link hk
    rw [fair _ _ same] at old
    exact Nat.le_trans old (Nat.le_max_left _ _)
  · -- the links that were joined weigh the same
    have old : k.1.height weigh + weigh k.2 ≤ top.height weigh := height_link hk
    have joined := hjoin k.1
    have even := fair _ _ same
    dsimp only
    omega

mutual

theorem height_addLink_le (fair : ∀ a b, interchangeable a b = true → weigh a = weigh b) :
    ∀ (target : Stack text) (tree : Option (Subtree text)) (top : Stack text),
      (addLink target tree top).height weigh ≤
        max (top.height weigh) (target.height weigh + weigh tree)
  | vertex _ _ _ _ _ _ links, _, _ =>
    height_insertLink_le fair fun s => height_addLinks_le fair links s

theorem height_addLinks_le (fair : ∀ a b, interchangeable a b = true → weigh a = weigh b) :
    ∀ (links : List (Link text)) (top : Stack text),
      (addLinks links top).height weigh ≤ max (top.height weigh) (heightOver weigh links)
  | [], _ => Nat.le_max_left _ _
  | (target, tree) :: more, top => by
    have first := height_addLink_le fair target tree top
    have rest := height_addLinks_le fair more (addLink target tree top)
    rw [addLinks, heightOver]
    omega

end

/-- A join is not higher than both stacks. -/
theorem height_join_le (fair : ∀ a b, interchangeable a b = true → weigh a = weigh b)
    (s t : Stack text) :
    (s.join t).height weigh ≤ max (s.height weigh) (t.height weigh) := by
  obtain ⟨_, _, _, _, _, _, links⟩ := t
  exact height_addLinks_le fair links s

end Height

/-! ### Counting links -/

/-- Every link counts. -/
def single (_ : Option (Subtree text)) : Nat := 1

/-- There are no ways down that are longer than a stack is high. -/
theorem descend_add {σ : Type} {visit : σ → Climb text → σ × Decision} {fuel : Nat}
    {memory : σ} {slices : List (Slice text)} {ways : List (Climb text)}
    (h : ∀ climb ∈ ways, climb.stack.height single < fuel) (more : Nat) :
    descend visit (fuel + more) memory slices ways = descend visit fuel memory slices ways := by
  induction fuel generalizing memory slices ways with
  | zero =>
    have none : ways = [] := List.eq_nil_iff_forall_not_mem.2 fun climb hc =>
      absurd (h climb hc) (Nat.not_lt_zero _)
    rw [none]
    cases (0 + more) <;> rfl
  | succ fuel ih =>
    rw [Nat.succ_add]
    cases ways with
    | nil => rfl
    | cons way others =>
      unfold descend
      refine ih (Descent.All.steps (P := fun climb => climb.stack.height single < fuel + 1)
        (Q := fun _ => True) (fun _ climb l lower _ hl => ?_)
        (fun _ _ _ _ _ _ _ _ => trivial) (fun _ _ => trivial) h).2
      -- every link leads down by one
      have link : l.1.height single + 1 ≤ climb.stack.height single := height_link hl
      have stack : (climb.follow l).stack = l.1 := by
        unfold Climb.follow
        split <;> rfl
      rw [stack]
      exact Nat.lt_of_lt_of_le link (Nat.le_of_lt_succ lower)

variable {top : Stack text} {fuel : Nat}

theorem pop_add (h : top.height single < fuel) (more count : Nat) :
    top.pop (fuel + more) count = top.pop fuel count :=
  congrArg Prod.snd (descend_add (by simpa using h) more)

theorem popAll_add (h : top.height single < fuel) (more : Nat) :
    top.popAll (fuel + more) = top.popAll fuel :=
  congrArg Prod.snd (descend_add (by simpa using h) more)

theorem summary_add (h : top.height single < fuel) (more : Nat) :
    top.summary (fuel + more) = top.summary fuel :=
  congrArg List.reverse (congrArg Prod.fst (descend_add (by simpa using h) more))

end Stack

end CallContext
