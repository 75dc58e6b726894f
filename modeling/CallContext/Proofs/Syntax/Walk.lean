import CallContext.Syntax.Tag

/-!
# A walk visits the whole tree

A walk goes from position to position by three moves: to the first child, to the next sibling and
to the parent.  `Position.Visits` says which positions it meets if it ends at all.

What a walk has still to visit at a position is known: the tree of the node there, then what stands
to the right of it and of its ancestors (`Position.remaining`).  Each move takes exactly the first
of these positions off, so that a walk ends and has visited them all (`Position.visits_iff`).

* `Node.walk_eq_preorder` : a walk from a node lists the nodes of its tree, each before its
  children,
* `Node.visit_preorder` : in a tree around the node, these are the places at or below the node, and
  they are visited in the order of their child numbers, each once.
-/

namespace CallContext

variable {text : List Char}

theorem Node.preorder_eq (n : Node text) : n.preorder = n :: Node.preorderAll n.children := by
  cases n
  rfl

namespace Position

/-! ### Walks that end -/

/-- From a position a walk goes up until there is a next sibling, or until it is back where it
began. -/
inductive Climbs : Position text → Option (Position text) → Prop
  | sibling {p q : Position text} (next : p.nextSibling? = some q) : Climbs p (some q)
  | parent {p q : Position text} {goal : Option (Position text)} (last : p.nextSibling? = none)
      (up : p.parent? = some q) (rest : Climbs q goal) : Climbs p goal
  | top {p : Position text} (last : p.nextSibling? = none) (up : p.parent? = none) : Climbs p none

/-- The positions that a walk visits from a position on, if it ends. -/
inductive Visits : Position text → List (Position text) → Prop
  | child {p q : Position text} {qs : List (Position text)} (down : p.firstChild? = some q)
      (rest : Visits q qs) : Visits p (p :: qs)
  | onward {p q : Position text} {qs : List (Position text)} (leaf : p.firstChild? = none)
      (climbs : Climbs p (some q)) (rest : Visits q qs) : Visits p (p :: qs)
  | last {p : Position text} (leaf : p.firstChild? = none) (climbs : Climbs p none) : Visits p [p]

theorem climbs_onward? (p : Position text) : Climbs p (onward? p.later p.above) := by
  obtain ⟨node, later, above⟩ := p
  induction above generalizing node later with
  | nil =>
    cases later with
    | nil => exact .top rfl rfl
    | cons n ns => exact .sibling rfl
  | cons ancestor above ih =>
    cases later with
    | nil => exact .parent rfl rfl (ih ancestor.1 ancestor.2)
    | cons n ns => exact .sibling rfl

theorem Climbs.eq {p : Position text} {goal : Option (Position text)} (h : Climbs p goal) :
    goal = onward? p.later p.above := by
  induction h with
  | @sibling p q next =>
    obtain ⟨node, later, above⟩ := p
    cases later with
    | nil => cases next
    | cons n ns =>
      cases next
      cases above <;> rfl
  | @parent p q goal last up rest ih =>
    obtain ⟨node, later, above⟩ := p
    cases later with
    | cons n ns => cases last
    | nil =>
      cases above with
      | nil => cases up
      | cons ancestor above =>
        cases up
        exact ih
  | @top p last up =>
    obtain ⟨node, later, above⟩ := p
    cases later with
    | cons n ns => cases last
    | nil =>
      cases above with
      | nil => rfl
      | cons ancestor above => cases up

theorem visits_of_next {p q : Position text} (h : p.next? = some q) {qs : List (Position text)}
    (rest : Visits q qs) : Visits p (p :: qs) := by
  unfold next? at h
  cases down : p.firstChild? with
  | some child =>
    rw [down] at h
    cases h
    exact .child down rest
  | none =>
    rw [down] at h
    exact .onward down (h ▸ p.climbs_onward?) rest

theorem visits_of_end {p : Position text} (h : p.next? = none) : Visits p [p] := by
  unfold next? at h
  cases down : p.firstChild? with
  | some child =>
    rw [down] at h
    cases h
  | none =>
    rw [down] at h
    exact .last down (h ▸ p.climbs_onward?)

/-- What a walk visits is the position where it is, and what it visits after the next move. -/
theorem Visits.cases_next {p : Position text} {ps : List (Position text)} (h : Visits p ps) :
    (∃ q qs, p.next? = some q ∧ Visits q qs ∧ ps = p :: qs) ∨ p.next? = none ∧ ps = [p] := by
  unfold next?
  cases h with
  | child down rest => exact .inl ⟨_, _, by rw [down], rest, rfl⟩
  | onward leaf climbs rest => exact .inl ⟨_, _, by rw [leaf]; exact climbs.eq.symm, rest, rfl⟩
  | last leaf climbs => exact .inr ⟨by rw [leaf]; exact climbs.eq.symm, rfl⟩

/-! ### What remains to be visited -/

mutual

/-- The positions in the tree of a node, which stands before some siblings and below some
ancestors. -/
def within : Node text → List (Node text) → List (Node text × List (Node text)) →
    List (Position text)
  | .mk kind field start stop isMissing hasFault children, later, above =>
    ⟨.mk kind field start stop isMissing hasFault children, later, above⟩ ::
      withinAll children ((.mk kind field start stop isMissing hasFault children, later) :: above)

/-- The positions in the trees of some siblings. -/
def withinAll : List (Node text) → List (Node text × List (Node text)) → List (Position text)
  | [], _ => []
  | n :: ns, above => within n ns above ++ withinAll ns above

end

theorem within_eq (n : Node text) (later : List (Node text))
    (above : List (Node text × List (Node text))) :
    within n later above = ⟨n, later, above⟩ :: withinAll n.children ((n, later) :: above) := by
  cases n
  rfl

/-- The positions to the right of some ancestors, the nearest first. -/
def beyond : List (Node text × List (Node text)) → List (Position text)
  | [] => []
  | (_, later) :: above => withinAll later above ++ beyond above

/-- The positions that a walk has to visit from a position on. -/
def remaining (p : Position text) : List (Position text) :=
  within p.node p.later p.above ++ withinAll p.later p.above ++ beyond p.above

theorem remaining_onward? (later : List (Node text))
    (above : List (Node text × List (Node text))) :
    ((onward? later above).map remaining).getD [] = withinAll later above ++ beyond above := by
  induction above generalizing later with
  | nil => cases later <;> simp [onward?, remaining, withinAll, beyond]
  | cons ancestor above ih =>
    cases later with
    | nil => simp [onward?, ih, withinAll, beyond]
    | cons n ns => simp [onward?, remaining, withinAll]

/-- A move takes the position that is visited off what remains. -/
theorem remaining_eq (p : Position text) :
    p.remaining = p :: (p.next?.map remaining).getD [] := by
  have tree := within_eq p.node p.later p.above
  unfold next? firstChild?
  split
  · next child moved =>
    split at moved
    · cases moved
    · next first others children =>
      cases moved
      simp [remaining, tree, children, withinAll, beyond]
  · next stuck =>
    split at stuck
    · next leaf => simp [remaining_onward?, remaining, tree, leaf, withinAll]
    · cases stuck

/-- A walk ends, and it visits what remains to be visited. -/
theorem visits_iff {p : Position text} {ps : List (Position text)} :
    Visits p ps ↔ ps = p.remaining := by
  -- the number of positions that remain goes down with each move
  induction size : p.remaining.length generalizing p ps with
  | zero => rw [remaining_eq] at size; cases size
  | succ size' ih =>
    rw [remaining_eq] at size ⊢
    cases next : p.next? with
    | none =>
      rw [Option.map_none, Option.getD_none]
      constructor
      · intro visits
        obtain ⟨q, qs, moved, -⟩ | ⟨-, only⟩ := visits.cases_next
        · rw [next] at moved
          cases moved
        · exact only
      · rintro rfl
        exact visits_of_end next
    | some q =>
      rw [next, Option.map_some, Option.getD_some, List.length_cons] at size
      rw [Option.map_some, Option.getD_some]
      constructor
      · intro visits
        obtain ⟨q', qs, moved, rest, rfl⟩ | ⟨stuck, -⟩ := visits.cases_next
        · obtain rfl : q' = q := Option.some.inj (moved.symm.trans next)
          rw [(ih (Nat.succ.inj size)).1 rest]
        · rw [next] at stuck
          cases stuck
      · rintro rfl
        exact visits_of_next next ((ih (Nat.succ.inj size)).2 rfl)

/-- With enough fuel the function is called on all nodes that remain. -/
theorem visitFrom_eq {σ : Type} (f : σ → Node text → σ) {fuel : Nat} {p : Position text}
    (h : p.remaining.length ≤ fuel) (s : σ) :
    visitFrom f fuel p s = p.remaining.foldl (fun s q => f s q.node) s := by
  induction fuel generalizing p s with
  | zero =>
    rw [remaining_eq] at h
    cases h
  | succ fuel ih =>
    rw [remaining_eq] at h ⊢
    unfold visitFrom
    split
    · next next moved =>
      simp only [moved, Option.map_some, Option.getD_some, List.length_cons] at h ⊢
      rw [ih (Nat.le_of_succ_le_succ h), List.foldl_cons]
    · next stuck => simp [stuck]

/-! ### The nodes of positions -/

mutual

theorem map_node_within : ∀ (n : Node text) (later : List (Node text))
    (above : List (Node text × List (Node text))),
    (within n later above).map node = n.preorder
  | .mk .., later, above => by rw [within, List.map_cons, map_node_withinAll, Node.preorder]

theorem map_node_withinAll : ∀ (ns : List (Node text))
    (above : List (Node text × List (Node text))),
    (withinAll ns above).map node = Node.preorderAll ns
  | [], _ => rfl
  | n :: ns, above => by
    rw [withinAll, List.map_append, map_node_within, map_node_withinAll, Node.preorderAll]

end

theorem remaining_atNode (n : Node text) : (atNode n).remaining = within n [] [] := by
  simp [remaining, atNode, withinAll, beyond]

end Position

namespace Node

mutual

theorem addSize_eq : ∀ (n : Node text) (k : Nat), n.addSize k = k + n.preorder.length
  | mk .., k => by
    rw [addSize, addSizes_eq, preorder, List.length_cons]
    omega

theorem addSizes_eq : ∀ (ns : List (Node text)) (k : Nat),
    addSizes ns k = k + (preorderAll ns).length
  | [], _ => rfl
  | n :: ns, k => by
    rw [addSizes, addSizes_eq, addSize_eq, preorderAll, List.length_append, Nat.add_assoc]

end

/-- The function is called on the nodes of a tree, each once and each before its children. -/
theorem visit_eq {σ : Type} (f : σ → Node text → Tag → σ) (n : Node text) (s : σ) :
    n.visit f s = n.preorder.foldl (fun s m => f s m m.tag) s := by
  have nodes := Position.map_node_within n [] []
  have fuel : (Position.atNode n).remaining.length = n.size := by
    rw [Position.remaining_atNode, size, addSize_eq, Nat.zero_add, ← nodes, List.length_map]
  rw [visit, Position.visitFrom_eq _ (Nat.le_of_eq fuel), Position.remaining_atNode, ← nodes,
    List.foldl_map]

/-- A walk visits the nodes of a tree, each once and each before its children. -/
theorem walk_eq_preorder (n : Node text) : n.walk = n.preorder := by
  rw [walk, visit_eq, List.foldl_flip_cons_eq_append, List.append_nil, List.reverse_reverse,
    List.map_id']

/-! ### Inner nodes -/

theorem preorder_subset_preorderAll {n : Node text} {ns : List (Node text)} (h : n ∈ ns) :
    n.preorder ⊆ preorderAll ns := by
  induction ns with
  | nil => cases h
  | cons first others ih =>
    rw [preorderAll]
    rcases List.mem_cons.1 h with rfl | later
    · exact List.subset_append_left _ _
    · exact List.subset_append_of_subset_right _ (ih later)

theorem self_mem_preorder (n : Node text) : n ∈ n.preorder := by
  rw [n.preorder_eq]
  exact List.mem_cons_self

theorem preorder_subset {n child : Node text} (h : child ∈ n.children) :
    child.preorder ⊆ n.preorder := by
  rw [n.preorder_eq]
  exact List.subset_cons_of_subset _ (preorder_subset_preorderAll h)

/-! ### Places in a tree -/

/-- The node at the end of a way, on which each child is given by its number. -/
def at? : Node text → List Nat → Option (Node text)
  | n, [] => some n
  | n, i :: way => n.children[i]?.bind (·.at? way)

theorem at?_append (n : Node text) (front back : List Nat) :
    n.at? (front ++ back) = (n.at? front).bind (·.at? back) := by
  induction front generalizing n with
  | nil => rfl
  | cons i front ih =>
    rw [List.cons_append, at?, at?, Option.bind_assoc]
    exact congrArg _ (funext ih)

mutual

/-- The nodes of a tree with the ways to them, each before its children. -/
def places : Node text → List (List Nat × Node text)
  | mk kind field start stop isMissing hasFault children =>
    ([], mk kind field start stop isMissing hasFault children) :: placesFrom 0 children

/-- The nodes of several trees, the first of which has a number. -/
def placesFrom : Nat → List (Node text) → List (List Nat × Node text)
  | _, [] => []
  | i, n :: ns => (n.places.map fun place => (i :: place.1, place.2)) ++ placesFrom (i + 1) ns

end

theorem places_eq (n : Node text) : n.places = ([], n) :: placesFrom 0 n.children := by
  cases n
  rfl

theorem mem_placesFrom {i : Nat} {ns : List (Node text)} {way : List Nat} {m : Node text} :
    (way, m) ∈ placesFrom i ns ↔
      ∃ j inner c, way = (i + j) :: inner ∧ ns[j]? = some c ∧ (inner, m) ∈ c.places := by
  induction ns generalizing i with
  | nil => simp [placesFrom]
  | cons n ns ih =>
    rw [placesFrom, List.mem_append, List.mem_map, ih]
    constructor
    · rintro (⟨⟨inner, m'⟩, inside, same⟩ | ⟨j, inner, c, rfl, found, inside⟩)
      · obtain ⟨rfl, rfl⟩ := Prod.mk.inj same
        exact ⟨0, inner, n, rfl, rfl, inside⟩
      · exact ⟨j + 1, inner, c, by rw [Nat.add_right_comm, Nat.add_assoc], found, inside⟩
    · rintro ⟨j, inner, c, rfl, found, inside⟩
      cases j with
      | zero =>
        obtain rfl := Option.some.inj found
        exact .inl ⟨(inner, m), inside, rfl⟩
      | succ j => exact .inr ⟨j, inner, c, by rw [Nat.add_right_comm, Nat.add_assoc], found, inside⟩

/-- The ways to the nodes of a tree are those that lead somewhere. -/
theorem mem_places {n m : Node text} {way : List Nat} :
    (way, m) ∈ n.places ↔ n.at? way = some m := by
  induction way generalizing n with
  | nil =>
    rw [places_eq, at?, List.mem_cons, mem_placesFrom]
    simp [eq_comm]
  | cons i way ih =>
    rw [places_eq, at?, List.mem_cons, mem_placesFrom, Option.bind_eq_some_iff]
    constructor
    · rintro (root | ⟨j, inner, c, same, found, inside⟩)
      · cases root
      · rw [Nat.zero_add] at same
        obtain ⟨rfl, rfl⟩ := List.cons.inj same
        exact ⟨c, found, ih.1 inside⟩
    · rintro ⟨c, found, ends⟩
      exact .inr ⟨i, way, c, by rw [Nat.zero_add], found, ih.2 ends⟩

theorem head_of_mem_placesFrom {i : Nat} {ns : List (Node text)} {place : List Nat × Node text}
    (h : place ∈ placesFrom i ns) : ∃ j inner, i ≤ j ∧ place.1 = j :: inner := by
  obtain ⟨j, inner, -, way, -⟩ := mem_placesFrom.1 h
  exact ⟨i + j, inner, Nat.le_add_right i j, way⟩

mutual

/-- The nodes of a tree stand in the order of the ways to them. -/
theorem pairwise_places : ∀ n : Node text, (n.places.map Prod.fst).Pairwise (· < ·)
  | mk kind field start stop isMissing hasFault children => by
    rw [places, List.map_cons, List.pairwise_cons]
    refine ⟨fun way hw => ?_, pairwise_placesFrom 0 children⟩
    obtain ⟨place, inside, rfl⟩ := List.mem_map.1 hw
    obtain ⟨j, inner, -, way⟩ := head_of_mem_placesFrom inside
    rw [way]
    exact List.nil_lt_cons j inner

theorem pairwise_placesFrom : ∀ (i : Nat) (ns : List (Node text)),
    ((placesFrom i ns).map Prod.fst).Pairwise (· < ·)
  | _, [] => .nil
  | i, n :: ns => by
    rw [placesFrom, List.map_append, List.map_map, List.pairwise_append]
    refine ⟨?_, pairwise_placesFrom (i + 1) ns, ?_⟩
    · have inner := (pairwise_places n).map (i :: ·) fun way way' (lt : way < way') =>
        List.cons_lt_cons_iff.2 (.inr ⟨rfl, lt⟩)
      rwa [List.map_map] at inner
    · intro way hw way' hw'
      obtain ⟨place, -, rfl⟩ := List.mem_map.1 hw
      obtain ⟨place', inside, rfl⟩ := List.mem_map.1 hw'
      obtain ⟨j, inner, le, same⟩ := head_of_mem_placesFrom inside
      rw [same]
      exact List.cons_lt_cons_iff.2 (.inl le)

end

end Node

namespace Position

/-- The way to a node that has siblings to its right and ancestors above it. -/
def wayTo (later : List (Node text)) : List (Node text × List (Node text)) → List Nat
  | [] => []
  | (n, upper) :: above => wayTo upper above ++ [n.children.length - (later.length + 1)]

/-- The way to a position from where the walk began. -/
def way (p : Position text) : List Nat := wayTo p.later p.above

/-- A position as a place in the tree where the walk began. -/
def place (p : Position text) : List Nat × Node text := (p.way, p.node)

mutual

/-- The positions in the tree of a node are the places there. -/
theorem map_place_within : ∀ (n : Node text) (later : List (Node text))
    (above : List (Node text × List (Node text))),
    (within n later above).map place =
      n.places.map fun inner => (wayTo later above ++ inner.1, inner.2)
  | .mk kind field start stop isMissing hasFault children, later, above => by
    rw [within, List.map_cons, Node.places, List.map_cons, List.append_nil]
    exact congrArg _ (map_place_withinAll children [] _ later above rfl)

theorem map_place_withinAll : ∀ (ns front : List (Node text)) (n : Node text)
    (later : List (Node text)) (above : List (Node text × List (Node text))),
    n.children = front ++ ns →
      (withinAll ns ((n, later) :: above)).map place =
        (Node.placesFrom front.length ns).map fun inner => (wayTo later above ++ inner.1, inner.2)
  | [], _, _, _, _, _ => rfl
  | c :: cs, front, n, later, above, children => by
    have number : n.children.length - (cs.length + 1) = front.length := by
      rw [children, List.length_append, List.length_cons, Nat.add_sub_cancel]
    have rest := map_place_withinAll cs (front ++ [c]) n later above (by simpa using children)
    rw [List.length_append, List.length_singleton] at rest
    rw [withinAll, List.map_append, map_place_within, Node.placesFrom, List.map_append, rest,
      List.map_map, wayTo, number]
    simp

end

end Position

namespace Node

/-- From a node in a tree a walk ends, after calls of the function on the nodes that stand at or
below its place and no others, each with its tag.  It meets them in the order of their places, each
once and each before its children. -/
theorem visit_preorder {root n : Node text} {way : List Nat} (inside : root.at? way = some n) :
    ∃ ps : List (Position text),
      (∀ qs, (Position.atNode n).Visits qs ↔ qs = ps) ∧
      (∀ (σ : Type) (f : σ → Node text → Tag → σ) (s : σ),
        n.visit f s = ps.foldl (fun s p => f s p.node p.node.tag) s) ∧
      (∀ way' m, (∃ p ∈ ps, way ++ p.way = way' ∧ p.node = m) ↔
        way <+: way' ∧ root.at? way' = some m) ∧
      (ps.map Position.way).Pairwise (· < ·) ∧
      ps.map Position.node = n.preorder := by
  have nodes := Position.map_node_within n [] []
  have places : (Position.within n [] []).map Position.place = n.places := by
    rw [Position.map_place_within]
    simp [Position.wayTo]
  refine ⟨Position.within n [] [], fun qs => ?_, fun σ f s => ?_, fun way' m => ?_, ?_, nodes⟩
  · rw [Position.visits_iff, Position.remaining_atNode]
  · rw [visit_eq, ← nodes, List.foldl_map]
  · constructor
    · rintro ⟨p, hp, rfl, rfl⟩
      have found : n.at? p.way = some p.node := by
        rw [← mem_places, ← places]
        exact List.mem_map_of_mem hp
      rw [at?_append, inside]
      exact ⟨List.prefix_append _ _, found⟩
    · rintro ⟨⟨inner, rfl⟩, found⟩
      rw [at?_append, inside, Option.bind_some, ← mem_places, ← places] at found
      obtain ⟨p, hp, same⟩ := List.mem_map.1 found
      obtain ⟨rfl, rfl⟩ := Prod.mk.inj same
      exact ⟨p, hp, rfl, rfl⟩
  · have ordered := pairwise_places n
    rwa [← places, List.map_map] at ordered

/-- A tree without a text. -/
def outline (kind : Symbol) (children : List (Node [])) : Node [] :=
  mk kind none (Cursor.atStart []) (Cursor.atStart []) false false children

/-- A definition with two calls, one inside the other. -/
def outlinedDefinition : Node [] :=
  outline Symbol.functionDefinition [outline Symbol.call [outline Symbol.call []]]

/-- The definition between two more calls, which are the same as the innermost one. -/
def outlinedBlock : Node [] :=
  outline Symbol.block [outline Symbol.call [], outlinedDefinition, outline Symbol.call []]

/-- Of four calls the two inside the definition are visited. -/
theorem visit_preorder_outlined : outlinedBlock.at? [1] = some outlinedDefinition ∧
    outlinedDefinition.visit (fun tags _ tag => tags ++ [tag]) [] =
      [.definition .functionDefinition, .call, .call] ∧
    ∃ ps : List (Position []), (∀ qs, (Position.atNode outlinedDefinition).Visits qs ↔ qs = ps) ∧
      ∀ way m, (∃ p ∈ ps, [1] ++ p.way = way ∧ p.node = m) ↔
        [1] <+: way ∧ outlinedBlock.at? way = some m := by
  have inside : outlinedBlock.at? [1] = some outlinedDefinition := rfl
  obtain ⟨ps, ends, -, places, -⟩ := visit_preorder inside
  exact ⟨inside, by decide, ps, ends, places⟩

end Node

end CallContext
