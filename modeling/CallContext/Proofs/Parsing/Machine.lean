import CallContext.Proofs.Parsing.Stack

/-!
# Steps of the machine keep the order

`Machine.Placed` says that the stacks of all versions stand where a chart says, that every paused
version waits before a token that follows its stack, and that the finished parse is in order.
Each step of the machine keeps this under a chart that has grown by the vertices that the step
pushed (`Machine.Grown`).

A step works on the version at one rank.  What it leaves of the others is said by the `spot?` of a
rank: the offset of the version there, and whether it is active.  A reduction leaves the versions
that were there at their spots and adds active ones that do not stand further right
(`Machine.reduce_adds`).
-/

namespace CallContext

open Subtree

variable {text : List Char} {c : Chart}

theorem Token.Follows.of_le {token : Token text} {high low : Nat} (h : token.Follows high)
    (hl : low ≤ high) : token.Follows low :=
  ⟨Nat.le_trans hl h.le_start, h.start_le_stop⟩

/-- A token that follows a place can be put there. -/
theorem Token.Follows.inOrder {token : Token text} {low : Nat} (h : token.Follows low)
    (extra : Bool) : InOrder low [Subtree.leaf token extra] token.stop.offset :=
  ⟨h.le_start, h.start_le_stop, Nat.le_refl _⟩

/-! ### Versions -/

namespace Version

/-- The stack stands where the chart says, and a version that waits does so before a token that
follows its stack. -/
structure Placed (c : Chart) (v : Version text) : Prop where
  stack : v.stack.Placed c
  paused : ∀ token, v.status = .paused token → token.Follows v.stack.place.offset

/-- Where a version stands, and whether it is active. -/
def spot (v : Version text) : Nat × Bool := (v.stack.place.offset, v.isActive)

namespace Placed

variable {v w : Version text}

theorem mono {d : Chart} (h : v.Placed c) (hcd : c ≤ d) : v.Placed d :=
  ⟨h.stack.mono hcd, h.paused⟩

theorem of_active (h : v.stack.Placed c) (ha : v.isActive = true) : v.Placed c := by
  refine ⟨h, fun token ht => ?_⟩
  rw [isActive, ht] at ha
  cases ha

theorem halt (h : v.Placed c) : v.halt.Placed c := ⟨h.stack, fun _ ht => by cases ht⟩

theorem pause (h : v.Placed c) {token : Token text} (ht : token.Follows v.stack.place.offset) :
    (v.pause token).Placed c :=
  ⟨h.stack, fun _ hs => by cases hs; exact ht⟩

theorem settle (h : v.Placed c) : v.settle.Placed c := ⟨h.stack, h.paused⟩

theorem fork {s : Stack text} (h : s.Placed c) (v : Version text) : (v.fork s).Placed c :=
  .of_active h rfl

theorem replace (h : w.Placed c) (v : Version text) : (v.replace w).Placed c := ⟨h.stack, h.paused⟩

/-- A subtree that follows the stack of an active version can be pushed, and on any version one
that does not take it further. -/
theorem push (h : v.Placed c) {tree : Option (Subtree text)} {high : Nat}
    (ht : InOrder v.stack.place.offset tree.toList high)
    (hs : v.isActive = true ∨ high ≤ v.stack.place.offset) (state : Nat) :
    (v.push c.bound state tree).Placed
      (c.add (v.stack.push c.bound state tree).place.offset) := by
  refine ⟨h.stack.push ht state, fun token paused => ?_⟩
  rcases hs with active | le
  · rw [isActive, show v.status = .paused token from paused] at active
    cases active
  · exact (h.paused token paused).of_le (Nat.le_trans (Stack.place_push_le ht _ _) le)

theorem merge (hv : v.Placed c) (hw : w.Placed c) (h : v.canMerge w = true) :
    (v.merge w).Placed c ∧ (v.merge w).spot = v.spot := by
  simp only [canMerge, Bool.and_eq_true, decide_eq_true_eq] at h
  have ⟨placed, place⟩ := hv.stack.join hw.stack h.1.1.2
  have active : (v.merge w).isActive = true := h.1.1.1.1.1
  refine ⟨.of_active placed active, Prod.ext ?_ rfl⟩
  exact congrArg Cursor.offset place

end Placed

end Version

theorem forall_mem_modify {α : Type} {P : α → Prop} {l : List α} {i : Nat} {f : α → α}
    (h : ∀ a ∈ l, P a) (hf : ∀ a, l[i]? = some a → P (f a)) : ∀ a ∈ l.modify i f, P a := by
  intro a ha
  obtain ⟨j, hj⟩ := List.mem_iff_getElem?.1 ha
  rw [List.getElem?_modify] at hj
  obtain ⟨b, hb, rfl⟩ := Option.map_eq_some_iff.1 hj
  split
  · next hij => exact hf b (hij ▸ hb)
  · exact h b (List.mem_of_getElem? hb)

/-! ### Machines -/

namespace Machine

variable {m m' : Machine text} {rank i : Nat}

/-- Everything that the machine holds is in order, and the chart lists its vertices. -/
structure Placed (c : Chart) (m : Machine text) : Prop where
  bound : c.bound = m.serial
  versions : ∀ v ∈ m.versions, v.Placed c
  finished : ∀ t ∈ m.finished, t.Ordered

/-- Everything is in order under a chart that extends `c`. -/
def Grown (c : Chart) (m : Machine text) : Prop := ∃ d, c ≤ d ∧ m.Placed d

/-- The spot of the version at a rank. -/
def spot? (m : Machine text) (rank : Nat) : Option (Nat × Bool) :=
  (m.version? rank).map Version.spot

theorem placed_initial (text : List Char) : (initial text).Placed ⟨1, fun _ => 0⟩ := by
  refine ⟨rfl, ?_, by simp [initial]⟩
  simp only [initial, List.mem_singleton, forall_eq]
  exact .of_active (Stack.placed_bottom text) rfl

theorem Placed.grown (h : m.Placed c) : m.Grown c := ⟨c, c.le_refl, h⟩

theorem Grown.of_le {d : Chart} (h : m.Grown d) (hcd : c ≤ d) : m.Grown c :=
  let ⟨e, hde, he⟩ := h
  ⟨e, Chart.le_trans hcd hde, he⟩

theorem Placed.version {v : Version text} (h : m.Placed c) (hv : m.version? rank = some v) :
    v.Placed c :=
  h.versions v (List.mem_of_getElem? hv)

theorem spot?_eq_some {v : Version text} (hv : m.version? rank = some v) :
    m.spot? rank = some v.spot := by
  rw [spot?, hv]
  rfl

theorem spot?_of_active {v : Version text} (hv : m.version? rank = some v)
    (active : v.isActive = true) : m.spot? rank = some (v.stack.place.offset, true) := by
  rw [spot?_eq_some hv, Version.spot, active]

theorem exists_of_spot? {p : Nat} {active : Bool} (h : m.spot? rank = some (p, active)) :
    ∃ v, m.version? rank = some v ∧ v.stack.place.offset = p ∧ v.isActive = active := by
  obtain ⟨v, hv, hs⟩ := Option.map_eq_some_iff.1 h
  exact ⟨v, hv, congrArg Prod.fst hs, congrArg Prod.snd hs⟩

theorem exists_spot? (h : rank < m.versions.length) :
    ∃ p active, m.spot? rank = some (p, active) :=
  ⟨_, _, spot?_eq_some (List.getElem?_eq_getElem h)⟩

theorem lt_length_of_spot? {s : Nat × Bool} (h : m.spot? rank = some s) :
    rank < m.versions.length := by
  obtain ⟨v, hv, -⟩ := Option.map_eq_some_iff.1 h
  exact (List.getElem?_eq_some_iff.1 hv).1

/-! ### Changing and removing versions -/

theorem Placed.change (h : m.Placed c) {f : Version text → Version text}
    (hf : ∀ v, m.version? rank = some v → (f v).Placed c) : (m.change rank f).Placed c :=
  ⟨h.bound, forall_mem_modify h.versions hf, h.finished⟩

theorem Placed.halt (h : m.Placed c) (rank : Nat) : (m.change rank Version.halt).Placed c :=
  h.change fun _ hv => (h.version hv).halt

theorem version?_change (m : Machine text) (rank i : Nat) (f : Version text → Version text) :
    (m.change rank f).version? i =
      (m.version? i).map fun v => if rank = i then f v else v :=
  List.getElem?_modify ..

theorem spot?_change_self (m : Machine text) (rank : Nat) (f : Version text → Version text) :
    (m.change rank f).spot? rank = (m.version? rank).map fun v => (f v).spot := by
  simp [spot?, version?_change, Function.comp_def]

theorem spot?_change_of_ne (m : Machine text) (f : Version text → Version text) (h : rank ≠ i) :
    (m.change rank f).spot? i = m.spot? i := by
  simp [spot?, version?_change, h]

/-- A change that leaves the version at its spot leaves all spots. -/
theorem spot?_change {f : Version text → Version text}
    (hf : ∀ v, m.version? rank = some v → (f v).spot = v.spot) (i : Nat) :
    (m.change rank f).spot? i = m.spot? i := by
  by_cases h : rank = i
  · subst h
    rw [spot?_change_self, spot?]
    exact Option.map_congr hf
  · exact spot?_change_of_ne m f h

theorem Placed.remove (h : m.Placed c) (rank : Nat) : (m.remove rank).Placed c :=
  ⟨h.bound, fun v hv => h.versions v (List.mem_of_mem_eraseIdx hv), h.finished⟩

theorem spot?_remove_of_lt (m : Machine text) (h : i < rank) :
    (m.remove rank).spot? i = m.spot? i := by
  simp only [spot?, version?, remove, List.getElem?_eraseIdx_of_lt h]

/-! ### Pushing -/

theorem Placed.push (h : m.Placed c) {tree : Option (Subtree text)}
    (ht : ∀ v, m.version? rank = some v → ∃ high, InOrder v.stack.place.offset tree.toList high ∧
      (v.isActive = true ∨ high ≤ v.stack.place.offset)) (state : Nat) :
    (m.push rank tree state).Grown c := by
  -- where the new vertex stands; without a version nothing is pushed
  let offset := (m.version? rank).elim 0 fun v =>
    (v.stack.push m.serial state tree).place.offset
  refine ⟨c.add offset, c.le_add _, congrArg (· + 1) h.bound, ?_, h.finished⟩
  refine forall_mem_modify (fun v hv => (h.versions v hv).mono (c.le_add _)) fun v hv => ?_
  obtain ⟨high, inOrder, side⟩ := ht v hv
  have offset_eq : offset = (v.stack.push c.bound state tree).place.offset := by
    simp only [offset, version?, hv, h.bound, Option.elim_some]
  rw [offset_eq, ← h.bound]
  exact (h.version hv).push inOrder side state

theorem spot?_push_of_ne (m : Machine text) (tree : Option (Subtree text)) (state : Nat)
    (h : rank ≠ i) : (m.push rank tree state).spot? i = m.spot? i :=
  spot?_change_of_ne m _ h

theorem spot?_push_self (m : Machine text) (rank : Nat) (tree : Option (Subtree text))
    (state : Nat) : (m.push rank tree state).spot? rank =
      (m.version? rank).map fun v =>
        ((v.stack.push m.serial state tree).place.offset, v.isActive) :=
  spot?_change_self m rank _

/-! ### Promoting and merging -/

theorem Placed.promote (h : m.Placed c) (source target : Nat) :
    (m.promote source target).Placed c := by
  unfold Machine.promote
  split
  · next new hn =>
    split
    · exact h
    · exact (h.change fun v _ => (h.version hn).replace v).remove source
  · exact h

/-- A version that is promoted takes the spot of the one that it replaces. -/
theorem spot?_promote_self {source target : Nat} (h : target < source)
    (hs : source < m.versions.length) :
    (m.promote source target).spot? target = m.spot? source := by
  have hv : m.version? source = some m.versions[source] := List.getElem?_eq_getElem hs
  have ht : m.version? target = some m.versions[target] := List.getElem?_eq_getElem (by omega)
  simp only [promote, hv, Nat.ne_of_gt h, if_false]
  rw [spot?_remove_of_lt _ h, spot?_change_self, ht, spot?_eq_some hv]
  rfl

theorem spot?_promote_of_lt {source target : Nat} (h : i < source) (hi : i ≠ target) :
    (m.promote source target).spot? i = m.spot? i := by
  unfold promote
  split
  · split
    · rfl
    · rw [spot?_remove_of_lt _ h, spot?_change_of_ne _ _ hi.symm]
  · rfl

/-- The version at a rank has been merged into another. -/
structure Merges (source : Nat) (m m' : Machine text) : Prop where
  spot : ∀ i, i < source → m'.spot? i = m.spot? i
  length : m'.versions.length + 1 = m.versions.length

theorem Placed.merge? (h : m.Placed c) {target source : Nat}
    (hm : m.merge? target source = some m') : m'.Placed c ∧ m.Merges source m' := by
  unfold Machine.merge? at hm
  split at hm
  · next v w hv hw =>
    split at hm
    · next can =>
      cases hm
      have merged := (h.version hv).merge (h.version hw) can
      have placed : (m.change target (·.merge w)).Placed c := by
        refine h.change fun u hu => ?_
        obtain rfl := Option.some.inj (hu.symm.trans hv)
        exact merged.1
      have spot (i : Nat) : (m.change target (·.merge w)).spot? i = m.spot? i := by
        refine spot?_change (fun u hu => ?_) i
        obtain rfl := Option.some.inj (hu.symm.trans hv)
        exact merged.2
      refine ⟨placed.remove source, fun i hi => (spot?_remove_of_lt _ hi).trans (spot i), ?_⟩
      have inside : source < m.versions.length := (List.getElem?_eq_some_iff.1 hw).1
      simp only [Machine.remove, Machine.change, List.length_eraseIdx, List.length_modify, inside,
        if_true]
      omega
    · cases hm
  · cases hm

theorem Placed.mergeAmong? (h : m.Placed c) {source low count : Nat}
    (hm : m.mergeAmong? source low count = some m') : m'.Placed c ∧ m.Merges source m' := by
  induction count generalizing low with
  | zero => cases hm
  | succ count ih =>
    unfold Machine.mergeAmong? at hm
    split at hm
    · next found =>
      cases hm
      exact h.merge? found
    · exact ih hm

/-! ### Adding versions -/

/-- Active versions have been added that do not stand behind an offset, and the others have stayed
at their spots. -/
structure Adds (high : Nat) (m m' : Machine text) : Prop where
  old : ∀ i, i < m.versions.length → m'.spot? i = m.spot? i
  new : ∀ i s, m.versions.length ≤ i → m'.spot? i = some s → s.1 ≤ high ∧ s.2 = true
  le : m.versions.length ≤ m'.versions.length

namespace Adds

variable {high : Nat}

theorem refl (high : Nat) (m : Machine text) : m.Adds high m where
  old _ _ := rfl
  new _ _ hi hs := absurd (lt_length_of_spot? hs) (Nat.not_lt.2 hi)
  le := Nat.le_refl _

theorem trans {m'' : Machine text} (h : m.Adds high m') (k : m'.Adds high m'') :
    m.Adds high m'' where
  old i hi := (k.old i (Nat.lt_of_lt_of_le hi h.le)).trans (h.old i hi)
  new i s hi hs := by
    by_cases hi' : i < m'.versions.length
    · exact h.new i s hi ((k.old i hi').symm.trans hs)
    · exact k.new i s (Nat.not_lt.1 hi') hs
  le := Nat.le_trans h.le k.le

end Adds

theorem Placed.append (h : m.Placed c) {new : Version text} (hn : new.Placed c) :
    { m with versions := m.versions ++ [new] }.Placed c := by
  refine ⟨h.bound, fun v hv => ?_, h.finished⟩
  rcases List.mem_append.1 hv with hv | hv
  · exact h.versions v hv
  · exact List.mem_singleton.1 hv ▸ hn

theorem spot?_append_of_lt (new : Version text) (hi : i < m.versions.length) :
    { m with versions := m.versions ++ [new] }.spot? i = m.spot? i := by
  simp only [spot?, version?, List.getElem?_append_left hi]

theorem adds_append (m : Machine text) {new : Version text} (active : new.isActive = true)
    {high : Nat} (hh : new.stack.place.offset ≤ high) :
    m.Adds high { m with versions := m.versions ++ [new] } := by
  refine ⟨fun i hi => spot?_append_of_lt new hi, fun i s hi hs => ?_, ?_⟩
  · have inside := lt_length_of_spot? hs
    simp only [List.length_append, List.length_singleton] at inside
    obtain rfl : i = m.versions.length := by omega
    simp only [spot?, version?, List.getElem?_concat_length, Option.map_some,
      Option.some.injEq] at hs
    subst hs
    exact ⟨hh, active⟩
  · simp only [List.length_append, Nat.le_add_right]

theorem Placed.addVersion (h : m.Placed c) {new : Version text} (hn : new.Placed c)
    (active : new.isActive = true) {high : Nat} (hh : new.stack.place.offset ≤ high)
    (apart : Nat) : (m.addVersion apart new).Placed c ∧ m.Adds high (m.addVersion apart new) := by
  have placed := h.append hn
  have adds := m.adds_append active hh
  -- a version that is merged into another at once adds nothing
  have merged {m' : Machine text}
      (hm : Merges m.versions.length { m with versions := m.versions ++ [new] } m') :
      m.Adds high m' := by
    have same : m'.versions.length = m.versions.length :=
      Nat.succ.inj (hm.length.trans List.length_append)
    refine ⟨fun i hi => (hm.spot i hi).trans (adds.old i hi), fun i s hi hs => ?_,
      Nat.le_of_eq same.symm⟩
    exact absurd (lt_length_of_spot? hs) (by omega)
  unfold Machine.addVersion
  dsimp only
  split
  · next hm =>
    have ⟨placed, merges⟩ := placed.mergeAmong? hm
    exact ⟨placed, merged merges⟩
  · split
    · next hm =>
      have ⟨placed, merges⟩ := placed.mergeAmong? hm
      exact ⟨placed, merged merges⟩
    · exact ⟨placed, adds⟩

/-! ### Reducing -/

/-- Subtrees that follow the stack of an active version can be pushed one after the other. -/
theorem placed_pushOnto {v : Version text} (h : v.Placed c) (active : v.isActive = true)
    {trees : List (Subtree text)} {high : Nat} (ht : InOrder v.stack.place.offset trees high)
    (state : Nat) :
    ∃ d, c ≤ d ∧ d.bound = (pushOnto v c.bound state trees).2 ∧
      (pushOnto v c.bound state trees).1.Placed d ∧
      (pushOnto v c.bound state trees).1.isActive = true ∧
      (pushOnto v c.bound state trees).1.stack.place.offset ≤ high := by
  induction trees generalizing v c with
  | nil => exact ⟨c, c.le_refl, rfl, h, active, ht⟩
  | cons t ts ih =>
    have single : InOrder v.stack.place.offset (some t).toList t.stop.offset :=
      ⟨ht.1, ht.2.1, Nat.le_refl _⟩
    have pushed := h.push single (.inl active) state
    obtain ⟨d, hd, rest⟩ := ih pushed active ht.2.2
    exact ⟨d, Chart.le_trans (c.le_add _) hd, rest⟩

/-- The same on a copy of a version that stands on another stack, for the numbers that a machine
gives out. -/
theorem Placed.pushOnto_fork (h : m.Placed c) {base : Stack text} (hb : base.Placed c)
    (v : Version text) {trees : List (Subtree text)} {high : Nat}
    (ht : InOrder base.place.offset trees high) (state : Nat) :
    ∃ d, c ≤ d ∧ { m with serial := (pushOnto (v.fork base) m.serial state trees).2 }.Placed d ∧
      (pushOnto (v.fork base) m.serial state trees).1.Placed d ∧
      (pushOnto (v.fork base) m.serial state trees).1.isActive = true ∧
      (pushOnto (v.fork base) m.serial state trees).1.stack.place.offset ≤ high := by
  obtain ⟨d, hcd, bound, placed, active, le⟩ := placed_pushOnto (.fork hb v) rfl ht state
  rw [h.bound] at bound placed active le
  exact ⟨d, hcd, ⟨bound, fun v hv => (h.versions v hv).mono hcd, h.finished⟩, placed, active, le⟩

theorem Placed.addReduced (h : m.Placed c) {slice : Stack.Slice text} {high : Nat}
    (hs : slice.Fits c high) (rank : Nat) (v : Version text) (r : Reduction) :
    (addReduced rank v r m slice).Grown c ∧ m.Adds high (addReduced rank v r m slice) := by
  unfold Machine.addReduced
  split
  · exact ⟨h.grown, .refl high m⟩
  · next run runs hr =>
    split
    · exact ⟨h.grown, .refl high m⟩
    · have inOrder : ∀ run ∈ slice.runs, InOrder slice.base.place.offset run high := hs.inOrder
      rw [hr] at inOrder
      have ⟨first, rest⟩ := List.forall_mem_cons.1 inOrder
      have trees := inOrder_bestSubtree r first rest
      obtain ⟨d, hcd, grown, placed, active, le⟩ :=
        h.pushOnto_fork hs.placed v trees (Automaton.next slice.base.state r.result)
      have ⟨placed', adds⟩ := grown.addVersion placed active le rank
      exact ⟨⟨d, hcd, placed'⟩, ⟨adds.old, adds.new, adds.le⟩⟩

/-- A reduction adds versions that do not stand behind the one that it reduces. -/
theorem Placed.reduce (h : m.Placed c) {p : Nat} {active : Bool}
    (hs : m.spot? rank = some (p, active)) (r : Reduction) :
    (m.reduce rank r).Grown c ∧ m.Adds p (m.reduce rank r) := by
  obtain ⟨v, hv, rfl, -⟩ := exists_of_spot? hs
  have slices := (h.version hv).stack.fits_pop m.fuel r.arity
  unfold Machine.reduce
  rw [hv]
  let Reduced (m' : Machine text) : Prop := m'.Grown c ∧ m.Adds v.stack.place.offset m'
  refine List.foldlRecOn _ _ (motive := Reduced) ⟨h.grown, .refl _ m⟩ fun m' hm slice hs => ?_
  obtain ⟨⟨d, hcd, hm'⟩, adds⟩ := hm
  have ⟨grown, adds'⟩ := hm'.addReduced ((slices slice hs).mono hcd) rank v r
  exact ⟨grown.of_le hcd, adds.trans adds'⟩

/-! ### Accepting and shifting -/

theorem Placed.finish (h : m.Placed c) {trees : List (Subtree text)} {low high : Nat}
    (ht : InOrder low trees high) : (m.finish trees).Placed c := by
  have root (t : Subtree text) (hr : root? trees = some t) : t.Ordered := ordered_of_root? ht hr
  unfold Machine.finish
  dsimp only
  split
  · next new _ hn =>
    split
    · exact ⟨h.bound, h.versions, fun t ht => root t (hn.trans ht)⟩
    · exact ⟨h.bound, h.versions, h.finished⟩
  · exact ⟨h.bound, h.versions, root⟩
  · exact ⟨h.bound, h.versions, h.finished⟩

/-- The version at a rank is active, and the token follows its stack. -/
def Meets (m : Machine text) (rank : Nat) (token : Token text) : Prop :=
  ∃ p, m.spot? rank = some (p, true) ∧ token.Follows p

theorem Meets.version {token : Token text} (h : m.Meets rank token) {v : Version text}
    (hv : m.version? rank = some v) :
    v.isActive = true ∧ token.Follows v.stack.place.offset := by
  obtain ⟨p, hp, follows⟩ := h
  obtain ⟨w, hw, rfl, active⟩ := exists_of_spot? hp
  obtain rfl := Option.some.inj (hv.symm.trans hw)
  exact ⟨active, follows⟩

/-- A token that the version at a rank meets can be put on its stack. -/
theorem Placed.pushToken (h : m.Placed c) {token : Token text} (hm : m.Meets rank token)
    (extra : Bool) (state : Nat) : (m.push rank (some (.leaf token extra)) state).Grown c := by
  refine h.push (fun v hv => ?_) state
  have ⟨active, follows⟩ := hm.version hv
  exact ⟨token.stop.offset, follows.inOrder extra, .inl active⟩

theorem Placed.accept (h : m.Placed c) {token : Token text} (hm : m.Meets rank token) :
    (m.accept rank token).Grown c := by
  obtain ⟨d, hcd, placed⟩ := h.pushToken hm true 1
  unfold Machine.accept
  dsimp only
  split
  · next v hv =>
    have slices := (placed.version hv).stack.fits_popAll
    refine ⟨d, hcd, Placed.halt ?_ rank⟩
    refine List.foldlRecOn _ _ (motive := Placed d) placed fun m' hm' run hr => ?_
    obtain ⟨slice, hs, hr⟩ := List.mem_flatMap.1 hr
    exact hm'.finish ((slices _ slice hs).inOrder run hr)
  · exact ⟨d, hcd, placed⟩

theorem Placed.shift (h : m.Placed c) {token : Token text} (hm : m.Meets rank token)
    (state : Nat) (extra : Bool) : (m.shift rank state token extra).Grown c := by
  obtain ⟨d, hcd, placed⟩ := h.pushToken hm extra state
  refine ⟨d, hcd, placed.change fun v hv => ?_⟩
  have := placed.version hv
  exact ⟨this.stack, this.paused⟩

end Machine

end CallContext
