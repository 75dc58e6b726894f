import CallContext.Proofs.Grammar.Levels
import CallContext.Proofs.Parsing.LawfulRun

/-!
# The numbers of steps suffice

The loops of the machine are given numbers of steps, which must not have an influence on the result.

* Climbing down a stack ends at its bottom, and no stack is as high as there are vertices
  (`Machine.Placed.pop_eq`, `Machine.Placed.popAll_eq`, `Machine.Placed.summary_eq`).
* Before a token each reduction leaves less `Stack.room`: it makes the stack lower, or it leads to a
  higher level.  So the version is past the token before its steps are used up
  (`Machine.Lawful.pass_eq`).
* Reducing a version in all ways merges or goes on to another version in each round but the first
  few, and there are only so many versions (`Machine.reduceFully_eq`).
* Loops over tokens, versions and rounds say when their steps are used up, and give the same result
  for all larger numbers of steps (`Machine.run_of_parse?`).
-/

namespace CallContext

open Subtree

variable {text : List Char} {c d : Chart}

namespace Stack

/-! ### Room for reductions -/

/-- A link counts unless it holds an extra, as its symbol says. -/
def bulk : Option (Subtree text) → Nat
  | none => 1
  | some t => if t.symbol.isLoose then 0 else 1

theorem bulk_le_single (tree : Option (Subtree text)) : bulk tree ≤ single tree := by
  unfold bulk single
  split
  · exact Nat.le_refl 1
  · split <;> decide

theorem bulk_eq {a b : Option (Subtree text)} (h : interchangeable a b = true) :
    bulk a = bulk b := by
  cases a <;> cases b
  · rfl
  · cases h
  · cases h
  · simp only [interchangeable, Subtree.interchangeable, Bool.and_eq_true, decide_eq_true_eq] at h
    rw [bulk, bulk, h.1]

/-- How many reductions a stack has room for: five for each link, and fewer on a higher level. -/
def room (s : Stack text) : Nat := 5 * s.height bulk + 7 - Automaton.level s.state

theorem room_le (s : Stack text) : s.room ≤ 5 * s.height single + 7 := by
  have lower : s.height bulk ≤ s.height single := height_mono bulk_le_single s
  unfold room
  omega

theorem state_addLink (target : Stack text) (tree : Option (Subtree text)) (top : Stack text) :
    (addLink target tree top).state = top.state := by
  cases target
  exact (insertLink_eq ..).2.1

theorem state_join (s t : Stack text) : (s.join t).state = s.state := by
  unfold join
  generalize t.links = links
  induction links generalizing s with
  | nil => rfl
  | cons l links ih => exact (ih _).trans (state_addLink l.1 l.2 s)

theorem room_join_le {s t : Stack text} (h : s.state = t.state) :
    (s.join t).room ≤ max s.room t.room := by
  have height : (s.join t).height bulk ≤ max (s.height bulk) (t.height bulk) :=
    height_join_le (fun _ _ => bulk_eq) s t
  unfold room
  rw [state_join, ← h]
  omega

theorem base_of_mem_addRun {base : Stack text} {run : List (Subtree text)}
    {slices : List (Slice text)} {s : Slice text} (hs : s ∈ addRun base run slices) :
    s.base = base ∨ ∃ s' ∈ slices, s.base = s'.base := by
  induction slices with
  | nil => exact .inl (congrArg Slice.base (List.mem_singleton.1 hs))
  | cons first more ih =>
    unfold addRun at hs
    split at hs
    · rcases List.mem_cons.1 hs with rfl | hs
      · exact .inr ⟨first, List.mem_cons_self, rfl⟩
      · exact .inr ⟨s, List.mem_cons_of_mem _ hs, rfl⟩
    · rcases List.mem_cons.1 hs with rfl | hs
      · exact .inr ⟨s, List.mem_cons_self, rfl⟩
      · rcases ih hs with same | ⟨s', hs', same⟩
        · exact .inl same
        · exact .inr ⟨s', List.mem_cons_of_mem _ hs', same⟩

/-- What a reduction takes off counts, since the automaton takes no step over extras. -/
theorem Climb.Lawful.bulk_link {after : Nat} {climb : Climb text} (h : climb.Lawful d after)
    (hn : after ≠ 0) {below : Stack text} {t : Subtree text}
    (hl : (below, some t) ∈ climb.stack.links) (solid : t.isExtra = false) :
    bulk (some t) = 1 := by
  have law : t.Law below.state climb.stack.state := h.stack.law_link hl
  obtain ⟨noComment, noContinuation⟩ := (law.step solid (h.walk hn).before_ne).symbol_ne
  have noError : t.symbol ≠ Symbol.error := fun error => by
    rw [(law.error error).1] at solid
    cases solid
  have tight : t.symbol.isLoose = false := by
    simp [Symbol.isLoose, noComment, noContinuation, noError]
  rw [bulk, tight]
  rfl

theorem Lawful.height_pop_le {top : Stack text} (h : top.Lawful d) (hn : top.state ≠ 0)
    (fuel count : Nat) :
    ∀ s ∈ top.pop fuel count, s.base.height bulk + count ≤ top.height bulk := by
  let Lower (climb : Climb text) : Prop := climb.Lawful d top.state ∧
    climb.stack.height bulk + climb.depth ≤ top.height bulk
  refine forall_mem_descend (P := Lower) ?_ ?_ (by simp) ?_
  · rintro - climb ⟨below, tree⟩ ⟨lawful, low⟩ - hl
    refine ⟨lawful.follow hl, ?_⟩
    have link : below.height bulk + bulk tree ≤ climb.stack.height bulk := height_link hl
    cases tree with
    | none =>
      change below.height bulk + (climb.depth + 1) ≤ _
      have : bulk (none : Option (Subtree text)) = 1 := rfl
      omega
    | some t =>
      change below.height bulk + (if t.isExtra then climb.depth else climb.depth + 1) ≤ _
      cases extra : t.isExtra with
      | true =>
        rw [if_pos rfl]
        omega
      | false =>
        have counts := lawful.bulk_link hn hl extra
        rw [if_neg (by simp)]
        omega
  · rintro - climb slices ⟨-, low⟩ taken hs s hs'
    have full : climb.depth = count := by simpa using taken
    rcases base_of_mem_addRun hs' with base | ⟨s', member, base⟩
    · rwa [base, ← full]
    · rw [base]
      exact hs s' member
  · simp only [List.mem_singleton, forall_eq]
    exact ⟨h.climb, Nat.le_refl _⟩

end Stack

namespace Machine

variable {m m' : Machine text} {rank : Nat} {token : Token text}

/-! ### Climbing down -/

theorem Placed.height_lt (h : m.Placed c) {v : Version text} (hv : m.version? rank = some v) :
    v.stack.height Stack.single < m.serial :=
  h.bound ▸ (h.version hv).stack.low

section Climbing

variable (h : m.Placed c) {v : Version text} (hv : m.version? rank = some v) {fuel : Nat}
  (hf : m.fuel ≤ fuel)

include h hv hf

theorem Placed.pop_eq (count : Nat) : v.stack.pop fuel count = v.stack.pop m.fuel count := by
  obtain ⟨more, rfl⟩ := Nat.exists_eq_add_of_le hf
  exact Stack.pop_add (Nat.lt_add_right 2 (h.height_lt hv)) more count

theorem Placed.popAll_eq : v.stack.popAll fuel = v.stack.popAll m.fuel := by
  obtain ⟨more, rfl⟩ := Nat.exists_eq_add_of_le hf
  exact Stack.popAll_add (Nat.lt_add_right 2 (h.height_lt hv)) more

theorem Placed.summary_eq : v.stack.summary fuel = v.stack.summary m.fuel := by
  obtain ⟨more, rfl⟩ := Nat.exists_eq_add_of_le hf
  exact Stack.summary_add (Nat.lt_add_right 2 (h.height_lt hv)) more

end Climbing

/-! ### Numbers of versions -/

theorem length_merge? {target source : Nat} (hm : m.merge? target source = some m') :
    m'.versions.length + 1 = m.versions.length := by
  unfold merge? at hm
  split at hm
  · next hw =>
    split at hm
    · cases hm
      have inside : source < m.versions.length := (List.getElem?_eq_some_iff.1 hw).1
      simp only [remove, change, List.length_eraseIdx, List.length_modify, inside, if_true]
      omega
    · cases hm
  · cases hm

theorem length_mergeAmong? {source low count : Nat}
    (hm : m.mergeAmong? source low count = some m') :
    m'.versions.length + 1 = m.versions.length := by
  induction count generalizing low with
  | zero => cases hm
  | succ count ih =>
    unfold mergeAmong? at hm
    split at hm
    · next found =>
      cases hm
      exact length_merge? found
    · exact ih hm

theorem length_addVersion (m : Machine text) (apart : Nat) (new : Version text) :
    m.versions.length ≤ (m.addVersion apart new).versions.length ∧
      (m.addVersion apart new).versions.length ≤ m.versions.length + 1 := by
  unfold addVersion
  dsimp only
  split
  · next hm =>
    have length := length_mergeAmong? hm
    simp only [List.length_append, List.length_singleton] at length
    omega
  · split
    · next hm =>
      have length := length_mergeAmong? hm
      simp only [List.length_append, List.length_singleton] at length
      omega
    · simp

/-- A reduction adds versions up to the limit only. -/
theorem length_addReduced (rank : Nat) (v : Version text) (r : Reduction) (m : Machine text)
    (slice : Stack.Slice text) :
    m.versions.length ≤ (addReduced rank v r m slice).versions.length ∧
      (addReduced rank v r m slice).versions.length ≤
        max m.versions.length (maxVersions + maxOverflow + 1) := by
  unfold addReduced
  split
  · exact ⟨Nat.le_refl _, Nat.le_max_left _ _⟩
  · next run runs _ =>
    split
    · exact ⟨Nat.le_refl _, Nat.le_max_left _ _⟩
    · next few =>
      dsimp only
      generalize bestSubtree r slice.base.place run runs = best
      generalize pushOnto (v.fork slice.base) m.serial
        (Automaton.next slice.base.state r.result) (best.1 :: best.2) = pushed
      have length := length_addVersion { m with serial := pushed.2 } rank pushed.1
      dsimp only at length
      exact ⟨length.1, by omega⟩

theorem length_reduce (m : Machine text) (rank : Nat) (r : Reduction) :
    m.versions.length ≤ (m.reduce rank r).versions.length ∧
      (m.reduce rank r).versions.length ≤
        max m.versions.length (maxVersions + maxOverflow + 1) := by
  unfold reduce
  split
  · next v _ =>
    let Few (m' : Machine text) : Prop := m.versions.length ≤ m'.versions.length ∧
      m'.versions.length ≤ max m.versions.length (maxVersions + maxOverflow + 1)
    refine List.foldlRecOn _ _ (motive := Few) ⟨Nat.le_refl _, Nat.le_max_left _ _⟩ ?_
    intro m' few slice _
    have length := length_addReduced rank v r m' slice
    exact ⟨Nat.le_trans few.1 length.1, Nat.le_trans length.2 (by omega)⟩
  · exact ⟨Nat.le_refl _, Nat.le_max_left _ _⟩

/-! ### Reductions before a token -/

/-- The versions from rank `low` on have room for fewer reductions than `room`. -/
def Lowers (low room : Nat) (m : Machine text) : Prop :=
  ∀ i w, low ≤ i → m.version? i = some w → w.stack.room < room

namespace Lowers

variable {low room : Nat}

theorem merge? (h : m.Lowers low room) {target source : Nat} (hs : low ≤ source)
    (hm : m.merge? target source = some m') : m'.Lowers low room := by
  unfold Machine.merge? at hm
  split at hm
  · next v w hv hw =>
    split at hm
    · next can =>
      cases hm
      simp only [Version.canMerge, Bool.and_eq_true, decide_eq_true_eq] at can
      have changed (i : Nat) (x : Version text) (hi : low ≤ i)
          (hx : (m.change target (·.merge w)).version? i = some x) : x.stack.room < room := by
        rw [version?_change] at hx
        obtain ⟨y, hy, rfl⟩ := Option.map_eq_some_iff.1 hx
        split
        · next same =>
          subst same
          obtain rfl := Option.some.inj (hy.symm.trans hv)
          exact Nat.lt_of_le_of_lt (Stack.room_join_le can.1.1.1.2)
            (Nat.max_lt.2 ⟨h _ _ hi hv, h _ _ hs hw⟩)
        · exact h i y hi hy
      intro i x hi hx
      rw [version?, remove, List.getElem?_eraseIdx] at hx
      split at hx
      · exact changed i x hi hx
      · exact changed (i + 1) x (Nat.le_succ_of_le hi) hx
    · cases hm
  · cases hm

theorem mergeAmong? (h : m.Lowers low room) {source first count : Nat} (hs : low ≤ source)
    (hm : m.mergeAmong? source first count = some m') : m'.Lowers low room := by
  induction count generalizing first with
  | zero => cases hm
  | succ count ih =>
    unfold Machine.mergeAmong? at hm
    split at hm
    · next found =>
      cases hm
      exact h.merge? hs found
    · exact ih hm

theorem addVersion (h : m.Lowers low room) (hl : low ≤ m.versions.length) {new : Version text}
    (hn : new.stack.room < room) (apart : Nat) : (m.addVersion apart new).Lowers low room := by
  have added : Lowers low room { m with versions := m.versions ++ [new] } := by
    intro i w hi hw
    rw [version?, List.getElem?_append] at hw
    split at hw
    · exact h i w hi hw
    · obtain rfl := List.mem_singleton.1 (List.mem_of_getElem? hw)
      exact hn
  unfold Machine.addVersion
  dsimp only
  split
  · next hm => exact added.mergeAmong? hl hm
  · split
    · next hm => exact added.mergeAmong? hl hm
    · exact added

end Lowers

theorem pushOnto_extras (v : Version text) (serial : Nat) {state : Nat}
    (hs : v.stack.state = state) {trees : List (Subtree text)}
    (loose : ∀ t ∈ trees, t.symbol.isLoose = true) :
    (pushOnto v serial state trees).1.stack.state = state ∧
      (pushOnto v serial state trees).1.stack.height Stack.bulk = v.stack.height Stack.bulk := by
  induction trees generalizing v serial with
  | nil => exact ⟨hs, rfl⟩
  | cons t ts ih =>
    obtain ⟨first, rest⟩ := List.forall_mem_cons.1 loose
    obtain ⟨pushed, height⟩ := ih (v.push serial state (some t)) (serial + 1) rfl rest
    have nothing : Stack.bulk (some t) = 0 := if_pos first
    refine ⟨pushed, height.trans ?_⟩
    exact (Stack.height_push serial state (some t) v.stack).trans (by rw [nothing]; rfl)

/-- What a reduction makes of a stack has room for fewer reductions. -/
theorem room_pushOnto_lt {v : Version text} {r : Reduction} {symbol : Symbol}
    (hr : Act.reduce r ∈ Automaton.acts v.stack.state symbol) {base : Stack text}
    (hb : base.height Stack.bulk + r.arity ≤ v.stack.height Stack.bulk) (t : Subtree text)
    {extras : List (Subtree text)} (loose : ∀ t ∈ extras, t.symbol.isLoose = true)
    (serial : Nat) :
    (pushOnto (v.fork base) serial (Automaton.next base.state r.result)
      (t :: extras)).1.stack.room < v.stack.room := by
  have higher := Automaton.level_lt_of_reduce hr base.state
  have highest := Automaton.level_le (Automaton.next base.state r.result)
  generalize Automaton.next base.state r.result = after at higher highest ⊢
  have landed : ((v.fork base).push serial after (some t)).stack.state = after := rfl
  obtain ⟨state, height⟩ := pushOnto_extras _ (serial + 1) landed loose
  have pushed : ((v.fork base).push serial after (some t)).stack.height Stack.bulk =
      base.height Stack.bulk + Stack.bulk (some t) :=
    Stack.height_push serial after (some t) base
  have counts : Stack.bulk (some t) ≤ 1 := Stack.bulk_le_single (some t)
  rw [pushOnto, Stack.room, state, height, pushed, Stack.room]
  omega

theorem Lowers.addReduced {low : Nat} {v : Version text} (h : m.Lowers low v.stack.room)
    (hl : low ≤ m.versions.length) {r : Reduction} {symbol : Symbol}
    (hr : Act.reduce r ∈ Automaton.acts v.stack.state symbol) {slice : Stack.Slice text}
    (hb : slice.base.height Stack.bulk + r.arity ≤ v.stack.height Stack.bulk)
    (fair : ∀ run ∈ slice.runs, ∀ t ∈ run, t.Fair) (rank : Nat) :
    (addReduced rank v r m slice).Lowers low v.stack.room := by
  unfold Machine.addReduced
  split
  · exact h
  · next run runs found =>
    split
    · exact h
    · obtain ⟨best, member, made⟩ := bestSubtree_eq r slice.base.place run runs
      have loose : ∀ t ∈ (bestSubtree r slice.base.place run runs).2,
          t.symbol.isLoose = true := by
        rw [made]
        intro t ht
        exact (fair best (found ▸ member) t (mem_splitExtras.1 (.inr ht))).loose
          (extra_of_mem_splitExtras ht)
      have lower := room_pushOnto_lt hr hb (bestSubtree r slice.base.place run runs).1 loose
        m.serial
      dsimp only
      generalize pushOnto (v.fork slice.base) m.serial
        (Automaton.next slice.base.state r.result) _ = pushed at lower ⊢
      have kept : { m with serial := pushed.2 }.Lowers low v.stack.room := h
      exact kept.addVersion hl lower rank

theorem Lowers.reduce {low : Nat} {v : Version text} (h : m.Lowers low v.stack.room)
    (hl : low ≤ m.versions.length) (hv : m.version? rank = some v) (hs : v.stack.Lawful d)
    {r : Reduction} {symbol : Symbol}
    (hr : Act.reduce r ∈ Automaton.acts v.stack.state symbol) :
    (m.reduce rank r).Lowers low v.stack.room := by
  have hn : v.stack.state ≠ 0 := fun zero => by
    rw [zero] at hr
    simpa using Automaton.acts_zero hr
  have slices := hs.lawful_pop m.fuel r.arity
  have heights := hs.height_pop_le hn m.fuel r.arity
  unfold Machine.reduce
  rw [hv]
  let Kept (m' : Machine text) : Prop := m'.Lowers low v.stack.room ∧ low ≤ m'.versions.length
  refine (List.foldlRecOn _ _ (motive := Kept) ⟨h, hl⟩ fun m' kept slice member => ?_).1
  exact ⟨kept.1.addReduced kept.2 hr (heights slice member) (slices slice member).fair rank,
    Nat.le_trans kept.2 (length_addReduced rank v r m' slice).1⟩

/-- What the acts for a token lead to while it is ahead: the versions from rank `low` on, of which
the last added is one, have room for fewer reductions. -/
def Progress.Lowers (low room : Nat) : Progress text → Prop
  | .done _ => True
  | .ahead m added => m.Lowers low room ∧ ∀ a ∈ added, low ≤ a ∧ a < m.versions.length

theorem Lawful.lowers_perform (h : m.Lawful d False) {v : Version text}
    (hv : m.version? rank = some v) (live : v.isHalted = false) {acts : List Act}
    (ha : ∀ act ∈ acts, act ∈ Automaton.acts v.stack.state token.symbol) {low : Nat}
    (hl : low ≤ m.versions.length) (lowers : m.Lowers low v.stack.room) {added : Option Nat}
    (hadded : ∀ a ∈ added, low ≤ a ∧ a < m.versions.length) :
    (Machine.perform rank token acts m added).Lowers low v.stack.room := by
  induction acts generalizing d m added with
  | nil => exact ⟨lowers, hadded⟩
  | cons act acts ih =>
    obtain ⟨first, rest⟩ := List.forall_mem_cons.1 ha
    cases act with
    | shift | shiftExtra | accept | recover => trivial
    | shiftRepeated _ => exact ih h hv rest hl lowers hadded
    | reduce r =>
      obtain ⟨e, -, reduced⟩ := h.reduce hv (h.version hv (.inr live)) first
      have length := (length_reduce m rank r).1
      refine ih reduced ((version?_reduce m rank r).trans hv) rest (Nat.le_trans hl length)
        (lowers.reduce hl hv (h.version hv (.inr live)) first) fun a ha' => ?_
      split at ha'
      · next more =>
        cases ha'
        exact ⟨hl, more⟩
      · exact ⟨(hadded a ha').1, Nat.lt_of_lt_of_le (hadded a ha').2 length⟩

theorem version?_promote_self {source target : Nat} (h : target < source) {v w : Version text}
    (hw : m.version? source = some w) (hv : m.version? target = some v) :
    (m.promote source target).version? target = some (v.replace w) := by
  simp only [promote, hw, Nat.ne_of_gt h, if_false]
  rw [version?, remove, List.getElem?_eraseIdx_of_lt h]
  exact (version?_change m target target _).trans (by rw [hv]; simp)

/-- How many steps it takes at most to come past a token: the reductions that the stack has room
for, a look at a keyword as an identifier, and the last step. -/
def patience (v : Version text) (token : Token text) : Nat :=
  v.stack.room + (if Lexeme.isKeyword token.symbol then 1 else 0) + 1

/-- More steps than a version needs to come past a token make no difference. -/
theorem Lawful.pass_add (h : m.Lawful d False) (placed : m.Placed c) (hm : m.Meets rank token)
    (spelled : token.Spelled) {v : Version text} (hv : m.version? rank = some v) {fuel : Nat}
    (hf : patience v token ≤ fuel) (more : Nat) :
    Machine.pass rank (fuel + more) token m = Machine.pass rank fuel token m := by
  induction fuel generalizing c d m token v with
  | zero => exact absurd hf (Nat.not_succ_le_zero _)
  | succ fuel ih =>
    obtain ⟨active, -⟩ := hm.version hv
    have live := Version.isHalted_of_isActive active
    have state : m.state rank = v.stack.state := by rw [Machine.state, hv]
    have acts : ∀ act ∈ Automaton.acts (m.state rank) token.symbol,
        act ∈ Automaton.acts v.stack.state token.symbol := fun act hact => state ▸ hact
    have ordered := placed.perform hm (fun a ha => absurd ha (Option.not_mem_none a))
      (Automaton.acts (m.state rank) token.symbol)
    have performed := h.perform spelled hv live acts none
    have nothing : m.Lowers m.versions.length v.stack.room := fun i w hi hw =>
      absurd (List.getElem?_eq_some_iff.1 hw).1 (Nat.not_lt.2 hi)
    have lowered := h.lowers_perform hv live acts (Nat.le_refl _) nothing
      fun a ha => absurd ha (Option.not_mem_none a)
    rw [Nat.succ_add]
    unfold Machine.pass
    dsimp only
    generalize Machine.perform rank token (Automaton.acts (m.state rank) token.symbol) m none =
      progress at ordered performed lowered
    cases progress with
    | done => rfl
    | ahead m' added =>
      obtain ⟨⟨_, _, placed⟩, ⟨p, hp, follows⟩, hadded⟩ := ordered
      obtain ⟨⟨_, _, lawful⟩, same⟩ := performed
      cases added with
      | some a =>
        -- the version that was added last takes the rank, with less room than before
        obtain ⟨lt, q, hq, follows⟩ := hadded a rfl
        obtain ⟨w, hw, -⟩ := exists_of_spot? hq
        have lower : w.stack.room < v.stack.room := lowered.1 a w (lowered.2 a rfl).1 hw
        refine ih (lawful.promote a rank) (placed.promote a rank) ⟨q, ?_, follows⟩ spelled
          (version?_promote_self lt hw same) ?_
        · rw [spot?_promote_self lt (lt_length_of_spot? hq), hq]
        · have room : (v.replace w).stack.room = w.stack.room := rfl
          unfold patience at hf ⊢
          omega
      | none =>
        dsimp only
        split
        · next keyword =>
          rw [Bool.and_eq_true] at keyword
          refine ih lawful placed ⟨p, hp, follows.asIdentifier⟩ (spelled.asIdentifier keyword.1)
            same ?_
          have once : Lexeme.isKeyword token.asIdentifier.symbol = false :=
            (by decide : Lexeme.isKeyword Symbol.identifier = false)
          rw [patience, if_pos keyword.1] at hf
          rw [patience, once]
          exact Nat.le_of_succ_le_succ hf
        · rfl

/-- A version comes past a token before its steps are used up. -/
theorem Lawful.pass_eq (h : m.Lawful d False) (placed : m.Placed c) (hm : m.Meets rank token)
    (spelled : token.Spelled) {fuel : Nat} (hf : m.passFuel ≤ fuel) :
    Machine.pass rank fuel token m = Machine.pass rank m.passFuel token m := by
  obtain ⟨more, rfl⟩ := Nat.exists_eq_add_of_le hf
  obtain ⟨p, hp, follows⟩ := hm
  obtain ⟨v, hv, -⟩ := exists_of_spot? hp
  refine h.pass_add placed ⟨p, hp, follows⟩ spelled hv ?_ more
  have height := placed.height_lt hv
  have room := v.stack.room_le
  unfold patience passFuel
  split <;> omega

/-! ### Reductions in all ways -/

theorem length_reduceEach (rank : Nat) (rs : List Reduction) (m : Machine text)
    (last : Option Nat) :
    m.versions.length ≤ (reduceEach rank rs m last).1.versions.length ∧
      (reduceEach rank rs m last).1.versions.length ≤
        max m.versions.length (maxVersions + maxOverflow + 1) := by
  induction rs generalizing m last with
  | nil => exact ⟨Nat.le_refl _, Nat.le_max_left _ _⟩
  | cons r rs ih =>
    have first := length_reduce m rank r
    have rest := ih (m.reduce rank r)
      (if m.versions.length < (m.reduce rank r).versions.length then some m.versions.length
        else none)
    exact ⟨Nat.le_trans first.1 rest.1, Nat.le_trans rest.2 (by omega)⟩

theorem length_promote_le (m : Machine text) (source target : Nat) :
    (m.promote source target).versions.length ≤ m.versions.length := by
  unfold promote
  split
  · split
    · exact Nat.le_refl _
    · simp only [remove, change, List.length_eraseIdx, List.length_modify]
      split <;> omega
  · exact Nat.le_refl _

theorem length_remove_le (m : Machine text) (rank : Nat) :
    (m.remove rank).versions.length ≤ m.versions.length := by
  simp only [remove, List.length_eraseIdx]
  split <;> omega

/-- How many rounds are left at most while there are never more than `limit` versions: each of them
is merged or gone on from, and in each of the first rounds one can take the place of another. -/
def roundsLeft (limit rank round count : Nat) : Nat :=
  (limit - rank) * (limit + 1) + (maxVersions - round) * (limit + 1) + count

/-- Going on to a later version leaves fewer rounds, however many versions there are. -/
theorem roundsLeft_later {limit rank rank' count count' : Nat} (later : rank < rank')
    (inside : rank < limit) (few : count' ≤ limit) (round : Nat) :
    roundsLeft limit rank' (round + 1) count' < roundsLeft limit rank round count := by
  have ranks : limit - rank' + 1 ≤ limit - rank := by omega
  have rounds : (maxVersions - (round + 1)) * (limit + 1) ≤
      (maxVersions - round) * (limit + 1) := Nat.mul_le_mul_right _ (by omega)
  have product := Nat.mul_le_mul_right (limit + 1) ranks
  rw [Nat.add_mul, Nat.one_mul] at product
  unfold roundsLeft
  omega

/-- So does one of the first rounds. -/
theorem roundsLeft_early {limit round count count' : Nat} (early : round < maxVersions)
    (few : count' ≤ limit) (rank : Nat) :
    roundsLeft limit rank (round + 1) count' < roundsLeft limit rank round count := by
  have rounds : maxVersions - (round + 1) + 1 ≤ maxVersions - round := by omega
  have product := Nat.mul_le_mul_right (limit + 1) rounds
  rw [Nat.add_mul, Nat.one_mul] at product
  unfold roundsLeft
  omega

/-- So does merging. -/
theorem roundsLeft_merged {limit count count' : Nat} (fewer : count' < count) (rank round : Nat) :
    roundsLeft limit rank (round + 1) count' < roundsLeft limit rank round count := by
  have rounds : (maxVersions - (round + 1)) * (limit + 1) ≤
      (maxVersions - round) * (limit + 1) := Nat.mul_le_mul_right _ (by omega)
  unfold roundsLeft
  omega

/-- More rounds than are left make no difference. -/
theorem reduceAll_add {limit : Nat} (most : maxVersions + maxOverflow + 1 ≤ limit)
    {first low : Nat} {ahead : Symbol} {fuel rank round : Nat} {able : Bool}
    (hm : m.versions.length ≤ limit)
    (hf : roundsLeft limit rank round m.versions.length < fuel) (more : Nat) :
    reduceAll first low ahead (fuel + more) rank round able m =
      reduceAll first low ahead fuel rank round able m := by
  induction fuel generalizing rank round able m with
  | zero => exact absurd hf (Nat.not_lt_zero _)
  | succ fuel ih =>
    rw [Nat.succ_add]
    unfold reduceAll
    dsimp only
    split
    · rfl
    · next inside =>
      have inside : rank < m.versions.length := Nat.lt_of_not_le inside
      have left := Nat.le_of_lt_succ hf
      have later : rank < if rank = first then m.versions.length else rank + 1 := by
        split <;> omega
      have onward {n : Machine text} {able : Bool} (few : n.versions.length ≤ limit) :
          reduceAll first low ahead (fuel + more)
              (if rank = first then m.versions.length else rank + 1) (round + 1) able n =
            reduceAll first low ahead fuel
              (if rank = first then m.versions.length else rank + 1) (round + 1) able n :=
        ih few (Nat.lt_of_lt_of_le
          (roundsLeft_later later (Nat.lt_of_lt_of_le inside hm) few round) left)
      split
      · next m' merged =>
        have length := length_mergeAmong? merged
        have fewer : m'.versions.length < m.versions.length := by omega
        exact ih (by omega) (Nat.lt_of_lt_of_le (roundsLeft_merged fewer rank round) left)
      · have length := length_reduceEach rank (reductions (prospects (m.state rank) ahead)) m none
        generalize reduceEach rank (reductions (prospects (m.state rank) ahead)) m none = result
          at length ⊢
        obtain ⟨reduced, added⟩ := result
        have few : reduced.versions.length ≤ limit :=
          Nat.le_trans length.2 (Nat.max_le.2 ⟨hm, most⟩)
        have kept : (if ahead = Symbol.endOfText then reduced
            else reduced.remove rank).versions.length ≤ limit := by
          split
          · exact few
          · exact Nat.le_trans (length_remove_le reduced rank) few
        dsimp only
        split
        · exact onward few
        · next new _ =>
          split
          · next early =>
            -- the version that was added takes the place of the one it was made from
            have promoted := Nat.le_trans (length_promote_le reduced new rank) few
            exact ih promoted (Nat.lt_of_lt_of_le (roundsLeft_early early promoted rank) left)
          · exact onward kept
        · exact onward kept

/-- A version is reduced in all ways before the rounds are used up. -/
theorem reduceFully_eq (m : Machine text) (rank : Nat) (ahead : Symbol) (more : Nat) :
    reduceAll rank m.versions.length ahead
        ((m.versionLimit + maxVersions + 1) * (m.versionLimit + 1) + more) rank 0 false m =
      m.reduceFully rank ahead := by
  have least : m.versions.length ≤ m.versionLimit := Nat.le_max_left _ _
  have most : maxVersions + maxOverflow + 1 ≤ m.versionLimit := Nat.le_max_right _ _
  refine reduceAll_add most least ?_ more
  have product := Nat.mul_le_mul_right (m.versionLimit + 1) (Nat.sub_le m.versionLimit rank)
  rw [Nat.add_mul, Nat.add_mul, roundsLeft, Nat.sub_zero]
  omega

/-! ### Tokens, versions and rounds -/

theorem advanceBeyond_of_le {fuel fuel' : Nat} (hf : fuel ≤ fuel') {last : Nat}
    {result : Nat × Machine text} (h : advanceBeyond rank fuel last m = some result) :
    advanceBeyond rank fuel' last m = some result := by
  induction fuel generalizing fuel' m with
  | zero => cases h
  | succ fuel ih =>
    obtain ⟨fuel', rfl⟩ : ∃ n, fuel' = n + 1 := ⟨fuel' - 1, by omega⟩
    unfold advanceBeyond at h ⊢
    dsimp only at h ⊢
    split at h
    · split at h
      · next active =>
        rw [if_pos active]
        split at h
        · split at h
          · next beyond =>
            rw [if_pos beyond]
            exact h
          · next behind =>
            rw [if_neg behind]
            exact ih (Nat.le_of_succ_le_succ hf) h
        · exact h
      · next inactive =>
        rw [if_neg inactive]
        exact h
    · exact h

theorem advanceAll_of_le {steps steps' fuel fuel' : Nat} (hs : steps ≤ steps')
    (hf : fuel ≤ fuel') {last : Nat} {result : Nat × Machine text}
    (h : advanceAll steps fuel rank last m = some result) :
    advanceAll steps' fuel' rank last m = some result := by
  induction fuel generalizing fuel' rank last m with
  | zero => cases h
  | succ fuel ih =>
    obtain ⟨fuel', rfl⟩ : ∃ n, fuel' = n + 1 := ⟨fuel' - 1, by omega⟩
    unfold advanceAll at h ⊢
    split at h
    · next none =>
      rw [if_pos none]
      exact h
    · next some =>
      rw [if_neg some]
      split at h
      · next found =>
        rw [advanceBeyond_of_le hs found]
        exact ih (Nat.le_of_succ_le_succ hf) h
      · cases h

/-- More steps keep a subtree that was found. -/
theorem run_of_le {steps steps' fuel fuel' : Nat} (hs : steps ≤ steps') (hf : fuel ≤ fuel')
    {last : Nat} {t : Subtree text} (h : run steps fuel last m = some t) :
    run steps' fuel' last m = some t := by
  induction fuel generalizing fuel' last m with
  | zero => cases h
  | succ fuel ih =>
    obtain ⟨fuel', rfl⟩ : ∃ n, fuel' = n + 1 := ⟨fuel' - 1, by omega⟩
    unfold run at h ⊢
    split at h
    · next found =>
      rw [advanceAll_of_le hs hs found]
      dsimp only at h ⊢
      split at h
      · next settled =>
        rw [if_pos settled]
        exact h
      · next unsettled =>
        rw [if_neg unsettled]
        exact ih (Nat.le_of_succ_le_succ hf) h
    · cases h

/-- The subtree of a text is the one that is found with any greater number of steps. -/
theorem run_of_parse? {t : Subtree text} (h : parse? text = some t) {steps : Nat}
    (hs : stepsFor text ≤ steps) : run steps steps 0 (initial text) = some t :=
  run_of_le hs hs h

end Machine

end CallContext
