import CallContext.Parsing.Recovery
import CallContext.Proofs.Parsing.Machine

/-!
# Recovery keeps the order

What is done about an error keeps everything in order as well (`Machine.Placed.handleError`).  The
token that caused the error is put on the stack last, after versions were reduced, supplied with
missing tokens and merged.  So it has to be known all along that the version before the token does
not move past it: `Machine.Keeps` says that the version at a rank stays active and does not go to
the right, and `Machine.Keeping` that a machine grows and keeps all versions so.
-/

namespace CallContext

open Subtree

variable {text : List Char} {c : Chart}

namespace Machine

variable {m m' m'' : Machine text} {rank i : Nat}

/-- The version at a rank is still active and has not gone to the right. -/
def Keeps (rank : Nat) (m m' : Machine text) : Prop :=
  ∀ p, m.spot? rank = some (p, true) → ∃ q, q ≤ p ∧ m'.spot? rank = some (q, true)

namespace Keeps

theorem of_eq (h : m'.spot? rank = m.spot? rank) : m.Keeps rank m' :=
  fun p hp => ⟨p, Nat.le_refl _, h.trans hp⟩

theorem refl (rank : Nat) (m : Machine text) : m.Keeps rank m := of_eq rfl

theorem trans (h : m.Keeps rank m') (k : m'.Keeps rank m'') : m.Keeps rank m'' := by
  intro p hp
  obtain ⟨q, hq, hs⟩ := h p hp
  obtain ⟨r, hr, hs⟩ := k q hs
  exact ⟨r, Nat.le_trans hr hq, hs⟩

end Keeps

theorem Adds.keeps {high : Nat} (h : m.Adds high m') (rank : Nat) : m.Keeps rank m' :=
  fun p hp => ⟨p, Nat.le_refl _, (h.old rank (lt_length_of_spot? hp)).trans hp⟩

theorem Meets.keeps {token : Token text} (h : m.Meets rank token) (k : m.Keeps rank m') :
    m'.Meets rank token := by
  obtain ⟨p, hp, follows⟩ := h
  obtain ⟨q, hq, hs⟩ := k p hp
  exact ⟨q, hs, follows.of_le hq⟩

/-- The machine has grown and keeps the versions of another one. -/
def Keeping (c : Chart) (m m' : Machine text) : Prop := m'.Grown c ∧ ∀ i, m.Keeps i m'

theorem Placed.keeping (h : m.Placed c) : m.Keeping c m := ⟨h.grown, fun i => .refl i m⟩

/-- Where a machine came to, another one goes on. -/
theorem Keeping.trans (h : m.Keeping c m')
    (k : ∀ d, c ≤ d → m'.Placed d → m'.Keeping d m'') : m.Keeping c m'' := by
  obtain ⟨⟨d, hcd, placed⟩, keeps⟩ := h
  obtain ⟨grown, keeps'⟩ := k d hcd placed
  exact ⟨grown.of_le hcd, fun i => (keeps i).trans (keeps' i)⟩

theorem Placed.keeping_of_spots (h : m'.Placed c) (spots : ∀ i, m'.spot? i = m.spot? i) :
    m.Keeping c m' :=
  ⟨h.grown, fun i => .of_eq (spots i)⟩

/-! ### Reducing as far as possible -/

/-- Reductions of one version; the last of them may have added a version of rank `low` or more. -/
theorem Placed.reduceEach (h : m.Placed c) {p : Nat} {active : Bool}
    (hs : m.spot? rank = some (p, active)) (rs : List Reduction) {low : Nat}
    (hlow : low ≤ m.versions.length) {last : Option Nat}
    (hlast : ∀ a ∈ last, low ≤ a ∧ a < m.versions.length) :
    (reduceEach rank rs m last).1.Grown c ∧ m.Adds p (reduceEach rank rs m last).1 ∧
      ∀ a ∈ (reduceEach rank rs m last).2,
        low ≤ a ∧ a < (reduceEach rank rs m last).1.versions.length := by
  induction rs generalizing c m last with
  | nil => exact ⟨h.grown, .refl p m, hlast⟩
  | cons r rs ih =>
    obtain ⟨⟨d, hcd, placed⟩, adds⟩ := h.reduce hs r
    have hs' := (adds.old rank (lt_length_of_spot? hs)).trans hs
    have last' : ∀ a ∈ (if m.versions.length < (m.reduce rank r).versions.length then
        some m.versions.length else none), low ≤ a ∧ a < (m.reduce rank r).versions.length := by
      intro a ha
      split at ha
      · next more => cases ha; exact ⟨hlow, more⟩
      · cases ha
    have ⟨grown, adds', added⟩ := ih placed hs' (Nat.le_trans hlow adds.le) last'
    exact ⟨grown.of_le hcd, adds.trans adds', added⟩

theorem length_promote (m : Machine text) (source target : Nat) :
    m.versions.length ≤ (m.promote source target).versions.length + 1 := by
  unfold promote
  split
  · split
    · exact Nat.le_succ _
    · simp only [remove, change, List.length_eraseIdx, List.length_modify]
      split <;> omega
  · exact Nat.le_succ _

/-- The versions before the one at rank `first` and before those from rank `low` on are kept; the
one at rank `first` too, if all tokens are looked for. -/
def Spares (first low : Nat) (ahead : Symbol) (m m' : Machine text) : Prop :=
  ∀ i, i < low → i < first ∨ i = first ∧ ahead = Symbol.endOfText → m.Keeps i m'

theorem Spares.trans {first low : Nat} {ahead : Symbol} (h : m.Spares first low ahead m')
    (k : m'.Spares first low ahead m'') : m.Spares first low ahead m'' :=
  fun i hi hf => (h i hi hf).trans (k i hi hf)

theorem Adds.spares {high : Nat} (h : m.Adds high m') (first low : Nat) (ahead : Symbol) :
    m.Spares first low ahead m' :=
  fun i _ _ => h.keeps i

theorem Keeps.spares {first : Nat} {ahead : Symbol} (h : m.Keeps i m')
    (k : m'.Spares first m'.versions.length ahead m'')
    (hi : i < m.versions.length → i < first) : m.Keeps i m'' := by
  intro p hp
  obtain ⟨q, hq, hs⟩ := h p hp
  obtain ⟨r, hr, hs⟩ := k i (lt_length_of_spot? hs) (.inl (hi (lt_length_of_spot? hp))) q hs
  exact ⟨r, Nat.le_trans hr hq, hs⟩

/-- The version at a rank is taken out unless all tokens are looked for. -/
theorem spares_remove (m : Machine text) {first low rank : Nat} (hr : rank = first ∨ low ≤ rank)
    (ahead : Symbol) :
    m.Spares first low ahead (if ahead = Symbol.endOfText then m else m.remove rank) := by
  intro i hi hf
  split
  · exact .refl i m
  · next other =>
    have below : i < rank := by
      rcases hf with hf | ⟨_, last⟩
      · omega
      · exact absurd last other
    exact .of_eq (spot?_remove_of_lt m below)

/-- A version that a reduction has added takes the rank of the one that was reduced. -/
theorem Adds.spares_promote {p : Nat} {active : Bool} (hs : m.spot? rank = some (p, active))
    (h : m.Adds p m') {new : Nat} (hnew : m.versions.length ≤ new)
    (hnew' : new < m'.versions.length) {first low : Nat} (hr : rank = first ∨ low ≤ rank)
    (ahead : Symbol) : m.Spares first low ahead (m'.promote new rank) := by
  have inside := lt_length_of_spot? hs
  intro i hi hf
  by_cases hrank : i = rank
  · subst hrank
    intro q hq
    obtain ⟨q', active', hs'⟩ := exists_spot? hnew'
    have ⟨le, act⟩ := h.new new _ hnew hs'
    obtain ⟨rfl, rfl⟩ := Prod.mk.inj (Option.some.inj (hq.symm.trans hs))
    refine ⟨q', le, (spot?_promote_self (by omega) hnew').trans ?_⟩
    rw [hs', show active' = true from act]
  · exact (h.keeps i).trans (.of_eq (spot?_promote_of_lt (by omega) hrank))

/-- Going on from a machine that has grown and spared what it should. -/
theorem Grown.spares_trans {first low : Nat} {ahead : Symbol} (h : m'.Grown c)
    (spares : m.Spares first low ahead m')
    (k : ∀ d, m'.Placed d → m''.Grown d ∧ m'.Spares first low ahead m'') :
    m''.Grown c ∧ m.Spares first low ahead m'' := by
  obtain ⟨d, hcd, placed⟩ := h
  obtain ⟨grown, spares'⟩ := k d placed
  exact ⟨grown.of_le hcd, spares.trans spares'⟩

/-- Only versions from rank `low` on are merged, so the one at `rank` is among them. -/
theorem Placed.spares_mergeAmong? (h : m.Placed c) {low : Nat}
    (merged : m.mergeAmong? rank low (rank - low) = some m') (first : Nat) (ahead : Symbol) :
    low ≤ rank ∧ m'.Grown c ∧ m.Spares first low ahead m' := by
  have ⟨placed, merges⟩ := h.mergeAmong? merged
  have above : low ≤ rank := by
    refine Nat.le_of_not_lt fun below => ?_
    rw [Nat.sub_eq_zero_of_le (Nat.le_of_lt below)] at merged
    cases merged
  refine ⟨above, placed.grown, ?_⟩
  exact fun i hi _ => .of_eq (merges.spot i (Nat.lt_of_lt_of_le hi above))

/-- The machines that a round of reductions of one version can go on with: all that was added; the
same without the version that was reduced; or with the last added one in its place. -/
theorem Placed.spares_reduceEach (h : m.Placed c) (inside : rank < m.versions.length)
    (rs : List Reduction) {first low : Nat} (hr : rank = first ∨ low ≤ rank) (ahead : Symbol)
    {reduced : Machine text} {added : Option Nat}
    (he : Machine.reduceEach rank rs m none = (reduced, added)) :
    (reduced.Grown c ∧ m.Spares first low ahead reduced) ∧
      ((if ahead = Symbol.endOfText then reduced else reduced.remove rank).Grown c ∧
        m.Spares first low ahead
          (if ahead = Symbol.endOfText then reduced else reduced.remove rank)) ∧
      ∀ new ∈ added, (reduced.promote new rank).Grown c ∧
        m.Spares first low ahead (reduced.promote new rank) ∧
        m.versions.length ≤ (reduced.promote new rank).versions.length := by
  obtain ⟨p, active, hs⟩ := exists_spot? inside
  have reductions := h.reduceEach hs rs (Nat.le_refl _) (fun a (ha : a ∈ none) => nomatch ha)
  rw [he] at reductions
  obtain ⟨⟨d, hcd, placed⟩, adds, hadded⟩ := reductions
  have spares := adds.spares first low ahead
  refine ⟨⟨⟨d, hcd, placed⟩, spares⟩, ⟨⟨d, hcd, ?_⟩, spares.trans (spares_remove reduced hr ahead)⟩,
    fun new hnew => ?_⟩
  · split
    · exact placed
    · exact placed.remove rank
  · have ⟨old, lt⟩ := hadded new hnew
    have length := length_promote reduced new rank
    exact ⟨⟨d, hcd, placed.promote new rank⟩, adds.spares_promote hs old lt hr ahead,
      Nat.le_of_lt_succ (Nat.lt_of_le_of_lt old (Nat.lt_of_lt_of_le lt length))⟩

theorem Placed.reduceAll (h : m.Placed c) {first low rank : Nat}
    (hr : rank = first ∧ low ≤ m.versions.length ∨ low ≤ rank) (ahead : Symbol)
    (fuel round : Nat) (able : Bool) :
    (reduceAll first low ahead fuel rank round able m).2.Grown c ∧
      m.Spares first low ahead (reduceAll first low ahead fuel rank round able m).2 := by
  -- each round goes on with a machine that the lemmas above describe
  induction fuel generalizing c m rank round able with
  | zero => exact ⟨h.grown, fun i _ _ => .refl i m⟩
  | succ fuel ih =>
    unfold Machine.reduceAll
    dsimp only
    split
    · exact ⟨h.grown, fun i _ _ => .refl i m⟩
    · next inside =>
      split
      · next m' merged =>
        obtain ⟨above, grown, spares⟩ := h.spares_mergeAmong? merged first ahead
        exact grown.spares_trans spares fun d placed => ih placed (.inr above) (round + 1) able
      · have further : low ≤ if rank = first then m.versions.length else rank + 1 := by
          split <;> omega
        rcases he : Machine.reduceEach rank (reductions (prospects (m.state rank) ahead)) m none
          with ⟨reduced, added⟩
        obtain ⟨⟨grown, spares⟩, ⟨grown', spares'⟩, promoted⟩ :=
          h.spares_reduceEach (Nat.lt_of_not_le inside) _ (hr.imp_left And.left) ahead he
        have removed := grown'.spares_trans spares' fun d placed =>
          ih placed (.inr further) (round + 1) able
        dsimp only
        split
        · exact grown.spares_trans spares fun d placed => ih placed (.inr further) (round + 1) true
        · next new _ =>
          split
          · obtain ⟨grown, spares, length⟩ := promoted new rfl
            exact grown.spares_trans spares fun d placed =>
              ih placed (hr.imp_left fun hr => ⟨hr.1, Nat.le_trans hr.2 length⟩) (round + 1) able
          · exact removed
        · exact removed

theorem Placed.reduceFully (h : m.Placed c) (rank : Nat) (ahead : Symbol) :
    (m.reduceFully rank ahead).2.Grown c ∧
      m.Spares rank m.versions.length ahead (m.reduceFully rank ahead).2 :=
  h.reduceAll (.inl ⟨rfl, Nat.le_refl _⟩) ahead _ 0 false

/-! ### Comparing with the other versions -/

/-- A comparison settles versions, which leaves them at their spots. -/
theorem outdone_versions (rank : Nat) (s : Standing) (v : Version text) (n : Nat)
    (versions : List (Version text)) :
    (outdone rank s v n versions).2.map Version.spot = versions.map Version.spot ∧
      ∀ w ∈ (outdone rank s v n versions).2, ∃ u ∈ versions, w = u ∨ w = u.settle := by
  induction versions generalizing n with
  | nil => exact ⟨rfl, fun w hw => nomatch hw⟩
  | cons w more ih =>
    obtain ⟨spots, members⟩ := ih (n + 1)
    have rest : ∀ x ∈ (outdone rank s v (n + 1) more).2,
        ∃ u ∈ w :: more, x = u ∨ x = u.settle := fun x hx =>
      let ⟨u, hu, h⟩ := members x hx
      ⟨u, List.mem_cons_of_mem _ hu, h⟩
    unfold outdone
    dsimp only
    split
    · refine ⟨congrArg (w.spot :: ·) spots, List.forall_mem_cons.2 ⟨?_, rest⟩⟩
      exact ⟨w, List.mem_cons_self, .inl rfl⟩
    · have settled : ∃ u ∈ w :: more, w.settle = u ∨ w.settle = u.settle :=
        ⟨w, List.mem_cons_self, .inr rfl⟩
      split
      · refine ⟨rfl, List.forall_mem_cons.2 ⟨settled, fun x hx => ?_⟩⟩
        exact ⟨x, List.mem_cons_of_mem _ hx, .inl rfl⟩
      · exact ⟨congrArg (w.spot :: ·) spots, List.forall_mem_cons.2 ⟨settled, rest⟩⟩

theorem Placed.settle (h : m.Placed c) (rank : Nat) :
    (m.change rank Version.settle).Placed c ∧
      ∀ i, (m.change rank Version.settle).spot? i = m.spot? i :=
  ⟨h.change fun _ hv => (h.version hv).settle, spot?_change fun _ _ => rfl⟩

theorem Placed.betterExists (h : m.Placed c) (rank cost : Nat) :
    (m.betterExists rank cost).2.Placed c ∧
      ∀ i, (m.betterExists rank cost).2.spot? i = m.spot? i := by
  unfold Machine.betterExists
  split
  · exact ⟨h, fun _ => rfl⟩
  · obtain ⟨placed, spots⟩ := h.settle rank
    dsimp only
    split
    · next v _ =>
      have ⟨same, members⟩ := outdone_versions rank ⟨cost, v.since, v.stack.precedence, false⟩ v 0
        (m.change rank Version.settle).versions
      refine ⟨⟨placed.bound, fun w hw => ?_, placed.finished⟩, fun i => ?_⟩
      · obtain ⟨u, hu, rfl | rfl⟩ := members w hw
        · exact placed.versions _ hu
        · exact (placed.versions u hu).settle
      · rw [← spots i]
        simp only [spot?, version?, ← List.getElem?_map, same]
    · exact ⟨placed, spots⟩

/-! ### Going on from a lower state -/

/-- What is skipped on the way to a vertex: the subtrees of a run, and those of an error that the
vertex has below it. -/
theorem inOrder_skipped {slice : Stack.Slice text} {high : Nat} (hs : slice.Fits c high)
    {run : List (Subtree text)} (hr : run ∈ slice.runs) {base : Stack text}
    {skipped : List (Subtree text)}
    (h : (match slice.base.links.find? fun l => l.2.any (·.symbol = Symbol.error) with
      | some (below, some t) => (below, t.children ++ run)
      | _ => (slice.base, run)) = (base, skipped)) :
    base.Placed c ∧ InOrder base.place.offset skipped high := by
  have inOrder := hs.inOrder run hr
  split at h
  · next below t found =>
    cases h
    have link := List.mem_of_find?_eq_some found
    obtain ⟨start, ordered, stop⟩ := hs.placed.fits_link link
    refine ⟨hs.placed.link link, inOrder_append.2 ⟨slice.base.place.offset, ?_, inOrder⟩⟩
    exact ordered.inOrder_children.mono start stop
  · cases h
    exact ⟨hs.placed, inOrder⟩

/-- Skipped subtrees become one stretch of text outside the grammar, with the last extras behind
it. -/
theorem inOrder_stretch {place : Cursor text} {skipped : List (Subtree text)} {high : Nat}
    (h : InOrder place.offset skipped high) :
    InOrder place.offset
      (if (splitExtras skipped).1.isEmpty then (splitExtras skipped).2
      else (build Symbol.error Labels.none 0 place (splitExtras skipped).1).withExtra true ::
        (splitExtras skipped).2) high := by
  rw [← splitExtras_append skipped] at h
  split
  · next none =>
    rwa [List.isEmpty_iff.1 none] at h
  · have ⟨start, ordered, rest⟩ := h.build Symbol.error Labels.none 0
    exact ⟨start, ordered.withExtra true, rest⟩

theorem Placed.recoverSlice (h : m.Placed c) {slice : Stack.Slice text} {high : Nat}
    (hs : slice.Fits c high) (v : Version text) (goal : Nat) :
    (recoverSlice v goal m slice).Grown c ∧ m.Adds high (recoverSlice v goal m slice) := by
  unfold Machine.recoverSlice
  split
  · next run _ _ hr =>
    have member : run ∈ slice.runs := hr ▸ List.mem_cons_self
    split
    next base skipped found =>
    obtain ⟨placed, inOrder⟩ := inOrder_skipped hs member found
    obtain ⟨d, hcd, grown, placed, active, le⟩ :=
      h.pushOnto_fork placed v (inOrder_stretch inOrder) goal
    have adds := m.adds_append active le
    exact ⟨⟨d, hcd, grown.append placed⟩, ⟨adds.old, adds.new, adds.le⟩⟩
  · exact ⟨h.grown, .refl high m⟩

theorem Placed.recoverSlices (h : m.Placed c) {v : Version text} (hv : v.stack.Placed c)
    (goal fuel depth : Nat) :
    m.Keeping c ((v.stack.pop fuel depth).foldl (Machine.recoverSlice v goal) m) := by
  refine List.foldlRecOn _ _ (motive := m.Keeping c) h.keeping ?_
  intro n keeping slice hs
  refine keeping.trans fun d hcd hn => ?_
  have fits := (hv.fits_pop fuel depth slice hs).mono hcd
  have ⟨grown, adds⟩ := hn.recoverSlice fits v goal
  exact ⟨grown, adds.keeps⟩

theorem Placed.recoverAtFoothold (h : m.Placed c) {v : Version text} (hv : v.stack.Placed c)
    (rank : Nat) (token : Token text) (count : Nat) (footholds : List (Stack.Foothold text)) :
    m.Keeping c (recoverAtFoothold rank v token count footholds m).2 := by
  induction footholds generalizing c m with
  | nil => exact h.keeping
  | cons f more ih =>
    unfold Machine.recoverAtFoothold
    dsimp only
    split
    · exact ih h hv
    · have better := h.betterExists rank (v.cost + f.depth * costs.skippedTree +
        (v.stack.place.offset - f.place.offset) * costs.skippedByte +
        (v.stack.place.line - f.place.line) * costs.skippedLine)
      split
      · next found =>
        rw [found] at better
        exact better.1.keeping_of_spots better.2
      · next m' found =>
        rw [found] at better
        refine (better.1.keeping_of_spots better.2).trans fun d hcd placed => ?_
        split
        · exact ih placed (hv.mono hcd)
        · generalize f.depth + (if 0 < v.since then 1 else 0) = depth
          have slices := placed.recoverSlices (hv.mono hcd) f.state m'.fuel depth
          split
          · exact slices
          · -- no slice has led on: the next foothold is tried, with what was added
            exact slices.trans fun e hde hn => ih hn (hv.mono (Chart.le_trans hcd hde))

/-! ### Skipping a token -/

theorem Token.Follows.inOrder_skipped {token : Token text} {low : Nat} (h : token.Follows low)
    (extra : Bool) :
    InOrder low [build Symbol.skipped Labels.none 0 token.left [leaf token extra]]
      token.stop.offset :=
  inOrder_build_cons Symbol.skipped Labels.none 0 token.left (h.inOrder extra)

theorem Placed.skipToken (h : m.Placed c) {v : Version text} (hv : v.stack.Placed c)
    {token : Token text} (hm : m.Meets rank token) (ht : token.Follows v.stack.place.offset) :
    (m.skipToken rank v token).Grown c := by
  have pushed {m' : Machine text} {t : Subtree text} (placed : m'.Placed c)
      (inOrder : ∀ w, m'.version? rank = some w → w.isActive = true ∧
        InOrder w.stack.place.offset [t] token.stop.offset) :
      ((m'.push rank (some t) 0).change rank fun v =>
        { v with layout := token.layout <|> v.layout }).Grown c := by
    have ⟨d, hcd, hd⟩ : (m'.push rank (some t) 0).Grown c := by
      refine placed.push (fun w hw => ?_) 0
      exact ⟨token.stop.offset, (inOrder w hw).2, .inl (inOrder w hw).1⟩
    refine ⟨d, hcd, hd.change fun w hw => ?_⟩
    exact ⟨(hd.version hw).stack, (hd.version hw).paused⟩
  have alone (extra : Bool) (w : Version text) (hw : m.version? rank = some w) :=
    have ⟨active, follows⟩ := hm.version hw
    And.intro active (Token.Follows.inOrder_skipped follows extra)
  unfold Machine.skipToken
  dsimp only
  split
  · split
    · next base run _ _ found =>
      -- what was skipped before the token is taken off and skipped together with it
      have fits := hv.fits_pop m.fuel 1 ⟨base, run :: _⟩ (found ▸ List.mem_cons_self)
      have forked (w : Version text) : (w.replace (w.fork base)).Placed c :=
        (Version.Placed.fork fits.placed w).replace w
      refine pushed (h.change fun w _ => forked w) fun w hw => ?_
      rw [version?_change] at hw
      obtain ⟨u, -, rfl⟩ := Option.map_eq_some_iff.1 hw
      rw [if_pos rfl]
      refine ⟨rfl, inOrder_build Symbol.skipped Labels.none 0 base.place ?_⟩
      refine inOrder_append.2 ⟨v.stack.place.offset, fits.inOrder run List.mem_cons_self, ?_⟩
      exact Token.Follows.inOrder_skipped ht _
    · exact pushed h (alone _)
  · exact pushed h (alone _)

/-! ### Recovery -/

/-- An error without text can be put where an active version stands or behind. -/
theorem Placed.pushFault (h : m.Placed c) {p : Nat} (hs : m.spot? rank = some (p, true))
    {place : Cursor text} (hp : p ≤ place.offset) (state : Nat) :
    (m.push rank (some (build Symbol.error Labels.none 0 place [])) state).Grown c ∧
      (m.push rank (some (build Symbol.error Labels.none 0 place [])) state).spot? rank =
        some (place.offset, true) := by
  obtain ⟨v, hv, rfl, active⟩ := exists_of_spot? hs
  have inOrder : InOrder place.offset [build Symbol.error Labels.none 0 place []] place.offset :=
    inOrder_build Symbol.error Labels.none 0 place (Nat.le_refl _)
  constructor
  · refine h.push (fun w hw => ?_) state
    obtain rfl := Option.some.inj (hv.symm.trans hw)
    exact ⟨place.offset, inOrder.mono hp (Nat.le_refl _), .inl active⟩
  · rw [spot?_push_self, hv]
    have stop := (tally_places_nil Symbol.error Labels.none 0 place).2
    exact congrArg some (Prod.ext (congrArg Cursor.offset stop) active)

theorem Placed.recover (h : m.Placed c) {token : Token text} (hm : m.Meets rank token) :
    (m.recover rank token).Grown c := by
  obtain ⟨settled, spots⟩ := h.settle rank
  have meets : (m.change rank Version.settle).Meets rank token := hm.keeps (.of_eq (spots rank))
  unfold Machine.recover
  dsimp only
  split
  · exact settled.grown
  · next v hv =>
    have placed := settled.version hv
    have ⟨active, follows⟩ := meets.version hv
    -- a foothold adds versions; whether one was found, the version at the rank is where it was
    have recovered := settled.recoverAtFoothold placed.stack rank token
      (m.change rank Version.settle).versions.length
      (if token.symbol = Symbol.error then [] else v.footholds.getD [])
    generalize Machine.recoverAtFoothold rank v token
      (m.change rank Version.settle).versions.length
      (if token.symbol = Symbol.error then [] else v.footholds.getD [])
      (m.change rank Version.settle) = result at recovered
    obtain ⟨found, m'⟩ := result
    obtain ⟨⟨d, hcd, hm'⟩, keeps⟩ := recovered
    dsimp only at hm' keeps ⊢
    have meets' : m'.Meets rank token := meets.keeps (keeps rank)
    split
    · exact ⟨d, hcd, hm'.halt rank⟩
    · split
      · -- at the end of the text all that is left becomes an error
        obtain ⟨q, hq, hs⟩ := keeps rank _ (spot?_of_active hv active)
        obtain ⟨⟨e, hde, he⟩, spot⟩ := hm'.pushFault hs hq 1
        exact (he.accept ⟨_, spot, follows⟩).of_le (Chart.le_trans hcd hde)
      · -- else the token is skipped, unless that is more than another version costs
        have better := hm'.betterExists rank (v.cost + costs.skippedTree +
          (token.stop.offset - token.left.offset) * costs.skippedByte +
          (token.stop.line - token.left.line) * costs.skippedLine)
        split
        · next n found =>
          rw [found] at better
          exact ⟨d, hcd, better.1.halt rank⟩
        · next n found =>
          rw [found] at better
          have meets'' := meets'.keeps (.of_eq (better.2 rank))
          exact (better.1.skipToken (placed.stack.mono hcd) meets'' follows).of_le hcd

theorem Placed.mergeMany (h : m.Placed c) {low : Nat} (hr : rank < low) (count : Nat) :
    (mergeMany rank low count m).Placed c ∧ m.Keeps rank (mergeMany rank low count m) := by
  induction count generalizing m with
  | zero => exact ⟨h, .refl rank m⟩
  | succ count ih =>
    unfold Machine.mergeMany
    cases hm : m.merge? rank low with
    | none => exact ih h
    | some m' =>
      have ⟨placed, merges⟩ := h.merge? hm
      have ⟨placed', keeps⟩ := ih placed
      exact ⟨placed', (Keeps.of_eq (merges.spot rank hr)).trans keeps⟩

/-- A missing token is tried on a copy of a version, which is added behind the others. -/
theorem Placed.pushMissing (h : m.Placed c) {v : Version text} (hv : v.Placed c)
    (absent : Symbol) (state : Nat) :
    m.Keeping c ({ m with versions := m.versions ++ [v] }.push m.versions.length
      (some (.missing absent v.stack.place)) state) := by
  constructor
  · refine (h.append hv).push (fun w hw => ?_) state
    obtain rfl : v = w := Option.some.inj (List.getElem?_concat_length.symm.trans hw)
    exact ⟨_, ⟨Nat.le_refl _, trivial, Nat.le_refl _⟩, .inr (Nat.le_refl _)⟩
  · intro i p hp
    have inside := lt_length_of_spot? hp
    refine ⟨p, Nat.le_refl _, ?_⟩
    rw [spot?_push_of_ne _ _ _ (Nat.ne_of_gt inside), spot?_append_of_lt v inside, hp]

theorem Placed.supply (h : m.Placed c) (rank : Nat) (token : Token text) (absent : List Symbol) :
    m.Keeping c (supply rank token absent m).2 := by
  induction absent generalizing c m with
  | nil => exact h.keeping
  | cons symbol more ih =>
    unfold Machine.supply
    split
    · exact h.keeping
    · next v hv =>
      dsimp only
      split
      · have copied : Version.Placed c { v with footholds := none } :=
          ⟨(h.version hv).stack, (h.version hv).paused⟩
        obtain ⟨⟨d, hcd, pushed⟩, kept⟩ :=
          h.pushMissing copied symbol (Automaton.next v.stack.state symbol)
        have ⟨grown, spares⟩ := pushed.reduceFully m.versions.length token.symbol
        -- only versions that come from the copy are given up
        have keeping : m.Keeping c _ := ⟨grown.of_le hcd, fun i => (kept i).spares spares id⟩
        split
        · next found =>
          rw [found] at keeping
          exact keeping
        · next found =>
          rw [found] at keeping
          exact keeping.trans fun e _ reduced => ih reduced
      · exact ih h

theorem Placed.markErrors (h : m.Placed c) (token : Token text) (ranks : List Nat)
    (supplied : Bool) : m.Keeping c (markErrors token ranks supplied m) := by
  induction ranks generalizing c m supplied with
  | nil => exact h.keeping
  | cons rank more ih =>
    have supply :
        m.Keeping c (if supplied then (true, m) else Machine.supply rank token tokens m).2 := by
      split
      · exact h.keeping
      · exact h.supply rank token tokens
    unfold Machine.markErrors
    generalize (if supplied then (true, m) else Machine.supply rank token tokens m) = result
      at supply
    refine supply.trans fun d _ placed => ?_
    have pushed : result.2.Keeping d (result.2.push rank none 0) := by
      refine ⟨placed.push (fun v _ => ⟨_, Nat.le_refl _, .inr (Nat.le_refl _)⟩) 0, fun i => ?_⟩
      refine .of_eq (Machine.spot?_change (fun v _ => ?_) i)
      rfl
    exact pushed.trans fun e _ placed => ih placed result.1

/-- An error is dealt with before a token that the version meets. -/
theorem Placed.handleError (h : m.Placed c) {token : Token text} (hm : m.Meets rank token) :
    (m.handleError rank token).Grown c := by
  have inside : rank < m.versions.length :=
    let ⟨_, hp, _⟩ := hm
    lt_length_of_spot? hp
  obtain ⟨⟨d₁, h₁, reduced⟩, spares⟩ := h.reduceFully rank Symbol.endOfText
  have keeps₁ := spares rank inside (.inr ⟨rfl, rfl⟩)
  unfold Machine.handleError
  dsimp only
  generalize (m.reduceFully rank Symbol.endOfText).2 = n at reduced keeps₁ ⊢
  obtain ⟨⟨d₂, h₂, marked⟩, keeps₂⟩ := reduced.markErrors token
    (rank :: (List.range (n.versions.length - m.versions.length)).map (m.versions.length + ·)) false
  obtain ⟨merged, keeps₃⟩ := marked.mergeMany inside (n.versions.length - m.versions.length)
  -- through all three steps the version stays before the token
  have meets := ((hm.keeps keeps₁).keeps (keeps₂ rank)).keeps keeps₃
  refine (Placed.recover (merged.change fun v hv => ?_) (meets.keeps ?_)).of_le
    (Chart.le_trans h₁ h₂)
  · exact ⟨(merged.version hv).stack, (merged.version hv).paused⟩
  · refine .of_eq (spot?_change (fun v _ => ?_) rank)
    rfl

end Machine

end CallContext
