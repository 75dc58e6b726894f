import CallContext.Parsing.Run
import CallContext.Proofs.Parsing.Recovery

/-!
# Every parse is in order

The machine starts in order, each of its steps keeps the order, and so does a whole run: the
children of every node of a parse follow each other inside the node, whatever the text is and
however many faults it has (`Machine.ordered_of_parse?`).
-/

namespace CallContext

open Subtree

variable {text : List Char} {c : Chart}

namespace Machine

variable {m m' : Machine text} {rank : Nat} {token : Token text}

/-! ### One token -/

/-- What the acts for a token lead to: the token is dealt with, or both the version at the rank and
the one that was added last still stand before it. -/
def Progress.Placed (c : Chart) (rank : Nat) (token : Token text) : Progress text → Prop
  | .done m => m.Grown c
  | .ahead m added => m.Grown c ∧ m.Meets rank token ∧ ∀ a ∈ added, rank < a ∧ m.Meets a token

theorem Progress.Placed.of_le {d : Chart} {progress : Progress text}
    (h : progress.Placed d rank token) (hcd : c ≤ d) : progress.Placed c rank token := by
  cases progress with
  | done m => exact Grown.of_le h hcd
  | ahead m added => exact ⟨h.1.of_le hcd, h.2⟩

theorem Placed.perform (h : m.Placed c) (hm : m.Meets rank token) {added : Option Nat}
    (ha : ∀ a ∈ added, rank < a ∧ m.Meets a token) (acts : List Act) :
    (perform rank token acts m added).Placed c rank token := by
  induction acts generalizing c m added with
  | nil => exact ⟨h.grown, hm, ha⟩
  | cons act acts ih =>
    cases act with
    | shift state => exact h.shift hm state false
    | shiftExtra => exact h.shift hm (m.state rank) true
    | accept => exact h.accept hm
    | recover => exact h.recover hm
    | shiftRepeated _ => exact ih h hm ha
    | reduce r =>
      obtain ⟨p, hp, follows⟩ := hm
      have ⟨⟨d, hcd, placed⟩, adds⟩ := h.reduce hp r
      have meets : (m.reduce rank r).Meets rank token :=
        Meets.keeps ⟨p, hp, follows⟩ (adds.keeps rank)
      refine (ih placed meets fun a ha' => ?_).of_le hcd
      split at ha'
      · next more =>
        -- what a reduction adds does not stand behind the version that it reduces
        cases ha'
        obtain ⟨q, active, hq⟩ := exists_spot? more
        have ⟨le, act⟩ := adds.new _ _ (Nat.le_refl _) hq
        refine ⟨lt_length_of_spot? hp, q, ?_, follows.of_le le⟩
        rw [hq, show active = true from act]
      · exact ⟨(ha a ha').1, (ha a ha').2.keeps (adds.keeps a)⟩

theorem Placed.pass (h : m.Placed c) (hm : m.Meets rank token) (fuel : Nat) :
    (pass rank fuel token m).Grown c := by
  induction fuel generalizing c m token with
  | zero => exact (h.halt rank).grown
  | succ fuel ih =>
    have performed := h.perform hm (fun a (ha : a ∈ none) => nomatch ha)
      (Automaton.acts (m.state rank) token.symbol)
    unfold Machine.pass
    dsimp only
    split
    · next done =>
      rw [done] at performed
      exact performed
    · next m' added ahead =>
      rw [ahead] at performed
      obtain ⟨⟨d, hcd, placed⟩, _, hadded⟩ := performed
      obtain ⟨lt, p, hp, follows⟩ := hadded added rfl
      -- the version that was added last takes the rank, so the token is still ahead of it
      refine (ih (placed.promote added rank) ⟨p, ?_, follows⟩).of_le hcd
      rw [spot?_promote_self lt (lt_length_of_spot? hp), hp]
    · next m' ahead =>
      rw [ahead] at performed
      obtain ⟨⟨d, hcd, placed⟩, ⟨p, hp, follows⟩, _⟩ := performed
      split
      · exact (ih placed ⟨p, hp, follows.asIdentifier⟩).of_le hcd
      · split
        · exact (placed.recover ⟨p, hp, follows⟩).of_le hcd
        · refine ⟨d, hcd, placed.change fun v hv => ?_⟩
          exact (placed.version hv).pause (Meets.version ⟨p, hp, follows⟩ hv).2

theorem Placed.advance (h : m.Placed c) {v : Version text} (hv : m.version? rank = some v)
    (active : v.isActive = true) : (m.advance rank).Grown c := by
  unfold Machine.advance
  rw [hv]
  exact h.pass ⟨_, spot?_of_active hv active, Token.follows_read ..⟩ _

theorem Placed.advanceBeyond (h : m.Placed c) {fuel last : Nat} {result : Nat × Machine text}
    (hr : advanceBeyond rank fuel last m = some result) : result.2.Grown c := by
  induction fuel generalizing c m with
  | zero => cases hr
  | succ fuel ih =>
    unfold Machine.advanceBeyond at hr
    split at hr
    · next v hv =>
      split at hr
      · next active =>
        obtain ⟨d, hcd, placed⟩ := h.advance hv active
        dsimp only at hr
        split at hr
        · split at hr
          · cases hr
            exact ⟨d, hcd, placed⟩
          · exact (ih placed hr).of_le hcd
        · cases hr
          exact ⟨d, hcd, placed⟩
      · cases hr
        exact h.grown
    · cases hr
      exact h.grown

theorem Placed.advanceAll (h : m.Placed c) {steps fuel rank last : Nat}
    {result : Nat × Machine text} (hr : advanceAll steps fuel rank last m = some result) :
    result.2.Grown c := by
  induction fuel generalizing c m rank last with
  | zero => cases hr
  | succ fuel ih =>
    unfold Machine.advanceAll at hr
    split at hr
    · cases hr
      exact h.grown
    · split at hr
      · next advanced =>
        obtain ⟨d, hcd, placed⟩ := h.advanceBeyond advanced
        exact (ih placed hr).of_le hcd
      · cases hr

/-! ### Comparing the versions -/

theorem placed_rankIn {s : Standing} {new : Version text} (hn : new.Placed c)
    {kept : List (Version text)} (hk : ∀ v ∈ kept, v.Placed c) :
    ∀ v ∈ rankIn s new kept, v.Placed c := by
  induction kept generalizing new with
  | nil => simpa only [rankIn, List.mem_singleton, forall_eq] using hn
  | cons v more ih =>
    have ⟨first, rest⟩ := List.forall_mem_cons.1 hk
    have merged (can : v.canMerge new = true) : ∀ w ∈ v.merge new :: more, w.Placed c :=
      List.forall_mem_cons.2 ⟨(first.merge hn can).1, rest⟩
    unfold rankIn
    split
    · exact hk
    · split
      · next can => exact merged can
      · exact List.forall_mem_cons.2 ⟨first, ih hn rest⟩
    · split
      · next can => exact merged can
      · exact List.forall_mem_cons.2 ⟨first, ih hn rest⟩
    · split
      · next can => exact merged can
      · -- the new version takes the rank, and the old one is compared with those behind it
        exact List.forall_mem_cons.2 ⟨hn, ih first rest⟩
    · exact ih hn rest

theorem placed_select {versions : List (Version text)} (h : ∀ v ∈ versions, v.Placed c) :
    ∀ v ∈ (select versions).1, v.Placed c := by
  let Kept (kept : List (Version text) × Option Nat) : Prop := ∀ v ∈ kept.1, v.Placed c
  refine List.foldlRecOn versions _ (motive := Kept) (fun v hv => nomatch hv) fun kept hk v hv => ?_
  dsimp only
  split
  · exact hk
  · exact placed_rankIn (h v hv).settle hk

theorem Placed.resume (h : m.Placed c) (count rank : Nat) (busy : Bool) (least : Option Nat) :
    (resume count rank busy least m).2.Grown c := by
  induction count generalizing c m rank busy least with
  | zero => exact h.grown
  | succ count ih =>
    unfold Machine.resume
    split
    · next v hv =>
      split
      · next token paused =>
        split
        · -- a paused version waits before the token that it has met
          have resumed : (m.change rank fun v => { v with status := .active }).Placed c :=
            h.change fun w hw => .of_active (h.version hw).stack rfl
          have meets : (m.change rank fun v => { v with status := .active }).Meets rank token := by
            refine ⟨v.stack.place.offset, ?_, (h.version hv).paused token paused⟩
            rw [spot?_change_self, hv]
            rfl
          obtain ⟨d, hcd, placed⟩ := resumed.handleError meets
          exact (ih placed ..).of_le hcd
        · exact ih (h.remove rank) ..
      · exact ih h ..
    · exact h.grown

theorem Placed.condense (h : m.Placed c) : m.condense.2.Grown c := by
  have selected := placed_select h.versions
  have kept : { m with versions := (select m.versions).1.take maxVersions }.Placed c :=
    ⟨h.bound, fun v hv => selected v (List.mem_of_mem_take hv), h.finished⟩
  exact kept.resume ..

/-! ### The whole text -/

theorem Placed.ordered_of_run (h : m.Placed c) {steps fuel last : Nat} {t : Subtree text}
    (hr : run steps fuel last m = some t) : t.Ordered := by
  induction fuel generalizing c m last with
  | zero => cases hr
  | succ fuel ih =>
    unfold run at hr
    split at hr
    · next round =>
      -- one round: every version goes a token further, then they are compared
      obtain ⟨d, _, advanced⟩ := h.advanceAll round
      obtain ⟨e, _, condensed⟩ := advanced.condense
      dsimp only at hr
      split at hr
      · exact condensed.finished t hr
      · exact ih condensed hr
    · cases hr

/-- The subtree of a whole text is in order. -/
theorem ordered_of_parse? {t : Subtree text} (h : parse? text = some t) : t.Ordered :=
  (placed_initial text).ordered_of_run h

end Machine

end CallContext
