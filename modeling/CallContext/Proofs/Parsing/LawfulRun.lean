import CallContext.Proofs.Parsing.LawfulRecovery
import CallContext.Proofs.Parsing.Run
import CallContext.Proofs.Parsing.Spelling

/-!
# Every parse without faults is made as the grammar says

The machine starts lawful, each of its steps keeps it so, and so does a whole run: the subtree of
a text that costs nothing is complete and conforms to the grammar (`Machine.whole_of_parse?`).
That the version that is taken past a token has not ended is known from the order of subtrees
(`Machine.Meets`).
-/

namespace CallContext

open Subtree

variable {text : List Char} {c d : Chart}

namespace Machine

variable {m m' : Machine text} {rank : Nat} {token : Token text}

/-! ### One token -/

/-- What the acts for a token lead to: the token is dealt with, or the version at the rank is as it
was. -/
def Progress.Lawful (d : Chart) (rank : Nat) (v : Version text) : Progress text → Prop
  | .done m => m.Obeys d False
  | .ahead m _ => m.Obeys d False ∧ m.version? rank = some v

theorem Progress.Lawful.of_le {e : Chart} {v : Version text} {progress : Progress text}
    (h : progress.Lawful e rank v) (hde : d ≤ e) : progress.Lawful d rank v := by
  cases progress with
  | done m => exact Obeys.of_le h hde
  | ahead m added => exact ⟨h.1.of_le hde, h.2⟩

theorem Lawful.perform (h : m.Lawful d False) (spelled : token.Spelled) {v : Version text}
    (hv : m.version? rank = some v) (live : v.isHalted = false) {acts : List Act}
    (ha : ∀ act ∈ acts, act ∈ Automaton.acts v.stack.state token.symbol) (added : Option Nat) :
    (perform rank token acts m added).Lawful d rank v := by
  induction acts generalizing d m added with
  | nil => exact ⟨h.obeys, hv⟩
  | cons act acts ih =>
    obtain ⟨first, rest⟩ := List.forall_mem_cons.1 ha
    have only {w : Version text} (hw : m.version? rank = some w) : w = v :=
      Option.some.inj (hw.symm.trans hv)
    cases act with
    | shift state => exact h.shift fun w hw => only hw ▸ law_shift spelled first
    | shiftExtra =>
      refine h.shift fun w hw => ?_
      rw [only hw, Machine.state, hv]
      exact law_shiftExtra spelled first
    | accept => exact h.accept fun w hw => only hw ▸ ⟨live, first⟩
    | recover => exact h.recover (fun w hw => only hw ▸ h.version hv (.inr live)) token
    | shiftRepeated _ => exact ih h hv rest added
    | reduce r =>
      obtain ⟨e, hde, reduced⟩ := h.reduce hv (h.version hv (.inr live)) first
      exact (ih reduced ((version?_reduce m rank r).trans hv) rest _).of_le hde

theorem Lawful.pass (h : m.Lawful d False) (placed : m.Placed c) (hm : m.Meets rank token)
    (spelled : token.Spelled) (fuel : Nat) : (pass rank fuel token m).Obeys d False := by
  induction fuel generalizing c d m token with
  | zero => exact (h.halt rank).obeys
  | succ fuel ih =>
    obtain ⟨p, hp, follows⟩ := hm
    obtain ⟨v, hv, -, active⟩ := exists_of_spot? hp
    have live := Version.isHalted_of_isActive active
    have ordered := placed.perform ⟨p, hp, follows⟩ (fun a (ha : a ∈ none) => nomatch ha)
      (Automaton.acts (m.state rank) token.symbol)
    have performed : (Machine.perform rank token (Automaton.acts (m.state rank) token.symbol) m
        none).Lawful d rank v := by
      refine h.perform spelled hv live (fun act hact => ?_) none
      rwa [Machine.state, hv] at hact
    unfold Machine.pass
    dsimp only
    split
    · next done =>
      rw [done] at performed
      exact performed
    · next m' added ahead =>
      rw [ahead] at performed ordered
      obtain ⟨⟨_, _, placed⟩, _, hadded⟩ := ordered
      obtain ⟨lt, q, hq, follows⟩ := hadded added rfl
      refine performed.1.trans fun e _ lawful => ?_
      -- the version that was added last takes the rank, and it is active
      refine ih (lawful.promote added rank) (placed.promote added rank) ⟨q, ?_, follows⟩ spelled
      rw [spot?_promote_self lt (lt_length_of_spot? hq), hq]
    · next m' ahead =>
      -- no act has led on: a keyword is tried as an identifier, or there is an error
      rw [ahead] at performed ordered
      obtain ⟨⟨_, _, placed⟩, ⟨q, hq, follows⟩, _⟩ := ordered
      obtain ⟨obeys, same⟩ := performed
      refine obeys.trans fun e _ lawful => ?_
      have stack : ∀ w, m'.version? rank = some w → w.stack.Lawful e := fun w hw =>
        Option.some.inj (same.symm.trans hw) ▸ lawful.version same (.inr live)
      split
      · next keyword =>
        rw [Bool.and_eq_true] at keyword
        exact ih lawful placed ⟨q, hq, follows.asIdentifier⟩ (spelled.asIdentifier keyword.1)
      · split
        · exact lawful.recover stack token
        · have paused : (m'.change rank (Version.pause token)).Lawful e False :=
            lawful.change fun w hw _ => stack w hw
          exact paused.obeys

theorem Lawful.advance (h : m.Lawful d False) (placed : m.Placed c) {v : Version text}
    (hv : m.version? rank = some v) (active : v.isActive = true) :
    (m.advance rank).Obeys d False := by
  unfold Machine.advance
  rw [hv]
  exact h.pass placed ⟨_, spot?_of_active hv active, Token.follows_read ..⟩
    (Token.spelled_read ..) _

theorem Lawful.advanceBeyond (h : m.Lawful d False) (placed : m.Placed c) {fuel last : Nat}
    {result : Nat × Machine text} (hr : advanceBeyond rank fuel last m = some result) :
    result.2.Obeys d False := by
  induction fuel generalizing c d m with
  | zero => cases hr
  | succ fuel ih =>
    unfold Machine.advanceBeyond at hr
    split at hr
    · next v hv =>
      split at hr
      · next active =>
        have advanced := h.advance placed hv active
        obtain ⟨_, _, placed⟩ := placed.advance hv active
        dsimp only at hr
        split at hr
        · split at hr
          · cases hr
            exact advanced
          · exact advanced.trans fun _ _ lawful => ih lawful placed hr
        · cases hr
          exact advanced
      · cases hr
        exact h.obeys
    · cases hr
      exact h.obeys

theorem Lawful.advanceAll (h : m.Lawful d False) (placed : m.Placed c)
    {steps fuel rank last : Nat} {result : Nat × Machine text}
    (hr : advanceAll steps fuel rank last m = some result) : result.2.Obeys d False := by
  induction fuel generalizing c d m rank last with
  | zero => cases hr
  | succ fuel ih =>
    unfold Machine.advanceAll at hr
    split at hr
    · cases hr
      exact h.obeys
    · split at hr
      · next found =>
        have advanced := h.advanceBeyond placed found
        obtain ⟨_, _, placed⟩ := placed.advanceBeyond found
        exact advanced.trans fun _ _ lawful => ih lawful placed hr
      · cases hr

/-! ### Comparing the versions -/

theorem lawful_rankIn {s : Standing} {new : Version text} (hn : new.Lawful d True)
    {kept : List (Version text)} (hk : ∀ v ∈ kept, v.Lawful d True) :
    ∀ v ∈ rankIn s new kept, v.Lawful d True := by
  induction kept generalizing new with
  | nil => simpa only [rankIn, List.mem_singleton, forall_eq] using hn
  | cons v more ih =>
    obtain ⟨first, rest⟩ := List.forall_mem_cons.1 hk
    have merged (can : v.canMerge new = true) : ∀ w ∈ v.merge new :: more, w.Lawful d True :=
      List.forall_mem_cons.2 ⟨first.merge hn can, rest⟩
    unfold rankIn
    split
    · exact hk
    · split
      · next can => exact merged can
      · exact List.forall_mem_cons.2 ⟨first, ih hn rest⟩
    · split
      · next can => exact merged can
      · exact List.forall_mem_cons.2 ⟨first, ih hn rest⟩
    · split
      · next can => exact merged can
      · exact List.forall_mem_cons.2 ⟨hn, ih first rest⟩
    · exact ih hn rest

/-- The versions that are kept have not ended. -/
theorem lawful_select {versions : List (Version text)} (h : ∀ v ∈ versions, v.Lawful d False) :
    ∀ v ∈ (select versions).1, v.Lawful d True := by
  let Kept (kept : List (Version text) × Option Nat) : Prop := ∀ v ∈ kept.1, v.Lawful d True
  refine List.foldlRecOn versions _ (motive := Kept) (fun v hv => nomatch hv) fun kept hk v hv => ?_
  dsimp only
  split
  · exact hk
  · next live =>
    have settled : v.settle.Lawful d True := fun _ => h v hv (.inr (by simpa using live))
    exact lawful_rankIn settled hk

/-- While no version has been resumed none has ended. -/
theorem Lawful.resume {busy : Bool} (h : m.Lawful d (busy = false)) (count rank : Nat)
    (least : Option Nat) : (resume count rank busy least m).2.Obeys d False := by
  induction count generalizing d m rank busy least with
  | zero => exact (h.of_imp False.elim).obeys
  | succ count ih =>
    have busily {e : Chart} {n : Machine text} (hn : n.Lawful e False) :
        n.Lawful e (true = false) := hn.of_imp fun h => by cases h
    unfold Machine.resume
    split
    · split
      · next token paused =>
        split
        · next idle =>
          -- the first paused version is resumed while no other one goes on
          rw [Bool.and_eq_true, Bool.not_eq_true'] at idle
          have resumed : (m.change rank fun v => { v with status := .active }).Lawful d True := by
            refine (h.of_imp fun _ => idle.1).change fun w hw _ => ?_
            exact (h.version hw).stack_of_all idle.1
          exact (resumed.handleError rank token).trans fun _ _ lawful => ih (busily lawful) ..
        · exact ih (h.remove rank) ..
      · exact ih (busily (h.of_imp False.elim)) ..
    · exact (h.of_imp False.elim).obeys

theorem Lawful.condense (h : m.Lawful d False) : m.condense.2.Obeys d False := by
  have selected := lawful_select h.versions
  have kept : { m with versions := (select m.versions).1.take maxVersions }.Lawful d
      (false = false) :=
    ⟨h.bound, fun v hv => (selected v (List.mem_of_mem_take hv)).of_imp fun _ => trivial,
      h.finished⟩
  exact kept.resume ..

/-! ### The whole text -/

theorem Lawful.whole_of_run (h : m.Lawful d False) (placed : m.Placed c)
    {steps fuel last : Nat} {t : Subtree text} (hr : run steps fuel last m = some t) :
    t.Whole := by
  induction fuel generalizing c d m last with
  | zero => cases hr
  | succ fuel ih =>
    unfold run at hr
    split at hr
    · next round =>
      obtain ⟨_, _, advanced⟩ := h.advanceAll placed round
      obtain ⟨_, _, placed⟩ := placed.advanceAll round
      obtain ⟨_, _, condensed⟩ := advanced.condense
      obtain ⟨_, _, placed⟩ := placed.condense
      dsimp only at hr
      split at hr
      · exact condensed.finished t hr
      · exact ih condensed placed hr
    · cases hr

/-- The subtree of a whole text conforms to the grammar if it costs nothing. -/
theorem whole_of_parse? {t : Subtree text} (h : parse? text = some t) : t.Whole :=
  (lawful_initial text).whole_of_run (placed_initial text) h

end Machine

end CallContext
