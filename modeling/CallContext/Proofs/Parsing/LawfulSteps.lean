import CallContext.Proofs.Parsing.Links
import CallContext.Proofs.Parsing.Machine

/-!
# Steps of the machine follow the automaton

`Machine.Lawful` says that the stacks of all versions that have not ended follow the automaton, and
that a finished parse without faults is made as the grammar says (`Subtree.Whole`).  A shift
puts a token on the stack, which is a step of the automaton; a reduction replaces a walk of the
automaton by the step on the nonterminal that it makes; and when the text is accepted, a walk that
ends with a module is all that is on the stack.
-/

namespace CallContext

open Subtree

variable {text : List Char} {d : Chart} {all : Prop}

/-! ### Versions -/

namespace Version

/-- The stack of the version follows the automaton, unless the version has ended and not all
versions are asked to. -/
def Lawful (d : Chart) (all : Prop) (v : Version text) : Prop :=
  all ∨ v.isHalted = false → v.stack.Lawful d

theorem isHalted_of_isActive {v : Version text} (h : v.isActive = true) : v.isHalted = false := by
  unfold isActive at h
  unfold isHalted
  split at h
  · next active => rw [active]
  · cases h

namespace Lawful

variable {v w : Version text}

theorem mono {e : Chart} (h : v.Lawful d all) (hde : d ≤ e) : v.Lawful e all :=
  fun counts => (h counts).mono hde

/-- Nothing is asked of a version that has ended unless it is asked of all. -/
theorem of_imp {other : Prop} (h : v.Lawful d all) (imp : other → all) : v.Lawful d other :=
  fun counts => h (counts.imp_left imp)

theorem stack_of_all (h : v.Lawful d all) (counts : all) : v.stack.Lawful d := h (.inl counts)

theorem stack (h : v.Lawful d all) (active : v.isActive = true) : v.stack.Lawful d :=
  h (.inr (isHalted_of_isActive active))

theorem of_eq (h : v.Lawful d all) (stack : w.stack = v.stack) (status : w.status = v.status) :
    w.Lawful d all := by
  unfold Lawful isHalted
  rw [stack, status]
  exact h

theorem push (h : v.Lawful d all) {tree : Option (Subtree text)} {state : Nat}
    (law : Stack.Law state (v.stack, tree)) :
    (v.push d.bound state tree).Lawful (d.add state) all :=
  fun counts => Stack.Lawful.push (h counts) law

theorem merge (hv : v.Lawful d all) (hw : w.Lawful d all) (can : v.canMerge w = true) :
    (v.merge w).Lawful d all := by
  simp only [canMerge, Bool.and_eq_true, decide_eq_true_eq] at can
  exact fun _ => ((hv.stack can.1.1.1.1.1).join (hw.stack can.1.1.1.1.2) can.1.1.1.2).1

end Lawful

end Version

/-! ### Machines -/

/-- A parse of a whole text without faults: a module and what may stand anywhere, the end of the
text included. -/
structure Subtree.Complete (t : Subtree text) : Prop where
  symbol : t.symbol = ⟨108⟩
  labels : t.labels = Labels.none
  children : ∀ u ∈ t.children, u.Conforms ∨ ∃ token, u = leaf token true ∧
    token.symbol = Symbol.endOfText

/-- A parse of a whole text: it is shown, and made as the grammar says if it costs nothing.  If it
is no error, what stands in it is known. -/
structure Subtree.Whole (t : Subtree text) : Prop where
  shown : t.symbol.shown = true
  complete : t.cost = 0 → t.Complete
  closed : t.symbol = Symbol.error ∨ (∃ r : Reduction, r.labels = t.labels) ∧
    ∀ u ∈ t.children, u.Fair ∧ u.symbol ≠ Symbol.skipped ∨
      ∃ token, u = leaf token true ∧ token.symbol = Symbol.endOfText

namespace Machine

variable {m m' : Machine text} {rank i : Nat}

/-- The stacks that go on follow the automaton, the chart lists their vertices, and the finished
parse is one of the whole text. -/
structure Lawful (d : Chart) (all : Prop) (m : Machine text) : Prop where
  bound : d.bound = m.serial
  versions : ∀ v ∈ m.versions, v.Lawful d all
  finished : ∀ t ∈ m.finished, t.Whole

/-- The machine is lawful under a chart that extends `d`. -/
def Obeys (d : Chart) (all : Prop) (m : Machine text) : Prop := ∃ e, d ≤ e ∧ m.Lawful e all

theorem lawful_initial (text : List Char) : (initial text).Lawful ⟨1, fun _ => 1⟩ all := by
  refine ⟨rfl, ?_, by simp [initial]⟩
  simp only [initial, List.mem_singleton, forall_eq]
  exact fun _ => Stack.lawful_bottom text

theorem Lawful.obeys (h : m.Lawful d all) : m.Obeys d all := ⟨d, d.le_refl, h⟩

theorem Obeys.of_le {e : Chart} (h : m.Obeys e all) (hde : d ≤ e) : m.Obeys d all :=
  let ⟨f, hef, hf⟩ := h
  ⟨f, Chart.le_trans hde hef, hf⟩

/-- Where a machine came to, another one goes on. -/
theorem Obeys.trans {other : Prop} (h : m.Obeys d all)
    (k : ∀ e, d ≤ e → m.Lawful e all → m'.Obeys e other) : m'.Obeys d other :=
  let ⟨e, hde, he⟩ := h
  (k e hde he).of_le hde

namespace Lawful

theorem version (h : m.Lawful d all) {v : Version text} (hv : m.version? rank = some v) :
    v.Lawful d all :=
  h.versions v (List.mem_of_getElem? hv)

theorem change (h : m.Lawful d all) {f : Version text → Version text}
    (hf : ∀ v, m.version? rank = some v → (f v).Lawful d all) :
    (m.change rank f).Lawful d all :=
  ⟨h.bound, forall_mem_modify h.versions hf, h.finished⟩

theorem of_imp {other : Prop} (h : m.Lawful d all) (imp : other → all) : m.Lawful d other :=
  ⟨h.bound, fun v hv => (h.versions v hv).of_imp imp, h.finished⟩

/-- A version that has ended need not follow the automaton any more. -/
theorem halt (h : m.Lawful d False) (rank : Nat) :
    (m.change rank Version.halt).Lawful d False :=
  h.change fun _ _ counts => counts.elim False.elim fun live => nomatch live

theorem remove (h : m.Lawful d all) (rank : Nat) : (m.remove rank).Lawful d all :=
  ⟨h.bound, fun v hv => h.versions v (List.mem_of_mem_eraseIdx hv), h.finished⟩

theorem append (h : m.Lawful d all) {new : Version text} (hn : new.Lawful d all) :
    { m with versions := m.versions ++ [new] }.Lawful d all := by
  refine ⟨h.bound, fun v hv => ?_, h.finished⟩
  rcases List.mem_append.1 hv with hv | hv
  · exact h.versions v hv
  · exact List.mem_singleton.1 hv ▸ hn

theorem push (h : m.Lawful d all) {tree : Option (Subtree text)} {state : Nat}
    (law : ∀ v, m.version? rank = some v → Stack.Law state (v.stack, tree)) :
    (m.push rank tree state).Obeys d all := by
  refine ⟨d.add state, d.le_add _, congrArg (· + 1) h.bound, ?_, h.finished⟩
  refine forall_mem_modify (fun v hv => (h.versions v hv).mono (d.le_add _)) fun v hv => ?_
  rw [← h.bound]
  exact (h.version hv).push (law v hv)

theorem promote (h : m.Lawful d all) (source target : Nat) :
    (m.promote source target).Lawful d all := by
  unfold Machine.promote
  split
  · next new hn =>
    split
    · exact h
    · refine Lawful.remove (h.change fun v _ => ?_) source
      exact (h.version hn).of_eq rfl rfl
  · exact h

theorem merge? (h : m.Lawful d all) {target source : Nat} (hm : m.merge? target source = some m') :
    m'.Lawful d all := by
  unfold Machine.merge? at hm
  split at hm
  · next v w hv hw =>
    split at hm
    · next can =>
      cases hm
      refine Lawful.remove (h.change fun u hu => ?_) source
      obtain rfl := Option.some.inj (hu.symm.trans hv)
      exact (h.version hv).merge (h.version hw) can
    · cases hm
  · cases hm

theorem mergeAmong? (h : m.Lawful d all) {source low count : Nat}
    (hm : m.mergeAmong? source low count = some m') : m'.Lawful d all := by
  induction count generalizing low with
  | zero => cases hm
  | succ count ih =>
    unfold Machine.mergeAmong? at hm
    split at hm
    · next found =>
      cases hm
      exact h.merge? found
    · exact ih hm

theorem addVersion (h : m.Lawful d all) {new : Version text} (hn : new.Lawful d all) (apart : Nat) :
    (m.addVersion apart new).Lawful d all := by
  have added := h.append hn
  unfold Machine.addVersion
  dsimp only
  split
  · next hm => exact added.mergeAmong? hm
  · split
    · next hm => exact added.mergeAmong? hm
    · exact added

end Lawful

/-! ### A reduction leaves the version that it reduces -/

theorem version?_merge? {target source : Nat} (hm : m.merge? target source = some m')
    (hi : i < source) (hne : target ≠ i) : m'.version? i = m.version? i := by
  unfold Machine.merge? at hm
  split at hm
  · split at hm
    · cases hm
      simp [version?, remove, change, List.getElem?_eraseIdx_of_lt hi, hne]
    · cases hm
  · cases hm

theorem version?_mergeAmong? {source low count : Nat}
    (hm : m.mergeAmong? source low count = some m') (hi : i < source)
    (hne : i < low ∨ low + count ≤ i) : m'.version? i = m.version? i := by
  induction count generalizing low with
  | zero => cases hm
  | succ count ih =>
    unfold Machine.mergeAmong? at hm
    split at hm
    · next found =>
      cases hm
      exact version?_merge? found hi (by omega)
    · exact ih hm (by omega)

theorem version?_addVersion (new : Version text) (hr : rank < m.versions.length) :
    (m.addVersion rank new).version? rank = m.version? rank := by
  have same : { m with versions := m.versions ++ [new] }.version? rank = m.version? rank :=
    List.getElem?_append_left hr
  unfold Machine.addVersion
  dsimp only
  split
  · next hm => exact (version?_mergeAmong? hm hr (.inr (by omega))).trans same
  · split
    · next hm => exact (version?_mergeAmong? hm hr (.inl (by omega))).trans same
    · exact same

theorem version?_addReduced (v : Version text) (r : Reduction) (slice : Stack.Slice text)
    (hr : rank < m.versions.length) :
    (addReduced rank v r m slice).version? rank = m.version? rank := by
  unfold Machine.addReduced
  split
  · rfl
  · split
    · rfl
    · exact version?_addVersion _ hr

theorem version?_reduce (m : Machine text) (rank : Nat) (r : Reduction) :
    (m.reduce rank r).version? rank = m.version? rank := by
  unfold Machine.reduce
  split
  · next v hv =>
    let Kept (m' : Machine text) : Prop := m'.version? rank = m.version? rank
    refine List.foldlRecOn _ _ (motive := Kept) rfl fun m' same slice _ => ?_
    have inside : rank < m'.versions.length :=
      (List.getElem?_eq_some_iff.1 (same.trans hv)).1
    exact (version?_addReduced v r slice inside).trans same
  · rfl

/-! ### Reducing -/

/-- Subtrees that lead from one state to another, the first to the state and the others not out
of it. -/
def Laws (before after : Nat) : List (Subtree text) → Prop
  | [] => True
  | t :: ts => t.Law before after ∧ ∀ u ∈ ts, u.Law after after

theorem lawful_pushOnto {v : Version text} (h : v.stack.Lawful d) {state : Nat}
    {trees : List (Subtree text)} (laws : Laws v.stack.state state trees) :
    ∃ e, d ≤ e ∧ e.bound = (pushOnto v d.bound state trees).2 ∧
      (pushOnto v d.bound state trees).1.stack.Lawful e := by
  induction trees generalizing v d with
  | nil => exact ⟨d, d.le_refl, rfl, h⟩
  | cons t ts ih =>
    have law : Stack.Law state (v.stack, some t) := laws.1
    have pushed : (v.push d.bound state (some t)).stack.Lawful (d.add state) := h.push law
    have rest : Laws (v.push d.bound state (some t)).stack.state state ts := by
      cases ts with
      | nil => trivial
      | cons u us => exact List.forall_mem_cons.1 laws.2
    obtain ⟨e, hde, bound, lawful⟩ := ih pushed rest
    exact ⟨e, Chart.le_trans (d.le_add _) hde, bound, lawful⟩

/-- The same on a copy of a version that stands on another stack, for the numbers that a machine
gives out. -/
theorem Lawful.pushOnto_fork (h : m.Lawful d all) {base : Stack text} (hb : base.Lawful d)
    (v : Version text) {state : Nat} {trees : List (Subtree text)}
    (laws : Laws base.state state trees) :
    ∃ e, d ≤ e ∧ { m with serial := (pushOnto (v.fork base) m.serial state trees).2 }.Lawful e all ∧
      (pushOnto (v.fork base) m.serial state trees).1.Lawful e all := by
  obtain ⟨e, hde, bound, lawful⟩ := lawful_pushOnto (v := v.fork base) hb laws
  rw [h.bound] at bound lawful
  exact ⟨e, hde, ⟨bound, fun v hv => (h.versions v hv).mono hde, h.finished⟩, fun _ => lawful⟩

/-- An extra leaves every state as it is. -/
theorem law_extra {t : Subtree text} (fair : t.Fair) (extra : t.isExtra = true) (state : Nat) :
    t.Law state state where
  toFair := fair
  extra _ := rfl
  step solid := absurd extra (by simp [solid])
  lost skipped := absurd extra (by simp [fair.skipped skipped])

/-- What a reduction makes of a run leads to the next state, and the extras behind it stay
there. -/
theorem laws_subtree {before after : Nat} {r : Reduction} {token : Symbol}
    (hr : Act.reduce r ∈ Automaton.acts after token) {run : List (Subtree text)}
    (cut : Stack.Cut before after r.arity run) (place : Cursor text) :
    Laws before (Automaton.next before r.result)
      ((subtree r place run).1 :: (subtree r place run).2) := by
  obtain ⟨nonterminal, sound⟩ := Automaton.result_of_reduce hr
  obtain ⟨noError, noSkipped⟩ : r.result ≠ Symbol.error ∧ r.result ≠ Symbol.skipped := by
    simpa [Symbol.isFault] using sound
  have inRun : ∀ u ∈ (splitExtras run).1, u ∈ run := fun u hu => mem_splitExtras.1 (.inl hu)
  refine ⟨?_, fun u hu => ?_⟩
  · exact
      { conforms := fun free _ => conforms_subtree cut.toWalk hr cut.first place free
        pays := pays_build r.result r.labels r.precedence place _
        skipped := fun skipped => absurd skipped noSkipped
        error := fun error => absurd error noError
        loose := fun extra => by cases extra
        closed := .made ⟨r, rfl⟩
          (fun u hu => ⟨(cut.fair u (inRun u hu)).toKnown, cut.unskipped u (inRun u hu)⟩)
          fun u hu => (cut.fair u (inRun u hu)).closed
        extra := fun extra => by cases extra
        step := fun _ hn => .goto hn nonterminal
        lost := fun skipped => absurd skipped noSkipped }
  · exact law_extra (cut.fair u (mem_splitExtras.1 (.inr hu))) (extra_of_mem_splitExtras hu) _

theorem bestSubtree_eq (r : Reduction) (place : Cursor text) (run : List (Subtree text))
    (runs : List (List (Subtree text))) :
    ∃ best ∈ run :: runs, bestSubtree r place run runs = subtree r place best := by
  let Made (found : Subtree text × List (Subtree text)) : Prop :=
    ∃ best ∈ run :: runs, found = subtree r place best
  refine List.foldlRecOn runs _ (motive := Made) ⟨run, List.mem_cons_self, rfl⟩ ?_
  intro best made other hother
  dsimp only
  split
  · exact ⟨other, List.mem_cons_of_mem _ hother, rfl⟩
  · exact made

theorem Lawful.addReduced (h : m.Lawful d all) {after : Nat} {r : Reduction} {token : Symbol}
    (hr : Act.reduce r ∈ Automaton.acts after token) {slice : Stack.Slice text}
    (hs : slice.Lawful d after r.arity) (v : Version text) :
    (addReduced rank v r m slice).Obeys d all := by
  have hn : after ≠ 0 := by
    rintro rfl
    simpa using Automaton.acts_zero hr
  unfold Machine.addReduced
  split
  · exact h.obeys
  · next run runs found =>
    split
    · exact h.obeys
    · obtain ⟨best, member, made⟩ := bestSubtree_eq r slice.base.place run runs
      have cut := hs.cut hn best (found ▸ member)
      have laws := laws_subtree hr cut slice.base.place
      rw [← made] at laws
      obtain ⟨e, hde, grown, lawful⟩ := h.pushOnto_fork hs.base v laws
      exact ⟨e, hde, grown.addVersion lawful rank⟩

/-- A version can be reduced as its state says. -/
theorem Lawful.reduce (h : m.Lawful d all) {v : Version text} (hv : m.version? rank = some v)
    (hs : v.stack.Lawful d) {r : Reduction} {token : Symbol}
    (hr : Act.reduce r ∈ Automaton.acts v.stack.state token) : (m.reduce rank r).Obeys d all := by
  have slices := hs.lawful_pop m.fuel r.arity
  unfold Machine.reduce
  rw [hv]
  refine List.foldlRecOn _ _ (motive := Obeys d all) h.obeys fun m' obeys slice hs => ?_
  exact obeys.trans fun e hde hm' => hm'.addReduced hr ((slices slice hs).mono hde) v

/-! ### Shifting -/

/-- A token that is taken is a step of the automaton. -/
theorem law_shift {token : Token text} (spelled : token.Spelled) {before after : Nat}
    (hs : Act.shift after ∈ Automaton.acts before token.symbol) :
    (leaf token false).Law before after where
  conforms _ _ := by
    obtain ⟨noComment, noContinuation⟩ := Automaton.symbol_of_act hs (.inl rfl)
    exact ⟨spelled, Automaton.terminal_of_act hs, by simp [noComment, noContinuation]⟩
  pays nonterminal := absurd (Automaton.terminal_of_act hs) (Nat.not_lt.2 nonterminal)
  skipped _ := rfl
  error error := absurd error (Symbol.ne_error (Automaton.terminal_of_act hs))
  loose extra := by cases extra
  closed := closed_of_bare rfl rfl
  extra extra := nomatch extra
  step _ _ := .shift hs
  lost skipped := absurd skipped (Symbol.ne_skipped (Automaton.terminal_of_act hs))

/-- A token that may stand anywhere leaves the state as it is. -/
theorem law_shiftExtra {token : Token text} (spelled : token.Spelled) {state : Nat}
    (hs : Act.shiftExtra ∈ Automaton.acts state token.symbol) :
    (leaf token true).Law state state :=
  have terminal := Automaton.terminal_of_act hs
  have fair : (leaf token true).Fair :=
    { conforms := fun _ _ => ⟨spelled, terminal, by simp [Automaton.symbol_of_shiftExtra hs]⟩
      pays := fun nonterminal => absurd terminal (Nat.not_lt.2 nonterminal)
      skipped := fun skipped => absurd skipped (Symbol.ne_skipped terminal)
      error := fun error => absurd error (Symbol.ne_error terminal)
      loose := fun _ => by
        have symbol := Automaton.symbol_of_shiftExtra hs
        rcases symbol with symbol | symbol <;> exact (congrArg Symbol.isLoose symbol).trans rfl
      closed := closed_of_bare rfl rfl }
  law_extra fair rfl state

theorem Lawful.shift (h : m.Lawful d all) {token : Token text} {state : Nat} {extra : Bool}
    (law : ∀ v, m.version? rank = some v → (leaf token extra).Law v.stack.state state) :
    (m.shift rank state token extra).Obeys d all :=
  Obeys.trans (h.push law) fun _ _ pushed =>
    Lawful.obeys (pushed.change fun _ hv => (pushed.version hv).of_eq rfl rfl)

/-! ### Accepting -/

/-- The version at a rank has ended, and the others are as they were. -/
structure Ends (rank : Nat) (m m' : Machine text) : Prop where
  others : ∀ i, i ≠ rank → m'.version? i = m.version? i
  ended : ∀ v, m'.version? rank = some v → v.isHalted = true
  serial : m.serial ≤ m'.serial

theorem Lawful.ends (h : m.Lawful d False) (he : m.Ends rank m')
    (finished : ∀ t ∈ m'.finished, t.Whole) : m'.Obeys d False := by
  have hde : d ≤ ⟨m'.serial, d.offset⟩ := ⟨h.bound ▸ he.serial, fun _ _ => rfl⟩
  refine ⟨⟨m'.serial, d.offset⟩, hde, rfl, fun v hv counts => ?_, finished⟩
  -- a version that still counts is another one than that which has ended
  have live := counts.resolve_left id
  obtain ⟨i, hi⟩ := List.mem_iff_getElem?.1 hv
  by_cases hr : i = rank
  · subst hr
    rw [he.ended v hi] at live
    cases live
  · exact (h.version ((he.others i hr).symm.trans hi)).mono hde (.inr live)

theorem version?_push (m : Machine text) (rank : Nat) (tree : Option (Subtree text)) (state : Nat) :
    (m.push rank tree state).version? rank =
      (m.version? rank).map (·.push m.serial state tree) := by
  simp [push, version?, change]

theorem Ends.of_push {tree : Option (Subtree text)} {state : Nat}
    (h : (m.push rank tree state).Ends rank m') : m.Ends rank m' where
  others i hi := by
    rw [h.others i hi]
    simp [push, version?, change, Ne.symm hi]
  ended := h.ended
  serial := Nat.le_trans (Nat.le_succ _) h.serial

theorem finish_eq (m : Machine text) (trees : List (Subtree text)) :
    (m.finish trees).versions = m.versions ∧ (m.finish trees).serial = m.serial ∧
      ∀ t ∈ (m.finish trees).finished, t ∈ m.finished ∨ t ∈ root? trees := by
  unfold Machine.finish
  dsimp only
  split
  · next old new hold hnew =>
    split
    · refine ⟨rfl, rfl, fun t ht => .inr ?_⟩
      rw [hnew]
      exact ht
    · exact ⟨rfl, rfl, fun t ht => .inl ht⟩
  · exact ⟨rfl, rfl, fun t ht => .inr ht⟩
  · exact ⟨rfl, rfl, fun t ht => .inl ht⟩

theorem foldl_finish_eq (m : Machine text) (runs : List (List (Subtree text))) :
    (runs.foldl finish m).versions = m.versions ∧ (runs.foldl finish m).serial = m.serial ∧
      ∀ t ∈ (runs.foldl finish m).finished, t ∈ m.finished ∨ ∃ run ∈ runs, t ∈ root? run := by
  induction runs generalizing m with
  | nil => exact ⟨rfl, rfl, fun t ht => .inl ht⟩
  | cons run runs ih =>
    obtain ⟨versions, serial, finished⟩ := m.finish_eq run
    obtain ⟨versions', serial', finished'⟩ := ih (m.finish run)
    refine ⟨versions'.trans versions, serial'.trans serial, fun t ht => ?_⟩
    rcases finished' t ht with ht | ⟨other, member, ht⟩
    · rcases finished t ht with ht | ht
      · exact .inl ht
      · exact .inr ⟨run, List.mem_cons_self, ht⟩
    · exact .inr ⟨other, List.mem_cons_of_mem _ member, ht⟩

/-- What is accepted is the root of something that was on the stack of the version. -/
theorem accept_eq (m : Machine text) (rank : Nat) (token : Token text) :
    m.Ends rank (m.accept rank token) ∧
      ∀ t ∈ (m.accept rank token).finished, t ∈ m.finished ∨
        ∃ v, m.version? rank = some v ∧
          ∃ fuel, ∃ s ∈ (v.stack.push m.serial 1 (some (leaf token true))).popAll fuel,
            ∃ run ∈ s.runs, t ∈ root? run := by
  unfold Machine.accept
  dsimp only
  split
  · next v hv =>
    -- the stack with the end of the text on it is taken apart, and each run may become the parse
    rw [version?_push] at hv
    obtain ⟨w, hw, rfl⟩ := Option.map_eq_some_iff.1 hv
    generalize pushed : m.push rank (some (leaf token true)) 1 = m'
    generalize popped : (w.push m.serial 1 (some (leaf token true))).stack.popAll m'.fuel = slices
    generalize listed : slices.flatMap (·.runs) = runs
    obtain ⟨versions, serial, finished⟩ := foldl_finish_eq m' runs
    have kept : m'.finished = m.finished := pushed ▸ rfl
    have same : ((runs.foldl finish m').change rank Version.halt).finished =
        (runs.foldl finish m').finished := rfl
    rw [same, ← kept]
    refine ⟨(?_ : (m.push rank (some (leaf token true)) 1).Ends rank _).of_push, fun t ht => ?_⟩
    · rw [pushed]
      refine ⟨fun i hi => ?_, fun v hv => ?_, ?_⟩
      · simp [version?, change, Ne.symm hi, versions]
      · simp only [version?, change, List.getElem?_modify, if_true] at hv
        obtain ⟨u, -, rfl⟩ := Option.map_eq_some_iff.1 hv
        rfl
      · exact Nat.le_of_eq serial.symm
    · rcases finished t ht with ht | ⟨run, member, ht⟩
      · exact .inl ht
      · obtain ⟨s, hs, hr⟩ := List.mem_flatMap.1 (listed ▸ member)
        exact .inr ⟨w, hw, m'.fuel, s, popped ▸ hs, run, hr, ht⟩
  · next hv =>
    exact ⟨Ends.of_push ⟨fun _ _ => rfl, fun v hv' => absurd hv' (by simp [hv]),
      Nat.le_refl _⟩, fun t ht => .inl ht⟩

/-- The root of a whole text is made of its last subtree that is no extra. -/
theorem root?_eq {trees : List (Subtree text)} {root : Subtree text} (h : root? trees = some root) :
    ∃ before t after, trees = before ++ t :: after ∧ t.isExtra = false ∧
      (∀ u ∈ after, u.isExtra = true) ∧
      root = build t.symbol t.labels 0 t.left (before ++ t.children ++ after) := by
  unfold root? at h
  dsimp only at h
  split at h
  · cases h
  · next t before found =>
    cases h
    refine ⟨before.reverse, t, (trees.reverse.takeWhile isExtra).reverse, ?_, ?_, ?_, rfl⟩
    · have whole := List.takeWhile_append_dropWhile (p := isExtra) (l := trees.reverse)
      rw [found] at whole
      have := congrArg List.reverse whole
      simpa using this.symm
    · have first := List.head?_dropWhile_not isExtra trees.reverse
      rw [found] at first
      simpa using first
    · intro u hu
      exact List.all_eq_true.1 List.all_takeWhile u (List.mem_reverse.1 hu)

/-- The same with a last extra, which belongs to the root. -/
theorem root?_concat {front : List (Subtree text)} {last root : Subtree text}
    (extra : last.isExtra = true) (h : root? (front ++ [last]) = some root) :
    ∃ before t after, front = before ++ t :: after ∧ t.isExtra = false ∧
      (∀ u ∈ after, u.isExtra = true) ∧
      root = build t.symbol t.labels 0 t.left (before ++ t.children ++ (after ++ [last])) := by
  obtain ⟨before, t, after, split, solid, extras, rfl⟩ := root?_eq h
  rcases List.eq_nil_or_concat after with rfl | ⟨inner, u, rfl⟩
  · obtain ⟨-, tail⟩ := List.append_inj' split rfl
    cases tail
    exact absurd extra (by simp [solid])
  · have whole : front ++ [last] = (before ++ t :: inner) ++ [u] := by simpa using split
    obtain ⟨rfl, tail⟩ := List.append_inj' whole rfl
    cases tail
    exact ⟨before, t, inner, rfl, solid, fun u hu => extras u (by simp [hu]), by simp⟩

/-- A walk that ends where the text is accepted, with the end of the text behind it, is a parse of
the whole text. -/
theorem whole_of_root? {before after depth : Nat} {front : List (Subtree text)}
    (walk : Walk before after depth front) {token : Token text}
    (ha : Act.accept ∈ Automaton.acts after token.symbol) {root : Subtree text}
    (hr : root? (front ++ [leaf token true]) = some root) : root.Whole := by
  obtain ⟨ended, module⟩ := Automaton.symbols_of_accept ha
  obtain ⟨first, t, last, rfl, solid, extras, rfl⟩ := root?_concat rfl hr
  -- the state that accepts is reached over a module only
  have symbol : t.symbol = ⟨108⟩ := by
    have seen := walk.sees_symbols
    rw [symbols, solid_append, solid_cons_of_solid solid,
      solid_of_extras extras, List.map_append,
      List.map_cons, List.map_nil, List.reverse_append, List.reverse_singleton,
      List.singleton_append] at seen
    exact module seen
  -- a module is no fault, so that its own children are known as well
  have below : (∃ r : Reduction, r.labels = t.labels) ∧
      ∀ u ∈ t.children, u.Fair ∧ u.symbol ≠ Symbol.skipped := by
    cases (walk.fair t (by simp)).closed with
    | fault fault => exact absurd fault (by rw [symbol]; decide)
    | made labels known closed =>
      exact ⟨labels, fun u hu => ⟨⟨(known u hu).1, closed u hu⟩, (known u hu).2⟩⟩
  have known : ∀ u ∈ first ++ t.children ++ (last ++ [leaf token true]),
      u.Fair ∧ u.symbol ≠ Symbol.skipped ∨
        ∃ token, u = leaf token true ∧ token.symbol = Symbol.endOfText := by
    intro u hu
    simp only [List.mem_append, List.mem_singleton] at hu
    rcases hu with (hu | hu) | hu | rfl
    · exact .inl ⟨walk.fair u (by simp [hu]), walk.unskipped u (by simp [hu])⟩
    · exact .inl (below.2 u hu)
    · exact .inl ⟨walk.fair u (by simp [hu]), walk.unskipped u (by simp [hu])⟩
    · exact .inr ⟨token, rfl, ended⟩
  refine ⟨(congrArg Symbol.shown symbol).trans (by decide), fun free => ?_, .inr ⟨below.1, known⟩⟩
  obtain ⟨sound, bearable⟩ := cost_build_eq_zero.1 free
  refine ⟨symbol, ?_, fun u hu => (known u hu).imp_left fun inner =>
    inner.1.conforms ((bearable u hu).resolve_left inner.2) inner.2⟩
  have made : t.Conforms := by
    refine walk.conforms_of_bearable (by simp) (.inr ?_)
    refine (walk.fair t (by simp)).pays (by rw [symbol]; decide) sound fun child hc => ?_
    exact bearable child (by simp [hc])
  cases t with
  | leaf => rfl
  | missing => rfl
  | node =>
    obtain ⟨-, ⟨⟨r, rfl, rfl, admitted⟩, -, -⟩, -⟩ := made
    exact Reduction.labels_of_module symbol admitted

theorem Lawful.accept (h : m.Lawful d False) {token : Token text}
    (ha : ∀ v, m.version? rank = some v → v.isHalted = false ∧
      Act.accept ∈ Automaton.acts v.stack.state token.symbol) :
    (m.accept rank token).Obeys d False := by
  obtain ⟨ends, finished⟩ := m.accept_eq rank token
  refine h.ends ends fun t ht => ?_
  rcases finished t ht with ht | ⟨v, hv, fuel, s, hs, run, hr, root⟩
  · exact h.finished t ht
  · obtain ⟨live, accepts⟩ := ha v hv
    have hn : v.stack.state ≠ 0 := fun zero => by
      rw [zero] at accepts
      simpa using Automaton.acts_zero accepts
    obtain ⟨before, depth, front, rfl, walk⟩ :=
      (h.version hv (.inr live)).walk_of_popAll hn rfl hs hr
    exact whole_of_root? walk accepts root

/-- A parse that ends in an error is never without cost. -/
theorem Lawful.acceptFault (h : m.Lawful d False) (place : Cursor text) (state : Nat)
    (token : Token text) :
    ((m.push rank (some (build Symbol.error Labels.none 0 place [])) state).accept
      rank token).Obeys d False := by
  obtain ⟨ends, finished⟩ := accept_eq
    (m.push rank (some (build Symbol.error Labels.none 0 place [])) state) rank token
  refine h.ends ends.of_push fun t ht => ?_
  rcases finished t ht with ht | ⟨v, hv, fuel, s, hs, run, hr, root⟩
  · exact h.finished t ht
  · rw [version?_push] at hv
    obtain ⟨w, -, rfl⟩ := Option.map_eq_some_iff.1 hv
    obtain ⟨front, rfl⟩ := Stack.suffix_of_popAll hs hr
    -- nothing but extras stands behind the subtree that the root is made of
    have whole : front ++ [build Symbol.error Labels.none 0 place [], leaf token true] =
        (front ++ [build Symbol.error Labels.none 0 place []]) ++ [leaf token true] := by simp
    rw [whole] at root
    obtain ⟨before, u, after, split, -, extras, rfl⟩ := root?_concat rfl root
    rcases List.eq_nil_or_concat after with rfl | ⟨inner, last, rfl⟩
    · obtain ⟨-, tail⟩ := List.append_inj' split rfl
      cases tail
      exact ⟨(by decide : Symbol.error.shown = true),
        fun free => (nomatch (cost_build_eq_zero.1 free).1), .inl rfl⟩
    · have whole : front ++ [build Symbol.error Labels.none 0 place []] =
          (before ++ u :: inner) ++ [last] := by simpa using split
      obtain ⟨-, tail⟩ := List.append_inj' whole rfl
      cases tail
      cases extras (build Symbol.error Labels.none 0 place []) (by simp)

end Machine

end CallContext
