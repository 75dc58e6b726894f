import CallContext.Proofs.Parsing.LawfulSteps
import CallContext.Proofs.Parsing.Recovery

/-!
# Recovery follows the automaton

What is done about an error is not a walk of the automaton, but all that it puts on a stack is
known by its symbol: skipped text leads to the state of the error recovery, an error is an extra,
and a missing token is a step that costs.  So the stacks of all versions still follow the
automaton (`Machine.Lawful.handleError`).

Before the recovery itself no version ends.  Up to there all stacks are known to follow the
automaton (`Machine.Lawful d True`), so that each version can be reduced.
-/

namespace CallContext

open Subtree

variable {text : List Char} {d : Chart} {all : Prop}

namespace Machine

variable {m m' : Machine text} {rank : Nat}

/-! ### Reducing as far as possible -/

theorem mem_acts_of_prospects {state : Nat} {ahead : Symbol} {act : Act}
    (h : act ∈ prospects state ahead) : ∃ token, act ∈ Automaton.acts state token := by
  unfold prospects at h
  split at h
  · obtain ⟨token, -, found⟩ := List.mem_flatMap.1 h
    exact ⟨token, found⟩
  · exact ⟨ahead, h⟩

theorem mem_of_mem_reductions {acts : List Act} {r : Reduction} (h : r ∈ reductions acts) :
    Act.reduce r ∈ acts := by
  let Known (found : List Reduction) : Prop := ∀ r ∈ found, Act.reduce r ∈ acts
  have known : Known (reductions acts) := by
    refine List.foldlRecOn acts _ (motive := Known) (by simp [Known]) fun found hf act ha => ?_
    cases act with
    | reduce r =>
      dsimp only
      split
      · intro r' hr'
        rcases List.mem_append.1 hr' with hr' | hr'
        · exact hf r' hr'
        · exact List.mem_singleton.1 hr' ▸ ha
      · exact hf
    | _ => exact hf
  exact known r h

/-- A version can be reduced in all ways that its state knows for some token. -/
theorem Lawful.reduceEach (h : m.Lawful d all) {v : Version text} (hv : m.version? rank = some v)
    (hs : v.stack.Lawful d) {rs : List Reduction}
    (hr : ∀ r ∈ rs, ∃ token, Act.reduce r ∈ Automaton.acts v.stack.state token)
    (last : Option Nat) : (reduceEach rank rs m last).1.Obeys d all := by
  induction rs generalizing d m last with
  | nil => exact h.obeys
  | cons r rs ih =>
    obtain ⟨⟨token, first⟩, rest⟩ := List.forall_mem_cons.1 hr
    exact (h.reduce hv hs first).trans fun e hde reduced =>
      ih reduced ((version?_reduce m rank r).trans hv) (hs.mono hde) rest _

theorem Lawful.reduceRound (h : m.Lawful d True) (inside : rank < m.versions.length)
    (ahead : Symbol) :
    (Machine.reduceEach rank (reductions (prospects (m.state rank) ahead)) m none).1.Obeys
      d True := by
  obtain ⟨v, hv⟩ : ∃ v, m.version? rank = some v := ⟨_, List.getElem?_eq_getElem inside⟩
  refine h.reduceEach hv (h.version hv (.inl trivial)) (fun r hr => ?_) none
  have state : m.state rank = v.stack.state := by rw [Machine.state, hv]
  rw [state] at hr
  exact mem_acts_of_prospects (mem_of_mem_reductions hr)

theorem Lawful.reduceAll (h : m.Lawful d True) (first low : Nat) (ahead : Symbol)
    (fuel rank round : Nat) (able : Bool) :
    (reduceAll first low ahead fuel rank round able m).2.Obeys d True := by
  -- no round lets a version end, so that the next one can be reduced as well
  induction fuel generalizing d m rank round able with
  | zero => exact h.obeys
  | succ fuel ih =>
    unfold Machine.reduceAll
    dsimp only
    split
    · exact h.obeys
    · next inside =>
      split
      · next merged => exact ih (h.mergeAmong? merged) ..
      · have each := h.reduceRound (Nat.lt_of_not_le inside) ahead
        rcases he : Machine.reduceEach rank (reductions (prospects (m.state rank) ahead)) m none
          with ⟨reduced, added⟩
        rw [he] at each
        refine each.trans fun e _ lawful => ?_
        have removed : (if ahead = Symbol.endOfText then reduced else reduced.remove rank).Lawful
            e True := by
          split
          · exact lawful
          · exact lawful.remove rank
        dsimp only
        split
        · exact ih lawful ..
        · split
          · exact ih (lawful.promote ..) ..
          · exact ih removed ..
        · exact ih removed ..

theorem Lawful.reduceFully (h : m.Lawful d True) (rank : Nat) (ahead : Symbol) :
    (m.reduceFully rank ahead).2.Obeys d True :=
  h.reduceAll ..

/-! ### Comparing with the other versions -/

theorem Lawful.settle (h : m.Lawful d all) (rank : Nat) :
    (m.change rank Version.settle).Lawful d all :=
  h.change fun _ hv => (h.version hv).of_eq rfl rfl

theorem Lawful.betterExists (h : m.Lawful d all) (rank cost : Nat) :
    (m.betterExists rank cost).2.Lawful d all := by
  unfold Machine.betterExists
  split
  · exact h
  · have settled := h.settle rank
    dsimp only
    split
    · refine ⟨settled.bound, fun w hw => ?_, settled.finished⟩
      obtain ⟨u, hu, rfl | rfl⟩ := (outdone_versions ..).2 w hw
      · exact settled.versions _ hu
      · exact (settled.versions u hu).of_eq rfl rfl
    · exact settled

/-! ### Going on from a lower state -/

theorem laws_of_extras {state : Nat} {trees : List (Subtree text)}
    (h : ∀ t ∈ trees, t.Fair ∧ t.isExtra = true) : Laws state state trees := by
  cases trees with
  | nil => trivial
  | cons t ts =>
    obtain ⟨⟨fair, extra⟩, rest⟩ := List.forall_mem_cons.1 h
    exact ⟨law_extra fair extra state, fun u hu => law_extra (rest u hu).1 (rest u hu).2 state⟩

/-- The last extras do not reach further back than something else stands. -/
theorem mem_of_mem_splitExtras {front back : List (Subtree text)} {last t : Subtree text}
    (hl : last ∈ front.getLast?) (solid : last.isExtra = false)
    (h : t ∈ (splitExtras (front ++ back)).2) : t ∈ back := by
  obtain ⟨before, rfl⟩ := List.getLast?_eq_some_iff.1 hl
  rw [splitExtras_eq, List.mem_reverse, List.reverse_append, List.reverse_append,
    List.reverse_singleton, List.takeWhile_append] at h
  split at h
  · rw [List.singleton_append, List.takeWhile_cons_of_neg (by simp [solid]), List.append_nil,
      List.mem_reverse] at h
    exact h
  · exact List.mem_reverse.1 ((List.takeWhile_sublist _).subset h)

/-- What is skipped on the way to a vertex begins at that vertex, or at the one below an error,
which has the same state. -/
theorem fair_skipped {slice : Stack.Slice text} {after depth : Nat}
    (hs : slice.Lawful d after depth) {run : List (Subtree text)} (hr : run ∈ slice.runs)
    {base : Stack text} {skipped : List (Subtree text)}
    (h : (match slice.base.links.find? fun l => l.2.any (·.symbol = Symbol.error) with
      | some (below, some t) => (below, t.children ++ run)
      | _ => (slice.base, run)) = (base, skipped)) :
    base.Lawful d ∧ base.state = slice.base.state ∧
      ∀ t ∈ (splitExtras skipped).2, t.Fair := by
  split at h
  · next below t found =>
    have link := List.mem_of_find?_eq_some found
    have law : t.Law below.state slice.base.state := hs.base.law_link link
    cases h
    -- an error is an extra, so the state below it is the same, and it ends with no extra
    have error : t.symbol = Symbol.error := by simpa using List.find?_some found
    obtain ⟨extra, last, hl, solid⟩ := law.error error
    refine ⟨hs.base.link link, (law.extra extra).symm, fun u hu => ?_⟩
    exact hs.fair run hr u (mem_of_mem_splitExtras hl solid hu)
  · cases h
    exact ⟨hs.base, rfl, fun u hu => hs.fair run hr u (mem_splitExtras.1 (.inr hu))⟩

/-- A stretch of text outside the grammar is an extra. -/
theorem fair_stretch {place : Cursor text} {children : List (Subtree text)}
    {last : Subtree text} (hl : last ∈ children.getLast?) (solid : last.isExtra = false) :
    ((build Symbol.error Labels.none 0 place children).withExtra true).Fair where
  conforms free _ := by
    change (build Symbol.error Labels.none 0 place children).cost = 0 at free
    cases (cost_build_eq_zero.1 free).1
  pays _ sound := by cases sound
  skipped skipped := by cases skipped
  error _ := ⟨rfl, last, hl, solid⟩
  loose _ := rfl
  closed := .fault rfl

theorem laws_stretch {state : Nat} {place : Cursor text} {skipped : List (Subtree text)}
    (fair : ∀ t ∈ (splitExtras skipped).2, t.Fair) :
    Laws state state
      (if (splitExtras skipped).1.isEmpty then (splitExtras skipped).2
      else (build Symbol.error Labels.none 0 place (splitExtras skipped).1).withExtra true ::
        (splitExtras skipped).2) := by
  have extras : ∀ t ∈ (splitExtras skipped).2, t.Fair ∧ t.isExtra = true :=
    fun t ht => ⟨fair t ht, extra_of_mem_splitExtras ht⟩
  refine laws_of_extras ?_
  split
  · exact extras
  · next some =>
    refine List.forall_mem_cons.2 ⟨⟨?_, rfl⟩, extras⟩
    have ne : (splitExtras skipped).1 ≠ [] := by simpa using some
    have last := List.getLast?_eq_some_getLast ne
    exact fair_stretch last (last_splitExtras last)

theorem Lawful.recoverSlice (h : m.Lawful d all) {slice : Stack.Slice text} {after depth : Nat}
    (hs : slice.Lawful d after depth) (v : Version text) (goal : Nat) :
    (recoverSlice v goal m slice).Obeys d all := by
  unfold Machine.recoverSlice
  split
  · next run _ same hr =>
    have member : run ∈ slice.runs := hr ▸ List.mem_cons_self
    split
    next base skipped found =>
    obtain ⟨lawful, state, fair⟩ := fair_skipped hs member found
    obtain rfl : base.state = goal := state.trans (by simpa using same)
    obtain ⟨e, hde, grown, lawful⟩ := h.pushOnto_fork lawful v (laws_stretch fair)
    exact ⟨e, hde, grown.append lawful⟩
  · exact h.obeys

theorem Lawful.recoverAtFoothold (h : m.Lawful d all) {v : Version text}
    (hv : v.stack.Lawful d) (rank : Nat) (token : Token text) (count : Nat)
    (footholds : List (Stack.Foothold text)) :
    (recoverAtFoothold rank v token count footholds m).2.Obeys d all := by
  induction footholds generalizing d m with
  | nil => exact h.obeys
  | cons f more ih =>
    unfold Machine.recoverAtFoothold
    dsimp only
    split
    · exact ih h hv
    · have better := h.betterExists rank (v.cost + f.depth * costs.skippedTree +
        (v.stack.place.offset - f.place.offset) * costs.skippedByte +
        (v.stack.place.line - f.place.line) * costs.skippedLine)
      split
      · next found =>
        rw [found] at better
        exact better.obeys
      · next m' found =>
        rw [found] at better
        split
        · exact ih better hv
        · generalize f.depth + (if 0 < v.since then 1 else 0) = depth
          have slices : ((v.stack.pop m'.fuel depth).foldl
              (Machine.recoverSlice v f.state) m').Obeys d all := by
            refine List.foldlRecOn _ _ (motive := Obeys d all) better.obeys ?_
            intro n obeys slice hs
            exact obeys.trans fun e hde lawful =>
              lawful.recoverSlice ((hv.lawful_pop m'.fuel depth slice hs).mono hde) v f.state
          split
          · exact slices
          · exact slices.trans fun e hde lawful => ih lawful (hv.mono hde)

/-! ### Skipping a token -/

/-- Skipped text leads to the state of the error recovery. -/
theorem law_skipped (place : Cursor text) (children : List (Subtree text)) (before : Nat) :
    (build Symbol.skipped Labels.none 0 place children).Law before 0 where
  conforms _ skipped := absurd rfl skipped
  pays _ sound := by cases sound
  skipped _ := rfl
  error error := by cases error
  loose extra := by cases extra
  closed := .fault rfl
  extra extra := by cases extra
  step _ hn := absurd rfl hn
  lost _ := rfl

theorem Lawful.skipToken (h : m.Lawful d all) {v : Version text} (hv : v.stack.Lawful d)
    (token : Token text) : (m.skipToken rank v token).Obeys d all := by
  have pushed {m' : Machine text} (lawful : m'.Lawful d all) (place : Cursor text)
      (children : List (Subtree text)) :
      ((m'.push rank (some (build Symbol.skipped Labels.none 0 place children)) 0).change rank
        fun v => { v with layout := token.layout <|> v.layout }).Obeys d all := by
    have skipped : (m'.push rank (some (build Symbol.skipped Labels.none 0 place children))
        0).Obeys d all := lawful.push fun _ _ => law_skipped place children _
    exact skipped.trans fun _ _ pushed =>
      Lawful.obeys (pushed.change fun _ hv => (pushed.version hv).of_eq rfl rfl)
  unfold Machine.skipToken
  dsimp only
  split
  · split
    · next base run _ _ found =>
      have popped := hv.lawful_pop m.fuel 1 ⟨base, run :: _⟩ (found ▸ List.mem_cons_self)
      exact pushed (h.change fun _ _ _ => popped.base) ..
    · exact pushed h ..
  · exact pushed h ..

/-! ### Recovery -/

theorem Lawful.recover (h : m.Lawful d False)
    (hs : ∀ v, m.version? rank = some v → v.stack.Lawful d) (token : Token text) :
    (m.recover rank token).Obeys d False := by
  have settled := h.settle rank
  unfold Machine.recover
  dsimp only
  split
  · exact settled.obeys
  · next v hv =>
    have stack : v.stack.Lawful d := by
      rw [version?_change] at hv
      obtain ⟨u, hu, rfl⟩ := Option.map_eq_some_iff.1 hv
      rw [if_pos rfl]
      exact hs u hu
    have recovered := settled.recoverAtFoothold stack rank token
      (m.change rank Version.settle).versions.length
      (if token.symbol = Symbol.error then [] else v.footholds.getD [])
    generalize Machine.recoverAtFoothold rank v token
      (m.change rank Version.settle).versions.length
      (if token.symbol = Symbol.error then [] else v.footholds.getD [])
      (m.change rank Version.settle) = result at recovered
    obtain ⟨found, m'⟩ := result
    refine recovered.trans fun e hde lawful => ?_
    dsimp only at lawful ⊢
    split
    · exact (lawful.halt rank).obeys
    · split
      · -- at the end of the text all that is left becomes an error
        exact lawful.acceptFault ..
      · -- else the token is skipped, unless that is more than another version costs
        have better := lawful.betterExists rank (v.cost + costs.skippedTree +
          (token.stop.offset - token.left.offset) * costs.skippedByte +
          (token.stop.line - token.left.line) * costs.skippedLine)
        split
        · next n found =>
          rw [found] at better
          exact (better.halt rank).obeys
        · next n found =>
          rw [found] at better
          exact better.skipToken (stack.mono hde) token

/-- A missing token that the automaton has a step for. -/
theorem law_missing {absent : Symbol} (terminal : absent.code < Symbol.terminalCount)
    {before : Nat} (hn : Automaton.next before absent ≠ 0)
    (hb : Automaton.next before absent ≠ before) (place : Cursor text) :
    (missing absent place).Law before (Automaton.next before absent) where
  conforms free := by cases free
  pays nonterminal := absurd terminal (Nat.not_lt.2 nonterminal)
  skipped skipped := absurd skipped (Symbol.ne_skipped terminal)
  error error := absurd error (Symbol.ne_error terminal)
  loose extra := by cases extra
  closed := closed_of_bare rfl rfl
  extra extra := by cases extra
  step _ _ := Automaton.step_next hn hb
  lost skipped := absurd skipped (Symbol.ne_skipped terminal)

theorem Lawful.supply (h : m.Lawful d True) (rank : Nat) (token : Token text)
    {absent : List Symbol} (terminal : ∀ s ∈ absent, s.code < Symbol.terminalCount) :
    (supply rank token absent m).2.Obeys d True := by
  induction absent generalizing d m with
  | nil => exact h.obeys
  | cons symbol more ih =>
    obtain ⟨first, rest⟩ := List.forall_mem_cons.1 terminal
    unfold Machine.supply
    split
    · exact h.obeys
    · next v hv =>
      dsimp only
      split
      · next usable _ =>
        obtain ⟨hn, hb⟩ : Automaton.next v.stack.state symbol ≠ 0 ∧
            Automaton.next v.stack.state symbol ≠ v.stack.state := by simpa using usable
        have copied : Version.Lawful d True { v with footholds := none } :=
          (h.version hv).of_eq rfl rfl
        have pushed : ({ m with versions := m.versions ++ [{ v with footholds := none }] }.push
            m.versions.length (some (.missing symbol v.stack.place))
            (Automaton.next v.stack.state symbol)).Obeys d True := by
          refine (h.append copied).push fun w hw => ?_
          obtain rfl := Option.some.inj (List.getElem?_concat_length.symm.trans hw)
          exact law_missing first hn hb v.stack.place
        have reduced := pushed.trans fun e _ lawful =>
          lawful.reduceFully m.versions.length token.symbol
        split
        · next found =>
          rw [found] at reduced
          exact reduced
        · next found =>
          rw [found] at reduced
          exact reduced.trans fun e _ lawful => ih lawful rest
      · exact ih h rest

theorem terminal_of_mem_tokens {s : Symbol} (h : s ∈ tokens) : s.code < Symbol.terminalCount := by
  obtain ⟨n, hn, rfl⟩ := List.mem_map.1 h
  have := List.mem_range.1 hn
  change n + 1 < Symbol.terminalCount
  omega

theorem Lawful.markErrors (h : m.Lawful d True) (token : Token text) (ranks : List Nat)
    (supplied : Bool) : (markErrors token ranks supplied m).Obeys d True := by
  induction ranks generalizing d m supplied with
  | nil => exact h.obeys
  | cons rank more ih =>
    have supply :
        (if supplied then (true, m) else Machine.supply rank token tokens m).2.Obeys d True := by
      split
      · exact h.obeys
      · exact h.supply rank token fun _ => terminal_of_mem_tokens
    unfold Machine.markErrors
    generalize (if supplied then (true, m) else Machine.supply rank token tokens m) = result
      at supply
    refine supply.trans fun e _ lawful => ?_
    have marked : (result.2.push rank none 0).Obeys e True := lawful.push fun _ _ => rfl
    exact marked.trans fun _ _ lawful => ih lawful _

theorem Lawful.mergeMany (h : m.Lawful d all) (rank low count : Nat) :
    (mergeMany rank low count m).Lawful d all := by
  induction count generalizing m with
  | zero => exact h
  | succ count ih =>
    unfold Machine.mergeMany
    cases hm : m.merge? rank low with
    | none => exact ih h
    | some m' => exact ih (h.merge? hm)

/-- An error can be dealt with while no version has ended. -/
theorem Lawful.handleError (h : m.Lawful d True) (rank : Nat) (token : Token text) :
    (m.handleError rank token).Obeys d False := by
  unfold Machine.handleError
  dsimp only
  refine (h.reduceFully rank Symbol.endOfText).trans fun e _ reduced => ?_
  generalize (m.reduceFully rank Symbol.endOfText).2 = n at reduced ⊢
  refine (reduced.markErrors token
    (rank :: (List.range (n.versions.length - m.versions.length)).map (m.versions.length + ·))
    false).trans fun f _ marked => ?_
  have merged := marked.mergeMany rank m.versions.length (n.versions.length - m.versions.length)
  -- from here on versions may end, but the one at the rank still follows the automaton
  generalize Machine.mergeMany rank m.versions.length (n.versions.length - m.versions.length) _ = k
    at merged ⊢
  have resumed : (k.change rank
      fun v => { v with footholds := some (v.stack.summary k.fuel) }).Lawful f True :=
    merged.change fun v hv => (merged.version hv).of_eq rfl rfl
  exact (resumed.of_imp False.elim).recover (fun v hv => resumed.version hv (.inl trivial)) token

end Machine

end CallContext
