import TapeMachine.Proofs.Live.Session

/-!
# The drivers of a machine agree

A machine can be run, stepped, iterated and shown live, and each of these looks at halting, at
the limit and at what the table says in an order of its own.  Yet all of them go along the
same path.  `AgreeAt` says what a step and the next round of an iteration do where a run emits
a configuration, and `Call.visits` what machines a call passes through.  Calls of all kinds
mixed, on a machine that a run has left somewhere, walk along the path (`Walk`), so that the
machines at which they arrive are those behind, one after another: `drivers_agree`.
-/

namespace TapeMachine.Machine

section

variable {σ : Type} [Symbol σ] {m : Machine σ} {t : Tape σ} {j k l : Nat}

/-! ### The next round of an iteration -/

theorem next_of_halted (hh : m.isHalted) : m.next = ⟨.ok .stop, m, []⟩ := by
  rw [next, nextTo, if_pos hh]

theorem next_of_failed (ht : m.tape = some t) {f : Fault} (he : m.ending? = some (.error f)) :
    m.next.result = .error f ∧ m.next.machine = m := by
  rcases step_cases ht with ⟨-, hn, -⟩ | ⟨hh, hn, hs⟩ | ⟨hh, g, events, -, hn, hs⟩ | ⟨-, hn, -⟩
  · rw [hn] at he; simp at he
  · obtain rfl : m.stuckFault = f := by rw [hn] at he; simpa using he
    rw [next, nextTo, if_neg hh, stepTo_false, hs]
    exact ⟨rfl, rfl⟩
  · obtain rfl : g = f := by rw [hn] at he; simpa using he
    rw [next, nextTo, if_neg hh, stepTo_false, hs]
    exact ⟨rfl, rfl⟩
  · rw [hn] at he; contradiction

theorem next_of_goesOn (ht : m.tape = some t) (he : m.ending? = none) {c : Configuration σ}
    (hc : m.step.machine.configuration = .ok c) :
    m.next.result = .ok (.shown c) ∧ m.next.machine = m.step.machine := by
  obtain ⟨hh, s, a, x, d, events, -, -, -, -, hs⟩ := exists_step_of_goesOn ht he
  rw [next, nextTo, if_neg hh, stepTo_false]
  rw [hs] at hc ⊢
  by_cases hn : (m.moved t a.nextState x d).isHalted <;> simp [hn, hc, Except.map]

/-! ### Agreement at one configuration -/

/-- **The drivers agree at a machine** where a run emits `c`: on how the run ends there, and if it
goes on, on the machine behind it and the configuration that is emitted then. -/
structure AgreeAt (m behind : Machine σ) (c : Configuration σ)
    (ending : Option (Except Fault (Configuration σ))) (c'? : Option (Configuration σ)) : Prop where
  configuration : m.configuration = .ok c
  goesOn : ending = none → ∃ c', c'? = some c' ∧
    m.step.result = .ok (if behind.isHalted then .halted else .running) ∧
    m.step.machine = behind ∧ m.next.result = .ok (.shown c') ∧ m.next.machine = behind
  halted : ∀ d, ending = some (.ok d) → d = c ∧
    m.step = ⟨.ok .halted, m, []⟩ ∧ m.next = ⟨.ok .stop, m, []⟩
  failed : ∀ f, ending = some (.error f) →
    m.step.machine = m ∧ m.next.result = .error f ∧ m.next.machine = m
  stuck : ∀ state symbol, ending = some (.error (.unmapped state symbol)) →
    m.step = ⟨.ok .unmapped, m, []⟩

theorem agreeAt (ht : m.tape = some t) {c : Configuration σ} (hc : m.configuration = .ok c)
    {c'? : Option (Configuration σ)} (hc' : m.ending? = none →
      ∃ c', c'? = some c' ∧ m.step.machine.configuration = .ok c') :
    m.AgreeAt m.step.machine c (m.endingAt c) c'? := by
  have hend : ∀ f, m.endingAt c = some (.error f) → m.ending? = some (.error f) := by
    intro f hf
    cases he : m.ending? with
    | none => simp [endingAt, he] at hf
    | some e => cases e <;> simp_all [endingAt, Except.map]
  exact
    { configuration := hc
      goesOn := by
        intro hn
        have he : m.ending? = none := by simpa [endingAt] using hn
        obtain ⟨c', hsome, hconf⟩ := hc' he
        obtain ⟨-, s, a, x, d, events, -, -, -, -, hs⟩ := exists_step_of_goesOn ht he
        obtain ⟨hresult, hmachine⟩ := next_of_goesOn ht he hconf
        exact ⟨c', hsome, by rw [hs], rfl, hresult, hmachine⟩
      halted := by
        intro d hd
        rcases step_cases ht with ⟨hh, he, hs⟩ | ⟨-, he, -⟩ | ⟨-, f, events, -, he, -⟩ | ⟨-, he, -⟩
        · rw [endingAt, he] at hd
          exact ⟨(Except.ok.inj (Option.some.inj hd)).symm, hs, next_of_halted hh⟩
        all_goals simp [endingAt, he, Except.map] at hd
      failed := by
        intro f hf
        exact ⟨step_machine_of_ending ht (hend f hf), next_of_failed ht (hend f hf)⟩
      stuck := by
        intro state symbol hf
        have he' := hend _ hf
        rcases step_cases ht with ⟨-, he, -⟩ | ⟨-, -, hs⟩ | ⟨-, f, events, hne, he, -⟩ | ⟨-, he, -⟩
        · rw [he] at he'; simp at he'
        · exact hs
        · rw [he] at he'
          exact absurd (Except.error.inj (Option.some.inj he')) (hne _ _)
        · rw [he] at he'; contradiction }

/-! ### Calls -/

/-- What can be asked of a started machine; a live display is followed for some moments, which may
be all that it has. -/
inductive Call
  | step
  | next
  | live (o : Live.Options) (w : Live.Surroundings) (moments : Nat)

/-- The machine after a call. -/
def Call.machine (m : Machine σ) : Call → Machine σ
  | .step => m.step.machine
  | .next => m.next.machine
  | .live o w moments => (Live.run o w m moments).machine

/-- The machines that a call passes through, moment by moment. -/
def Call.visits (m : Machine σ) : Call → List (Machine σ)
  | .step => [m.step.machine]
  | .next => [m.next.machine]
  | .live o w moments => (List.range moments).map fun i => (Live.run o w m (i + 1)).machine

/-- The machine after calls one after another. -/
def afterCalls (m : Machine σ) (calls : List Call) : Machine σ := calls.foldl Call.machine m

/-- The machines that calls pass through one after another. -/
def visits (m : Machine σ) : List Call → List (Machine σ)
  | [] => []
  | c :: calls => c.visits m ++ visits (c.machine m) calls

/-- Of machines one after another, those that have made another number of steps than the one
before. -/
def arrivals : (steps : Nat) → List (Machine σ) → List (Machine σ)
  | _, [] => []
  | steps, m :: rest =>
    if m.stepCount = steps then arrivals steps rest else m :: arrivals m.stepCount rest

/-! ### Walks -/

/-- **A walk along a path** from one of its machines to another, waiting anywhere on the way. -/
inductive Walk (m : Machine σ) : (start : Nat) → List (Machine σ) → (stop : Nat) → Prop
  | done {i : Nat} : Walk m i [] i
  | wait {i n : Nat} {ms : List (Machine σ)} : Walk m i ms n → Walk m i (m.afterSteps i :: ms) n
  | go {i n : Nat} {ms : List (Machine σ)} : (m.afterSteps i).ending? = none → Walk m (i + 1) ms n →
      Walk m i (m.afterSteps (i + 1) :: ms) n

namespace Walk

variable {ms ns : List (Machine σ)}

theorem append (h : Walk m j ms k) (h' : Walk m k ns l) : Walk m j (ms ++ ns) l := by
  induction h with
  | done => exact h'
  | wait _ ih => exact (ih h').wait
  | go he _ ih => exact (ih h').go he

theorem le (h : Walk m j ms k) : j ≤ k := by
  induction h with
  | done => exact le_rfl
  | wait _ ih => exact ih
  | go _ _ ih => omega

/-- A walk only leads where the path goes. -/
theorem goesOn (h : Walk m j ms k) (hj : m.GoesOn j) : m.GoesOn k := by
  induction h with
  | done => exact hj
  | wait _ ih => exact ih hj
  | go he _ ih => exact ih (goesOn_succ_iff.2 ⟨hj, he⟩)

/-- **A walk arrives at the machines of the path** behind the one where it starts, one after
another. -/
theorem arrivals_eq (h : Walk m j ms k) (ht : m.tape = some t)
    (hj : m.GoesOn j) :
    arrivals (m.afterSteps j).stepCount ms
      = (List.range (k - j)).map fun i => m.afterSteps (j + 1 + i) := by
  induction h with
  | done => simp [arrivals]
  | wait _ ih => rw [arrivals, if_pos rfl, ih hj]
  | @go j k ms he hw ih =>
    have hj' : m.GoesOn (j + 1) := goesOn_succ_iff.2 ⟨hj, he⟩
    have hne : (m.afterSteps (j + 1)).stepCount ≠ (m.afterSteps j).stepCount := by
      rw [stepCount_afterSteps ht hj, stepCount_afterSteps ht hj']
      omega
    have hlen : k - j = k - (j + 1) + 1 := by
      have := hw.le
      omega
    rw [arrivals, if_neg hne, ih hj', hlen, List.range_succ_eq_map, List.map_cons, List.map_map]
    refine congrArg₂ _ rfl (List.map_congr_left fun i _ => ?_)
    show m.afterSteps (j + 1 + 1 + i) = m.afterSteps (j + 1 + (i + 1))
    congr 1
    omega

end Walk

/-- A live display walks along the path. -/
theorem exists_walk_live [LawfulSymbol σ] (o : Live.Options) (w : Live.Surroundings)
    (ht : m.tape = some t) (hk : m.GoesOn k) (moments : Nat) :
    ∃ l, (Live.run o w (m.afterSteps k) moments).OnPath m l ∧
      Walk m k (Call.visits (m.afterSteps k) (.live o w moments)) l := by
  induction moments with
  | zero => exact ⟨k, Live.Session.onPath_begin ht hk, .done⟩
  | succ n ih =>
    obtain ⟨l, hl, hw⟩ := ih
    have hvisits : Call.visits (m.afterSteps k) (.live o w (n + 1))
        = Call.visits (m.afterSteps k) (.live o w n)
          ++ [(Live.run o w (m.afterSteps k) (n + 1)).machine] := by
      rw [Call.visits, List.range_succ, List.map_append]
      rfl
    rw [hvisits, Live.run_succ]
    rcases hl.advance ht with ha | ⟨he, ha⟩
    · refine ⟨l, ha, hw.append ?_⟩
      rw [ha.machine]
      exact Walk.done.wait
    · refine ⟨l + 1, ha, hw.append ?_⟩
      rw [ha.machine]
      exact Walk.done.go he

/-- A step that may not lead on walks along the path. -/
theorem exists_walk_single {n : Machine σ} (hn : n = m.afterSteps k ∨
    (m.afterSteps k).ending? = none ∧ n = m.afterSteps (k + 1)) :
    ∃ l, n = m.afterSteps l ∧ Walk m k [n] l := by
  rcases hn with rfl | ⟨he, rfl⟩
  · exact ⟨k, rfl, Walk.done.wait⟩
  · exact ⟨k + 1, rfl, Walk.done.go he⟩

theorem exists_walk_call [LawfulSymbol σ] (ht : m.tape = some t) (hk : m.GoesOn k)
    (c : Call) : ∃ l, c.machine (m.afterSteps k) = m.afterSteps l ∧
      Walk m k (c.visits (m.afterSteps k)) l := by
  obtain ⟨t', ht'⟩ := exists_tape_afterSteps ht k
  cases c with
  | step =>
    refine exists_walk_single ?_
    cases he : (m.afterSteps k).ending? with
    | none => exact .inr ⟨rfl, (afterSteps_succ m k).symm⟩
    | some e => exact .inl (step_machine_of_ending ht' he)
  | next =>
    refine exists_walk_single ?_
    cases he : (m.afterSteps k).ending? with
    | none =>
      obtain ⟨c, hc⟩ : ∃ c, (m.afterSteps k).step.machine.configuration = .ok c :=
        exists_configuration ht' 1
      exact .inr ⟨rfl, (next_of_goesOn ht' he hc).2.trans (afterSteps_succ m k).symm⟩
    | some e =>
      left
      cases e with
      | ok => exact congrArg Outcome.machine (next_of_halted (ending?_eq_ok_iff.1 he))
      | error f => exact (next_of_failed ht' he).2
  | live o w moments =>
    obtain ⟨l, hl, hw⟩ := exists_walk_live o w ht hk moments
    exact ⟨l, hl.machine, hw⟩

/-- **Calls of all kinds walk along the path.** -/
theorem exists_walk_calls [LawfulSymbol σ] (ht : m.tape = some t) (hk : m.GoesOn k)
    (calls : List Call) : ∃ l, (m.afterSteps k).afterCalls calls = m.afterSteps l ∧
      Walk m k (visits (m.afterSteps k) calls) l := by
  induction calls generalizing k with
  | nil => exact ⟨k, rfl, .done⟩
  | cons c calls ih =>
    obtain ⟨j, hj, hw⟩ := exists_walk_call ht hk c
    obtain ⟨l, hl, hw'⟩ := ih (hw.goesOn hk)
    refine ⟨l, ?_, ?_⟩
    · rw [afterCalls, List.foldl_cons, hj]
      exact hl
    · rw [visits, hj]
      exact hw.append hw'

end

/-! ### All drivers -/

variable {m : Machine}

/-- How a live display ends where the path ends: as a run without limit does. -/
theorem endingAt_of_live_endsAs {e : Except Fault Progress} (h : Live.EndsAs m e)
    (c : Configuration) : (e = .ok .halted → m.endingAt c = some (.ok c)) ∧
      ∀ state symbol, e = .error (.unmapped state symbol) →
        m.endingAt c = some (.error (.unmapped state symbol)) := by
  cases h with
  | halted he => exact ⟨fun _ => by rw [endingAt, he]; rfl, by simp⟩
  | stopped => simp
  | fault he =>
    refine ⟨by simp, fun state symbol hf => ?_⟩
    rw [endingAt, he, Except.error.inj hf]
    rfl
  | misuse => simp

/-- **All drivers of a machine agree.**  Where a run without limit emits a configuration, a step and
the next round of an iteration lead to the machine with the configuration that is emitted next, or
report what the run ends with and change nothing.  Any other run emits the same configurations and
leaves its machine at one of them.  Calls of all kinds, put to such a machine in any order, pass
through the machines behind it, one after another and none left out, and a live display ends in
halting or being stuck only where the run does. -/
theorem drivers_agree (startState endState : Value) (table : Table Situation Action)
    (word : String) :
    let m := ((new startState endState table : Machine).start word).machine
    let run := fun moments => (new startState endState table : Machine).run word none moments
    let c? := fun k => (run (k + 1)).configurations[k]?
    (∃ c, c? 0 = some c) ∧
    (∀ k c, c? k = some c →
      (m.afterSteps k).AgreeAt (m.afterSteps (k + 1)) c (run (k + 1)).ending (c? (k + 1))) ∧
    (∀ limit traced moments,
      let r := Run.drive moments
        (.ofStart ((new startState endState table).start word) (limitValue limit) traced false)
      (∀ j c, r.configurations[j]? = some c → c? j = some c) ∧
      ∃ k, r.machine = m.afterSteps k ∧ (r.ending.isSome → r.configurations.length = k + 1) ∧
        ∀ calls, ∃ n, r.machine.afterCalls calls = m.afterSteps (k + n) ∧ (c? (k + n)).isSome ∧
          arrivals r.machine.stepCount (r.machine.visits calls)
            = (List.range n).map fun i => m.afterSteps (k + 1 + i)) ∧
    (∀ k o w moments, (c? k).isSome →
      let s := Live.run o w (m.afterSteps k) moments
      ∃ l ≥ k, s.machine = m.afterSteps l ∧
        (s.ending = some (.ok .halted) → ∃ c, (run (l + 1)).ending = some (.ok c)) ∧
        ∀ state symbol, s.ending = some (.error (.unmapped state symbol)) →
          (run (l + 1)).ending = some (.error (.unmapped state symbol))) := by
  intro m run c?
  have hrun := Run.onPath_ofStart startState endState table word none true
  have ht : m.tape = some (Tape.ofWord word.toList) := tape_start ..
  -- The run without limit emits at moment `k` what the path has there.
  have hpath : ∀ k c, c? k = some c →
      m.GoesOn k ∧ (m.afterSteps k).configuration = .ok c :=
    fun k c hc => hrun.goesOn_of_emitted ht hc
  have hemits : ∀ k, m.GoesOn k →
      ∃ c, (m.afterSteps k).configuration = .ok c ∧ c? k = some c ∧
        (run (k + 1)).ending = (m.afterSteps k).endingAt c := by
    intro k hk
    obtain ⟨c, hc⟩ := exists_configuration ht k
    exact ⟨c, hc, hrun.unlimited ht hk hc⟩
  refine ⟨?_, fun k c hc => ?_, fun limit traced moments => ?_, fun k o w moments hk => ?_⟩
  · obtain ⟨c, -, hc, -⟩ := hemits 0 (goesOn_zero m)
    exact ⟨c, hc⟩
  · obtain ⟨hk, hconf⟩ := hpath k c hc
    obtain ⟨t', ht'⟩ := exists_tape_afterSteps ht k
    obtain ⟨d, hd, -, hend⟩ := hemits k hk
    obtain rfl : d = c := Except.ok.inj (hd.symm.trans hconf)
    rw [hend, afterSteps_succ]
    refine agreeAt ht' hconf fun he => ?_
    obtain ⟨c', hc', hsome, -⟩ := hemits (k + 1) (goesOn_succ_iff.2 ⟨hk, he⟩)
    exact ⟨c', hsome, afterSteps_succ m k ▸ hc'⟩
  · intro r
    have hr := Run.onPath_ofStart startState endState table word limit traced
    refine ⟨fun j c hc => ?_, ?_⟩
    · obtain ⟨hj, hconf⟩ := hr.goesOn_of_emitted ht hc
      exact (hrun.unlimited ht hj hconf).1
    · obtain ⟨k, hmachine, hk, hlength⟩ : ∃ k, r.machine = m.afterSteps k ∧
          m.GoesOn k ∧
          (r.ending.isSome → r.configurations.length = k + 1) := by
        rcases hr.drive ht moments with h | ⟨k, -, h⟩
        · exact ⟨_, h.machine, h.goesOn, fun hsome => by rw [h.ending] at hsome; contradiction⟩
        · exact ⟨k, h.machine, h.goesOn, fun _ => h.emitted.length_eq⟩
      refine ⟨k, hmachine, hlength, fun calls => ?_⟩
      obtain ⟨l, hl, hw⟩ := exists_walk_calls ht hk calls
      obtain ⟨c, -, hc, -⟩ := hemits l (hw.goesOn hk)
      have hle := Nat.add_sub_of_le hw.le
      refine ⟨l - k, ?_, ?_, ?_⟩
      · rw [hmachine, hl, hle]
      · rw [hle, hc]
        rfl
      · rw [hmachine]
        exact hw.arrivals_eq ht hk
  · intro s
    obtain ⟨c, hc⟩ := Option.isSome_iff_exists.1 hk
    have hgo := (hpath k c hc).1
    obtain ⟨l, hl, hw⟩ := exists_walk_live o w ht hgo moments
    obtain ⟨d, -, -, hend⟩ := hemits l (hw.goesOn hgo)
    refine ⟨l, hw.le, hl.machine, fun hs => ⟨d, ?_⟩, fun state symbol hs => ?_⟩
    · rw [hend]
      exact (endingAt_of_live_endsAs (hl.ending _ hs) d).1 rfl
    · rw [hend]
      exact (endingAt_of_live_endsAs (hl.ending _ hs) d).2 state symbol rfl

end TapeMachine.Machine
