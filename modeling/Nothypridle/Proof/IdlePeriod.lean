import Nothypridle.Fakes
import Nothypridle.Proof.Moves

/-!
# `on_timeout` and its idle period

The epoch ties a checker to its period from the moment it has been loaded to the moment of the last
comparison. Outside that stretch nothing does: a checker that has not loaded its epoch when the
period ends takes the next one for its own, and a checker that has passed its last comparison calls
the runner whenever it is next scheduled. With these two moments kept apart from the bump, and the
epoch not wrapping onto a live checker, no call leaves its period.
-/

namespace Nothypridle.IdleCycle

open Transition (Takes emitted exists_runs)

variable {S : Type} [ResourceSource S] {config : RuleConfigSource} {options : IdleCheckOptions}
  {id : String}

/-- What a checker hands to the runner, it hands over before the bump that ends its period; and
between two `Idled` the checkers hand over no more than one command. -/
def FiresInOwnPeriod (config : RuleConfigSource) (options : IdleCheckOptions) (id : String)
    (labels : List (Label S)) : Prop :=
  ∀ cmd, config.onTimeout id = .ok (some cmd) →
    (∀ before t k a t', Takes (step config options) (init id) labels before t (.checker k a) t' →
      t'.commands ≠ t.commands → before.countP Label.isResumed ≤ k) ∧
    (∀ before period after middle, labels = before ++ period ++ after →
      RunsFrom config options id before middle → period.countP Label.isIdled = 0 →
      (emitted (step config options) (handed config options Label.isChecker) middle
        period).length ≤ 1)

/-- The last step of the run is a call of the runner. -/
theorem exists_takes_last (cmd : String) {labels : List (Label FakeResourceSource)} {k : ℕ}
    {s : State}
    (hrun : RunsFrom dimConfig .default "dim" (labels ++ [.checker k .runOnTimeout]) s)
    (hbefore : (Transition.exec (step dimConfig .default) (init "dim") labels).map State.commands =
      some [])
    (hafter : (Transition.exec (step dimConfig .default) (init "dim")
      (labels ++ [.checker k .runOnTimeout])).map State.commands = some [cmd]) :
    ∃ t t', Takes (step dimConfig .default) (init "dim") (labels ++ [.checker k .runOnTimeout])
      labels t (.checker k .runOnTimeout) t' ∧ t'.commands ≠ t.commands := by
  obtain ⟨t, t', htakes, hlast⟩ := Takes.of_runs hrun
  obtain rfl := Transition.runs_nil_iff.mp hlast
  refine ⟨t, t', htakes, ?_⟩
  rw [hrun.observe State.commands hafter, htakes.runs.observe State.commands hbefore]
  simp

/-- Two runs that leave the period. The checker of the first is scheduled only after the `Resumed`
of its period, and then takes the new epoch for its own; the checker of the second is overtaken
between its last comparison and the call. -/
theorem exists_call_outside_period :
    (∃ s, RunsFrom dimConfig .default "dim"
        [.idled, .resumed, .loadFired, .checker 0 .loadStart, .checker 0 quietPoll,
          .checker 0 .finalLoad, .checker 0 .runOnTimeout] s ∧
        s.commands = ["brightnessctl -s set 20%"]) ∧
      ¬FiresInOwnPeriod dimConfig .default "dim"
        [.idled, .resumed, .loadFired, .checker 0 .loadStart, .checker 0 quietPoll,
          .checker 0 .finalLoad, .checker 0 .runOnTimeout] ∧
      (∃ s, RunsFrom dimConfig .default "dim"
        [.idled, .checker 0 .loadStart, .checker 0 quietPoll, .checker 0 .finalLoad, .resumed,
          .checker 0 .runOnTimeout] s ∧
        s.commands = ["brightnessctl -s set 20%"]) ∧
      ¬FiresInOwnPeriod dimConfig .default "dim"
        [.idled, .checker 0 .loadStart, .checker 0 quietPoll, .checker 0 .finalLoad, .resumed,
          .checker 0 .runOnTimeout] := by
  refine ⟨⟨_, rfl, rfl⟩, ?_, ⟨_, rfl, rfl⟩, ?_⟩
  · intro hfires
    obtain ⟨s, hrun⟩ := exists_runs (step dimConfig .default) (init "dim")
      ([.idled, .resumed, .loadFired, .checker 0 .loadStart, .checker 0 quietPoll,
        .checker 0 .finalLoad] ++ [.checker 0 .runOnTimeout]) (by decide +kernel)
    obtain ⟨t, t', htakes, hcall⟩ := exists_takes_last "brightnessctl -s set 20%" hrun
      (by decide +kernel) (by decide +kernel)
    have hperiod := (hfires _ rfl).1 _ _ _ _ _ htakes hcall
    exact absurd hperiod (by decide)
  · intro hfires
    obtain ⟨s, hrun⟩ := exists_runs (step dimConfig .default) (init "dim")
      ([.idled, .checker 0 .loadStart, .checker 0 quietPoll, .checker 0 .finalLoad, .resumed] ++
        [.checker 0 .runOnTimeout]) (by decide +kernel)
    obtain ⟨t, t', htakes, hcall⟩ := exists_takes_last "brightnessctl -s set 20%" hrun
      (by decide +kernel) (by decide +kernel)
    have hperiod := (hfires _ rfl).1 _ _ _ _ _ htakes hcall
    exact absurd hperiod (by decide)

/-- The checker may still reach the runner without another load of its epoch failing. -/
def MayFire (epoch : UInt64) (checker : Checker) : Prop :=
  checker = .loadStart ∨ checker = .runOnTimeout ∨ checker.startEpoch = some epoch

/-- At a bump no checker stands before its first load or behind its last, and none holds the epoch
the bump leads to. -/
def ResumeIsSafe (s : State) (label : Label S) : Prop :=
  label.isResumed = true → ∀ checker ∈ s.checkers, ¬MayFire (s.rule.epoch + 1) checker

instance (epoch : UInt64) (checker : Checker) : Decidable (MayFire epoch checker) :=
  inferInstanceAs (Decidable (_ ∨ _ ∨ _))

instance (s : State) (label : Label S) : Decidable (ResumeIsSafe s label) :=
  inferInstanceAs (Decidable (_ → _))

def Current (s : State) (k : ℕ) : Prop := s.idle = true ∧ k + 1 = s.checkers.length

omit [ResourceSource S] in
theorem MayFire.of_move {rule rule' : RuleRuntime} {checker checker' : Checker} {a : CheckerStep S}
    {commands : List String} (hmove : Checker.Move config rule checker a checker' rule' commands)
    (hfire : MayFire rule.epoch checker') : MayFire rule.epoch checker := by
  cases hmove with
  | loadStart => exact .inl rfl
  | pollSleep => exact .inr (.inr (by simpa [MayFire, Checker.startEpoch] using hfire))
  | pollAgain => exact .inr (.inr (by simpa [MayFire, Checker.startEpoch] using hfire))
  | pollFree => exact .inr (.inr (by simpa [MayFire, Checker.startEpoch] using hfire))
  | sleep => exact .inr (.inr (by simpa [MayFire, Checker.startEpoch] using hfire))
  | loopAbort => simp [MayFire, Checker.startEpoch] at hfire
  | loopAgain => exact .inr (.inr rfl)
  | finalAbort => simp [MayFire, Checker.startEpoch] at hfire
  | finalPass => exact .inr (.inr rfl)
  | fire => exact .inr (.inl rfl)
  | noCommand => exact .inr (.inl rfl)
  | parseError => exact .inr (.inl rfl)
  | storeFired => simp [MayFire, Checker.startEpoch] at hfire

def OnlyCurrentFires (s : State) : Prop :=
  ∀ k checker, s.checkers[k]? = some checker → MayFire s.rule.epoch checker → Current s k

omit [ResourceSource S] in
theorem OnlyCurrentFires.step {s s' : State} {label : Label S} (honly : OnlyCurrentFires s)
    (hsafe : ResumeIsSafe s label) (hmove : Move config s label s') : OnlyCurrentFires s' := by
  intro k checker' hget' hfire
  rcases hmove.backward hget' with
    ⟨hold, _⟩ | ⟨rfl, hk, rfl⟩ | ⟨a, checker, _, rfl, hget, hmovek⟩
  · have hcurrent := honly k checker' hold
    cases hmove with
    | idled hwaiting hactive => exact absurd (hcurrent hfire).1 (by simp [hactive])
    | resumed => exact absurd hfire (hsafe rfl checker' (List.mem_of_getElem? hold))
    | loadFired => exact hcurrent hfire
    | clearFired => exact hcurrent hfire
    | runOnResume => exact hcurrent hfire
    | checker hget hmovej =>
        rw [hmovej.epoch_eq] at hfire
        exact ⟨(hcurrent hfire).1, by simpa using (hcurrent hfire).2⟩
  · cases hmove with
    | idled => exact ⟨rfl, by simp [hk]⟩
  · rw [hmovek.epoch_eq] at hfire
    have hcurrent := honly k checker hget (hfire.of_move hmovek)
    cases hmove with
    | checker => exact ⟨hcurrent.1, by simpa using hcurrent.2⟩

theorem RunsFrom.onlyCurrentFires {labels : List (Label S)} {s : State}
    (hrun : RunsFrom config options id labels s)
    (halong : Transition.Along (step config options) ResumeIsSafe (init id) labels) :
    OnlyCurrentFires s := by
  have hinit : OnlyCurrentFires (init id) := by
    intro k checker hget
    simp [init] at hget
  exact hrun.guarded_invariant
    (fun _ _ _ honly hsafe hstep => honly.step hsafe (move_of_step hstep)) halong hinit

/-! ### One call a period -/

def callsLeft : Checker → ℕ
  | .storeFired _ => 0
  | .returned _ => 0
  | _ => 1

def newestCallsLeft (s : State) : ℕ :=
  (s.checkers[s.checkers.length - 1]?).elim 0 callsLeft

omit [ResourceSource S] in
theorem callsLeft_of_move {rule rule' : RuleRuntime} {checker checker' : Checker}
    {a : CheckerStep S} {commands : List String} (k : ℕ)
    (hmove : Checker.Move config rule checker a checker' rule' commands) :
    [Label.checker k a].countP Label.isRunOnTimeout + callsLeft checker' ≤ callsLeft checker := by
  cases hmove <;> simp [Label.isRunOnTimeout, callsLeft]

omit [ResourceSource S] in
/-- Within a period a call is a call of the newest checker. -/
theorem OnlyCurrentFires.newestCallsLeft_le {s s' : State} {label : Label S}
    (honly : OnlyCurrentFires s) (hlabel : label.isIdled = false)
    (hmove : Move config s label s') :
    [label].countP Label.isRunOnTimeout + newestCallsLeft s' ≤ newestCallsLeft s := by
  cases hmove with
  | idled => simp [Label.isIdled] at hlabel
  | resumed => simp [Label.isRunOnTimeout, newestCallsLeft]
  | loadFired => simp [Label.isRunOnTimeout, newestCallsLeft]
  | clearFired => simp [Label.isRunOnTimeout, newestCallsLeft]
  | runOnResume => simp [Label.isRunOnTimeout, newestCallsLeft]
  | @checker k a checker checker' rule' commands hget hmovek =>
      have hspent := callsLeft_of_move k hmovek
      have hlt : k < s.checkers.length := (List.getElem?_eq_some_iff.mp hget).1
      by_cases hnewest : k = s.checkers.length - 1
      · subst hnewest
        simpa [newestCallsLeft, hget, List.getElem?_set_self hlt] using hspent
      · -- An older checker cannot be at its call.
        have hnot : [Label.checker k a].countP Label.isRunOnTimeout = 0 := by
          cases hmovek with
          | fire => exact absurd (honly k _ hget (.inr (.inl rfl))).2 (by omega)
          | noCommand => exact absurd (honly k _ hget (.inr (.inl rfl))).2 (by omega)
          | parseError => exact absurd (honly k _ hget (.inr (.inl rfl))).2 (by omega)
          | _ => simp [Label.isRunOnTimeout]
        simp [newestCallsLeft, List.getElem?_set_ne hnewest, hnot]

theorem newestCallsLeft_le_one (s : State) : newestCallsLeft s ≤ 1 := by
  unfold newestCallsLeft
  cases s.checkers[s.checkers.length - 1]? with
  | none => simp
  | some checker => cases checker <;> simp [callsLeft]

/-! ### The guarded law -/

/-- **`on_timeout` stays inside its period** in every run whose bumps are safe. -/
theorem firesInOwnPeriod_of_resumeIsSafe {labels : List (Label S)} {s : State}
    (hrun : RunsFrom config options id labels s)
    (halong : ∀ cmd, config.onTimeout id = .ok (some cmd) →
      Transition.Along (step config options) ResumeIsSafe (init id) labels) :
    FiresInOwnPeriod config options id labels := by
  intro cmd hcmd
  have hsafe := halong cmd hcmd
  constructor
  · intro before t k a t' htakes hcall
    obtain ⟨after, hlabels⟩ := htakes.split
    obtain rfl := eq_runOnTimeout_of_commands_ne htakes.step hcall
    rw [← hlabels, List.append_assoc] at hsafe
    have hbefore : RunsFrom config options id before t := htakes.runs
    have honly := hbefore.onlyCurrentFires (Transition.along_append hbefore hsafe).1
    have hperiods := hbefore.counts.periods
    cases move_of_step htakes.step with
    | checker hget hmovek =>
        have hcurrent : Current t k := by
          cases hmovek <;> exact honly k _ hget (.inr (.inl rfl))
        obtain ⟨hidle, hnewest⟩ := hcurrent
        simp only [hidle, if_true] at hperiods
        omega
  · intro before period after middle hlabels hbefore hidled
    subst hlabels
    obtain ⟨last, hfront, _⟩ := hrun.split
    obtain ⟨middle', hbefore', hperiod⟩ := hfront.split
    obtain rfl := Transition.Runs.deterministic hbefore hbefore'
    have hsafeFront := (Transition.along_append hfront hsafe).1
    obtain ⟨hsafeBefore, hsafePeriod⟩ := Transition.along_append hbefore hsafeFront
    have hnoIdled : ∀ a ∈ period, Label.isIdled a = false := by
      intro a ha
      simpa using List.countP_eq_zero.mp hidled a ha
    have hspent : ∀ (s : State) (a : Label S) s', OnlyCurrentFires s →
        (ResumeIsSafe s a ∧ a.isIdled = false) →
        step config options s a = some s' →
        OnlyCurrentFires s' ∧
          [a].countP Label.isRunOnTimeout + newestCallsLeft s' ≤ newestCallsLeft s := by
      intro s a s' honly hguard hstep
      have hmove := move_of_step hstep
      exact ⟨honly.step hguard.1 hmove, honly.newestCallsLeft_le hguard.2 hmove⟩
    have hguarded := hsafePeriod.and (Transition.along_of_labels hnoIdled)
    have hbudget := hperiod.countP_add_budget_le hspent hguarded
      (hbefore.onlyCurrentFires hsafeBefore)
    have hone := newestCallsLeft_le_one middle
    have hid : middle.rule.id = id := hbefore.rule_id
    rw [handed_checkers hperiod, hid, hcmd]
    simp only [commandOf, List.flatten_replicate_singleton, List.length_replicate]
    omega

theorem dim_firesInOwnPeriod :
    FiresInOwnPeriod dimConfig .default "dim" [.idled, .checker 0 .loadStart,
      .checker 0 quietPoll, .checker 0 .finalLoad, .checker 0 .runOnTimeout, .checker 0 .storeFired,
      .resumed] := by
  obtain ⟨s, hrun⟩ := exists_runs (step dimConfig .default) (init "dim")
    [.idled, .checker 0 .loadStart, .checker 0 quietPoll, .checker 0 .finalLoad,
      .checker 0 .runOnTimeout, .checker 0 .storeFired, .resumed] (by decide +kernel)
  exact firesInOwnPeriod_of_resumeIsSafe hrun fun _ _ => by decide +kernel

/-! ### After an unsafe bump -/

def CanReachCall (config : RuleConfigSource) (options : IdleCheckOptions) (S : Type)
    [ResourceSource S] (k : ℕ) (s : State) : Prop :=
  Transition.CanReach (step (S := S) config options)
    (fun s => s.checkers[k]? = some .runOnTimeout) s

theorem CanReachCall.of_step {k : ℕ} {s : State} {checker checker' : Checker} {a : CheckerStep S}
    (hget : s.checkers[k]? = some checker)
    (hstep : checker.step config options s.rule a = some (checker', s.rule, []))
    (hnext : ∀ t : State, t.rule = s.rule → t.checkers[k]? = some checker' →
      CanReachCall config options S k t) : CanReachCall config options S k s := by
  have hlt : k < s.checkers.length := (List.getElem?_eq_some_iff.mp hget).1
  have hreach := hnext
    { s with checkers := s.checkers.set k checker', commands := s.commands ++ [] } rfl
    (List.getElem?_set_self hlt)
  refine Transition.CanReach.of_step (a := Label.checker k a) ?_ hreach
  simp [step, hget, hstep]

/-- With the monitor poisoned no poll inhibits, so a checker whose comparisons succeed gets through
to its call. -/
theorem canReachCall_of_mayFire (source : S) {k : ℕ} {s : State} {checker : Checker}
    (hget : s.checkers[k]? = some checker) (hfire : MayFire s.rule.epoch checker) :
    CanReachCall config options S k s := by
  have hfinal : ∀ t : State, t.checkers[k]? = some (.finalLoad t.rule.epoch) →
      CanReachCall config options S k t := by
    intro t hat
    have hstep : (Checker.finalLoad t.rule.epoch).step config options t.rule
        (.finalLoad : CheckerStep S) = some (.runOnTimeout, t.rule, []) := by
      simp [Checker.step]
    apply CanReachCall.of_step hat hstep
    intro u _ hcall
    exact Transition.CanReach.done hcall
  have hpoll : ∀ t : State, t.checkers[k]? = some (.poll t.rule.epoch) →
      CanReachCall config options S k t := by
    intro t hat
    apply CanReachCall.of_step (a := .poll ⟨source, true⟩ (.new .empty)) hat rfl
    intro u hrule hat'
    exact hfinal u (hrule ▸ hat')
  have hloop : ∀ t : State, t.checkers[k]? = some (.loopLoad t.rule.epoch) →
      CanReachCall config options S k t := by
    intro t hat
    have hstep : (Checker.loopLoad t.rule.epoch).step config options t.rule
        (.loopLoad : CheckerStep S) = some (.poll t.rule.epoch, t.rule, []) := by
      simp [Checker.step]
    apply CanReachCall.of_step hat hstep
    intro u hrule hat'
    exact hpoll u (hrule ▸ hat')
  rcases hfire with rfl | rfl | hstart
  · apply CanReachCall.of_step (a := .loadStart) hget rfl
    intro t hrule hat
    exact hpoll t (hrule ▸ hat)
  · exact Transition.CanReach.done hget
  · cases checker with
    | poll startEpoch =>
        cases hstart
        exact hpoll s hget
    | sleep startEpoch =>
        cases hstart
        apply CanReachCall.of_step (a := .sleep) hget rfl
        intro t hrule hat
        exact hloop t (hrule ▸ hat)
    | loopLoad startEpoch =>
        cases hstart
        exact hloop s hget
    | finalLoad startEpoch =>
        cases hstart
        exact hfinal s hget
    | _ => cases hstart

/-- **The condition is exact.** After a bump that is not safe, some checker can still call
`on_timeout` outside its period. -/
theorem exists_call_outside_of_not_resumeIsSafe (source : S) {cmd : String}
    {labels : List (Label S)} {s s' : State} (hcmd : config.onTimeout id = .ok (some cmd))
    (hrun : RunsFrom config options id labels s)
    (hbump : step config options s (.resumed : Label S) = some s')
    (hrisky : ¬ResumeIsSafe s (.resumed : Label S)) :
    ∃ (after : List (Label S)) (s'' : State),
      RunsFrom config options id (labels ++ .resumed :: after) s'' ∧
        ¬FiresInOwnPeriod config options id (labels ++ .resumed :: after) := by
  have hperiods := hrun.counts.periods
  have hmove := move_of_step hbump
  obtain ⟨checker, hmem, hfire⟩ : ∃ checker ∈ s.checkers, MayFire (s.rule.epoch + 1) checker := by
    by_contra hnone
    exact hrisky fun _ checker hmem hfire => hnone ⟨checker, hmem, hfire⟩
  obtain ⟨k, hget⟩ := List.getElem?_of_mem hmem
  have hlt : k < s.checkers.length := (List.getElem?_eq_some_iff.mp hget).1
  have hreach : CanReachCall config options S k s' := by
    cases hmove with
    | resumed => exact canReachCall_of_mayFire source hget hfire
  obtain ⟨steps, t, hsteps, hcall⟩ := hreach
  have hbefore : RunsFrom config options id (labels ++ .resumed :: steps) t :=
    hrun.append (Transition.runs_cons_iff.mpr ⟨s', hbump, hsteps⟩)
  have hcmd' : config.onTimeout t.rule.id = .ok (some cmd) := hbefore.rule_id ▸ hcmd
  obtain ⟨s'', hfinal⟩ : ∃ s'', step config options t (.checker k .runOnTimeout : Label S) =
      some s'' := by simp [step, hcall, Checker.step, hcmd']
  have hidle : s.idle = true := by
    cases hmove with
    | resumed _ hidle => exact hidle
  refine ⟨steps ++ [.checker k .runOnTimeout], s'', ?_, ?_⟩
  · have hafter := Transition.runs_concat_iff.mpr ⟨t, hbefore, hfinal⟩
    rwa [List.append_assoc] at hafter
  · intro hfires
    have htakes : Takes (step config options) (init id)
        (labels ++ .resumed :: (steps ++ [.checker k .runOnTimeout]))
        (labels ++ .resumed :: steps) t (.checker k .runOnTimeout) s'' :=
      ⟨⟨[], by simp⟩, hbefore, hfinal⟩
    have hhanded : s''.commands ≠ t.commands := by
      rw [commands_of_step hfinal, Label.commands, hcmd', commandOf]
      simp
    have hlate := (hfires cmd hcmd).1 _ _ _ _ _ htakes hhanded
    simp only [List.countP_append, List.countP_cons, Label.isResumed, if_true] at hlate
    simp only [hidle, if_true] at hperiods
    omega

end Nothypridle.IdleCycle
