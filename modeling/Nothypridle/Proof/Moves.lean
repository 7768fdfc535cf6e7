import Nothypridle.IdleCycle
import Nothypridle.Proof.Inhibit

/-!
# What one step can do

The inversion of the step functions. A poll is seen here only through its answer and through the
counters of the rule, which it leaves alone; everything proved about runs starts from `Move`.
-/

namespace Nothypridle

/-- What is handed to the runner where a getter answers like that. -/
def commandOf : Except String (Option String) → List String
  | .ok (some cmd) => [cmd]
  | .ok none => []
  | .error _ => []

theorem length_commandOf_le (answer : Except String (Option String)) :
    (commandOf answer).length ≤ 1 := by
  rcases answer with err | _ | cmd <;> simp [commandOf]

variable {S : Type} [ResourceSource S]

inductive Checker.Move (config : RuleConfigSource) (rule : RuleRuntime) :
    Checker → CheckerStep S → Checker → RuleRuntime → List String → Prop where
  | loadStart : Move config rule .loadStart .loadStart (.poll rule.epoch) rule []
  | pollSleep {startEpoch resourceMonitor fullscreen rule'} (hrule : rule.SameCounters rule') :
      Move config rule (.poll startEpoch) (.poll resourceMonitor fullscreen)
        (.sleep startEpoch) rule' []
  | pollAgain {startEpoch resourceMonitor fullscreen rule'} (hrule : rule.SameCounters rule') :
      Move config rule (.poll startEpoch) (.poll resourceMonitor fullscreen)
        (.loopLoad startEpoch) rule' []
  | pollFree {startEpoch resourceMonitor fullscreen rule'} (hrule : rule.SameCounters rule') :
      Move config rule (.poll startEpoch) (.poll resourceMonitor fullscreen)
        (.finalLoad startEpoch) rule' []
  | sleep {startEpoch} :
      Move config rule (.sleep startEpoch) .sleep (.loopLoad startEpoch) rule []
  | loopAbort {startEpoch} (hstale : rule.epoch ≠ startEpoch) :
      Move config rule (.loopLoad startEpoch) .loopLoad (.returned .abortedByUserResume) rule []
  | loopAgain : Move config rule (.loopLoad rule.epoch) .loopLoad (.poll rule.epoch) rule []
  | finalAbort {startEpoch} (hstale : rule.epoch ≠ startEpoch) :
      Move config rule (.finalLoad startEpoch) .finalLoad (.returned .abortedByUserResume) rule []
  | finalPass : Move config rule (.finalLoad rule.epoch) .finalLoad .runOnTimeout rule []
  | fire {cmd} (hcmd : config.onTimeout rule.id = .ok (some cmd)) :
      Move config rule .runOnTimeout .runOnTimeout (.storeFired .firedOnTimeout) rule [cmd]
  | noCommand (hcmd : config.onTimeout rule.id = .ok none) :
      Move config rule .runOnTimeout .runOnTimeout (.storeFired .noCommandToFire) rule []
  | parseError {err} (hcmd : config.onTimeout rule.id = .error err) :
      Move config rule .runOnTimeout .runOnTimeout (.storeFired .parseError) rule []
  | storeFired {res} :
      Move config rule (.storeFired res) .storeFired (.returned res) (rule.setFired true) []

theorem Checker.move_of_step {config : RuleConfigSource} {options : IdleCheckOptions}
    {rule rule' : RuleRuntime} {checker checker' : Checker} {a : CheckerStep S}
    {commands : List String}
    (hstep : checker.step config options rule a = some (checker', rule', commands)) :
    Checker.Move config rule checker a checker' rule' commands := by
  cases checker <;> cases a <;> simp only [Checker.step, reduceCtorEq, Option.some.injEq,
    Prod.mk.injEq] at hstep
  case loadStart.loadStart =>
    obtain ⟨rfl, rfl, rfl⟩ := hstep
    exact .loadStart
  case poll.poll startEpoch resourceMonitor fullscreen =>
    have hrule := shouldInhibit_sameCounters config resourceMonitor fullscreen rule
    split at hstep
    · split at hstep
      · cases hstep
        exact .pollSleep hrule
      · cases hstep
        exact .pollAgain hrule
    · cases hstep
      exact .pollFree hrule
  case sleep.sleep startEpoch =>
    obtain ⟨rfl, rfl, rfl⟩ := hstep
    exact .sleep
  case loopLoad.loopLoad startEpoch =>
    by_cases hepoch : rule.epoch = startEpoch
    · subst hepoch
      rw [if_neg (by simp)] at hstep
      cases hstep
      exact .loopAgain
    · rw [if_pos hepoch] at hstep
      cases hstep
      exact .loopAbort hepoch
  case finalLoad.finalLoad startEpoch =>
    by_cases hepoch : rule.epoch = startEpoch
    · subst hepoch
      rw [if_neg (by simp)] at hstep
      cases hstep
      exact .finalPass
    · rw [if_pos hepoch] at hstep
      cases hstep
      exact .finalAbort hepoch
  case runOnTimeout.runOnTimeout =>
    cases hcmd : config.onTimeout rule.id with
    | error err =>
        rw [hcmd] at hstep
        cases hstep
        exact .parseError hcmd
    | ok command =>
        rw [hcmd] at hstep
        cases command with
        | none =>
            cases hstep
            exact .noCommand hcmd
        | some cmd =>
            cases hstep
            exact .fire hcmd
  case storeFired.storeFired res =>
    obtain ⟨rfl, rfl, rfl⟩ := hstep
    exact .storeFired

section

variable {config : RuleConfigSource} {rule rule' : RuleRuntime} {checker checker' : Checker}
  {a : CheckerStep S} {commands : List String}

omit [ResourceSource S] in
theorem Checker.Move.epoch_eq (hmove : Move config rule checker a checker' rule' commands) :
    rule'.epoch = rule.epoch := by
  cases hmove with
  | pollSleep hrule => exact hrule.epoch
  | pollAgain hrule => exact hrule.epoch
  | pollFree hrule => exact hrule.epoch
  | _ => rfl

omit [ResourceSource S] in
theorem Checker.Move.id_eq (hmove : Move config rule checker a checker' rule' commands) :
    rule'.id = rule.id := by
  cases hmove with
  | pollSleep hrule => exact hrule.id
  | pollAgain hrule => exact hrule.id
  | pollFree hrule => exact hrule.id
  | _ => rfl

omit [ResourceSource S] in
/-- Only the store writes the fired flag. -/
theorem Checker.Move.fired_cases (hmove : Move config rule checker a checker' rule' commands) :
    (a ≠ .storeFired ∧ rule'.fired = rule.fired) ∨ (a = .storeFired ∧ rule'.fired = true) := by
  cases hmove with
  | pollSleep hrule => exact .inl ⟨by simp, hrule.fired⟩
  | pollAgain hrule => exact .inl ⟨by simp, hrule.fired⟩
  | pollFree hrule => exact .inl ⟨by simp, hrule.fired⟩
  | storeFired => exact .inr ⟨rfl, rfl⟩
  | _ => exact .inl ⟨by simp, rfl⟩

omit [ResourceSource S] in
/-- A checker that still compares keeps its epoch until a comparison fails or the last one
succeeds. -/
theorem Checker.Move.startEpoch_cases
    (hmove : Move config rule checker a checker' rule' commands) {startEpoch : UInt64}
    (hstart : checker.startEpoch = some startEpoch) :
    checker'.startEpoch = some startEpoch ∨
      (checker' = .returned .abortedByUserResume ∧ rule.epoch ≠ startEpoch) ∨
      (a = .finalLoad ∧ checker' = .runOnTimeout ∧ rule.epoch = startEpoch) := by
  cases hmove with
  | loadStart => cases hstart
  | pollSleep => exact .inl hstart
  | pollAgain => exact .inl hstart
  | pollFree => exact .inl hstart
  | sleep => exact .inl hstart
  | loopAbort hstale =>
      obtain rfl := Option.some.inj hstart
      exact .inr (.inl ⟨rfl, hstale⟩)
  | loopAgain => exact .inl hstart
  | finalAbort hstale =>
      obtain rfl := Option.some.inj hstart
      exact .inr (.inl ⟨rfl, hstale⟩)
  | finalPass =>
      obtain rfl := Option.some.inj hstart
      exact .inr (.inr ⟨rfl, rfl, rfl⟩)
  | fire => cases hstart
  | noCommand => cases hstart
  | parseError => cases hstart
  | storeFired => cases hstart

end

namespace IdleCycle

inductive Move (config : RuleConfigSource) (s : State) : Label S → State → Prop where
  | idled (hwaiting : s.dispatcher = .waiting) (hactive : s.idle = false) :
      Move config s .idled { s with idle := true, checkers := s.checkers ++ [.loadStart] }
  | resumed (hwaiting : s.dispatcher = .waiting) (hidle : s.idle = true) :
      Move config s .resumed
        { s with idle := false, rule := s.rule.bumpEpoch, dispatcher := .loadFired }
  | loadFired (hloading : s.dispatcher = .loadFired) :
      Move config s .loadFired
        { s with dispatcher := if s.rule.fired then .clearFired else .waiting }
  | clearFired (hclearing : s.dispatcher = .clearFired) :
      Move config s .clearFired
        { s with rule := s.rule.setFired false, dispatcher := .runOnResume }
  | runOnResume (hrunning : s.dispatcher = .runOnResume) :
      Move config s .runOnResume
        { s with
          commands := s.commands ++ commandOf (config.onResume s.rule.id)
          dispatcher := .waiting }
  | checker {k a checker checker' rule' commands} (hget : s.checkers[k]? = some checker)
      (hmove : Checker.Move config s.rule checker a checker' rule' commands) :
      Move config s (.checker k a)
        { s with
          rule := rule'
          checkers := s.checkers.set k checker'
          commands := s.commands ++ commands }

theorem move_of_step {config : RuleConfigSource} {options : IdleCheckOptions} {s s' : State}
    {label : Label S} (hstep : step config options s label = some s') : Move config s label s' := by
  cases label with
  | idled =>
      simp only [step, Option.ite_none_right_eq_some, Option.some.injEq] at hstep
      obtain ⟨⟨hwaiting, hactive⟩, rfl⟩ := hstep
      exact .idled hwaiting hactive
  | resumed =>
      simp only [step, Option.ite_none_right_eq_some, Option.some.injEq] at hstep
      obtain ⟨⟨hwaiting, hidle⟩, rfl⟩ := hstep
      exact .resumed hwaiting hidle
  | loadFired =>
      simp only [step, Option.ite_none_right_eq_some, Option.some.injEq] at hstep
      obtain ⟨hloading, rfl⟩ := hstep
      exact .loadFired hloading
  | clearFired =>
      simp only [step, Option.ite_none_right_eq_some, Option.some.injEq] at hstep
      obtain ⟨hclearing, rfl⟩ := hstep
      exact .clearFired hclearing
  | runOnResume =>
      simp only [step, Option.ite_none_right_eq_some] at hstep
      obtain ⟨hrunning, hstep⟩ := hstep
      have hmove : Move config s (.runOnResume : Label S) _ := .runOnResume hrunning
      rcases hrestore : config.onResume s.rule.id with err | _ | cmd
      · rw [hrestore] at hstep
        cases hstep
        simpa [commandOf, hrestore] using hmove
      · rw [hrestore] at hstep
        cases hstep
        simpa [commandOf, hrestore] using hmove
      · rw [hrestore] at hstep
        cases hstep
        simpa [commandOf, hrestore] using hmove
  | checker k a =>
      simp only [step, Option.bind_eq_some_iff, Option.map_eq_some_iff] at hstep
      obtain ⟨checker, hget, ⟨checker', rule', commands⟩, hchecker, rfl⟩ := hstep
      exact .checker hget (Checker.move_of_step hchecker)

/-! ### The view of one checker -/

section

variable {config : RuleConfigSource} {s s' : State} {label : Label S} {k : ℕ}

omit [ResourceSource S] in
/-- A live checker stays where it is, except in its own steps. -/
theorem Move.forward (hmove : Move config s label s') {checker : Checker}
    (hget : s.checkers[k]? = some checker) :
    (s'.checkers[k]? = some checker ∧ ∀ a, label ≠ .checker k a) ∨
      ∃ a checker' commands, label = .checker k a ∧ s'.checkers[k]? = some checker' ∧
        Checker.Move config s.rule checker a checker' s'.rule commands := by
  have hlt : k < s.checkers.length := (List.getElem?_eq_some_iff.mp hget).1
  cases hmove with
  | idled => exact .inl ⟨by simp [List.getElem?_append_left hlt, hget], by simp⟩
  | resumed => exact .inl ⟨hget, by simp⟩
  | loadFired => exact .inl ⟨hget, by simp⟩
  | clearFired => exact .inl ⟨hget, by simp⟩
  | runOnResume => exact .inl ⟨hget, by simp⟩
  | @checker j a moved moved' rule' commands hgetj hmovej =>
      by_cases hkj : j = k
      · subst hkj
        obtain rfl : checker = moved := Option.some.inj (hget.symm.trans hgetj)
        exact .inr ⟨a, moved', commands, rfl, by simp [List.getElem?_set_self hlt], hmovej⟩
      · refine .inl ⟨by simp [List.getElem?_set_ne hkj, hget], ?_⟩
        intro b heq
        exact hkj (Label.checker.inj heq).1

omit [ResourceSource S] in
theorem Move.backward (hmove : Move config s label s') {checker' : Checker}
    (hget' : s'.checkers[k]? = some checker') :
    (s.checkers[k]? = some checker' ∧ ∀ a, label ≠ .checker k a) ∨
      (label = .idled ∧ k = s.checkers.length ∧ checker' = .loadStart) ∨
      ∃ a checker commands, label = .checker k a ∧ s.checkers[k]? = some checker ∧
        Checker.Move config s.rule checker a checker' s'.rule commands := by
  cases hget : s.checkers[k]? with
  | some checker =>
      rcases hmove.forward hget with ⟨hsame, hlabel⟩ | ⟨a, moved, commands, hlabel, hmoved, hmovek⟩
      · obtain rfl : checker = checker' := Option.some.inj (hsame.symm.trans hget')
        exact .inl ⟨rfl, hlabel⟩
      · obtain rfl : moved = checker' := Option.some.inj (hmoved.symm.trans hget')
        exact .inr (.inr ⟨a, checker, commands, hlabel, rfl, hmovek⟩)
  | none =>
      have hle : s.checkers.length ≤ k := List.getElem?_eq_none_iff.mp hget
      have hlt : k < s'.checkers.length := (List.getElem?_eq_some_iff.mp hget').1
      cases hmove with
      | idled =>
          have hk : k = s.checkers.length := by
            simp only [List.length_append, List.length_singleton] at hlt
            omega
          subst hk
          exact .inr (.inl ⟨rfl, rfl, by simpa using hget'.symm⟩)
      | resumed => exact absurd hlt (by simpa using hle)
      | loadFired => exact absurd hlt (by simpa using hle)
      | clearFired => exact absurd hlt (by simpa using hle)
      | runOnResume => exact absurd hlt (by simpa using hle)
      | checker => exact absurd hlt (by simpa using hle)

omit [ResourceSource S] in
theorem Move.id_eq (hmove : Move config s label s') : s'.rule.id = s.rule.id := by
  cases hmove with
  | checker hget hmove => exact hmove.id_eq
  | _ => rfl

/-! ### Runs -/

section

variable {options : IdleCheckOptions} {id : String} {labels : List (Label S)}

theorem RunsFrom.split {before after : List (Label S)}
    (hrun : RunsFrom config options id (before ++ after) s') :
    ∃ s, RunsFrom config options id before s ∧
      Transition.Runs (step config options) s after s' :=
  Transition.runs_append_iff.mp hrun

theorem RunsFrom.history_invariant {inv : List (Label S) → State → Prop}
    (hrun : RunsFrom config options id labels s) (hinit : inv [] (init id))
    (hpreserved : ∀ history s label s', inv history s → Move config s label s' →
      inv (history ++ [label]) s') : inv labels s := by
  have hstep : ∀ history s label s', inv history s → step config options s label = some s' →
      inv (history ++ [label]) s' :=
    fun history s label s' hinv hstep => hpreserved history s label s' hinv (move_of_step hstep)
  exact Transition.Runs.history_invariant hstep [] hrun hinit

theorem RunsFrom.invariant {inv : State → Prop} (hrun : RunsFrom config options id labels s)
    (hinit : inv (init id))
    (hpreserved : ∀ s (label : Label S) s', inv s → Move config s label s' → inv s') : inv s :=
  hrun.history_invariant hinit fun _ => hpreserved

end

/-! ### Periods -/

/-- How the labels taken so far show in the state: the epoch counts the bumps, and every period but
a running one has been bumped. -/
structure Counts (labels : List (Label S)) (s : State) : Prop where
  epoch : s.rule.epoch = UInt64.ofNat (labels.countP Label.isResumed)
  periods : labels.countP Label.isResumed + (if s.idle then 1 else 0) = s.checkers.length

omit [ResourceSource S] in
theorem Counts.step {labels : List (Label S)} (hcounts : Counts labels s)
    (hmove : Move config s label s') : Counts (labels ++ [label]) s' := by
  obtain ⟨hepoch, hperiods⟩ := hcounts
  cases hmove with
  | idled hwaiting hactive =>
      refine ⟨by simpa [Label.isResumed] using hepoch, ?_⟩
      simp [hactive] at hperiods
      simp [Label.isResumed, hperiods]
  | resumed hwaiting hidle =>
      refine ⟨by simp [Label.isResumed, hepoch], ?_⟩
      simp [hidle] at hperiods
      simpa [Label.isResumed] using hperiods
  | loadFired =>
      exact ⟨by simpa [Label.isResumed] using hepoch, by simpa [Label.isResumed] using hperiods⟩
  | clearFired =>
      exact ⟨by simpa [Label.isResumed] using hepoch, by simpa [Label.isResumed] using hperiods⟩
  | runOnResume =>
      exact ⟨by simpa [Label.isResumed] using hepoch, by simpa [Label.isResumed] using hperiods⟩
  | checker hget hmove =>
      exact ⟨by simpa [Label.isResumed, hmove.epoch_eq] using hepoch,
        by simpa [Label.isResumed] using hperiods⟩

theorem RunsFrom.counts {options : IdleCheckOptions} {id : String} {labels : List (Label S)}
    (hrun : RunsFrom config options id labels s) : Counts labels s :=
  hrun.history_invariant ⟨rfl, rfl⟩ fun _ _ _ _ hcounts hmove => hcounts.step hmove

end

/-! ### What the steps hand over -/

section

variable {config : RuleConfigSource} {options : IdleCheckOptions} {s s' : State}

/-- What the steps for a label hand to the runner. -/
def Label.commands (config : RuleConfigSource) (id : String) : Label S → List String
  | .runOnResume => commandOf (config.onResume id)
  | .checker _ .runOnTimeout => commandOf (config.onTimeout id)
  | _ => []

/-- What the steps for a label write to the fired flag, where they do. -/
def Label.writesFired : Label S → Option Bool
  | .clearFired => some false
  | .checker _ .storeFired => some true
  | _ => none

omit [ResourceSource S] in
theorem commands_of_move {rule rule' : RuleRuntime} {checker checker' : Checker}
    {a : CheckerStep S} {commands : List String} (k : ℕ)
    (hmove : Checker.Move config rule checker a checker' rule' commands) :
    commands = (Label.checker k a).commands config rule.id := by
  cases hmove with
  | fire hcmd => rw [Label.commands, hcmd, commandOf]
  | noCommand hcmd => rw [Label.commands, hcmd, commandOf]
  | parseError hcmd => rw [Label.commands, hcmd, commandOf]
  | _ => rfl

/-- **Only the two calls hand anything over.** -/
theorem commands_of_step {label : Label S} (hstep : step config options s label = some s') :
    s'.commands = s.commands ++ label.commands config s.rule.id := by
  cases move_of_step hstep with
  | runOnResume => rfl
  | checker hget hmovek => exact congrArg (s.commands ++ ·) (commands_of_move _ hmovek)
  | _ => exact (List.append_nil _).symm

/-- **Only the clearing and the store write the fired flag.** -/
theorem fired_of_step {label : Label S} (hstep : step config options s label = some s') :
    s'.rule.fired = label.writesFired.getD s.rule.fired := by
  cases move_of_step hstep with
  | @checker k a _ _ _ _ hget hmovek =>
      rcases hmovek.fired_cases with ⟨hnot, hkept⟩ | ⟨rfl, hset⟩
      · have hnone : (Label.checker k a).writesFired = none := by
          cases a <;> first | rfl | exact absurd rfl hnot
        rw [hnone]
        exact hkept
      · exact hset
  | _ => rfl

theorem handed_of_step {own : Label S → Bool} {label : Label S}
    (hstep : step config options s label = some s') :
    handed config options own s label =
      if own label then label.commands config s.rule.id else [] := by
  rw [handed, hstep, Option.elim_some, commands_of_step hstep, List.drop_left]

/-- A checker hands something over only where it calls `on_timeout`. -/
theorem eq_runOnTimeout_of_commands_ne {k : ℕ} {a : CheckerStep S}
    (hstep : step config options s (.checker k a) = some s') (hne : s'.commands ≠ s.commands) :
    a = .runOnTimeout := by
  rw [commands_of_step hstep] at hne
  cases a with
  | runOnTimeout => rfl
  | _ => exact absurd (List.append_nil _) hne

theorem eq_runOnResume_of_commands_ne {label : Label S} (hdispatch : label.isDispatch = true)
    (hstep : step config options s label = some s') (hne : s'.commands ≠ s.commands) :
    label = .runOnResume := by
  rw [commands_of_step hstep] at hne
  cases label with
  | runOnResume => rfl
  | checker => cases hdispatch
  | _ => exact absurd (List.append_nil _) hne

theorem quiet_of_checker_step {k : ℕ} {a : CheckerStep S}
    (hstep : step config options s (.checker k a) = some s') (hcall : a ≠ .runOnTimeout)
    (hstore : a ≠ .storeFired) :
    s'.commands = s.commands ∧ s'.rule.fired = s.rule.fired := by
  rw [commands_of_step hstep, fired_of_step hstep]
  cases a with
  | runOnTimeout => exact absurd rfl hcall
  | storeFired => exact absurd rfl hstore
  | _ => exact ⟨List.append_nil _, rfl⟩

theorem rule_id_of_step {id : String} {label : Label S} (hid : s.rule.id = id)
    (hstep : step config options s label = some s') : s'.rule.id = id :=
  (move_of_step hstep).id_eq.trans hid

theorem RunsFrom.rule_id {id : String} {labels : List (Label S)}
    (hrun : RunsFrom config options id labels s) : s.rule.id = id :=
  Transition.Runs.invariant (fun _ _ _ => rule_id_of_step) hrun rfl

/-- Where all that the own steps hand over is `part`, in the steps of a kind, a run hands it over as
often as it takes such a step. -/
theorem emitted_handed {own kind : Label S → Bool} {part : List String} {labels : List (Label S)}
    (hpart : ∀ label : Label S, (if own label then label.commands config s.rule.id else []) =
      if kind label then part else [])
    (hrun : Transition.Runs (step config options) s labels s') :
    Transition.emitted (step config options) (handed config options own) s labels =
      (List.replicate (labels.countP kind) part).flatten := by
  refine hrun.emitted_eq_replicate (fun _ _ _ => rule_id_of_step) ?_ rfl
  intro t label t' hid hstep
  rw [handed_of_step hstep, hid, hpart]

theorem handed_checkers {labels : List (Label S)}
    (hrun : Transition.Runs (step config options) s labels s') :
    Transition.emitted (step config options) (handed config options Label.isChecker) s labels =
      (List.replicate (labels.countP Label.isRunOnTimeout)
        (commandOf (config.onTimeout s.rule.id))).flatten := by
  refine emitted_handed (fun label => ?_) hrun
  rcases label with _ | _ | _ | _ | _ | ⟨_, _ | _⟩ <;> rfl

theorem handed_dispatch {labels : List (Label S)}
    (hrun : Transition.Runs (step config options) s labels s') :
    Transition.emitted (step config options) (handed config options Label.isDispatch) s labels =
      (List.replicate (labels.countP Label.isRunOnResume)
        (commandOf (config.onResume s.rule.id))).flatten := by
  refine emitted_handed (fun label => ?_) hrun
  rcases label with _ | _ | _ | _ | _ | ⟨_, _ | _⟩ <;> rfl

end

end IdleCycle

end Nothypridle
