import Nothypridle.Proof.FiresUninhibited
import Nothypridle.Proof.Rest
import Nothypridle.Proof.SessionRefinement

/-!
# No timeout is lost

As long as the user is away, the newest thread of a rule is on duty: the epoch it compares with is
the current one, so it cannot give up. Once the client has come to rest it has set the flag and
handed over `on_timeout`, if the rule has one, unless its last poll has inhibited and it sleeps
until the next one.
-/

namespace Nothypridle

open Entries (getElem?_set_of_some)

variable {S : Type} [ResourceSource S] {config : RuleConfigSource}

/-- The checker compares with the epoch of the rule, or has called and not been forgotten. -/
def Checker.OnDuty (rule : RuleRuntime) : Checker → Prop
  | .loadStart => True
  | .poll startEpoch => startEpoch = rule.epoch
  | .sleep startEpoch => startEpoch = rule.epoch
  | .loopLoad startEpoch => startEpoch = rule.epoch
  | .finalLoad startEpoch => startEpoch = rule.epoch
  | .runOnTimeout => True
  | .storeFired res => res ≠ .abortedByUserResume
  | .returned res => res ≠ .abortedByUserResume ∧ rule.fired = true

section

variable {rule rule' : RuleRuntime} {checker checker' : Checker} {a : CheckerStep S}
  {commands : List String}

omit [ResourceSource S] in
theorem Checker.OnDuty.move (hduty : checker.OnDuty rule)
    (hmove : Checker.Move config rule checker a checker' rule' commands) :
    checker'.OnDuty rule' := by
  cases hmove with
  | loadStart => rfl
  | pollSleep hrule => exact hduty.trans hrule.epoch.symm
  | pollAgain hrule => exact hduty.trans hrule.epoch.symm
  | pollFree hrule => exact hduty.trans hrule.epoch.symm
  | sleep => exact hduty
  | loopAbort hstale => exact absurd hduty.symm hstale
  | loopAgain => exact hduty
  | finalAbort hstale => exact absurd hduty.symm hstale
  | finalPass => trivial
  | fire => simp [OnDuty]
  | noCommand => simp [OnDuty]
  | parseError => simp [OnDuty]
  | storeFired => exact ⟨hduty, rfl⟩

omit [ResourceSource S] in
/-- The other checkers do not disturb it. -/
theorem Checker.OnDuty.other {other other' : Checker} (hduty : checker.OnDuty rule)
    (hmove : Checker.Move config rule other a other' rule' commands) : checker.OnDuty rule' := by
  have hepoch := hmove.epoch_eq
  have hfired : rule.fired = true → rule'.fired = true := by
    intro hset
    rcases hmove.fired_cases with ⟨_, hkept⟩ | ⟨_, hstored⟩
    · exact hkept.trans hset
    · exact hstored
  cases checker with
  | returned res => exact ⟨hduty.1, hfired hduty.2⟩
  | poll | sleep | loopLoad | finalLoad => exact hduty.trans hepoch.symm
  | _ => exact hduty

omit [ResourceSource S] in
theorem Checker.acted_backward
    (hmove : Checker.Move config rule checker a checker' rule' commands)
    (hacted : checker'.acted = true) : a = .runOnTimeout ∨ checker.acted = true := by
  cases hmove with
  | fire => exact .inl rfl
  | noCommand => exact .inl rfl
  | parseError => exact .inl rfl
  | storeFired => exact .inr rfl
  | _ => cases hacted

end

/-! ### The rule -/

namespace IdleCycle

structure Attended (labels : List (Label S)) (s : State) : Prop where
  waiting : s.idle = true → s.dispatcher = .waiting
  newest : s.idle = true → ∃ k checker, k + 1 = s.checkers.length ∧
    s.checkers[k]? = some checker ∧ checker.OnDuty s.rule
  called : ∀ k checker, s.checkers[k]? = some checker → checker.acted = true →
    .checker k .runOnTimeout ∈ labels

variable {s s' : State} {labels : List (Label S)} {label : Label S}

omit [ResourceSource S] in
theorem Attended.step (hattended : Attended labels s) (hmove : Move config s label s') :
    Attended (labels ++ [label]) s' := by
  obtain ⟨hwaiting, hnewest, hcalled⟩ := hattended
  have hcalled' : ∀ k checker, s'.checkers[k]? = some checker → checker.acted = true →
      .checker k .runOnTimeout ∈ labels ++ [label] := by
    intro k checker' hget' hacted
    rcases hmove.backward hget' with
      ⟨hget, _⟩ | ⟨_, _, rfl⟩ | ⟨a, checker, commands, rfl, hget, hmovek⟩
    · exact List.mem_append_left _ (hcalled k checker' hget hacted)
    · cases hacted
    · rcases Checker.acted_backward hmovek hacted with rfl | hbefore
      · exact List.mem_append_right _ (List.mem_singleton_self _)
      · exact List.mem_append_left _ (hcalled k checker hget hbefore)
  -- A dispatch is under way only when the user is back.
  have hback : s.dispatcher ≠ .waiting → s.idle = false := by
    intro hbusy
    cases hidle : s.idle with
    | false => rfl
    | true => exact absurd (hwaiting hidle) hbusy
  cases hmove with
  | idled hdispatcher hactive =>
      refine ⟨fun _ => hdispatcher, fun _ => ?_, hcalled'⟩
      exact ⟨s.checkers.length, .loadStart, by simp, by simp, trivial⟩
  | resumed => exact ⟨fun hidle => (by cases hidle), fun hidle => (by cases hidle), hcalled'⟩
  | loadFired hloading =>
      have hidle := hback (by simp [hloading])
      exact ⟨fun haway => absurd haway (by simp [hidle]),
        fun haway => absurd haway (by simp [hidle]), hcalled'⟩
  | clearFired hclearing =>
      have hidle := hback (by simp [hclearing])
      exact ⟨fun haway => absurd haway (by simp [hidle]),
        fun haway => absurd haway (by simp [hidle]), hcalled'⟩
  | runOnResume hrunning =>
      have hidle := hback (by simp [hrunning])
      exact ⟨fun haway => absurd haway (by simp [hidle]),
        fun haway => absurd haway (by simp [hidle]), hcalled'⟩
  | @checker i a moved moved' rule' commands hget hmovei =>
      refine ⟨hwaiting, ?_, hcalled'⟩
      intro hidle
      obtain ⟨k, checker, hlast, hgetk, hduty⟩ := hnewest hidle
      have hlast' : k + 1 = (s.checkers.set i moved').length := by rwa [List.length_set]
      by_cases hik : i = k
      · subst hik
        obtain rfl := Option.some.inj (hget.symm.trans hgetk)
        exact ⟨i, moved', hlast', getElem?_set_of_some hget _, hduty.move hmovei⟩
      · refine ⟨k, checker, hlast', ?_, hduty.other hmovei⟩
        rw [List.getElem?_set_ne hik, hgetk]

theorem RunsFrom.attended {options : IdleCheckOptions} {id : String}
    (hrun : RunsFrom config options id labels s) : Attended labels s := by
  have hinit : Attended ([] : List (Label S)) (init id) :=
    ⟨fun _ => rfl, fun hidle => (by cases hidle), fun k checker hget => (by simp [init] at hget)⟩
  exact hrun.history_invariant hinit fun _ _ _ _ hattended hmove => hattended.step hmove

end IdleCycle

/-! ### The client -/

namespace Client

variable {monitor : S} {ids : List String} {labels : List (Label S)} {s : State S}

omit [ResourceSource S] in
theorem eq_runOnTimeout_of_labelOf {j k : ℕ} {label : Label S}
    (hown : labelOf j s label = some (.checker k .runOnTimeout)) :
    label = .checker j k .runOnTimeout := by
  cases label with
  | checker i k' action =>
      simp only [labelOf, Option.ite_none_right_eq_some, Option.some.injEq] at hown
      obtain ⟨rfl, haction⟩ := hown
      cases action <;> cases haction
      rfl
  | _ => simp [labelOf] at hown

/-- Among the calls that have been made are those of the step in which the `k`-th thread of rule `j`
has called the runner: the command that the getter answered there, if it answered one. -/
def HasHandedOver (config : RuleConfigSource) (monitor : S) (ids : List String) (j k : ℕ)
    (id : String) (labels : List (Label S)) (s : State S) : Prop :=
  ∃ before t t', Transition.Takes (step config) (init monitor (registerRules config ids)) labels
      before t (.checker j k .runOnTimeout) t' ∧
    t'.calls = t.calls ++ (commandOf (config.onTimeout id)).map (j, ·) ∧ t'.calls <+: s.calls

theorem RunsFrom.rule_id (hrun : RunsFrom config monitor ids labels s) {j : ℕ} {rule : Rule}
    (hget : s.rules[j]? = some rule) : (registeredIds config ids)[j]? = some rule.runtime.id := by
  rw [← hrun.shared.ids, List.getElem?_map, hget, Option.map_some]

theorem RunsFrom.hasHandedOver (hrun : RunsFrom config monitor ids labels s) {j k : ℕ} {id : String}
    (hid : (registeredIds config ids)[j]? = some id)
    (hmem : .checker j k .runOnTimeout ∈ labels) :
    HasHandedOver config monitor ids j k id labels s := by
  obtain ⟨before, after, rfl⟩ := List.append_of_mem hmem
  obtain ⟨t, t', htakes, hafter⟩ := Transition.Takes.of_runs hrun
  have hgrown : t'.calls <+: s.calls := by
    have hpreserved : ∀ (u : State S) label u', t'.calls <+: u.calls →
        step config u label = some u' → t'.calls <+: u'.calls :=
      fun u label u' hsofar hstep => hsofar.trans (move_of_step hstep).calls_grow
    exact hafter.invariant hpreserved (List.prefix_refl _)
  refine ⟨before, t, t', htakes, ?_, hgrown⟩
  obtain ⟨rule, hget, hcalls⟩ := calls_of_step htakes.step
  have hbefore : RunsFrom config monitor ids before t := htakes.runs
  obtain rfl : id = rule.runtime.id := Option.some.inj (hid.symm.trans (hbefore.rule_id hget))
  exact hcalls

/-- **No timeout is lost.** Whenever the client is at rest while the user of a rule is away, the
newest thread of the rule has set the flag and handed over `on_timeout` if the rule has one, or it
sleeps until its next poll after one that has inhibited, or it has panicked. -/
theorem no_timeout_lost (hrun : RunsFrom config monitor ids labels s) (hrest : AtRest s) {j : ℕ}
    {rule : Rule} (hget : s.rules[j]? = some rule) (hidle : rule.idle = true) :
    ∃ k thread, k + 1 = rule.threads.length ∧ rule.threads[k]? = some thread ∧
      (thread.panicked = true ∨
        (thread.checker = .sleep rule.runtime.epoch ∧
          LastPoll config monitor ids j k true labels) ∨
        (HasHandedOver config monitor ids j k rule.runtime.id labels s ∧
          rule.runtime.fired = true)) := by
  have hid := hrun.rule_id hget
  obtain ⟨t, hown, hview⟩ := (viewSimulation config j).runs_of_unguarded hrun (view_init hid)
  have hshows := hview.shows hget
  have hattended := IdleCycle.RunsFrom.attended hown
  obtain ⟨k, checker, hlast, hat, hduty⟩ := hattended.newest (hshows.idle.trans hidle)
  have hthreads := hshows.checkers
  rw [hthreads, List.length_map] at hlast
  have hmapped := hat
  rw [hthreads, List.getElem?_map] at hmapped
  obtain ⟨thread, hthread, rfl⟩ := Option.map_eq_some_iff.mp hmapped
  refine ⟨k, thread, hlast, hthread, ?_⟩
  rcases hrest.threads rule (List.mem_of_getElem? hget) thread (List.mem_of_getElem? hthread) with
    hpanicked | ⟨startEpoch, hsleep⟩ | ⟨res, hreturned⟩
  · exact .inl hpanicked
  · refine .inr (.inl ⟨?_, hrun.goesByPolls.polled hget hthread (by rw [hsleep]; rfl)⟩)
    rw [hsleep] at hduty ⊢
    exact congrArg Checker.sleep (hduty.trans hshows.runtime.epoch)
  · rw [hreturned] at hduty hat
    have hacted : (Checker.returned res).acted = true := by simpa [Checker.acted] using hduty.1
    obtain ⟨_, label, hmem, hlabel⟩ :=
      Transition.mem_of_mem_translate (hattended.called k _ hat hacted)
    obtain rfl := eq_runOnTimeout_of_labelOf hlabel
    exact .inr (.inr ⟨hrun.hasHandedOver hid hmem, hshows.runtime.fired.symm.trans hduty.2⟩)

/-- A film has kept the rule waiting, and it has fired after it. -/
theorem film_no_timeout_lost :
    ∃ (s : State FakeResourceSource) (labels : List (Label FakeResourceSource)) (rule : Rule),
      RunsFrom filmConfig {} ["dim"] labels s ∧ s.rules[0]? = some rule ∧
      s.calls = [(0, "brightnessctl -s set 20%")] ∧
      ∃ k thread, k + 1 = rule.threads.length ∧ rule.threads[k]? = some thread ∧
        (thread.panicked = true ∨
          (thread.checker = .sleep rule.runtime.epoch ∧
            LastPoll filmConfig {} ["dim"] 0 k true labels) ∨
          (HasHandedOver filmConfig {} ["dim"] 0 k rule.runtime.id labels s ∧
            rule.runtime.fired = true)) := by
  obtain ⟨s, hrun⟩ := Transition.exists_runs (step filmConfig)
    (init ({} : FakeResourceSource) (registerRules filmConfig ["dim"]))
    [.toplevel ⟨7⟩ (.state [3, 0, 0, 0]), .idled 0, .checker 0 0 .loadStart, .checker 0 0 .poll,
      .toplevel ⟨7⟩ .closed, .checker 0 0 .sleep, .checker 0 0 .loopLoad, .checker 0 0 .poll,
      .checker 0 0 .finalLoad, .checker 0 0 .runOnTimeout, .checker 0 0 .storeFired]
    (by decide +kernel)
  have hrest : AtRest s := atRest_iff.mpr (hrun.observe State.work (by decide +kernel))
  have hcalls := hrun.observe State.calls
    (by decide +kernel : _ = some [(0, "brightnessctl -s set 20%")])
  have hidle := hrun.observe (fun s => s.rules[0]?.map Rule.idle)
    (by decide +kernel : _ = some (some true))
  obtain ⟨rule, hget, haway⟩ := Option.map_eq_some_iff.mp hidle
  exact ⟨s, _, rule, hrun, hget, hcalls, no_timeout_lost hrun hrest hget haway⟩

end Client

end Nothypridle
