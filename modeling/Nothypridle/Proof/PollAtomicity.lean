import Nothypridle.Fakes
import Nothypridle.Lib.Simulation
import Nothypridle.PollSteps
import Nothypridle.Proof.ClientMoves
import Nothypridle.Proof.PoisonedMonitor

/-!
# Polls are atomic

Whatever happens between the checks of a poll, it comes back with what it would have come back with
had it been made in one step, at the moment of its last check. Only the last check of all looks at
the toplevels, no check looks at the epoch or the flag, and the keys that have been reported are
written by polls alone, which the lock keeps apart.
-/

namespace Nothypridle

open Entries (getElem?_set_of_some set_of_getElem?)

variable {S : Type} {config : RuleConfigSource}

/-! ### Checks and counters -/

def PollState.setCounters (st : PollState S) (epoch : UInt64) (fired : Bool) : PollState S :=
  { st with rule := { st.rule with epoch, fired } }

/-- The check neither looks at the counters nor changes them. -/
def IgnoresCounters (id : String) (check : PollM S Bool) : Prop :=
  ∀ st : PollState S, st.rule.id = id → ∀ epoch fired,
    check.run (st.setCounters epoch fired) =
      ((check.run st).1, (check.run st).2.setCounters epoch fired)

theorem run_warnOnce_setCounters (key msg : String) (st : PollState S) (epoch : UInt64)
    (fired : Bool) :
    ((warnOnce key msg).run (st.setCounters epoch fired)).2 =
      ((warnOnce key msg).run st).2.setCounters epoch fired := by
  have hrun : ∀ st : PollState S, ((warnOnce key msg).run st).2 =
      { st with
        rule := (st.rule.warnOnce key msg).1
        warnings := st.warnings ++ (st.rule.warnOnce key msg).2 } := fun _ => rfl
  rw [hrun, hrun]
  simp only [PollState.setCounters, RuleRuntime.warnOnce]
  split
  · split <;> rfl
  · rfl

theorem ignoresCounters_exceedsMax (id key : String) (getter : Except String Float32)
    (current : S → Float32) : IgnoresCounters id (exceedsMax key getter current) := by
  intro st _ epoch fired
  cases getter with
  | ok max => rfl
  | error err => exact congrArg (Prod.mk false) (run_warnOnce_setCounters key _ st epoch fired)

theorem ignoresCounters_belowMin (id key : String) (getter : Except String UInt32)
    (currentMb : S → UInt64) : IgnoresCounters id (belowMin key getter currentMb) := by
  intro st _ epoch fired
  cases getter with
  | ok min => rfl
  | error err => exact congrArg (Prod.mk false) (run_warnOnce_setCounters key _ st epoch fired)

variable [ResourceSource S]

theorem ignoresCounters_checks (config : RuleConfigSource) (fullscreen : Mutex FullscreenState)
    (id : String) : ∀ check ∈ checks (S := S) config fullscreen id, IgnoresCounters id check := by
  intro check hmem
  simp only [checks, List.mem_cons, List.not_mem_nil, or_false] at hmem
  rcases hmem with rfl | rfl | rfl | rfl | rfl | rfl | rfl
  · exact ignoresCounters_exceedsMax id _ _ _
  · exact ignoresCounters_exceedsMax id _ _ _
  · exact ignoresCounters_belowMin id _ _ _
  · intro st hid epoch fired
    rw [run_belowMinVram, run_belowMinVram]
    have hvram : (st.setCounters epoch fired).monitor = st.monitor := rfl
    rw [hvram]
    split
    · rfl
    · exact ignoresCounters_belowMin id _ _ _ st hid epoch fired
  · intro st _ epoch fired
    rw [run_inhibitByKeepAlive, run_inhibitByKeepAlive]
    have hid : (st.setCounters epoch fired).rule.id = st.rule.id := rfl
    rw [hid]
    cases config.keepAliveProcesses st.rule.id with
    | ok targets => cases targets <;> rfl
    | error err => exact congrArg (Prod.mk false) (run_warnOnce_setCounters _ _ st epoch fired)
  · intro st _ epoch fired
    rw [run_inhibitByMusic, run_inhibitByMusic]
    have hid : (st.setCounters epoch fired).rule.id = st.rule.id := rfl
    rw [hid]
    rcases config.musicPlaying st.rule.id with err | _ | _
    · rfl
    · rfl
    · rcases config.musicProcessName st.rule.id with err | _ | name
      · exact congrArg (Prod.mk false) (run_warnOnce_setCounters _ _ st epoch fired)
      · rfl
      · rfl
  · intro st _ epoch fired
    rw [run_inhibitByFullscreen, run_inhibitByFullscreen]
    have hid : (st.setCounters epoch fired).rule.id = st.rule.id := rfl
    rw [hid]
    rcases config.fullscreen st.rule.id with err | _ | _
    · rfl
    · rfl
    · cases fullscreen.lock <;> rfl

/-- Short of the last one, the checks do not depend on the map of toplevels. -/
theorem getElem?_checks_eq {config : RuleConfigSource} {fullscreen : Mutex FullscreenState}
    {id : String} {made : ℕ} (hmade : made + 1 < (checks (S := S) config fullscreen id).length)
    (fullscreen' : Mutex FullscreenState) :
    (checks (S := S) config fullscreen' id)[made]? =
      (checks (S := S) config fullscreen id)[made]? := by
  have hlast : ∃ firsts, ∀ states, checks (S := S) config states id =
      firsts ++ [inhibitByFullscreen config states] := ⟨[_, _, _, _, _, _], fun _ => rfl⟩
  obtain ⟨firsts, hfirsts⟩ := hlast
  rw [hfirsts, List.length_append, List.length_singleton] at hmade
  rw [hfirsts, hfirsts, List.getElem?_append_left (by omega),
    List.getElem?_append_left (by omega)]

namespace PollSteps

/-! ### A poll under way -/

/-- The poll has not been decided: the checks that are left will answer what all checks would answer
from its beginning, whatever becomes of the toplevels and the counters until then. `before` is the
rule as it was when the poll began. -/
structure Undecided (config : RuleConfigSource) (monitor : S) (poll : Polling S)
    (rule before : RuleRuntime) : Prop where
  same : before.SameCounters rule
  rest : ∀ fullscreen epoch fired,
    (untilInhibited ((checks config fullscreen rule.id).drop poll.made)).run
        (PollState.setCounters ⟨poll.monitor, rule, poll.warnings⟩ epoch fired) =
      (untilInhibited (checks config fullscreen rule.id)).run
        (PollState.setCounters ⟨ResourceSource.update monitor, before, []⟩ epoch fired)

theorem undecided_lock (monitor : S) (k : ℕ) (rule : RuleRuntime) :
    Undecided config monitor
      { k, monitor := ResourceSource.update monitor, made := 0, warnings := [] } rule rule :=
  ⟨.refl rule, fun _ _ _ => rfl⟩

variable {monitor : S} {poll : Polling S} {rule before : RuleRuntime}
  {fullscreen : Mutex FullscreenState} {check : PollM S Bool}

theorem drop_checks (hcheck : (checks config fullscreen rule.id)[poll.made]? = some check) :
    (checks config fullscreen rule.id).drop poll.made =
      check :: (checks config fullscreen rule.id).drop (poll.made + 1) := by
  obtain ⟨hlt, rfl⟩ := List.getElem?_eq_some_iff.mp hcheck
  exact List.drop_eq_getElem_cons hlt

theorem check_sameCounters (hcheck : (checks config fullscreen rule.id)[poll.made]? = some check) :
    rule.SameCounters (check.run ⟨poll.monitor, rule, poll.warnings⟩).2.rule :=
  checks_sameCounters config fullscreen rule.id check (List.mem_of_getElem? hcheck)
    ⟨poll.monitor, rule, poll.warnings⟩ rfl

/-- A check that does not inhibit, and is not the last, decides nothing. -/
theorem Undecided.next (hundecided : Undecided config monitor poll rule before)
    (hcheck : (checks config fullscreen rule.id)[poll.made]? = some check)
    (hmade : poll.made + 1 < (checks (S := S) config fullscreen rule.id).length)
    (hfree : (check.run ⟨poll.monitor, rule, poll.warnings⟩).1 = false) :
    Undecided config monitor
      { poll with
        monitor := (check.run ⟨poll.monitor, rule, poll.warnings⟩).2.monitor
        made := poll.made + 1
        warnings := (check.run ⟨poll.monitor, rule, poll.warnings⟩).2.warnings }
      (check.run ⟨poll.monitor, rule, poll.warnings⟩).2.rule before := by
  have hsame := check_sameCounters hcheck
  refine ⟨hundecided.same.trans hsame, ?_⟩
  intro states epoch fired
  have hcheck' : (checks config states rule.id)[poll.made]? = some check :=
    (getElem?_checks_eq hmade states).trans hcheck
  have hignores := ignoresCounters_checks config states rule.id check
    (List.mem_of_getElem? hcheck') ⟨poll.monitor, rule, poll.warnings⟩ rfl epoch fired
  rw [hsame.id, ← hundecided.rest states epoch fired, drop_checks hcheck', run_untilInhibited_cons,
    hignores]
  simp only [hfree, Bool.false_eq_true, if_false]

/-- A check that inhibits, or is the last, answers for the whole poll. -/
theorem Undecided.decide (hundecided : Undecided config monitor poll rule before)
    (hcheck : (checks config fullscreen rule.id)[poll.made]? = some check)
    (hdecides : (check.run ⟨poll.monitor, rule, poll.warnings⟩).1 = true ∨
      poll.made + 1 = (checks (S := S) config fullscreen rule.id).length) :
    (untilInhibited (checks config fullscreen before.id)).run
        ⟨ResourceSource.update monitor, before, []⟩ =
      check.run ⟨poll.monitor, rule, poll.warnings⟩ := by
  have hrest := hundecided.rest fullscreen before.epoch before.fired
  have hrule : PollState.setCounters ⟨poll.monitor, rule, poll.warnings⟩ before.epoch before.fired =
      (⟨poll.monitor, rule, poll.warnings⟩ : PollState S) := by
    rw [PollState.setCounters, ← hundecided.same.epoch, ← hundecided.same.fired]
  rw [hrule, drop_checks hcheck, run_untilInhibited_cons, hundecided.same.id] at hrest
  refine Eq.trans hrest.symm ?_
  cases hinhibits : (check.run ⟨poll.monitor, rule, poll.warnings⟩).1 with
  | true => simp [← hinhibits]
  | false =>
      rcases hdecides with htrue | hlast
      · rw [htrue] at hinhibits
        cases hinhibits
      · rw [hundecided.same.id] at hlast
        rw [hlast, List.drop_length]
        simp only [Bool.false_eq_true, if_false]
        exact Prod.ext hinhibits.symm rfl

/-- What becomes of the counters meanwhile does not matter. -/
theorem Undecided.counters (hundecided : Undecided config monitor poll rule before)
    (epoch : UInt64) (fired : Bool) :
    Undecided config monitor poll { rule with epoch, fired } { before with epoch, fired } :=
  ⟨⟨hundecided.same.id, rfl, rfl⟩, hundecided.rest⟩

/-! ### The daemon follows -/

/-- A poll is made at the check that ends it, or at once where the monitor is poisoned. -/
def labelOf (config : RuleConfigSource) (s : State S) : Label S → Option (Daemon.Label S)
  | .lock k => if s.resourceMonitor.poisoned then some (.poll k) else none
  | .check =>
      s.polling.bind fun poll =>
        (step config s .check).bind fun next =>
          if next.polling.isNone then some (.poll poll.k) else none
  | .panics monitor warned readsMap =>
      s.polling.map fun poll => .pollPanics poll.k monitor warned readsMap
  | .toplevel id event => some (.toplevel id event)
  | .readings monitor => some (.readings monitor)
  | .counters j epoch fired => some (.counters j epoch fired)

/-- The daemon has the rule of a poll under way as it was when the poll began. -/
def MatchedRules (config : RuleConfigSource) (s : State S) (rules : List RuleRuntime) :
    Option (Polling S) → Prop
  | none => rules = s.rules
  | some poll =>
      ∃ rule before, s.rules[poll.k]? = some rule ∧ rules = s.rules.set poll.k before ∧
        s.resourceMonitor.poisoned = false ∧
        Undecided config s.resourceMonitor.data poll rule before

structure Matches (config : RuleConfigSource) (s : State S) (t : Daemon.State S × List Answer) :
    Prop where
  resourceMonitor : t.1.resourceMonitor = s.resourceMonitor
  fullscreen : t.1.fullscreen = s.fullscreen
  answers : t.2 = s.answers
  rules : MatchedRules config s t.1.rules s.polling

variable {s s' : State S} {t : Daemon.State S × List Answer}

variable (config) in
theorem shouldInhibit_of_lock_error {resourceMonitor : Mutex S} {err : String}
    (hlock : resourceMonitor.lock = .error err) (fullscreen : Mutex FullscreenState)
    (rule : RuleRuntime) :
    shouldInhibit config resourceMonitor fullscreen rule =
      { inhibited := false, resourceMonitor, rule
        warnings := [s!"Monitor: ResourceMonitor lock poisoned for rule '{rule.id}': {err}"] } := by
  rw [shouldInhibit, hlock]

theorem shouldInhibit_of_decided {resourceMonitor : Mutex S} {check : PollM S Bool}
    (hundecided : Undecided config resourceMonitor.data poll rule before)
    (hhealthy : resourceMonitor.poisoned = false)
    (hcheck : (checks config fullscreen rule.id)[poll.made]? = some check)
    (hdecides : (check.run ⟨poll.monitor, rule, poll.warnings⟩).1 = true ∨
      poll.made + 1 = (checks (S := S) config fullscreen rule.id).length) :
    shouldInhibit config resourceMonitor fullscreen before =
      { inhibited := (check.run ⟨poll.monitor, rule, poll.warnings⟩).1
        resourceMonitor :=
          resourceMonitor.release (check.run ⟨poll.monitor, rule, poll.warnings⟩).2.monitor
        rule := (check.run ⟨poll.monitor, rule, poll.warnings⟩).2.rule
        warnings := (check.run ⟨poll.monitor, rule, poll.warnings⟩).2.warnings } := by
  rw [shouldInhibit, Mutex.lock_of_healthy hhealthy]
  simp only [hundecided.decide hcheck hdecides]

theorem runs_poll {k : ℕ} {result : Poll S} (hrule : t.1.rules[k]? = some before)
    (hresult : shouldInhibit config t.1.resourceMonitor t.1.fullscreen before = result) :
    Transition.Runs (atomicStep config) t [.poll k]
      ({ t.1 with
          resourceMonitor := result.resourceMonitor
          rules := t.1.rules.set k result.rule },
        t.2 ++ [{ k, inhibited := result.inhibited, warnings := result.warnings }]) := by
  subst hresult
  rw [Transition.runs_singleton_iff]
  simp only [atomicStep, Daemon.step, answerOf, hrule, Option.map_some, Option.toList_some]

theorem follows_lock {k : ℕ} (hmatches : Matches config s t)
    (hstep : step config s (.lock k) = some s') :
    ∃ t', Transition.Runs (atomicStep config) t (labelOf config s (.lock k)).toList t' ∧
      Matches config s' t' := by
  have hidle : s.polling = none := by
    cases hpolling : s.polling with
    | none => rfl
    | some poll => simp [step, hpolling] at hstep
  obtain ⟨⟨_, _, rules⟩, _⟩ := t
  obtain ⟨rfl, rfl, rfl, hrules⟩ := hmatches
  rw [hidle] at hrules
  subst hrules
  simp only [step, hidle, Option.isSome_none, Bool.false_eq_true, if_false,
    Option.map_eq_some_iff] at hstep
  obtain ⟨rule, hrule, rfl⟩ := hstep
  cases hpoisoned : s.resourceMonitor.poisoned with
  | true =>
      have hlock := Mutex.lock_of_poisoned hpoisoned
      have hresult := shouldInhibit_of_lock_error config hlock s.fullscreen rule
      simp only [labelOf, hpoisoned, if_true, hlock]
      exact ⟨_, runs_poll hrule hresult, rfl, rfl, rfl, set_of_getElem? hrule⟩
  | false =>
      have hlock := Mutex.lock_of_healthy hpoisoned
      simp only [labelOf, hpoisoned, hlock]
      exact ⟨_, rfl, rfl, rfl, rfl, rule, rule, hrule, (set_of_getElem? hrule).symm, hpoisoned,
        undecided_lock s.resourceMonitor.data k rule⟩

theorem follows_check (hmatches : Matches config s t) (hstep : step config s .check = some s') :
    ∃ t', Transition.Runs (atomicStep config) t (labelOf config s .check).toList t' ∧
      Matches config s' t' := by
  have htaken := hstep
  obtain ⟨⟨_, _, rules⟩, _⟩ := t
  obtain ⟨rfl, rfl, rfl, hrules⟩ := hmatches
  simp only [step, Option.bind_eq_some_iff, Option.map_eq_some_iff] at hstep
  obtain ⟨poll, hpoll, rule', hrule', check, hcheck, hs'⟩ := hstep
  rw [hpoll] at hrules
  obtain ⟨rule, before, hrule, rfl, hhealthy, hundecided⟩ := hrules
  obtain rfl := Option.some.inj (hrule'.symm.trans hrule)
  simp only [labelOf, hpoll, htaken, Option.bind_some]
  split at hs'
  case isTrue hdecides =>
    subst hs'
    rw [Bool.or_eq_true, decide_eq_true_eq] at hdecides
    have hresult := shouldInhibit_of_decided hundecided hhealthy hcheck hdecides
    refine ⟨_, runs_poll (getElem?_set_of_some hrule before) hresult, rfl, rfl, rfl, ?_⟩
    exact List.set_set before
  case isFalse hcontinues =>
    subst hs'
    rw [Bool.or_eq_true, decide_eq_true_eq, not_or, Bool.not_eq_true] at hcontinues
    have hmade : poll.made + 1 < (checks config s.fullscreen rule'.id).length :=
      lt_of_le_of_ne (List.getElem?_eq_some_iff.mp hcheck).1 hcontinues.2
    exact ⟨_, rfl, rfl, rfl, rfl, _, before, getElem?_set_of_some hrule _, (List.set_set _).symm,
      hhealthy, hundecided.next hcheck hmade hcontinues.1⟩

theorem follows_panics {monitor : S} {warned : Mutex (Finset String)} {readsMap : Bool}
    (hmatches : Matches config s t)
    (hstep : step config s (.panics monitor warned readsMap) = some s') :
    ∃ t', Transition.Runs (atomicStep config) t
        (labelOf config s (.panics monitor warned readsMap)).toList t' ∧
      Matches config s' t' := by
  obtain ⟨⟨_, _, rules⟩, _⟩ := t
  obtain ⟨rfl, rfl, rfl, hrules⟩ := hmatches
  simp only [step, Option.bind_eq_some_iff, Option.map_eq_some_iff] at hstep
  obtain ⟨poll, hpoll, rule', hrule', rfl⟩ := hstep
  rw [hpoll] at hrules
  obtain ⟨rule, before, hrule, rfl, hhealthy, hundecided⟩ := hrules
  obtain rfl := Option.some.inj (hrule'.symm.trans hrule)
  have hbefore : { before with warned } = { rule' with warned } := by
    obtain ⟨hid, hepoch, hfired⟩ := hundecided.same
    rw [← hid, ← hepoch, ← hfired]
  have hlock := Mutex.lock_of_healthy hhealthy
  simp only [labelOf, hpoll, Option.map_some, Option.toList_some, Transition.runs_singleton_iff]
  simp only [atomicStep, Daemon.step, answerOf, getElem?_set_of_some hrule before, hlock]
  refine ⟨_, rfl, rfl, rfl, List.append_nil s.answers, ?_⟩
  rw [MatchedRules, hbefore]
  exact List.set_set before

theorem follows_counters {j : ℕ} {epoch : UInt64} {fired : Bool} (hmatches : Matches config s t)
    (hstep : step config s (.counters j epoch fired) = some s') :
    ∃ t', Transition.Runs (atomicStep config) t
        (labelOf config s (.counters j epoch fired)).toList t' ∧
      Matches config s' t' := by
  obtain ⟨⟨_, _, rules⟩, _⟩ := t
  obtain ⟨rfl, rfl, rfl, hrules⟩ := hmatches
  simp only [step, Option.map_eq_some_iff] at hstep
  obtain ⟨rule, hrule, rfl⟩ := hstep
  simp only [labelOf, Option.toList_some, Transition.runs_singleton_iff, atomicStep, Daemon.step,
    answerOf, Option.map_map, Option.map_eq_some_iff]
  cases hpolling : s.polling with
  | none =>
      rw [hpolling] at hrules
      subst hrules
      exact ⟨_, ⟨rule, hrule, rfl⟩, rfl, rfl, List.append_nil s.answers, rfl⟩
  | some poll =>
      rw [hpolling] at hrules
      obtain ⟨polled, before, hpolled, rfl, hhealthy, hundecided⟩ := hrules
      by_cases hj : poll.k = j
      · subst hj
        obtain rfl := Option.some.inj (hrule.symm.trans hpolled)
        refine ⟨_, ⟨before, getElem?_set_of_some hrule before, rfl⟩, rfl, rfl,
          List.append_nil s.answers, ?_⟩
        refine ⟨_, { before with epoch, fired }, getElem?_set_of_some hrule _, ?_, hhealthy,
          hundecided.counters epoch fired⟩
        exact (List.set_set before).trans (List.set_set _).symm
      · refine ⟨_, ⟨rule, ?_, rfl⟩, rfl, rfl, List.append_nil s.answers, ?_⟩
        · exact (List.getElem?_set_ne hj).trans hrule
        · refine ⟨polled, before, ?_, List.set_comm _ _ hj, hhealthy, hundecided⟩
          exact (List.getElem?_set_ne (Ne.symm hj)).trans hpolled

theorem pollSimulation (config : RuleConfigSource) :
    Transition.Simulation (step config) (fun _ _ => True) (atomicStep (S := S) config)
      (labelOf config) (Matches config) := by
  intro s t label s' hmatches _ hstep
  cases label with
  | lock k => exact follows_lock hmatches hstep
  | check => exact follows_check hmatches hstep
  | panics monitor warned readsMap => exact follows_panics hmatches hstep
  | toplevel id event =>
      obtain ⟨⟨_, _, rules⟩, _⟩ := t
      obtain ⟨rfl, rfl, rfl, hrules⟩ := hmatches
      obtain rfl := Option.some.inj hstep
      exact ⟨_, rfl, rfl, rfl, List.append_nil _, hrules⟩
  | readings monitor =>
      obtain ⟨⟨_, _, rules⟩, _⟩ := t
      obtain ⟨rfl, rfl, rfl, hrules⟩ := hmatches
      have hidle : s.polling = none := by
        cases hpolling : s.polling with
        | none => rfl
        | some poll => simp [step, hpolling] at hstep
      rw [step, hidle] at hstep
      rw [hidle] at hrules
      obtain rfl := Option.some.inj hstep
      exact ⟨_, rfl, rfl, rfl, List.append_nil s.answers, hrules⟩
  | counters j epoch fired => exact follows_counters hmatches hstep

theorem matches_init (config : RuleConfigSource) (monitor : S) (ids : List String) :
    Matches config (init monitor ids) (Daemon.init monitor ids, []) := ⟨rfl, rfl, rfl, rfl⟩

/-- **Polls are atomic.** Every run whose polls are made check by check is followed by a run of the
daemon that makes each of them in one step, at the check that ended it. It gives the same answers,
and wherever no poll is under way it is in the same state. -/
theorem polls_atomic {monitor : S} {ids : List String} {labels : List (Label S)}
    (hrun : Transition.Runs (step config) (init monitor ids) labels s) :
    ∃ t, Transition.Runs (atomicStep config) (Daemon.init monitor ids, [])
        (Transition.translate (step config) (labelOf config) (init monitor ids) labels)
        (t, s.answers) ∧
      t.resourceMonitor = s.resourceMonitor ∧ t.fullscreen = s.fullscreen ∧
      (s.polling = none → t.rules = s.rules) := by
  obtain ⟨⟨t, answers⟩, hfollows, hmatches⟩ :=
    (pollSimulation config).runs_of_unguarded hrun (matches_init config monitor ids)
  obtain rfl := hmatches.answers
  refine ⟨t, hfollows, hmatches.resourceMonitor, hmatches.fullscreen, ?_⟩
  intro hidle
  have hrules := hmatches.rules
  rw [hidle] at hrules
  exact hrules

/-- The toplevel becomes fullscreen between the checks, and the rule has fired. -/
theorem film_polls_atomic :
    ∃ (s : State FakeResourceSource) (t : Daemon.State FakeResourceSource)
      (labels : List (Daemon.Label FakeResourceSource)),
      s.answers.map Answer.inhibited = [true] ∧
      Transition.Runs (atomicStep (FakeConfig.source { fullscreen := some true }))
        (Daemon.init {} ["dim", "lock"], []) labels (t, s.answers) ∧
      t.resourceMonitor = s.resourceMonitor ∧ t.fullscreen = s.fullscreen ∧
      (s.polling = none → t.rules = s.rules) := by
  obtain ⟨s, hrun⟩ := Transition.exists_runs
    (step (FakeConfig.source { fullscreen := some true }))
    (init ({} : FakeResourceSource) ["dim", "lock"])
    [.lock 0, .check, .check, .check, .counters 0 1 true, .check, .check,
      .toplevel ⟨7⟩ (.state [3, 0, 0, 0]), .check, .check] (by decide +kernel)
  have hanswers := hrun.observe (fun s => s.answers.map Answer.inhibited)
    (by decide +kernel : _ = some [true])
  obtain ⟨t, hfollows, hsame⟩ := polls_atomic hrun
  exact ⟨s, t, _, hanswers, hfollows, hsame⟩

end PollSteps

end Nothypridle
