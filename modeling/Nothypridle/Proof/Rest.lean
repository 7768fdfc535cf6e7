import Nothypridle.Fakes
import Nothypridle.Proof.ClientMoves
import Nothypridle.Proof.RuleView

/-!
# The client comes to rest

A checker that is not asleep has at most five accesses before it returns or goes to sleep, and a
dispatch is over after at most three steps. So the client never spins: what it does is bounded by
the events and the sleeps, and when no step is left that it could make at once, every thread has
returned or panicked or is asleep, and the next event can be dispatched.
-/

namespace Nothypridle

open Entries (getElem?_set_of_some sum_map_set)

/-- The accesses before the checker returns or sleeps. -/
def Checker.work : Checker → ℕ
  | .loadStart => 5
  | .poll _ => 4
  | .sleep _ => 0
  | .loopLoad _ => 5
  | .finalLoad _ => 3
  | .runOnTimeout => 2
  | .storeFired _ => 1
  | .returned _ => 0

def Dispatcher.work : Dispatcher → ℕ
  | .waiting => 0
  | .loadFired => 3
  | .clearFired => 2
  | .runOnResume => 1

namespace Client

section

variable {S : Type}

/-- The steps that the client can make by itself, and at once. -/
def Label.isPrompt : Label S → Bool
  | .loadFired _ => true
  | .clearFired _ => true
  | .runOnResume _ => true
  | .checker _ _ action => action ≠ .sleep
  | _ => false

def Label.isSleep : Label S → Bool
  | .checker _ _ action => action = .sleep
  | _ => false

def Thread.work (thread : Thread) : ℕ := if thread.panicked then 0 else thread.checker.work

def Rule.work (rule : Rule) : ℕ := (rule.threads.map Thread.work).sum

def threadWork (rules : List Rule) : ℕ := (rules.map Rule.work).sum

def State.work (s : State S) : ℕ := threadWork s.rules + s.dispatcher.work

/-- Nothing happens before the next event, or before a sleep is over. -/
structure AtRest (s : State S) : Prop where
  dispatcher : s.dispatcher = .waiting
  threads : ∀ rule ∈ s.rules, ∀ thread ∈ rule.threads, thread.panicked = true ∨
    (∃ startEpoch, thread.checker = .sleep startEpoch) ∨ ∃ res, thread.checker = .returned res

theorem Thread.work_eq_zero_iff {thread : Thread} :
    thread.work = 0 ↔ thread.panicked = true ∨
      (∃ startEpoch, thread.checker = .sleep startEpoch) ∨
        ∃ res, thread.checker = .returned res := by
  obtain ⟨checker, panicked⟩ := thread
  cases panicked <;> cases checker <;> simp [Thread.work, Checker.work]

theorem Rule.work_eq_zero_iff {rule : Rule} :
    rule.work = 0 ↔ ∀ thread ∈ rule.threads, thread.work = 0 := by
  rw [Rule.work, List.sum_eq_zero_iff_forall_eq_nat, List.forall_mem_map]

theorem atRest_iff {s : State S} : AtRest s ↔ s.work = 0 := by
  have hdispatcher : s.dispatcher.work = 0 ↔ s.dispatcher = .waiting := by
    cases s.dispatcher <;> simp [Dispatcher.work]
  rw [State.work, Nat.add_eq_zero_iff, threadWork, List.sum_eq_zero_iff_forall_eq_nat,
    List.forall_mem_map, hdispatcher]
  simp only [Rule.work_eq_zero_iff, Thread.work_eq_zero_iff]
  constructor
  · intro hrest
    exact ⟨hrest.threads, hrest.dispatcher⟩
  · intro hrest
    exact ⟨hrest.2, hrest.1⟩

theorem threadWork_set {rules : List Rule} {j : ℕ} {rule : Rule} (hget : rules[j]? = some rule)
    (rule' : Rule) :
    threadWork (rules.set j rule') + rule.work = threadWork rules + rule'.work :=
  sum_map_set Rule.work hget rule'

end

variable {S : Type} [ResourceSource S] {config : RuleConfigSource}

/-- With the options of the daemon an inhibited poll is followed by a sleep. -/
theorem not_pollAgain {rule rule' : RuleRuntime} {startEpoch : UInt64} {resourceMonitor : Mutex S}
    {fullscreen : Mutex FullscreenState} {commands : List String} :
    (Checker.poll startEpoch).step config .default rule (.poll resourceMonitor fullscreen) ≠
      some (.loopLoad startEpoch, rule', commands) := by
  intro hstep
  simp only [Checker.step, IdleCheckOptions.default] at hstep
  split at hstep <;> simp at hstep

/-- A thread uses its work up, and a sleep gives it new work. -/
theorem work_checkerStep {rule rule' : RuleRuntime} {checker checker' : Checker} {action : Action}
    {resourceMonitor : Mutex S} {fullscreen : Mutex FullscreenState} {commands : List String}
    (hstep : checker.step config .default rule (action.step resourceMonitor fullscreen) =
      some (checker', rule', commands)) :
    checker'.work + 1 ≤ checker.work + if action = .sleep then 6 else 0 := by
  cases action with
  | poll =>
      cases Checker.move_of_step hstep with
      | pollSleep => simp [Checker.work]
      | pollAgain => exact absurd hstep not_pollAgain
      | pollFree => simp [Checker.work]
  | _ => cases Checker.move_of_step hstep <;> simp [Checker.work]

/-- A step uses work up, unless it is an event or ends a sleep. -/
theorem work_step {s s' : State S} {label : Label S} (hmove : Move config s label s') :
    [label].countP Label.isPrompt + s'.work ≤
      s.work + 5 * [label].countP Label.isIdled + 3 * [label].countP Label.isResumed +
        5 * [label].countP Label.isSleep := by
  cases hmove with
  | @idled j rule hget hwaiting =>
      have hsum := threadWork_set hget
        { rule with idle := true, threads := rule.threads ++ [.spawned] }
      have hrule : Rule.work { rule with
          idle := true, threads := rule.threads ++ [.spawned] } = rule.work + 5 := by
        simp [Rule.work, Thread.spawned, Thread.work, Checker.work]
      simp [State.work, State.setRule, Label.isPrompt, Label.isIdled, Label.isResumed,
        Label.isSleep]
      omega
  | @resumed j rule hget hwaiting =>
      have hsum := threadWork_set hget
        { rule with idle := false, runtime := rule.runtime.bumpEpoch }
      have hrule : Rule.work { rule with
          idle := false, runtime := rule.runtime.bumpEpoch } = rule.work := rfl
      simp [State.work, State.setRule, Label.isPrompt, Label.isIdled, Label.isResumed,
        Label.isSleep, hwaiting, Dispatcher.work]
      omega
  | @loadFired j rule hget hloading =>
      have hnext : Dispatcher.work (if rule.runtime.fired then .clearFired else .waiting) ≤ 2 := by
        split <;> simp [Dispatcher.work]
      have hnow : s.dispatcher.work = 3 := by rw [hloading, Dispatcher.work]
      simp [State.work, Label.isPrompt, Label.isIdled, Label.isResumed, Label.isSleep, hnow]
      omega
  | @clearFired j rule hget hclearing =>
      have hsum := threadWork_set hget { rule with runtime := rule.runtime.setFired false }
      have hrule : Rule.work { rule with runtime := rule.runtime.setFired false } = rule.work := rfl
      simp [State.work, State.setRule, Label.isPrompt, Label.isIdled, Label.isResumed,
        Label.isSleep, hclearing, Dispatcher.work]
      omega
  | @runOnResume j rule hget hrunning =>
      simp [State.work, Label.isPrompt, Label.isIdled, Label.isResumed, Label.isSleep, hrunning,
        Dispatcher.work]
      omega
  | @checker j k action rule thread checker runtime commands hget hthread halive hstep =>
      have hused := work_checkerStep hstep
      have hrule := sum_map_set Thread.work hthread { thread with checker }
      have hsum := threadWork_set hget
        { rule with runtime, threads := rule.threads.set k { thread with checker } }
      have hbefore : thread.work = thread.checker.work := by simp [Thread.work, halive]
      have hafter : Thread.work { thread with checker } = checker.work := by
        simp [Thread.work, halive]
      simp only [Rule.work] at hrule hsum
      simp only [State.work, accessed_rules, accessed_dispatcher, Label.isPrompt, Label.isIdled,
        Label.isResumed, Label.isSleep, List.countP_singleton]
      by_cases hsleep : action = .sleep
      · simp [hsleep] at hused ⊢
        omega
      · simp [hsleep] at hused ⊢
        omega
  | @pollPanics j k monitor warned readsMap rule startEpoch source hget hthread =>
      have hrule := sum_map_set Thread.work hthread ⟨.poll startEpoch, true⟩
      have hsum := threadWork_set hget
        { rule with
          runtime := { rule.runtime with warned }
          threads := rule.threads.set k ⟨.poll startEpoch, true⟩ }
      have hafter : Thread.work ⟨.poll startEpoch, true⟩ = 0 := rfl
      simp only [Rule.work] at hrule hsum
      simp [State.work, State.setRule, Label.isPrompt, Label.isIdled, Label.isResumed,
        Label.isSleep]
      omega
  | toplevel => simp [State.work, Label.isPrompt, Label.isIdled, Label.isResumed, Label.isSleep]
  | readings => simp [State.work, Label.isPrompt, Label.isIdled, Label.isResumed, Label.isSleep]

/-! ### What is left to do can be done -/

/-- The rule whose `Resumed` is being dispatched is there. -/
def Dispatches (s : State S) : Prop :=
  s.dispatcher ≠ .waiting → ∃ rule, s.rules[s.dispatched]? = some rule

theorem Dispatches.step {s s' : State S} {label : Label S} (hdispatches : Dispatches s)
    (hmove : Move config s label s') : Dispatches s' := by
  have hset : ∀ {j i : ℕ} {rule rule' : Rule}, s.rules[j]? = some rule →
      s.rules[i]? = some rule' → ∀ new, ∃ rule, (s.rules.set j new)[i]? = some rule := by
    intro j i rule rule' _ hgeti new
    have hlt := (List.getElem?_eq_some_iff.mp hgeti).1
    exact ⟨_, List.getElem?_eq_getElem (by simpa using hlt)⟩
  cases hmove with
  | idled hget hwaiting => exact fun hbusy => absurd hwaiting hbusy
  | resumed hget => exact fun _ => ⟨_, getElem?_set_of_some hget _⟩
  | loadFired hget hloading => exact fun _ => hdispatches (by simp [hloading])
  | clearFired hget hclearing =>
      intro _
      obtain ⟨rule, hrule⟩ := hdispatches (by simp [hclearing])
      exact hset hget hrule _
  | runOnResume => exact fun hbusy => absurd rfl hbusy
  | checker hget =>
      intro hbusy
      rw [accessed_dispatcher] at hbusy
      rw [accessed_rules, accessed_dispatched]
      obtain ⟨rule, hrule⟩ := hdispatches hbusy
      exact hset hget hrule _
  | pollPanics hget =>
      intro hbusy
      obtain ⟨rule, hrule⟩ := hdispatches hbusy
      exact hset hget hrule _
  | toplevel hwaiting => exact fun hbusy => absurd hwaiting hbusy
  | readings => exact hdispatches

/-- Where the checker stands, it can make its access, whatever it finds. -/
theorem exists_checkerStep (config : RuleConfigSource) {checker : Checker}
    (hwork : 0 < checker.work) (rule : RuleRuntime) (resourceMonitor : Mutex S)
    (fullscreen : Mutex FullscreenState) :
    ∃ action : Action, action ≠ .sleep ∧
      ∃ result, checker.step config .default rule (action.step resourceMonitor fullscreen) =
        some result := by
  cases checker with
  | loadStart => exact ⟨.loadStart, by simp, _, rfl⟩
  | poll startEpoch =>
      refine ⟨.poll, by simp, ?_⟩
      simp only [Action.step, Checker.step]
      split
      · exact ⟨_, rfl⟩
      · exact ⟨_, rfl⟩
  | sleep startEpoch => simp [Checker.work] at hwork
  | loopLoad startEpoch =>
      refine ⟨.loopLoad, by simp, ?_⟩
      simp only [Action.step, Checker.step]
      split <;> exact ⟨_, rfl⟩
  | finalLoad startEpoch =>
      refine ⟨.finalLoad, by simp, ?_⟩
      simp only [Action.step, Checker.step]
      split <;> exact ⟨_, rfl⟩
  | runOnTimeout =>
      refine ⟨.runOnTimeout, by simp, ?_⟩
      simp only [Action.step, Checker.step]
      split <;> exact ⟨_, rfl⟩
  | storeFired res => exact ⟨.storeFired, by simp, _, rfl⟩
  | returned res => simp [Checker.work] at hwork

theorem exists_prompt_step {s : State S} (hdispatches : Dispatches s) (hwork : 0 < s.work) :
    ∃ label s', label.isPrompt = true ∧ step config s label = some s' := by
  cases hdispatcher : s.dispatcher with
  | waiting =>
      have hthreads : 0 < threadWork s.rules := by
        simpa [State.work, hdispatcher, Dispatcher.work] using hwork
      obtain ⟨_, hworks, hrule⟩ := List.sum_pos_iff_exists_pos_nat.mp hthreads
      obtain ⟨rule, hrules, rfl⟩ := List.mem_map.mp hworks
      obtain ⟨j, hget⟩ := List.mem_iff_getElem?.mp hrules
      obtain ⟨_, hworks, hthread⟩ := List.sum_pos_iff_exists_pos_nat.mp hrule
      obtain ⟨thread, hthreads, rfl⟩ := List.mem_map.mp hworks
      obtain ⟨k, hat⟩ := List.mem_iff_getElem?.mp hthreads
      have halive : thread.panicked = false := by
        cases hpanicked : thread.panicked with
        | false => rfl
        | true => simp [Thread.work, hpanicked] at hthread
      have hchecker : 0 < thread.checker.work := by simpa [Thread.work, halive] using hthread
      obtain ⟨action, hawake, ⟨checker, runtime, commands⟩, hstep⟩ :=
        exists_checkerStep config hchecker rule.runtime s.resourceMonitor s.fullscreen
      exact ⟨.checker j k action, _, by simpa [Label.isPrompt] using hawake,
        step_of_move (.checker hget hat halive hstep)⟩
  | loadFired =>
      obtain ⟨rule, hrule⟩ := hdispatches (by simp [hdispatcher])
      exact ⟨.loadFired s.dispatched, _, rfl, step_of_move (.loadFired hrule hdispatcher rfl)⟩
  | clearFired =>
      obtain ⟨rule, hrule⟩ := hdispatches (by simp [hdispatcher])
      exact ⟨.clearFired s.dispatched, _, rfl, step_of_move (.clearFired hrule hdispatcher rfl)⟩
  | runOnResume =>
      obtain ⟨rule, hrule⟩ := hdispatches (by simp [hdispatcher])
      exact ⟨.runOnResume s.dispatched, _, rfl, step_of_move (.runOnResume hrule hdispatcher rfl)⟩

theorem settles (config : RuleConfigSource) :
    Transition.Settles (step (S := S) config) (fun label => label.isPrompt = true) Dispatches
      State.work where
  preserves _ _ _ hdispatches _ hstep := hdispatches.step (move_of_step hstep)
  uses s label s' _ hprompt hstep := by
    have hused := work_step (move_of_step hstep)
    cases label <;> simp [Label.isPrompt] at hprompt <;>
      simp [Label.isPrompt, Label.isIdled, Label.isResumed, Label.isSleep, hprompt] at hused <;>
      omega
  enabled _ hdispatches hwork := exists_prompt_step hdispatches hwork

theorem RunsFrom.work_le {monitor : S} {ids : List String} {labels : List (Label S)} {s : State S}
    (hrun : RunsFrom config monitor ids labels s) :
    labels.countP Label.isPrompt + s.work ≤
      5 * labels.countP Label.isIdled + 3 * labels.countP Label.isResumed +
        5 * labels.countP Label.isSleep := by
  have hpreserved : ∀ (history : List (Label S)) (s : State S) label s',
      history.countP Label.isPrompt + s.work ≤
        5 * history.countP Label.isIdled + 3 * history.countP Label.isResumed +
          5 * history.countP Label.isSleep →
      step config s label = some s' →
      (history ++ [label]).countP Label.isPrompt + s'.work ≤
        5 * (history ++ [label]).countP Label.isIdled +
          3 * (history ++ [label]).countP Label.isResumed +
            5 * (history ++ [label]).countP Label.isSleep := by
    intro history s label s' hbound hstep
    have hused := work_step (move_of_step hstep)
    simp only [List.countP_append]
    omega
  have hinit : (init monitor (registerRules config ids)).work = 0 := by
    simp [init, State.work, threadWork, Rule.work, Dispatcher.work, Function.comp_def]
  exact Transition.Runs.history_invariant hpreserved [] hrun (by simp [hinit])

/-- **The client comes to rest.** In every run, the accesses and the steps of the dispatch are
bounded by the events and the sleeps. From every state of a run the client has only so many of them
left before the next event or the end of a sleep, and once it can make none it is at rest. -/
theorem comes_to_rest {monitor : S} {ids : List String} {labels : List (Label S)} {s : State S}
    (hrun : RunsFrom config monitor ids labels s) :
    labels.countP Label.isPrompt + s.work ≤
        5 * labels.countP Label.isIdled + 3 * labels.countP Label.isResumed +
          5 * labels.countP Label.isSleep ∧
      ∀ more s', Transition.Runs (step config) s more s' →
        (∀ label ∈ more, label.isPrompt = true) →
        more.length ≤ s.work ∧
          ((∀ label s'', label.isPrompt = true → step config s' label ≠ some s'') →
            AtRest s') := by
  refine ⟨hrun.work_le, ?_⟩
  intro more s' hmore hprompt
  have hdispatches : Dispatches s := Transition.Runs.invariant
    (fun _ _ _ hdispatches hstep => hdispatches.step (move_of_step hstep)) hrun
    fun hbusy => absurd rfl hbusy
  obtain ⟨hlength, hdone⟩ := (settles config).runs hmore hprompt hdispatches
  exact ⟨by omega, fun hnone => atRest_iff.mpr (hdone hnone)⟩

theorem dim_comes_to_rest :
    ∃ s : State FakeResourceSource,
      RunsFrom dimConfig {} ["lock", "dim"] [.idled 1, .checker 1 0 .loadStart, .resumed 1] s ∧
      s.work = 7 ∧
      ∀ more s', Transition.Runs (step dimConfig) s more s' →
        (∀ label ∈ more, label.isPrompt = true) →
        more.length ≤ s.work ∧
          ((∀ label s'', label.isPrompt = true → step dimConfig s' label ≠ some s'') →
            AtRest s') := by
  obtain ⟨s, hrun⟩ := Transition.exists_runs (step dimConfig)
    (init ({} : FakeResourceSource) (registerRules dimConfig ["lock", "dim"]))
    [.idled 1, .checker 1 0 .loadStart, .resumed 1] (by decide +kernel)
  have hwork := hrun.observe State.work (by decide +kernel : _ = some 7)
  exact ⟨s, hrun, hwork, (comes_to_rest hrun).2⟩

end Client

end Nothypridle
