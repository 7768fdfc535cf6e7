import Nothypridle.Proof.RuleView
import Nothypridle.Proof.Warnings

/-!
# What the client logs about a rule

Among all threads of all rules, what the polls of one rule log is the log of the rule's own history:
its polls, each with the locks as it finds them, and the changes of its counters. So the law of the
warnings holds in the running client, as long as no poll panics: a setting is warned about once, by
the first thread of the rule that finds it broken.
-/

namespace Nothypridle

open Entries (getElem?_set_of_some)

variable {S : Type} [ResourceSource S] {config : RuleConfigSource}

/-! ### The history of a rule -/

/-- A history as a run, with the lines logged so far. -/
def RuleEvent.step (t : RuleRuntime × List String) (event : RuleEvent S) :
    Option (RuleRuntime × List String) :=
  some ((event.run t.1).1, t.2 ++ (event.run t.1).2)

theorem RuleEvent.runs_watch {events : List (RuleEvent S)} {t t' : RuleRuntime × List String}
    (hrun : Transition.Runs RuleEvent.step t events t') : t'.2 = t.2 ++ watch t.1 events := by
  induction events generalizing t with
  | nil =>
      obtain rfl := Transition.runs_nil_iff.mp hrun
      exact (List.append_nil t.2).symm
  | cons event events ih =>
      obtain ⟨next, hstep, hrest⟩ := Transition.runs_cons_iff.mp hrun
      obtain rfl := Option.some.inj hstep
      rw [ih hrest, watch, List.append_assoc]

/-- What an access leaves of the rule. -/
theorem Checker.step_rule {options : IdleCheckOptions} {rule rule' : RuleRuntime}
    {checker checker' : Checker} {a : CheckerStep S} {commands : List String}
    (hstep : checker.step config options rule a = some (checker', rule', commands)) :
    rule' = match a with
      | .poll resourceMonitor fullscreen =>
          (shouldInhibit config resourceMonitor fullscreen rule).rule
      | .storeFired => rule.setFired true
      | _ => rule := by
  cases a with
  | poll resourceMonitor fullscreen =>
      cases checker <;> simp only [Checker.step, reduceCtorEq] at hstep
      split at hstep
      · split at hstep <;> cases hstep <;> rfl
      · cases hstep
        rfl
  | _ => cases Checker.move_of_step hstep <;> rfl

namespace Client

/-- What a step of the client is in the history of rule `j`. -/
def eventOf (config : RuleConfigSource) (j : ℕ) (s : State S) : Label S → Option (RuleEvent S)
  | .resumed i => if i = j then some .bumpEpoch else none
  | .clearFired i => if i = j then some (.setFired false) else none
  | .checker i _ .poll =>
      if i = j then some (.poll config s.resourceMonitor s.fullscreen) else none
  | .checker i _ .storeFired => if i = j then some (.setFired true) else none
  | _ => none

/-- The rule as the history has it, and the lines that are for it. -/
def LogView (j : ℕ) (s : State S) (t : RuleRuntime × List String) : Prop :=
  (s.rules[j]?).map Rule.runtime = some t.1 ∧ ofRule j s.warnings = t.2

/-- The rule is in `s'` what the step makes of it, and the lines are those of the step. -/
structure Logs (j : ℕ) (s s' : State S)
    (after : RuleRuntime → RuleRuntime × List String) : Prop where
  runtime : ∀ rule, s.rules[j]? = some rule →
    (s'.rules[j]?).map Rule.runtime = some (after rule.runtime).1
  warnings : ∀ rule, s.rules[j]? = some rule →
    ofRule j s'.warnings = ofRule j s.warnings ++ (after rule.runtime).2

section

variable {j : ℕ} {s s' : State S}

omit [ResourceSource S]

theorem noLines (i : ℕ) (log : List (ℕ × String)) : log = log ++ ([] : List String).map (i, ·) :=
  (List.append_nil log).symm

theorem Logs.other {i : ℕ} {rule' : Rule} (hij : i ≠ j) (hrules : s'.rules = s.rules.set i rule')
    {lines : List String} (hwarnings : s'.warnings = s.warnings ++ lines.map (i, ·)) :
    Logs j s s' fun runtime => (runtime, []) where
  runtime rule hget := by
    rw [hrules, List.getElem?_set_ne hij, hget, Option.map_some]
  warnings _ _ := by rw [hwarnings, ofRule_append, if_neg hij]

theorem Logs.own {rule rule' : Rule} (hget : s.rules[j]? = some rule)
    (hrules : s'.rules = s.rules.set j rule') {lines : List String}
    (hwarnings : s'.warnings = s.warnings ++ lines.map (j, ·))
    {after : RuleRuntime → RuleRuntime × List String}
    (hafter : after rule.runtime = (rule'.runtime, lines)) : Logs j s s' after where
  runtime other hother := by
    obtain rfl := Option.some.inj (hother.symm.trans hget)
    rw [hrules, getElem?_set_of_some hget, hafter, Option.map_some]
  warnings other hother := by
    obtain rfl := Option.some.inj (hother.symm.trans hget)
    rw [hwarnings, ofRule_append, if_pos rfl, hafter]

theorem Logs.nothing (hrules : s'.rules = s.rules) (hwarnings : s'.warnings = s.warnings) :
    Logs j s s' fun runtime => (runtime, []) where
  runtime rule hget := by rw [hrules, hget, Option.map_some]
  warnings _ _ := by rw [hwarnings, List.append_nil]

end

/-- What the history makes of a rule in a step. -/
def afterEvent (config : RuleConfigSource) (j : ℕ) (s : State S) (label : Label S)
    (runtime : RuleRuntime) : RuleRuntime × List String :=
  (eventOf config j s label).elim (runtime, []) (RuleEvent.run runtime)

section

variable {i j : ℕ} {s s' : State S} {label : Label S} {rule rule' : Rule}

/-- A step that is an event of rule `i`. -/
theorem Logs.of_event {event : RuleEvent S} {lines : List String}
    (hevent : eventOf config j s label = if i = j then some event else none)
    (hget : s.rules[i]? = some rule) (hrules : s'.rules = s.rules.set i rule')
    (hwarnings : s'.warnings = s.warnings ++ lines.map (i, ·))
    (hafter : event.run rule.runtime = (rule'.runtime, lines)) :
    Logs j s s' (afterEvent config j s label) := by
  unfold afterEvent
  rw [hevent]
  by_cases hij : i = j
  · subst hij
    rw [if_pos rfl]
    exact .own hget hrules hwarnings hafter
  · rw [if_neg hij]
    exact .other hij hrules hwarnings

/-- A step that is no event of any rule. -/
theorem Logs.of_none (hevent : eventOf config j s label = none) (hget : s.rules[i]? = some rule)
    (hrules : s'.rules = s.rules.set i rule') (hwarnings : s'.warnings = s.warnings)
    (hafter : rule'.runtime = rule.runtime) : Logs j s s' (afterEvent config j s label) := by
  have hlines := hwarnings.trans (noLines i s.warnings)
  unfold afterEvent
  rw [hevent]
  by_cases hij : i = j
  · subst hij
    exact .own hget hrules hlines (by rw [hafter, Option.elim_none])
  · exact .other hij hrules hlines

theorem Move.logs (hmove : Move config s label s') (hpanic : label.isPanic = false) :
    Logs j s s' (afterEvent config j s label) := by
  cases hmove with
  | idled hget => exact .of_none rfl hget rfl rfl rfl
  | resumed hget =>
      exact .of_event rfl hget rfl (noLines _ s.warnings) rfl
  | loadFired => exact .nothing rfl rfl
  | clearFired hget => exact .of_event rfl hget rfl (noLines _ s.warnings) rfl
  | runOnResume => exact .nothing rfl rfl
  | @checker i k action rule thread checker runtime commands hget hthread halive hstep =>
      have hruntime := Checker.step_rule hstep
      cases action with
      | poll =>
          exact .of_event rfl hget (accessed_rules ..) (accessed_warnings ..)
            (by rw [hruntime]; rfl)
      | storeFired =>
          exact .of_event rfl hget (accessed_rules ..) (noLines i s.warnings)
            (by rw [hruntime]; rfl)
      | _ => exact .of_none rfl hget (accessed_rules ..) rfl hruntime
  | pollPanics => cases hpanic
  | toplevel => exact .nothing rfl rfl
  | readings => exact .nothing rfl rfl

end

theorem logSimulation (config : RuleConfigSource) (j : ℕ) :
    Transition.Simulation (step config) (fun _ label => label.isPanic = false)
      (RuleEvent.step (S := S)) (eventOf config j) (LogView j) := by
  intro s t label s' hview hpanic hstep
  obtain ⟨hruntime, hwarnings⟩ := hview
  obtain ⟨rule, hget, hrule⟩ := Option.map_eq_some_iff.mp hruntime
  have hlogs := (move_of_step hstep).logs (j := j) hpanic
  have hruntime' := hlogs.runtime rule hget
  have hwarnings' := hlogs.warnings rule hget
  rw [hrule, afterEvent] at hruntime' hwarnings'
  cases hevent : eventOf config j s label with
  | none =>
      rw [hevent] at hruntime' hwarnings'
      exact ⟨t, rfl, hruntime', hwarnings'.trans ((List.append_nil _).trans hwarnings)⟩
  | some event =>
      rw [hevent, hwarnings] at hwarnings'
      rw [hevent] at hruntime'
      exact ⟨_, rfl, hruntime', hwarnings'⟩

/-- The history of rule `j` in a run of the client. -/
def ruleEvents (config : RuleConfigSource) (monitor : S) (ids : List String) (j : ℕ)
    (labels : List (Label S)) : List (RuleEvent S) :=
  Transition.translate (step config) (eventOf config j) (init monitor (registerRules config ids))
    labels

/-- **The client warns once.** In a run of the client without panics, what is logged for a rule is
the log of its history. However many threads it has had, a setting is warned about at most once, and
exactly if some poll of the rule found it broken and its failure is not silent. -/
theorem warned_once {monitor : S} {ids : List String} {labels : List (Label S)} {s : State S}
    (hrun : RunsFrom config monitor ids labels s)
    (hnone : ∀ label ∈ labels, label.isPanic = false) {j : ℕ} {id : String}
    (hid : (registeredIds config ids)[j]? = some id) (setting : Setting) :
    ofRule j s.warnings = watch (.new id) (ruleEvents config monitor ids j labels) ∧
      (ofRule j s.warnings).countP (setting.warnedBy id) ≤ 1 ∧
      ((ofRule j s.warnings).countP (setting.warnedBy id) = 1 ↔
        Broken setting (.new id) (ruleEvents config monitor ids j labels) ∧ ¬setting.Silent) := by
  have hview : LogView j (init monitor (registerRules config ids)) (.new id, []) := by
    refine ⟨?_, rfl⟩
    rw [init_rules, List.getElem?_map, hid, Option.map_some, Option.map_some]
  have halong : Transition.Along (step config) (fun _ label => label.isPanic = false)
      (init monitor (registerRules config ids)) labels := Transition.along_of_labels hnone
  obtain ⟨t, hevents, _, hlog⟩ := (logSimulation config j).runs hrun halong hview
  have hwatch : ofRule j s.warnings =
      watch (.new id) (ruleEvents config monitor ids j labels) := by
    rw [hlog, RuleEvent.runs_watch hevents]
    rfl
  rw [hwatch]
  exact ⟨rfl, warningCount_le_one id _ setting, warningCount_eq_one_iff⟩

theorem dim_warned_once :
    ∃ s : State FakeResourceSource,
      RunsFrom dimConfig {} ["lock", "dim"] [.idled 1, .checker 1 0 .loadStart,
        .checker 1 0 .poll, .resumed 1, .loadFired 1, .idled 1, .idled 0, .checker 0 0 .loadStart,
        .checker 1 1 .loadStart, .checker 0 0 .poll, .checker 1 1 .poll] s ∧
      (ofRule 1 s.warnings).length = 4 ∧
      (ofRule 1 s.warnings).countP (Setting.maxCpuUsage.warnedBy "dim") ≤ 1 := by
  obtain ⟨s, hrun⟩ := Transition.exists_runs (step dimConfig)
    (init ({} : FakeResourceSource) (registerRules dimConfig ["lock", "dim"]))
    [.idled 1, .checker 1 0 .loadStart, .checker 1 0 .poll, .resumed 1, .loadFired 1, .idled 1,
      .idled 0, .checker 0 0 .loadStart, .checker 1 1 .loadStart, .checker 0 0 .poll,
      .checker 1 1 .poll] (by decide +kernel)
  have hlines := hrun.observe (fun s => (ofRule 1 s.warnings).length)
    (by decide +kernel : _ = some 4)
  have hid : (registeredIds dimConfig ["lock", "dim"])[1]? = some "dim" := by decide
  exact ⟨s, hrun, hlines, (warned_once hrun (by simp [Label.isPanic]) hid .maxCpuUsage).2.1⟩

end Client

end Nothypridle
