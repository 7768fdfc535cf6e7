import Nothypridle.Proof.Accounting
import Nothypridle.Proof.SessionRefinement

/-!
# The daemon does what its rules are for

The listener, the dispatch, the other rules and the threads of the command runner are between the
session of a rule and the daemon that runs it. A step of the daemon is a step of the client or
nothing, a step of the client is one of the rule or nothing, and a step of the rule is one of its
session or nothing. So the daemon implements the sessions of all its rules at once.
-/

namespace Nothypridle

variable {S : Type} [ResourceSource S] {config : RuleConfigSource}

/-! ### The client and the session of a rule -/

namespace Client

/-- What is seen of rule `j`. -/
def Label.visible (j : ℕ) : Label S → Option Session.Label
  | .idled i => if i = j then some .leaves else none
  | .checker i _ .runOnTimeout => if i = j then some .acts else none
  | .resumed i => if i = j then some .returns else none
  | .runOnResume i => if i = j then some .undoes else none
  | _ => none

def Label.isResumedOf (j : ℕ) : Label S → Bool
  | .resumed i => i = j
  | _ => false

/-- At a `Resumed` of rule `j`, none of its threads can still reach the runner or is about to store
the flag. -/
def QuietResume (j : ℕ) (s : State S) (label : Label S) : Prop :=
  label.isResumedOf j = true → ∀ rule ∈ s.rules[j]?, ∀ thread ∈ rule.threads,
    ¬IdleCycle.MayFire (rule.runtime.epoch + 1) thread.checker ∧ thread.checker.storing = false

instance (j : ℕ) (s : State S) (label : Label S) : Decidable (QuietResume j s label) :=
  inferInstanceAs (Decidable (_ → ∀ rule ∈ s.rules[j]?, ∀ thread ∈ rule.threads, _ ∧ _))

omit [ResourceSource S] in
theorem labelOf_visible (j : ℕ) (s : State S) (label : Label S) :
    label.visible j = (labelOf j s label).bind IdleCycle.Label.visible := by
  cases label with
  | checker i k action =>
      by_cases hij : i = j
      · cases action <;> simp [Label.visible, labelOf, hij, Action.step, IdleCycle.Label.visible]
      · cases action <;> simp [Label.visible, labelOf, hij]
  | pollPanics => rfl
  | toplevel => rfl
  | readings => rfl
  | idled i | resumed i | loadFired i | clearFired i | runOnResume i =>
      by_cases hij : i = j
      · simp [Label.visible, labelOf, hij, IdleCycle.Label.visible]
      · simp [Label.visible, labelOf, hij]

omit [ResourceSource S] in
theorem isResumedOf_of_labelOf {j : ℕ} {s : State S} {label : Label S} {own : IdleCycle.Label S}
    (hown : labelOf j s label = some own) (hresumed : own.isResumed = true) :
    label.isResumedOf j = true := by
  cases label <;> simp only [labelOf, Option.ite_none_right_eq_some, Option.some.injEq,
    reduceCtorEq] at hown
  all_goals
    obtain ⟨rfl, rfl⟩ := hown
    first | exact decide_eq_true rfl | cases hresumed

omit [ResourceSource S] in
theorem QuietResume.view {j : ℕ} {s : State S} {t : IdleCycle.State} {label : Label S}
    {own : IdleCycle.Label S} (hquiet : QuietResume j s label) (hview : View j s t)
    (hown : labelOf j s label = some own) : IdleCycle.QuietResume t own := by
  obtain ⟨rule, hget, hshows⟩ := hview
  have hthreads : own.isResumed = true → ∀ checker ∈ t.checkers,
      ¬IdleCycle.MayFire (t.rule.epoch + 1) checker ∧ checker.storing = false := by
    intro hresumed checker hmem
    rw [hshows.checkers] at hmem
    obtain ⟨thread, hthread, rfl⟩ := List.mem_map.mp hmem
    rw [hshows.runtime.epoch]
    exact hquiet (isResumedOf_of_labelOf hown hresumed) rule hget thread hthread
  exact ⟨fun hresumed checker hmem => (hthreads hresumed checker hmem).1,
    fun hresumed checker hmem => (hthreads hresumed checker hmem).2⟩

section

variable {id cmd restore : String} (hcmd : config.onTimeout id = .ok (some cmd))
  (hrestore : config.onResume id = .ok (some restore))

/-- The diary is that of the rule as the one-rule machine sees it. -/
def InSession (id : String) (j : ℕ) (s : State S) (page : Session.Diary) : Prop :=
  ∃ t, View j s t ∧ (IdleCycle.Orderly t ∧ t.rule.id = id) ∧ page = IdleCycle.diary t

include hcmd hrestore in
theorem diarySimulation (j : ℕ) :
    Transition.Simulation (step (S := S) config) (QuietResume j) (Session.Diary.step cmd restore)
      (fun _ => Label.visible j) (InSession id j) :=
  (viewSimulation config j).guarded.comp (IdleCycle.diarySimulation .default hcmd hrestore)
    (fun _ _ _ _ _ hview hquiet _ hown => hquiet.view hview hown)
    (fun s _ label _ => labelOf_visible j s label)

end

end Client

/-! ### The daemon and its client -/

namespace System

variable {env : Environment S} {j : ℕ}

/-- What is seen of rule `j`. -/
def Label.visible (j : ℕ) (label : Label S) : Option Session.Label :=
  label.clientLabel.bind (Client.Label.visible j)

def QuietResume (j : ℕ) (s : State S) (label : Label S) : Prop :=
  ∀ client ∈ s.client, ∀ own ∈ label.clientLabel, Client.QuietResume j client own

instance (j : ℕ) (s : State S) (label : Label S) : Decidable (QuietResume j s label) :=
  inferInstanceAs (Decidable (∀ client ∈ s.client, ∀ own ∈ label.clientLabel, _))

/-- The client of the daemon, which starts with the registration. -/
def clientOf (env : Environment S) (s : State S) : Client.State S :=
  s.client.getD (Client.init env.monitor (registerRules env.config env.ids))

theorem clientSimulation (env : Environment S) :
    Transition.Simulation (step env) (fun _ _ => True) (Client.step env.config)
      (fun _ => Label.clientLabel) (fun s client => client = clientOf env s) := by
  intro s client label s' hclient _ hstep
  subst hclient
  cases move_of_step hstep with
  | app _ _ hregisters =>
      refine ⟨clientOf env s, Transition.runs_nil_iff.mpr rfl, ?_⟩
      rcases hregisters with rfl | ⟨hnone, rfl⟩
      · rfl
      · rw [clientOf, hnone]
        rfl
  | client hsome hmoves =>
      refine ⟨_, Transition.runs_singleton_iff.mpr ?_, rfl⟩
      rw [clientOf, hsome]
      exact hmoves
  | start => exact ⟨clientOf env s, Transition.runs_nil_iff.mpr rfl, rfl⟩
  | startFails => exact ⟨clientOf env s, Transition.runs_nil_iff.mpr rfl, rfl⟩

theorem diarySimulation {id cmd restore : String}
    (hcmd : env.config.onTimeout id = .ok (some cmd))
    (hrestore : env.config.onResume id = .ok (some restore)) (j : ℕ) :
    Transition.Simulation (step env) (QuietResume j) (Session.Diary.step cmd restore)
      (fun _ => Label.visible j)
      (fun s page => ∃ client, client = clientOf env s ∧ Client.InSession id j client page) :=
  (clientSimulation env).guarded.comp (Client.diarySimulation hcmd hrestore j)
    (by
      intro s client label s' own hclient hquiet hstep hown
      subst hclient
      cases move_of_step hstep with
      | client hsome =>
          rw [clientOf, hsome]
          exact hquiet _ hsome _ hown
      | _ => cases hown)
    (fun _ _ _ _ => rfl)

/-- What the client has handed over for rule `j`. -/
def commandsOf (env : Environment S) (j : ℕ) (s : State S) : List String :=
  Client.ofRule j (clientOf env s).calls

/-- **The daemon implements the sessions of its rules.** In every run of the daemon in which the
`Resumed` of a rule arrive in quiet moments, whatever the listener, the other rules and the threads
of the command runner do in between, what is seen of the rule is a run of its session that has
handed over the same commands; and whenever the user is back and the dispatch is over, these are
`on_timeout` and `on_resume` in turn, each as often as the other. -/
theorem refines_sessions {labels : List (Label S)} {booted s : State S} {id cmd restore : String}
    (hboot : boot env = .ok booted) (hrun : Transition.Runs (step env) booted labels s)
    (hid : (Client.registeredIds env.config env.ids)[j]? = some id)
    (hcmd : env.config.onTimeout id = .ok (some cmd))
    (hrestore : env.config.onResume id = .ok (some restore))
    (hquiet : Transition.Along (step env) (QuietResume j) booted labels) :
    ∃ session, Transition.Runs (Session.Diary.step cmd restore) .blank
        (labels.filterMap (Label.visible j)) ⟨session, commandsOf env j s⟩ ∧
      ∀ client ∈ s.client, client.dispatcher = .waiting → ∀ rule ∈ client.rules[j]?,
        rule.idle = false →
        ∃ n, Client.ofRule j client.calls = (List.replicate n [cmd, restore]).flatten := by
  have hnone : clientOf env booted =
      Client.init env.monitor (registerRules env.config env.ids) := by
    unfold boot at hboot
    split at hboot <;> cases hboot
    rfl
  have hinit : Client.InSession id j (clientOf env booted) .blank := by
    rw [hnone]
    exact ⟨_, Client.view_init hid, ⟨IdleCycle.orderly_init id, rfl⟩, rfl⟩
  obtain ⟨_, hdiary, _, rfl, t, hview, _, rfl⟩ :=
    (diarySimulation hcmd hrestore j).runs hrun hquiet ⟨_, rfl, hinit⟩
  rw [Transition.translate_eq_filterMap (f := Label.visible j) (fun _ _ => rfl) hrun] at hdiary
  have hseen := hview
  obtain ⟨rule, _, hshows⟩ := hseen
  refine ⟨IdleCycle.session t, ?_, ?_⟩
  · rw [IdleCycle.diary, hshows.commands] at hdiary
    exact hdiary
  · intro client hclient hwaiting rule' hget' hinactive
    have hclientOf : clientOf env s = client := by rw [clientOf, Option.mem_def.mp hclient]; rfl
    rw [hclientOf] at hview
    have hshows' := hview.shows hget'
    rw [← hshows'.commands]
    exact IdleCycle.commands_of_balanced (Session.Diary.balanced hdiary)
      (hshows'.idle.trans hinactive) (hshows'.dispatcher_waiting hwaiting)

theorem dim_refines_sessions :
    ∃ (s : State FakeResourceSource) (labels : List (Label FakeResourceSource)),
      labels.filterMap (Label.visible 0) = [.leaves, .acts, .returns, .undoes] ∧
      commandsOf dimEnvironment 0 s = ["brightnessctl -s set 20%", "brightnessctl -r"] ∧
      ∃ session, Transition.Runs
          (Session.Diary.step "brightnessctl -s set 20%" "brightnessctl -r") .blank
          (labels.filterMap (Label.visible 0)) ⟨session, commandsOf dimEnvironment 0 s⟩ ∧
        ∀ client ∈ s.client, client.dispatcher = .waiting → ∀ rule ∈ client.rules[0]?,
          rule.idle = false → ∃ n, Client.ofRule 0 client.calls =
            (List.replicate n ["brightnessctl -s set 20%", "brightnessctl -r"]).flatten := by
  obtain ⟨s, hrun⟩ := Transition.exists_runs (step dimEnvironment) dimBooted
    (comesUp ++ [.client (.idled 0), .client (.checker 0 0 .loadStart),
      .client (.checker 0 0 .poll), .client (.checker 0 0 .finalLoad),
      .client (.checker 0 0 .runOnTimeout), .app (.message (.ok App.lockSignal)), .start 1,
      .client (.checker 0 0 .storeFired), .client (.resumed 0), .client (.loadFired 0),
      .client (.clearFired 0), .client (.runOnResume 0)]) (by decide +kernel)
  have hcommands := hrun.observe (commandsOf dimEnvironment 0)
    (by decide +kernel : _ = some ["brightnessctl -s set 20%", "brightnessctl -r"])
  have hid : (Client.registeredIds dimEnvironment.config dimEnvironment.ids)[0]? = some "dim" := by
    decide
  exact ⟨s, _, rfl, hcommands, refines_sessions rfl hrun hid rfl rfl (by decide +kernel)⟩

end System

end Nothypridle
