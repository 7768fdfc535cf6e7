import Nothypridle.Lib.Simulation
import Nothypridle.Proof.IdlePeriod
import Nothypridle.Proof.RestoreLedger
import Nothypridle.Session

/-!
# The rule does what it is for

As long as every `Resumed` finds the checkers in their loop or gone, the threads of a rule with
their epochs and their flag implement the session: a call of `on_timeout` is the act of the period
that is under way, a call of `on_resume` undoes it, and no other step is seen. Where the rule has
both commands, they are what is handed to the runner at these steps and at no others. So what is
known of sessions is known of these runs: at rest, the runner has been given the two in turn.
-/

namespace Nothypridle

/-- The checker has called the runner. -/
def Checker.acted : Checker → Bool
  | .storeFired _ => true
  | .returned res => res ≠ .abortedByUserResume
  | _ => false

/-- The checker has called the runner and not yet stored the flag. -/
def Checker.storing : Checker → Bool
  | .storeFired _ => true
  | _ => false

namespace IdleCycle

variable {S : Type} [ResourceSource S] {config : RuleConfigSource} {options : IdleCheckOptions}
  {id : String}

/-! ### The session of a state -/

def newest (checkers : List Checker) : Option Checker := checkers[checkers.length - 1]?

def session (s : State) : Session :=
  if s.idle then if (newest s.checkers).any Checker.acted then .acted else .away
  else
    match s.dispatcher with
    | .waiting => .present
    | .loadFired => if s.rule.fired then .back else .present
    | .clearFired => .back
    | .runOnResume => .back

def Label.visible : Label S → Option Session.Label
  | .idled => some .leaves
  | .checker _ .runOnTimeout => some .acts
  | .resumed => some .returns
  | .runOnResume => some .undoes
  | _ => none

/-- The session of a state, and what has been handed to the runner. -/
def diary (s : State) : Session.Diary := ⟨session s, s.commands⟩

omit [ResourceSource S] in
theorem commands_eq_of_visible {cmd restore : String}
    (hcmd : config.onTimeout id = .ok (some cmd))
    (hrestore : config.onResume id = .ok (some restore)) (label : Label S) :
    label.commands config id = label.visible.elim [] (Session.Label.commands cmd restore) := by
  rcases label with _ | _ | _ | _ | _ | ⟨_, _ | _⟩ <;>
    simp [Label.commands, Label.visible, Session.Label.commands, hcmd, hrestore, commandOf]

/-- At a `Resumed`, no checker can still reach the runner or is about to store the flag. -/
def QuietResume (s : State) (label : Label S) : Prop :=
  ResumeIsSafe s label ∧
    (label.isResumed = true → ∀ checker ∈ s.checkers, checker.storing = false)

instance (s : State) (label : Label S) : Decidable (QuietResume s label) :=
  inferInstanceAs (Decidable (_ ∧ (_ → _)))

theorem newest_set {checkers : List Checker} {k : ℕ} {checker : Checker}
    (hget : checkers[k]? = some checker) (checker' : Checker) :
    newest (checkers.set k checker') =
      if k + 1 = checkers.length then some checker' else newest checkers := by
  have hlt : k < checkers.length := (List.getElem?_eq_some_iff.mp hget).1
  rw [newest, List.length_set]
  split
  next hlast =>
    obtain rfl : k = checkers.length - 1 := by omega
    exact List.getElem?_set_self hlt
  next hnot => exact List.getElem?_set_ne (by omega)

theorem newest_eq {checkers : List Checker} {k : ℕ} (hlast : k + 1 = checkers.length) :
    newest checkers = checkers[k]? := by
  rw [newest, ← hlast, Nat.add_sub_cancel]

section

variable {rule rule' : RuleRuntime} {checker checker' : Checker} {a : CheckerStep S}
  {commands : List String}

omit [ResourceSource S] in
theorem acted_of_move (hmove : Checker.Move config rule checker a checker' rule' commands)
    (hnot : a ≠ .runOnTimeout)
    (hres : ∀ res, checker = .storeFired res → res ≠ .abortedByUserResume) :
    checker'.acted = checker.acted := by
  cases hmove with
  | @storeFired res => simpa [Checker.acted] using hres res rfl
  | fire => exact absurd rfl hnot
  | noCommand => exact absurd rfl hnot
  | parseError => exact absurd rfl hnot
  | _ => rfl

omit [ResourceSource S] in
theorem acted_of_call
    (hmove : Checker.Move config rule checker (.runOnTimeout : CheckerStep S) checker' rule'
      commands) : checker = .runOnTimeout ∧ checker'.acted = true := by
  cases hmove <;> exact ⟨rfl, rfl⟩

omit [ResourceSource S] in
theorem calling_of_move {res : IdleCheckOutcome}
    (hmove : Checker.Move config rule checker a checker' rule' commands)
    (hpending : checker' = .storeFired res) : checker = .runOnTimeout := by
  subst hpending
  cases hmove <;> rfl

omit [ResourceSource S] in
/-- A checker returns without having acted, except from its store. -/
theorem returned_of_move_of_ne (hmove : Checker.Move config rule checker a checker' rule' commands)
    (hnot : a ≠ .storeFired) :
    (∀ res, checker ≠ .returned res) ∧
      ∀ res, checker' = .returned res → res = .abortedByUserResume := by
  cases hmove with
  | storeFired => exact absurd rfl hnot
  | _ => simp

end

/-! ### What keeps the session in step -/

structure Orderly (s : State) : Prop where
  fires : OnlyCurrentFires s
  stores : ∀ k res, s.checkers[k]? = some (.storeFired res) →
    Current s k ∧ res ≠ .abortedByUserResume
  waiting : s.idle = true → s.dispatcher = .waiting
  flag : s.idle = true → (s.rule.fired = true ↔
    ∃ res, newest s.checkers = some (.returned res) ∧ res ≠ .abortedByUserResume)
  unset : s.idle = false → s.dispatcher = .waiting ∨ s.dispatcher = .runOnResume →
    s.rule.fired = false

theorem orderly_init (id : String) : Orderly (init id) where
  fires := by
    intro k checker hget
    simp [init] at hget
  stores := by
    intro k res hget
    simp [init] at hget
  waiting := fun _ => rfl
  flag := fun hidle => by cases hidle
  unset := fun _ _ => rfl

section

variable {s s' : State} {label : Label S}

omit [ResourceSource S] in
theorem Orderly.stores_step (horderly : Orderly s) (hquiet : QuietResume s label)
    (hmove : Move config s label s') : ∀ k res, s'.checkers[k]? = some (.storeFired res) →
      Current s' k ∧ res ≠ .abortedByUserResume := by
  intro k res hget'
  rcases hmove.backward hget' with
    ⟨hget, _⟩ | ⟨_, _, hnew⟩ | ⟨a, checker, commands, rfl, hget, hmovek⟩
  · obtain ⟨hcurrent, hres⟩ := horderly.stores k res hget
    refine ⟨?_, hres⟩
    cases hmove with
    | idled hwaiting hactive => exact absurd hcurrent.1 (by simp [hactive])
    | resumed => cases hquiet.2 rfl _ (List.mem_of_getElem? hget)
    | loadFired => exact hcurrent
    | clearFired => exact hcurrent
    | runOnResume => exact hcurrent
    | checker => exact ⟨hcurrent.1, by simpa using hcurrent.2⟩
  · cases hnew
  · have hcurrent := horderly.fires k checker hget (.inr (.inl (calling_of_move hmovek rfl)))
    refine ⟨?_, Checker.pending_of_move hmovek rfl⟩
    cases hmove with
    | checker => exact ⟨hcurrent.1, by simpa using hcurrent.2⟩

omit [ResourceSource S] in
/-- A checker stores only while its period is under way, and as the newest. -/
theorem Orderly.current_of_store (horderly : Orderly s) {k : ℕ} {checker checker' : Checker}
    {rule' : RuleRuntime} {commands : List String} (hget : s.checkers[k]? = some checker)
    (hmove : Checker.Move config s.rule checker (.storeFired : CheckerStep S) checker' rule'
      commands) :
    Current s k ∧ ∃ res, checker' = .returned res ∧ res ≠ .abortedByUserResume := by
  cases hmove with
  | @storeFired res =>
      obtain ⟨hcurrent, hres⟩ := horderly.stores k res hget
      exact ⟨hcurrent, res, rfl, hres⟩

omit [ResourceSource S] in
theorem Orderly.flag_checker (horderly : Orderly s) {k : ℕ} {a : CheckerStep S}
    {checker checker' : Checker} {rule' : RuleRuntime} {commands : List String}
    (hget : s.checkers[k]? = some checker)
    (hmove : Checker.Move config s.rule checker a checker' rule' commands) (hidle : s.idle = true) :
    rule'.fired = true ↔ ∃ res,
      (if k + 1 = s.checkers.length then some checker' else newest s.checkers) =
        some (.returned res) ∧ res ≠ .abortedByUserResume := by
  rcases hmove.fired_cases with ⟨hnot, hsame⟩ | ⟨rfl, hset⟩
  · obtain ⟨hlive, haborted⟩ := returned_of_move_of_ne hmove hnot
    rw [hsame, horderly.flag hidle]
    split
    next hlast =>
      -- The newest checker has not stored before, and does not now.
      rw [newest_eq hlast, hget]
      constructor
      · intro hreturned
        obtain ⟨res, hres, _⟩ := hreturned
        exact absurd (Option.some.inj hres) (hlive res)
      · intro hreturned
        obtain ⟨res, hres, hne⟩ := hreturned
        exact absurd (haborted res (Option.some.inj hres)) hne
    next => rfl
  · obtain ⟨hcurrent, res, hreturned, hres⟩ := horderly.current_of_store hget hmove
    rw [if_pos hcurrent.2]
    exact iff_of_true hset ⟨res, congrArg some hreturned, hres⟩

/-- A dispatch under way is not within a period. -/
theorem Orderly.inactive (horderly : Orderly s) (hbusy : s.dispatcher ≠ .waiting) :
    s.idle = false := by
  by_contra hidle
  exact hbusy (horderly.waiting (Bool.eq_true_of_not_eq_false hidle))

omit [ResourceSource S] in
theorem Orderly.step (horderly : Orderly s) (hquiet : QuietResume s label)
    (hmove : Move config s label s') : Orderly s' := by
  have hfires := horderly.fires.step hquiet.1 hmove
  have hstores := horderly.stores_step hquiet hmove
  cases hmove with
  | idled hwaiting hinactive =>
      have hunset := horderly.unset hinactive (.inl hwaiting)
      refine ⟨hfires, hstores, fun _ => hwaiting, ?_, by simp⟩
      intro _
      simp [newest, hunset]
  | resumed hwaiting hidle =>
      exact ⟨hfires, hstores, by simp, by simp, by simp⟩
  | loadFired hloading =>
      have hinactive := horderly.inactive (by simp [hloading])
      refine ⟨hfires, hstores, by simp [hinactive], by simp [hinactive], ?_⟩
      intro _ hwhen
      change s.rule.fired = false
      by_contra hfired
      simp [Bool.eq_true_of_not_eq_false hfired] at hwhen
  | clearFired hclearing =>
      have hinactive := horderly.inactive (by simp [hclearing])
      exact ⟨hfires, hstores, by simp [hinactive], by simp [hinactive], fun _ _ => rfl⟩
  | runOnResume hrunning =>
      have hinactive := horderly.inactive (by simp [hrunning])
      exact ⟨hfires, hstores, fun _ => rfl, by simp [hinactive],
        fun _ _ => horderly.unset hinactive (.inr hrunning)⟩
  | @checker k a checker checker' rule' commands hget hmovek =>
      refine ⟨hfires, hstores, horderly.waiting, ?_, ?_⟩
      · intro hidle
        rw [newest_set hget]
        exact horderly.flag_checker hget hmovek hidle
      · intro hinactive hwhen
        rcases hmovek.fired_cases with ⟨_, hsame⟩ | ⟨rfl, _⟩
        · exact hsame.trans (horderly.unset hinactive hwhen)
        · have hcurrent := (horderly.current_of_store hget hmovek).1
          exact absurd hcurrent.1 (by simpa using hinactive)

/-! ### The simulation -/

omit [ResourceSource S] in
/-- Within a period, a checker is seen only where it calls the runner. -/
theorem session_checker (horderly : Orderly s) {k : ℕ} {a : CheckerStep S}
    {checker checker' : Checker} {rule' : RuleRuntime} {commands : List String}
    (hget : s.checkers[k]? = some checker)
    (hmove : Checker.Move config s.rule checker a checker' rule' commands) {after : Session}
    (hafter : after = session { s with
      rule := rule'
      checkers := s.checkers.set k checker'
      commands := s.commands ++ commands }) :
    Transition.Runs Session.step (session s) (Label.checker k a).visible.toList after := by
  subst hafter
  by_cases hcall : a = .runOnTimeout
  · subst hcall
    obtain ⟨hcalling, hacted⟩ := acted_of_call hmove
    obtain ⟨hidle, hlast⟩ := horderly.fires k checker hget (.inr (.inl hcalling))
    have hbefore : (newest s.checkers).any Checker.acted = false := by
      rw [newest_eq hlast, hget, hcalling]
      rfl
    rw [Label.visible, Option.toList_some, Transition.runs_singleton_iff]
    simp [session, newest_set hget, hidle, hbefore, hlast, hacted, Session.step]
  · have hsame := acted_of_move hmove hcall fun res heq => (horderly.stores k res (heq ▸ hget)).2
    have hnone : (Label.checker k a).visible = none := by
      cases a <;> first | rfl | exact absurd rfl hcall
    rw [hnone, Option.toList_none, Transition.runs_nil_iff]
    cases hidle : s.idle with
    | true =>
        have hnewest : (if k + 1 = s.checkers.length then some checker' else newest s.checkers).any
            Checker.acted = (newest s.checkers).any Checker.acted := by
          split
          next hlast => rw [newest_eq hlast, hget, Option.any_some, Option.any_some, hsame]
          next => rfl
        simp only [session, hidle, if_true, newest_set hget, hnewest]
    | false =>
        -- Outside of a period the flag is not stored.
        have hfired : rule'.fired = s.rule.fired := by
          rcases hmove.fired_cases with ⟨_, hkept⟩ | ⟨rfl, _⟩
          · exact hkept
          · have hcurrent := (horderly.current_of_store hget hmove).1
            exact absurd hcurrent.1 (by simp [hidle])
        simp only [session, hidle, hfired, Bool.false_eq_true, if_false]

end

theorem sessionSimulation (config : RuleConfigSource) (options : IdleCheckOptions) :
    Transition.Simulation (step (S := S) config options) QuietResume Session.step
      (fun _ => Label.visible) (fun s t => Orderly s ∧ t = session s) := by
  intro s t label s' hrel hquiet hstep
  obtain ⟨horderly, rfl⟩ := hrel
  have hmove := move_of_step hstep
  refine ⟨session s', ?_, horderly.step hquiet hmove, rfl⟩
  cases hmove with
  | idled hwaiting hinactive =>
      apply Transition.runs_singleton_iff.mpr
      simp [session, hwaiting, hinactive, newest, Checker.acted, Session.step]
  | resumed hwaiting hidle =>
      apply Transition.runs_singleton_iff.mpr
      -- Nobody is about to store, so the flag tells whether the newest checker has acted.
      have hacted : (newest s.checkers).any Checker.acted = s.rule.fired := by
        rw [Bool.eq_iff_iff, horderly.flag hidle]
        cases hnewest : newest s.checkers with
        | none => simp
        | some checker =>
            have hquiet := hquiet.2 rfl checker (List.mem_of_getElem? hnewest)
            cases checker <;> simp [Checker.acted, Checker.storing] at hquiet ⊢
      cases hfired : s.rule.fired <;> simp [session, hidle, hacted, hfired, Session.step]
  | loadFired hloading =>
      have hinactive := horderly.inactive (by simp [hloading])
      apply Transition.runs_nil_iff.mpr
      cases hfired : s.rule.fired <;> simp [session, hinactive, hloading, hfired]
  | clearFired hclearing =>
      have hinactive := horderly.inactive (by simp [hclearing])
      apply Transition.runs_nil_iff.mpr
      simp [session, hinactive, hclearing]
  | runOnResume hrunning =>
      have hinactive := horderly.inactive (by simp [hrunning])
      apply Transition.runs_singleton_iff.mpr
      simp [session, hinactive, hrunning, Session.step]
  | checker hget hmovek => exact session_checker horderly hget hmovek rfl

/-- The steps that are seen hand over what the session hands over, and the others nothing. -/
theorem diarySimulation (options : IdleCheckOptions) {cmd restore : String}
    (hcmd : config.onTimeout id = .ok (some cmd))
    (hrestore : config.onResume id = .ok (some restore)) :
    Transition.Simulation (step (S := S) config options) QuietResume
      (Session.Diary.step cmd restore) (fun _ => Label.visible)
      (fun s page => (Orderly s ∧ s.rule.id = id) ∧ page = diary s) := by
  intro s page label s' hrel hquiet hstep
  obtain ⟨⟨horderly, hid⟩, rfl⟩ := hrel
  obtain ⟨_, hsession, horderly', rfl⟩ :=
    sessionSimulation config options s (session s) label s' ⟨horderly, rfl⟩ hquiet hstep
  refine ⟨diary s', ?_, ⟨horderly', rule_id_of_step hid hstep⟩, rfl⟩
  have hcommands := commands_of_step hstep
  rw [hid, commands_eq_of_visible hcmd hrestore] at hcommands
  cases hlabel : label.visible with
  | none =>
      simp only [hlabel, Option.toList_none, Transition.runs_nil_iff] at hsession ⊢
      rw [hlabel, Option.elim_none, List.append_nil] at hcommands
      rw [diary, diary, hsession, hcommands]
  | some seen =>
      simp only [hlabel, Option.toList_some, Transition.runs_singleton_iff] at hsession ⊢
      rw [hlabel, Option.elim_some] at hcommands
      rw [Session.Diary.step, diary, hsession, Option.map_some, diary, hcommands]

/-- In a period or during a dispatch something may still be to be undone, at rest nothing is. -/
theorem commands_of_balanced {cmd restore : String} {s : State}
    (hbalanced : (diary s).Balanced cmd restore) (hinactive : s.idle = false)
    (hwaiting : s.dispatcher = .waiting) :
    ∃ n, s.commands = (List.replicate n [cmd, restore]).flatten := by
  obtain ⟨n, hcommands⟩ := hbalanced
  have hpresent : session s = .present := by simp [session, hinactive, hwaiting]
  exact ⟨n, by simpa [diary, hpresent] using hcommands⟩

/-- **The threads of a rule implement the session.** Of every run whose `Resumed` arrive in quiet
moments, whatever the interleaving otherwise, what is seen is a run of the session that has handed
over the same commands; and when the user is back and the dispatch is over, these are `on_timeout`
and `on_resume` in turn, each as often as the other. -/
theorem refines_session {cmd restore : String} {labels : List (Label S)} {s : State}
    (hcmd : config.onTimeout id = .ok (some cmd))
    (hrestore : config.onResume id = .ok (some restore))
    (hrun : RunsFrom config options id labels s)
    (hquiet : Transition.Along (step config options) QuietResume (init id) labels) :
    Transition.Runs (Session.Diary.step cmd restore) .blank (labels.filterMap Label.visible)
        ⟨session s, s.commands⟩ ∧
      (s.idle = false → s.dispatcher = .waiting →
        ∃ n, s.commands = (List.replicate n [cmd, restore]).flatten) := by
  obtain ⟨_, hdiary, _, rfl⟩ := (diarySimulation options hcmd hrestore).runs hrun hquiet
    ⟨⟨orderly_init id, rfl⟩, rfl⟩
  rw [Transition.translate_eq_filterMap (f := Label.visible) (fun _ _ => rfl) hrun] at hdiary
  exact ⟨hdiary, commands_of_balanced (Session.Diary.balanced hdiary)⟩

theorem dim_refines_session :
    ∃ (s : State) (labels : List (Label FakeResourceSource)),
      labels.filterMap Label.visible = [.leaves, .acts, .returns, .undoes, .leaves, .returns] ∧
      s.commands = ["brightnessctl -s set 20%", "brightnessctl -r"] ∧
      Transition.Runs (Session.Diary.step "brightnessctl -s set 20%" "brightnessctl -r") .blank
        (labels.filterMap Label.visible) ⟨session s, s.commands⟩ ∧
      (s.idle = false → s.dispatcher = .waiting → ∃ n, s.commands =
        (List.replicate n ["brightnessctl -s set 20%", "brightnessctl -r"]).flatten) := by
  obtain ⟨s, hrun⟩ := Transition.exists_runs (step dimConfig .default) (init "dim")
    [.idled, .checker 0 .loadStart, .checker 0 quietPoll, .checker 0 .finalLoad,
      .checker 0 .runOnTimeout, .checker 0 .storeFired, .resumed, .loadFired, .clearFired,
      .runOnResume, .idled, .checker 1 .loadStart, .resumed, .loadFired, .checker 1 quietPoll,
      .checker 1 .finalLoad] (by decide +kernel)
  have hcommands := hrun.observe State.commands
    (by decide +kernel : _ = some ["brightnessctl -s set 20%", "brightnessctl -r"])
  exact ⟨s, _, rfl, hcommands, refines_session rfl rfl hrun (by decide +kernel)⟩

end IdleCycle

end Nothypridle
