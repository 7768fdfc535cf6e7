import Nothypridle.Fakes
import Nothypridle.Proof.Moves

/-!
# Every dimming is undone

The checker hands `on_timeout` to the runner first and stores the fired flag afterwards, and the
dispatch of a `Resumed` reads that flag and clears it in two steps. A dispatch that falls between
the call and the store finds the flag unset and restores nothing; a store that falls between the
clearing and the restore survives the dispatch. With these two moments excluded, the dispatch that
ends a dimmed period restores it once and leaves the flag cleared.
-/

namespace Nothypridle.IdleCycle

open Transition (Along FirstReaches along_of_runs emitted exists_runs)

variable {S : Type} [ResourceSource S] {config : RuleConfigSource} {options : IdleCheckOptions}
  {id : String}

/-- If the checker of period `k` calls `on_timeout` before the `Resumed` of that period, the
dispatch of that `Resumed` hands `on_resume` to the runner, once and nothing else, leaves the flag
cleared, and the checker takes no step afterwards. -/
def RestoresOwnPeriod (config : RuleConfigSource) (options : IdleCheckOptions) (id : String)
    (labels : List (Label S)) : Prop :=
  ∀ cmd restore, config.onTimeout id = .ok (some cmd) → config.onResume id = .ok (some restore) →
    ∀ k before dispatch after bumped restored,
      labels = before ++ .resumed :: (dispatch ++ after) →
      before.countP Label.isResumed = k → .checker k .runOnTimeout ∈ before →
      RunsFrom config options id (before ++ [.resumed]) bumped →
      FirstReaches (step config options) (fun s => s.dispatcher = .waiting) bumped dispatch
        restored →
      emitted (step config options) (handed config options Label.isDispatch) bumped dispatch =
          [restore] ∧
        restored.rule.fired = false ∧ ∀ a, .checker k a ∉ after

/-- The flag is not read while the newest checker is between its call and its store, and not set
between being cleared and the restore. -/
def StoresInTime (s : State) : Label S → Prop
  | .loadFired => s.checkers[s.checkers.length - 1]? ≠ some (.storeFired .firedOnTimeout)
  | .checker _ .storeFired => s.dispatcher ≠ .runOnResume
  | _ => True

instance (s : State) : (label : Label S) → Decidable (StoresInTime s label)
  | .loadFired => inferInstanceAs (Decidable (_ ≠ _))
  | .checker _ .storeFired => inferInstanceAs (Decidable (_ ≠ _))
  | .checker _ .loadStart => isTrue trivial
  | .checker _ (.poll _ _) => isTrue trivial
  | .checker _ .sleep => isTrue trivial
  | .checker _ .loopLoad => isTrue trivial
  | .checker _ .finalLoad => isTrue trivial
  | .checker _ .runOnTimeout => isTrue trivial
  | .idled => isTrue trivial
  | .resumed => isTrue trivial
  | .clearFired => isTrue trivial
  | .runOnResume => isTrue trivial

/-- Two runs that lose a restore. In the first the dispatch reads the flag between the call and the
store of the checker. In the second the checker of an earlier period stores while the dispatch is
between clearing the flag and the restore. -/
theorem exists_lost_restore :
    (∃ s, RunsFrom dimConfig .default "dim"
        [.idled, .checker 0 .loadStart, .checker 0 quietPoll, .checker 0 .finalLoad,
          .checker 0 .runOnTimeout, .resumed, .loadFired, .checker 0 .storeFired] s) ∧
      ¬RestoresOwnPeriod dimConfig .default "dim"
        [.idled, .checker 0 .loadStart, .checker 0 quietPoll, .checker 0 .finalLoad,
          .checker 0 .runOnTimeout, .resumed, .loadFired, .checker 0 .storeFired] ∧
      (∃ s, RunsFrom dimConfig .default "dim"
        [.idled, .resumed, .loadFired, .idled, .checker 0 .loadStart, .checker 0 quietPoll,
          .checker 0 .finalLoad, .checker 0 .runOnTimeout, .checker 1 .loadStart,
          .checker 1 quietPoll, .checker 1 .finalLoad, .checker 1 .runOnTimeout,
          .checker 1 .storeFired, .resumed, .loadFired, .clearFired, .checker 0 .storeFired,
          .runOnResume] s) ∧
      ¬RestoresOwnPeriod dimConfig .default "dim"
        [.idled, .resumed, .loadFired, .idled, .checker 0 .loadStart, .checker 0 quietPoll,
          .checker 0 .finalLoad, .checker 0 .runOnTimeout, .checker 1 .loadStart,
          .checker 1 quietPoll, .checker 1 .finalLoad, .checker 1 .runOnTimeout,
          .checker 1 .storeFired, .resumed, .loadFired, .clearFired, .checker 0 .storeFired,
          .runOnResume] := by
  refine ⟨exists_runs _ _ _ (by decide +kernel), ?_,
    exists_runs _ _ _ (by decide +kernel), ?_⟩
  · intro hrestores
    obtain ⟨restored, hrun⟩ := exists_runs (step dimConfig .default) (init "dim")
      ([.idled, .checker 0 .loadStart, .checker 0 quietPoll, .checker 0 .finalLoad,
        .checker 0 .runOnTimeout, .resumed] ++ [.loadFired]) (by decide +kernel)
    obtain ⟨bumped, hbumped, hdispatch⟩ := Transition.runs_append_iff.mp hrun
    have hwaiting : restored.dispatcher = .waiting :=
      hrun.observe State.dispatcher (by decide +kernel)
    have hbusy : Along (step dimConfig .default) (fun s _ => ¬s.dispatcher = .waiting) bumped
        [.loadFired] := along_of_runs hbumped (by decide +kernel)
    have hrestore := hrestores _ _ rfl rfl 0 [.idled, .checker 0 .loadStart, .checker 0 quietPoll,
      .checker 0 .finalLoad, .checker 0 .runOnTimeout] [.loadFired] [.checker 0 .storeFired] bumped
      restored rfl rfl (by simp) hbumped ⟨hdispatch, hwaiting, hbusy⟩
    have hnothing := (handed_dispatch hdispatch).symm.trans hrestore.1
    cases hnothing
  · intro hrestores
    obtain ⟨restored, hrun⟩ := exists_runs (step dimConfig .default) (init "dim")
      ([.idled, .resumed, .loadFired, .idled, .checker 0 .loadStart, .checker 0 quietPoll,
        .checker 0 .finalLoad, .checker 0 .runOnTimeout, .checker 1 .loadStart,
        .checker 1 quietPoll, .checker 1 .finalLoad, .checker 1 .runOnTimeout,
        .checker 1 .storeFired, .resumed] ++
        [.loadFired, .clearFired, .checker 0 .storeFired, .runOnResume]) (by decide +kernel)
    obtain ⟨bumped, hbumped, hdispatch⟩ := Transition.runs_append_iff.mp hrun
    have hwaiting : restored.dispatcher = .waiting :=
      hrun.observe State.dispatcher (by decide +kernel)
    have hfired : restored.rule.fired = true :=
      hrun.observe (fun s => s.rule.fired) (by decide +kernel)
    have hbusy : Along (step dimConfig .default) (fun s _ => ¬s.dispatcher = .waiting) bumped
        [.loadFired, .clearFired, .checker 0 .storeFired, .runOnResume] :=
      along_of_runs hbumped (by decide +kernel)
    have hrestore := hrestores _ _ rfl rfl 1 [.idled, .resumed, .loadFired, .idled,
      .checker 0 .loadStart, .checker 0 quietPoll, .checker 0 .finalLoad, .checker 0 .runOnTimeout,
      .checker 1 .loadStart, .checker 1 quietPoll, .checker 1 .finalLoad, .checker 1 .runOnTimeout,
      .checker 1 .storeFired] [.loadFired, .clearFired, .checker 0 .storeFired, .runOnResume] []
      bumped restored rfl rfl (by simp) hbumped ⟨hdispatch, hwaiting, hbusy⟩
    simp [hfired] at hrestore

def HasCalled (checker : Checker) : Prop :=
  checker = .storeFired .firedOnTimeout ∨ checker = .returned .firedOnTimeout

/-! ### The single checker -/

section

variable {rule rule' : RuleRuntime} {checker checker' : Checker} {a : CheckerStep S}
  {commands : List String}

omit [ResourceSource S] in
theorem HasCalled.of_move (hcalled : HasCalled checker)
    (hmove : Checker.Move config rule checker a checker' rule' commands) :
    checker' = .returned .firedOnTimeout ∧ rule'.fired = true := by
  rcases hcalled with rfl | rfl
  · cases hmove
    exact ⟨rfl, rfl⟩
  · cases hmove

omit [ResourceSource S] in
theorem fired_of_returned (hmove : Checker.Move config rule checker a checker' rule' commands)
    (hreturned : checker' = .returned .firedOnTimeout) : rule'.fired = true := by
  subst hreturned
  cases hmove with
  | storeFired => rfl

end

/-! ### What a call leaves behind -/

structure Called (id : String) (k : ℕ) (labels : List (Label S)) (s : State) : Prop where
  id : s.rule.id = id
  checker : .checker k .runOnTimeout ∈ labels →
    ∃ checker, s.checkers[k]? = some checker ∧ HasCalled checker

omit [ResourceSource S] in
theorem Called.step {k : ℕ} {cmd : String} {labels : List (Label S)} {s s' : State}
    {label : Label S} (hcmd : config.onTimeout id = .ok (some cmd))
    (hcalled : Called id k labels s) (hmove : Move config s label s') :
    Called id k (labels ++ [label]) s' := by
  obtain ⟨hid, hchecker⟩ := hcalled
  refine ⟨hmove.id_eq.trans hid, ?_⟩
  intro hmem
  simp only [List.mem_append, List.mem_singleton] at hmem
  rcases hmem with hmem | rfl
  · obtain ⟨checker, hget, hat⟩ := hchecker hmem
    rcases hmove.forward hget with ⟨hsame, _⟩ | ⟨a, checker', commands, _, hget', hmovek⟩
    · exact ⟨checker, hsame, hat⟩
    · exact ⟨checker', hget', .inr (hat.of_move hmovek).1⟩
  · cases hmove with
    | checker hget hmovek =>
        have hlt : k < s.checkers.length := (List.getElem?_eq_some_iff.mp hget).1
        cases hmovek with
        | fire => exact ⟨_, List.getElem?_set_self hlt, .inl rfl⟩
        | noCommand hnone => simp [hid, hcmd] at hnone
        | parseError herr => simp [hid, hcmd] at herr

theorem RunsFrom.called {k : ℕ} {cmd : String} {labels : List (Label S)} {s : State}
    (hrun : RunsFrom config options id labels s) (hcmd : config.onTimeout id = .ok (some cmd)) :
    Called id k labels s :=
  hrun.history_invariant ⟨rfl, by simp⟩ fun _ _ _ _ hcalled hmove => hcalled.step hcmd hmove

/-- While its period lasts, and until the dispatch that ends it has read the flag, the store of a
returned checker is still there. -/
structure FlagKept (s : State) : Prop where
  idle : s.idle = true → s.dispatcher = .waiting
  fired : s.idle = true ∨ s.dispatcher = .loadFired → ∀ k, k + 1 = s.checkers.length →
    s.checkers[k]? = some (.returned .firedOnTimeout) → s.rule.fired = true

omit [ResourceSource S] in
theorem FlagKept.step {s s' : State} {label : Label S} (hkept : FlagKept s)
    (hmove : Move config s label s') : FlagKept s' := by
  obtain ⟨hidle, hfired⟩ := hkept
  cases hmove with
  | idled hwaiting hactive =>
      refine ⟨fun _ => hwaiting, ?_⟩
      intro _ k hk hget
      simp only [List.length_append, List.length_singleton, Nat.add_right_cancel_iff] at hk
      subst hk
      simp at hget
  | resumed hwaiting hrunning => exact ⟨by simp, fun _ => hfired (.inl hrunning)⟩
  | loadFired hloading =>
      have hactive : s.idle ≠ true := fun hrunning => by simp [hidle hrunning] at hloading
      refine ⟨fun hrunning => absurd hrunning hactive, ?_⟩
      intro hwhen
      rcases hwhen with hrunning | hagain
      · exact absurd hrunning hactive
      · by_cases hflag : s.rule.fired <;> simp [hflag] at hagain
  | clearFired hclearing =>
      have hactive : s.idle ≠ true := fun hrunning => by simp [hidle hrunning] at hclearing
      exact ⟨fun hrunning => absurd hrunning hactive, by simp [hactive]⟩
  | runOnResume hrunning =>
      exact ⟨fun _ => rfl, fun hwhen => hfired (hwhen.imp_right (by simp))⟩
  | @checker j a checker checker' rule' commands hget hmovej =>
      refine ⟨hidle, ?_⟩
      intro hwhen k hk hgetk
      simp only [List.length_set] at hk
      have hkept := hfired hwhen k hk
      rcases hmovej.fired_cases with ⟨_, hsame⟩ | ⟨_, hset⟩
      · by_cases hjk : j = k
        · subst hjk
          rw [List.getElem?_set_self (List.getElem?_eq_some_iff.mp hget).1] at hgetk
          exact fired_of_returned hmovej (Option.some.inj hgetk)
        · rw [List.getElem?_set_ne hjk] at hgetk
          exact hsame.trans (hkept hgetk)
      · exact hset

theorem RunsFrom.flagKept {labels : List (Label S)} {s : State}
    (hrun : RunsFrom config options id labels s) : FlagKept s :=
  hrun.invariant ⟨by simp [init], by simp [init]⟩ fun _ _ _ hkept hmove => hkept.step hmove

/-! ### The dispatch -/

/-- The dispatch that ends period `k`, `restores` counting its calls so far. -/
structure Restoring (k restores : ℕ) (s : State) : Prop where
  newest : k + 1 = s.checkers.length
  phase : match s.dispatcher with
    | .loadFired => restores = 0 ∧ ∃ checker, s.checkers[k]? = some checker ∧ HasCalled checker ∧
        (checker = .returned .firedOnTimeout → s.rule.fired = true)
    | .clearFired => restores = 0 ∧ s.checkers[k]? = some (.returned .firedOnTimeout)
    | .runOnResume => restores = 0 ∧ s.checkers[k]? = some (.returned .firedOnTimeout) ∧
        s.rule.fired = false
    | .waiting => restores = 1 ∧ s.checkers[k]? = some (.returned .firedOnTimeout) ∧
        s.rule.fired = false

omit [ResourceSource S] in
theorem returned_of_move {k : ℕ} {res : IdleCheckOutcome} {s s' : State} {label : Label S}
    (hreturned : s.checkers[k]? = some (.returned res)) (hmove : Move config s label s') :
    s'.checkers[k]? = some (.returned res) ∧ ∀ a, label ≠ .checker k a := by
  rcases hmove.forward hreturned with hsame | ⟨a, checker', commands, _, _, hmovek⟩
  · exact hsame
  · cases hmovek

theorem not_mem_of_returned {k : ℕ} {res : IdleCheckOutcome} {s s' : State}
    {labels : List (Label S)} (hrun : Transition.Runs (step config options) s labels s')
    (hreturned : s.checkers[k]? = some (.returned res)) (a : CheckerStep S) :
    .checker k a ∉ labels := by
  have hpreserved : ∀ (taken : List (Label S)) (s : State) (label : Label S) (s' : State),
      (s.checkers[k]? = some (.returned res) ∧ .checker k a ∉ taken) →
      step config options s label = some s' →
      s'.checkers[k]? = some (.returned res) ∧ .checker k a ∉ taken ++ [label] := by
    rintro taken s label s' ⟨hreturned, hnot⟩ hstep
    obtain ⟨hreturned', hlabel⟩ := returned_of_move hreturned (move_of_step hstep)
    exact ⟨hreturned', by simpa [hnot] using (hlabel a).symm⟩
  have hend := hrun.history_invariant hpreserved [] ⟨hreturned, by simp⟩
  simpa using hend.2

omit [ResourceSource S] in
theorem Restoring.step {k restores : ℕ} {s s' : State} {label : Label S}
    (hrestoring : Restoring k restores s) (hbusy : s.dispatcher ≠ .waiting)
    (hintime : StoresInTime s label) (hmove : Move config s label s') :
    Restoring k (restores + [label].countP Label.isRunOnResume) s' := by
  obtain ⟨hnewest, hphase⟩ := hrestoring
  cases hmove with
  | idled hwaiting => exact absurd hwaiting hbusy
  | resumed hwaiting => exact absurd hwaiting hbusy
  | loadFired hloading =>
      simp only [hloading] at hphase
      obtain ⟨hnone, checker, hget, hcalled, hfired⟩ := hphase
      -- The checker is not between its call and its store, so the flag is set.
      have hk : s.checkers.length - 1 = k := by omega
      have hreturned : checker = .returned .firedOnTimeout := by
        rcases hcalled with rfl | hreturned
        · exact absurd (by rw [hk, hget]) hintime
        · exact hreturned
      refine ⟨hnewest, ?_⟩
      subst hreturned
      simp [hfired rfl, hget, hnone, Label.isRunOnResume]
  | clearFired hclearing =>
      simp only [hclearing] at hphase
      exact ⟨hnewest, by simpa [Label.isRunOnResume] using hphase⟩
  | runOnResume hrunning =>
      simp only [hrunning] at hphase
      exact ⟨hnewest, by simpa [Label.isRunOnResume] using hphase⟩
  | @checker j a moved moved' rule' commands hgetj hmovej =>
      refine ⟨by simpa using hnewest, ?_⟩
      have hmove : Move config s (.checker j a) _ := .checker hgetj hmovej
      have hfired := hmovej.fired_cases
      rw [show [Label.checker j a].countP Label.isRunOnResume = 0 from rfl, Nat.add_zero]
      cases hat : s.dispatcher with
      | waiting => exact absurd hat hbusy
      | loadFired =>
          simp only [hat] at hphase ⊢
          obtain ⟨hnone, checker, hget, hcalled, hset⟩ := hphase
          rcases hmove.forward hget with ⟨hsame, _⟩ | ⟨b, checker', _, _, hget', hmovek⟩
          · refine ⟨hnone, checker, hsame, hcalled, ?_⟩
            intro hreturned
            rcases hfired with ⟨_, hkept⟩ | ⟨_, hset'⟩
            · exact hkept.trans (hset hreturned)
            · exact hset'
          · obtain ⟨hreturned, hset'⟩ := hcalled.of_move hmovek
            exact ⟨hnone, checker', hget', .inr hreturned, fun _ => hset'⟩
      | clearFired =>
          simp only [hat] at hphase ⊢
          exact ⟨hphase.1, (returned_of_move hphase.2 hmove).1⟩
      | runOnResume =>
          simp only [hat] at hphase ⊢
          obtain ⟨hnone, hreturned, hclear⟩ := hphase
          refine ⟨hnone, (returned_of_move hreturned hmove).1, ?_⟩
          rcases hfired with ⟨_, hkept⟩ | ⟨rfl, _⟩
          · exact hkept.trans hclear
          · exact absurd hat hintime

/-! ### The guarded law -/

/-- **No restore is lost** in the runs whose stores are in time. -/
theorem restoresOwnPeriod_of_storesInTime {labels : List (Label S)} {s : State}
    (hrun : RunsFrom config options id labels s)
    (halong : ∀ cmd restore, config.onTimeout id = .ok (some cmd) →
      config.onResume id = .ok (some restore) →
      Along (step config options) StoresInTime (init id) labels) :
    RestoresOwnPeriod config options id labels := by
  intro cmd restore hcmd hrestore k before dispatch after bumped restored hlabels hk hcalled
    hbumped hdispatch
  have hintime := halong cmd restore hcmd hrestore
  rw [hlabels, ← List.singleton_append, ← List.append_assoc] at hrun hintime
  obtain ⟨bumped', hfront, hback⟩ := Transition.runs_append_iff.mp hrun
  obtain rfl := hfront.deterministic hbumped
  obtain ⟨restored', hdispatch', hafter⟩ := Transition.runs_append_iff.mp hback
  obtain rfl := hdispatch'.deterministic hdispatch.runs
  have hintimeDispatch := (Transition.along_append hdispatch.runs
    (Transition.along_append hbumped hintime).2).1
  -- The state in which the `Resumed` arrives.
  obtain ⟨idle, hbefore, hbump⟩ := Transition.runs_concat_iff.mp hbumped
  have hreach : RunsFrom config options id before idle := hbefore
  obtain ⟨checker, hget, hat⟩ := (hreach.called hcmd).checker hcalled
  have hperiods := hreach.counts.periods
  have hstart : Restoring k 0 bumped' := by
    cases move_of_step hbump with
    | resumed hwaiting hidle =>
        simp only [hidle, if_true, hk] at hperiods
        refine ⟨hperiods, rfl, checker, hget, hat, ?_⟩
        intro heq
        subst heq
        exact hreach.flagKept.fired (.inl hidle) k hperiods hget
  have hpreserved : ∀ taken s (a : Label S) s', Restoring k (taken.countP Label.isRunOnResume) s →
      (StoresInTime s a ∧ s.dispatcher ≠ .waiting) → step config options s a = some s' →
      Restoring k ((taken ++ [a]).countP Label.isRunOnResume) s' := by
    intro taken s a s' hrestoring hguard hstep
    rw [List.countP_append]
    exact hrestoring.step hguard.2 hguard.1 (move_of_step hstep)
  have hend := hdispatch.runs.guarded_history_invariant hpreserved []
    (hintimeDispatch.and hdispatch.before) hstart
  have hphase := hend.phase
  simp only [hdispatch.arrived, List.nil_append] at hphase
  obtain ⟨hcount, hreturned, hclear⟩ := hphase
  refine ⟨?_, hclear, not_mem_of_returned hafter hreturned⟩
  have hid : bumped'.rule.id = id := RunsFrom.rule_id hbumped
  rw [handed_dispatch hdispatch.runs, hid, hrestore, hcount]
  rfl

theorem dim_restoresOwnPeriod :
    RestoresOwnPeriod dimConfig .default "dim" [.idled, .checker 0 .loadStart,
      .checker 0 quietPoll, .checker 0 .finalLoad, .checker 0 .runOnTimeout, .checker 0 .storeFired,
      .resumed, .loadFired, .clearFired, .runOnResume] := by
  obtain ⟨s, hrun⟩ := exists_runs (step dimConfig .default) (init "dim")
    [.idled, .checker 0 .loadStart, .checker 0 quietPoll, .checker 0 .finalLoad,
      .checker 0 .runOnTimeout, .checker 0 .storeFired, .resumed, .loadFired, .clearFired,
      .runOnResume] (by decide +kernel)
  exact restoresOwnPeriod_of_storesInTime hrun fun _ _ _ _ => by decide +kernel

end Nothypridle.IdleCycle
