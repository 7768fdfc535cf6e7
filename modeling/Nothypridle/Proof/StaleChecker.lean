import Nothypridle.Fakes
import Nothypridle.Proof.Moves

/-!
# A stale checker is dead

A checker that has read its epoch and not yet passed its last comparison holds an epoch that a
later bump makes old. The epoch only grows, so as long as it does not wrap the checker can never
pass a comparison again, whatever other periods and checkers follow.
-/

namespace Nothypridle.IdleCycle

variable {S : Type} [ResourceSource S] {config : RuleConfigSource} {options : IdleCheckOptions}
  {id : String}

/-- The checker holds an epoch from before bump number `bumps`, or has already given up. -/
def Doomed (bumps : ℕ) (checker : Checker) : Prop :=
  checker = .returned .abortedByUserResume ∨
    ∃ older < bumps, checker.startEpoch = some (UInt64.ofNat older)

theorem epoch_ofNat_ne {older current : ℕ} (hlt : older < current) (hwrap : current < 2 ^ 64) :
    UInt64.ofNat current ≠ UInt64.ofNat older := by
  intro heq
  have hnat := congrArg UInt64.toNat heq
  rw [UInt64.toNat_ofNat_of_lt' hwrap, UInt64.toNat_ofNat_of_lt' (hlt.trans hwrap)] at hnat
  omega

theorem Doomed.mono {bumps bumps' : ℕ} (hle : bumps ≤ bumps') {checker : Checker}
    (hdoomed : Doomed bumps checker) : Doomed bumps' checker := by
  rcases hdoomed with hreturned | ⟨older, hlt, hstart⟩
  · exact .inl hreturned
  · exact .inr ⟨older, hlt.trans_le hle, hstart⟩

/-! ### Before the bump -/

omit [ResourceSource S] in
/-- Short of its final load a checker stays bound to an epoch that the next bump makes old. -/
theorem Doomed.step {rule rule' : RuleRuntime} {checker checker' : Checker} {a : CheckerStep S}
    {commands : List String} {bumps : ℕ} (hdoomed : Doomed bumps checker)
    (hmove : Checker.Move config rule checker a checker' rule' commands) (hnot : a ≠ .finalLoad) :
    Doomed bumps checker' := by
  rcases hdoomed with rfl | ⟨older, hlt, hstart⟩
  · cases hmove
  · rcases hmove.startEpoch_cases hstart with hkept | ⟨hreturned, _⟩ | ⟨hfinal, _⟩
    · exact .inr ⟨older, hlt, hkept⟩
    · exact .inl hreturned
    · exact absurd hfinal hnot

structure Loaded (k : ℕ) (labels : List (Label S)) (s : State) : Prop where
  counts : Counts labels s
  doomed : .checker k .loadStart ∈ labels → .checker k .finalLoad ∉ labels →
    ∃ checker, s.checkers[k]? = some checker ∧
      Doomed (labels.countP Label.isResumed + 1) checker

omit [ResourceSource S] in
theorem Loaded.step {k : ℕ} {labels : List (Label S)} {s s' : State} {label : Label S}
    (hloaded : Loaded k labels s) (hmove : Move config s label s') :
    Loaded k (labels ++ [label]) s' := by
  obtain ⟨hcounts, hdoomed⟩ := hloaded
  refine ⟨hcounts.step hmove, ?_⟩
  intro hfirst hnot
  simp only [List.mem_append, List.mem_singleton, not_or] at hfirst hnot
  have hle : labels.countP Label.isResumed + 1 ≤
      (labels ++ [label]).countP Label.isResumed + 1 := by
    simp
  rcases hfirst with hmem | rfl
  · obtain ⟨checker, hget, hchecker⟩ := hdoomed hmem hnot.1
    rcases hmove.forward hget with ⟨hsame, _⟩ | ⟨a, checker', commands, rfl, hget', hmovek⟩
    · exact ⟨checker, hsame, hchecker.mono hle⟩
    · have ha : a ≠ .finalLoad := by
        intro heq
        subst heq
        exact hnot.2 rfl
      exact ⟨checker', hget', (hchecker.step hmovek ha).mono hle⟩
  · -- The load itself: the checker now holds the current epoch.
    cases hmove with
    | checker hget hmovek =>
        cases hmovek
        have hlt : k < s.checkers.length := (List.getElem?_eq_some_iff.mp hget).1
        refine ⟨_, List.getElem?_set_self hlt, .inr ⟨labels.countP Label.isResumed, by omega, ?_⟩⟩
        simp [Checker.startEpoch, hcounts.epoch]

/-! ### After the bump -/

def pollsLeft : Checker → ℕ
  | .poll _ => 1
  | _ => 0

omit [ResourceSource S] in
/-- A doomed checker fails every comparison, so it polls at most where it stands before a poll. -/
theorem Doomed.dead_step {rule rule' : RuleRuntime} {checker checker' : Checker}
    {a : CheckerStep S} {commands : List String} {bumps current : ℕ} (k : ℕ)
    (hepoch : rule.epoch = UInt64.ofNat current) (hle : bumps ≤ current) (hwrap : current < 2 ^ 64)
    (hdoomed : Doomed bumps checker)
    (hmove : Checker.Move config rule checker a checker' rule' commands) :
    Doomed bumps checker' ∧ a ≠ .runOnTimeout ∧ a ≠ .storeFired ∧
      [Label.checker k a].countP (Label.isPollOf k) + pollsLeft checker' ≤ pollsLeft checker := by
  rcases hdoomed with rfl | ⟨older, hlt, hstart⟩
  · cases hmove
  have hstale : rule.epoch ≠ UInt64.ofNat older :=
    hepoch ▸ epoch_ofNat_ne (hlt.trans_le hle) hwrap
  have hdoomed' : Doomed bumps checker' := by
    rcases hmove.startEpoch_cases hstart with hkept | ⟨hreturned, _⟩ | ⟨_, _, hcurrent⟩
    · exact .inr ⟨older, hlt, hkept⟩
    · exact .inl hreturned
    · exact absurd hcurrent hstale
  refine ⟨hdoomed', ?_⟩
  cases hmove with
  | loadStart => cases hstart
  | pollSleep => simp [Label.isPollOf, pollsLeft]
  | pollAgain => simp [Label.isPollOf, pollsLeft]
  | pollFree => simp [Label.isPollOf, pollsLeft]
  | sleep => simp [Label.isPollOf, pollsLeft]
  | loopAbort => simp [Label.isPollOf, pollsLeft]
  | loopAgain => exact absurd (Option.some.inj hstart) hstale
  | finalAbort => simp [Label.isPollOf, pollsLeft]
  | finalPass => exact absurd (Option.some.inj hstart) hstale
  | fire => cases hstart
  | noCommand => cases hstart
  | parseError => cases hstart
  | storeFired => cases hstart

structure Dead (k bumps : ℕ) (labels : List (Label S)) (s : State) : Prop where
  epoch : s.rule.epoch = UInt64.ofNat (bumps + labels.countP Label.isResumed)
  checker : bumps + labels.countP Label.isResumed < 2 ^ 64 →
    ∃ checker, s.checkers[k]? = some checker ∧ Doomed bumps checker ∧
      labels.countP (Label.isPollOf k) + pollsLeft checker ≤ 1 ∧
      .checker k .runOnTimeout ∉ labels ∧ .checker k .storeFired ∉ labels

omit [ResourceSource S] in
theorem Label.countP_isPollOf_of_ne {k : ℕ} {label : Label S} (hlabel : ∀ a, label ≠ .checker k a) :
    [label].countP (Label.isPollOf k) = 0 := by
  cases label with
  | checker j a =>
      have hne : j ≠ k := by
        intro heq
        subst heq
        exact hlabel a rfl
      cases a <;> simp [Label.isPollOf, hne]
  | _ => rfl

omit [ResourceSource S] in
theorem Dead.step {k bumps : ℕ} {labels : List (Label S)} {s s' : State} {label : Label S}
    (hdead : Dead k bumps labels s) (hmove : Move config s label s') :
    Dead k bumps (labels ++ [label]) s' := by
  obtain ⟨hepoch, hchecker⟩ := hdead
  constructor
  · cases hmove with
    | resumed => simp [Label.isResumed, hepoch, UInt64.add_assoc]
    | checker hget hmovek => simp [Label.isResumed, hmovek.epoch_eq, hepoch]
    | _ => simp [Label.isResumed, hepoch]
  · intro hwrap
    rw [List.countP_append] at hwrap
    obtain ⟨checker, hget, hdoomed, hpolls, hfire, hstore⟩ := hchecker (by omega)
    rcases hmove.forward hget with ⟨hsame, hlabel⟩ | ⟨a, checker', commands, rfl, hget', hmovek⟩
    · refine ⟨checker, hsame, hdoomed, ?_, ?_, ?_⟩
      · rw [List.countP_append, Label.countP_isPollOf_of_ne hlabel]
        exact hpolls
      · simpa [hfire] using (hlabel .runOnTimeout).symm
      · simpa [hstore] using (hlabel .storeFired).symm
    · obtain ⟨hdoomed', ha, hb, hspent⟩ := hdoomed.dead_step k hepoch (by omega) (by omega) hmovek
      refine ⟨checker', hget', hdoomed', ?_, ?_, ?_⟩
      · rw [List.countP_append]
        omega
      · simpa [hfire] using ha.symm
      · simpa [hstore] using hb.symm

theorem pollsLeft_le_one (checker : Checker) : pollsLeft checker ≤ 1 := by
  cases checker <;> simp [pollsLeft]

/-- **Stale checkers are dead forever.** A checker that has loaded its epoch before a bump and has
not made its final load starts at most one more poll after it, never reaches the runner or the
fired flag, leaves both alone in every step it takes, and can only finish as aborted, in every
continuation of the run in which the epoch does not wrap. -/
theorem staleChecker_dead {k : ℕ} {before after : List (Label S)} {s s' s'' : State}
    (hbefore : RunsFrom config options id before s)
    (hloaded : .checker k .loadStart ∈ before) (hnot : .checker k .finalLoad ∉ before)
    (hbump : step config options s (.resumed : Label S) = some s')
    (hafter : Transition.Runs (step config options) s' after s'')
    (hwrap : (before ++ .resumed :: after).countP Label.isResumed < 2 ^ 64) :
    after.countP (Label.isPollOf k) ≤ 1 ∧
      .checker k .runOnTimeout ∉ after ∧ .checker k .storeFired ∉ after ∧
      (∀ middle t a t',
        Transition.Takes (step config options) s' after middle t (.checker k a) t' →
        t'.commands = t.commands ∧ t'.rule.fired = t.rule.fired) ∧
      ∀ res, s''.checkers[k]? = some (.returned res) → res = .abortedByUserResume := by
  have hat : Loaded k before s :=
    hbefore.history_invariant ⟨⟨rfl, rfl⟩, by simp⟩ fun _ _ _ _ hloaded hmove => hloaded.step hmove
  obtain ⟨checker, hget, hdoomed⟩ := hat.doomed hloaded hnot
  set bumps := before.countP Label.isResumed + 1 with hbumps
  have hmove := move_of_step hbump
  have hbumped : Dead k bumps ([] : List (Label S)) s' := by
    cases hmove with
    | resumed =>
        refine ⟨?_, fun _ => ⟨checker, hget, hdoomed, ?_, by simp, by simp⟩⟩
        · simp [hat.counts.epoch, hbumps]
        · simpa using pollsLeft_le_one checker
  have hdead : Dead k bumps after s'' := by
    simpa using Transition.Runs.history_invariant (fun _ _ _ _ hdead hstep =>
      hdead.step (move_of_step hstep)) [] hafter hbumped
  have hcount : bumps + after.countP Label.isResumed < 2 ^ 64 := by
    simp only [List.countP_append, List.countP_cons, Label.isResumed, if_true] at hwrap
    omega
  obtain ⟨final, hfinal, hdoomedFinal, hpolls, hfire, hstore⟩ := hdead.checker hcount
  refine ⟨by omega, hfire, hstore, ?_, ?_⟩
  · intro middle t a t' htakes
    refine quiet_of_checker_step htakes.step ?_ ?_
    · intro heq
      exact hfire (heq ▸ htakes.mem)
    · intro heq
      exact hstore (heq ▸ htakes.mem)
  intro res hres
  obtain rfl := Option.some.inj (hres.symm.trans hfinal)
  rcases hdoomedFinal with hreturned | ⟨older, _, hstart⟩
  · exact (Checker.returned.inj hreturned)
  · cases hstart

theorem dim_staleChecker_dead :
    ∃ (after : List (Label FakeResourceSource)) (s s' s'' : State),
      after = [.loadFired, .checker 0 quietPoll, .checker 0 .finalLoad] ∧
      RunsFrom (S := FakeResourceSource) dimConfig .default "dim"
        [.idled, .checker 0 .loadStart] s ∧
      step dimConfig .default s (.resumed : Label FakeResourceSource) = some s' ∧
      Transition.Runs (step dimConfig .default) s' after s'' ∧
      after.countP (Label.isPollOf 0) ≤ 1 ∧
      .checker 0 .runOnTimeout ∉ after ∧ .checker 0 .storeFired ∉ after ∧
      (∀ middle t a t',
        Transition.Takes (step dimConfig .default) s' after middle t (.checker 0 a) t' →
        t'.commands = t.commands ∧ t'.rule.fired = t.rule.fired) ∧
      ∀ res, s''.checkers[0]? = some (.returned res) → res = .abortedByUserResume := by
  obtain ⟨s'', hrun⟩ := Transition.exists_runs (step dimConfig .default) (init "dim")
    ([.idled, .checker 0 .loadStart] ++ .resumed :: [.loadFired, .checker 0 quietPoll,
      .checker 0 .finalLoad]) (by decide +kernel)
  obtain ⟨s, hbefore, hrest⟩ := Transition.runs_append_iff.mp hrun
  obtain ⟨s', hbump, hafter⟩ := Transition.runs_cons_iff.mp hrest
  exact ⟨_, s, s', s'', rfl, hbefore, hbump, hafter,
    staleChecker_dead hbefore (by simp) (by simp) hbump hafter (by decide)⟩

end Nothypridle.IdleCycle
