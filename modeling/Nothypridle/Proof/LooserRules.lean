import Nothypridle.Lib.Entries
import Nothypridle.Proof.QuotedValues
import Nothypridle.Proof.RuleIsolation
import Nothypridle.Proof.SessionRefinement

/-!
# Inhibitors only inhibit

A rule with looser limits, shorter lists or fewer settings can do whatever the rule did before, at
the same moments and on the same answers. The name of a player counts the other way: without one any
player inhibits, so a rule gets looser when it is given one and stricter when it is taken from it.
The checkers of the looser rule may leave their loop earlier. They then wait in front of the last
comparison, with the epoch they would have kept, until the checker of the stricter rule has got
there or has given up.
-/

namespace Nothypridle

open Entries (getElem?_set_of_some set_of_getElem?)

/-- Whatever the setting of `lax` keeps the rule from, that of `strict` does too. -/
def Setting.LooserIn (lax strict : RuleConfigSource) (id : String) : Setting → Prop
  | maxCpuUsage => ∀ max, lax.maxCpuUsage id = .ok max →
      ∃ max', strict.maxCpuUsage id = .ok max' ∧ ∀ reading : Float32, reading > max → reading > max'
  | maxGpuUsage => ∀ max, lax.maxGpuUsage id = .ok max →
      ∃ max', strict.maxGpuUsage id = .ok max' ∧ ∀ reading : Float32, reading > max → reading > max'
  | minRamMb => ∀ min, lax.minRamMb id = .ok min →
      ∃ min', strict.minRamMb id = .ok min' ∧ min.toNat ≤ min'.toNat
  | minVramMb => ∀ min, lax.minVramMb id = .ok min →
      ∃ min', strict.minVramMb id = .ok min' ∧ min.toNat ≤ min'.toNat
  | keepAliveProcesses => ∀ targets, lax.keepAliveProcesses id = .ok targets →
      ∃ targets', strict.keepAliveProcesses id = .ok targets' ∧ targets ⊆ targets'
  | musicPlaying => lax.musicPlaying id = .ok true → strict.musicPlaying id = .ok true
  | musicProcessName => ∀ name, lax.musicProcessName id = .ok name →
      strict.musicProcessName id = .ok name ∨ strict.musicProcessName id = .ok none
  | fullscreen => lax.fullscreen id = .ok true → strict.fullscreen id = .ok true

/-- The rules run the same commands, and `lax` inhibits on less. -/
structure Looser (lax strict : RuleConfigSource) (id : String) : Prop where
  settings : ∀ setting : Setting, setting.LooserIn lax strict id
  onTimeout : lax.onTimeout id = strict.onTimeout id
  onResume : lax.onResume id = strict.onResume id

variable {lax strict : RuleConfigSource} {id : String}

/-! ### One poll -/

theorem isAnyAudioPlaying_of_isAudioPlaying {finder : PlayerFinder} {name : String}
    (hplaying : isAudioPlaying finder name = true) : isAnyAudioPlaying finder = true := by
  obtain ⟨players, player, hplayers, hmem, hrunning, hplays, _⟩ := isAudioPlaying_iff.mp hplaying
  rw [isAnyAudioPlaying, hplayers, List.any_eq_true]
  exact ⟨player, List.mem_filterMap.mpr ⟨.ok player, hmem, rfl⟩, by rw [hrunning, hplays]; rfl⟩

theorem Looser.holds (hlooser : Looser lax strict id) {check : Check} {source : ResourceMonitor}
    {states : FullscreenState} (hholds : check.Holds lax id source source states) :
    check.Holds strict id source source states := by
  have hsettings := hlooser.settings
  cases check with
  | cpu =>
      obtain ⟨max, hmax, hexceeds⟩ := hholds
      obtain ⟨max', hmax', hlooser⟩ := hsettings .maxCpuUsage max hmax
      exact ⟨max', hmax', hlooser _ hexceeds⟩
  | gpu =>
      obtain ⟨max, hmax, hexceeds⟩ := hholds
      obtain ⟨max', hmax', hlooser⟩ := hsettings .maxGpuUsage max hmax
      exact ⟨max', hmax', hlooser _ hexceeds⟩
  | ram =>
      obtain ⟨min, hmin, hbelow⟩ := hholds
      obtain ⟨min', hmin', hle⟩ := hsettings .minRamMb min hmin
      exact ⟨min', hmin', hbelow.trans_le hle⟩
  | vram =>
      obtain ⟨hknown, min, hmin, hbelow⟩ := hholds
      obtain ⟨min', hmin', hle⟩ := hsettings .minVramMb min hmin
      exact ⟨hknown, min', hmin', hbelow.trans_le hle⟩
  | keepAlive =>
      obtain ⟨targets, htargets, hnonempty, hrunning⟩ := hholds
      obtain ⟨targets', htargets', hsubset⟩ := hsettings .keepAliveProcesses targets htargets
      obtain ⟨target, hmem, hfound⟩ := checkAnyProcessRunning_iff.mp hrunning
      refine ⟨targets', htargets', List.ne_nil_of_mem (hsubset hmem), ?_⟩
      exact checkAnyProcessRunning_iff.mpr ⟨target, hsubset hmem, hfound⟩
  | music =>
      obtain ⟨hplaying, hheard⟩ := hholds
      refine ⟨hsettings .musicPlaying hplaying, ?_⟩
      rcases hheard with ⟨name, hname, hheard⟩ | ⟨hname, hheard⟩
      · rcases hsettings .musicProcessName (some name) hname with hname' | hname'
        · exact .inl ⟨name, hname', hheard⟩
        · exact .inr ⟨hname', isAnyAudioPlaying_of_isAudioPlaying hheard⟩
      · exact .inr ⟨(hsettings .musicProcessName none hname).elim (·) (·), hheard⟩
  | fullscreen =>
      obtain ⟨hfullscreen, hshown⟩ := hholds
      exact ⟨hsettings .fullscreen hfullscreen, hshown⟩

theorem Looser.inhibited (hlooser : Looser lax strict id)
    {resourceMonitor : Mutex ResourceMonitor} {fullscreen : Mutex FullscreenState}
    {rule rule' : RuleRuntime} (hrule : rule.id = id) (hrule' : rule'.id = id)
    (hinhibited : (shouldInhibit lax resourceMonitor fullscreen rule').inhibited = true) :
    (shouldInhibit strict resourceMonitor fullscreen rule).inhibited = true := by
  cases hlock : resourceMonitor.lock with
  | error err =>
      rw [shouldInhibit_of_poisoned hlock] at hinhibited
      cases hinhibited
  | ok source =>
      simp only [shouldInhibit_iff_of_lock hlock, afterProcessCheck_resourceMonitor, hrule,
        hrule'] at hinhibited ⊢
      obtain ⟨check, hholds⟩ := hinhibited
      exact ⟨check, hlooser.holds hholds⟩

/-! ### One checker -/

/-- The checker of the looser rule is level with that of the stricter one, or waits where it will
get to. -/
inductive Checker.Follows : Checker → Checker → Prop
  | level (checker : Checker) : Follows checker checker
  | poll (startEpoch : UInt64) : Follows (.poll startEpoch) (.finalLoad startEpoch)
  | sleep (startEpoch : UInt64) : Follows (.sleep startEpoch) (.finalLoad startEpoch)
  | loopLoad (startEpoch : UInt64) : Follows (.loopLoad startEpoch) (.finalLoad startEpoch)

/-- The access of the looser rule at an access of the stricter one, if it makes one. -/
inductive CheckerStep.Follows {S : Type} : CheckerStep S → Option (CheckerStep S) → Prop
  | kept (a : CheckerStep S) : Follows a (some a)
  | poll (resourceMonitor : Mutex S) (fullscreen : Mutex FullscreenState) :
      Follows (.poll resourceMonitor fullscreen) none
  | sleep : Follows .sleep none
  | loopLoad : Follows .loopLoad none
  | aborts : Follows .loopLoad (some .finalLoad)

theorem Checker.follows_finalLoad (options : IdleCheckOptions) (startEpoch : UInt64)
    (inhibited : Bool) :
    (afterPoll options startEpoch inhibited).Follows (.finalLoad startEpoch) := by
  unfold afterPoll
  split
  · split
    · exact .sleep startEpoch
    · exact .loopLoad startEpoch
  · exact .level _

theorem Checker.follows_afterPoll {options : IdleCheckOptions} {startEpoch : UInt64}
    {inhibited inhibited' : Bool} (hlooser : inhibited' = true → inhibited = true) :
    (afterPoll options startEpoch inhibited).Follows (afterPoll options startEpoch inhibited') := by
  cases inhibited' with
  | true =>
      rw [hlooser rfl]
      exact .level _
  | false => exact follows_finalLoad options startEpoch inhibited

/-- What the looser rule does at an access of the stricter one, with the checker in `checker'` and
the rule in `rule'`. -/
def Checker.Followed (lax : RuleConfigSource) (options : IdleCheckOptions)
    (a : CheckerStep ResourceMonitor) (checker' : Checker) (rule' : RuleRuntime)
    (next : Checker) (after : RuleRuntime) (commands : List String) : Prop :=
  ∃ a' next' after', a.Follows a' ∧ next.Follows next' ∧ after.SameCounters after' ∧
    (match a' with
      | some a' => checker'.step lax options rule' a' = some (next', after', commands)
      | none => next' = checker' ∧ after' = rule' ∧ commands = [])

section

variable {options : IdleCheckOptions} {rule rule' after : RuleRuntime}
  {checker checker' next : Checker} {a : CheckerStep ResourceMonitor} {commands : List String}

theorem Looser.follows_poll (hlooser : Looser lax strict id) (hid : rule.id = id)
    (hsame : rule.SameCounters rule') {startEpoch : UInt64}
    {resourceMonitor : Mutex ResourceMonitor} {fullscreen : Mutex FullscreenState}
    (hstep : (Checker.poll startEpoch).step strict options rule
      (.poll resourceMonitor fullscreen) = some (next, after, commands)) :
    (Checker.poll startEpoch).Followed lax options (.poll resourceMonitor fullscreen) rule' next
      after commands := by
  rw [Checker.step_poll] at hstep
  cases hstep
  have hpoll := shouldInhibit_sameCounters strict resourceMonitor fullscreen rule
  have hpoll' := shouldInhibit_sameCounters lax resourceMonitor fullscreen rule'
  refine ⟨_, _, _, .kept _, ?_, ?_, Checker.step_poll lax options rule' _ _ _⟩
  · exact Checker.follows_afterPoll (hlooser.inhibited hid (hsame.id.trans hid))
  · exact hpoll.symm.trans (hsame.trans hpoll')

theorem Looser.follows_level (hlooser : Looser lax strict id) (hid : rule.id = id)
    (hsame : rule.SameCounters rule')
    (hstep : checker.step strict options rule a = some (next, after, commands)) :
    checker.Followed lax options a rule' next after commands := by
  have htimeout : lax.onTimeout rule'.id = strict.onTimeout rule.id := by
    rw [hsame.id, hid, hlooser.onTimeout]
  cases a with
  | poll resourceMonitor fullscreen =>
      cases checker with
      | poll startEpoch => exact hlooser.follows_poll hid hsame hstep
      | _ => cases hstep
  | _ =>
      obtain ⟨after', hstep', hafter⟩ :=
        Checker.step_congr hsame htimeout (fun _ _ heq => by cases heq) hstep
      exact ⟨_, next, after', .kept _, .level next, hafter, hstep'⟩

/-- A checker that waits at the last comparison gives up where the stricter one gives up in its
loop, and is met there by it otherwise. -/
theorem Looser.follows (hlooser : Looser lax strict id) (hid : rule.id = id)
    (hsame : rule.SameCounters rule') (hfollows : checker.Follows checker')
    (hstep : checker.step strict options rule a = some (next, after, commands)) :
    checker'.Followed lax options a rule' next after commands := by
  cases hfollows with
  | level => exact hlooser.follows_level hid hsame hstep
  | poll startEpoch =>
      cases a with
      | poll resourceMonitor fullscreen =>
          rw [Checker.step_poll] at hstep
          cases hstep
          have hpoll := shouldInhibit_sameCounters strict resourceMonitor fullscreen rule
          exact ⟨none, _, rule', .poll _ _, Checker.follows_finalLoad options startEpoch _,
            hpoll.symm.trans hsame, rfl, rfl, rfl⟩
      | _ => cases hstep
  | sleep startEpoch =>
      cases Checker.move_of_step hstep with
      | sleep => exact ⟨none, _, rule', .sleep, .loopLoad startEpoch, hsame, rfl, rfl, rfl⟩
  | loopLoad startEpoch =>
      cases Checker.move_of_step hstep with
      | loopAbort hstale =>
          exact ⟨some .finalLoad, _, rule', .aborts, .level _, hsame,
            if_pos (hsame.epoch ▸ hstale)⟩
      | loopAgain => exact ⟨none, _, rule', .loopLoad, .poll _, hsame, rfl, rfl, rfl⟩

end

/-! ### The threads of the rule -/

namespace IdleCycle

/-- The steps of the looser rule at a step of the stricter one. -/
inductive Label.Follows {S : Type} : Label S → List (Label S) → Prop
  | idled : Follows .idled [.idled]
  | resumed : Follows .resumed [.resumed]
  | loadFired : Follows .loadFired [.loadFired]
  | clearFired : Follows .clearFired [.clearFired]
  | runOnResume : Follows .runOnResume [.runOnResume]
  | checker (k : ℕ) {a : CheckerStep S} {a' : Option (CheckerStep S)} (hfollows : a.Follows a') :
      Follows (.checker k a) (a'.map (Label.checker k)).toList

theorem Label.Follows.visible_eq {S : Type} {label : Label S} {part : List (Label S)}
    (hfollows : label.Follows part) :
    part.filterMap Label.visible = [label].filterMap Label.visible := by
  cases hfollows with
  | checker k hfollows => cases hfollows <;> rfl
  | _ => rfl

/-- The states differ at most in what has been reported and in how far the checkers are. -/
structure Follows (id : String) (s t : State) : Prop where
  id : s.rule.id = id
  rule : s.rule.SameCounters t.rule
  idle : t.idle = s.idle
  dispatcher : t.dispatcher = s.dispatcher
  length : t.checkers.length = s.checkers.length
  checkers : ∀ (k : ℕ) checker, s.checkers[k]? = some checker →
    ∃ checker', t.checkers[k]? = some checker' ∧ checker.Follows checker'
  commands : t.commands = s.commands

variable {options : IdleCheckOptions} {s s' t : State}

theorem Follows.set (hfollows : Follows id s t) {k : ℕ} {next next' : Checker}
    (hnext : next.Follows next') (hlt : k < s.checkers.length) (i : ℕ) (checker : Checker)
    (hget : (s.checkers.set k next)[i]? = some checker) :
    ∃ checker', (t.checkers.set k next')[i]? = some checker' ∧ checker.Follows checker' := by
  by_cases hki : k = i
  · subst hki
    rw [List.getElem?_set_self hlt] at hget
    obtain rfl := Option.some.inj hget
    exact ⟨next', List.getElem?_set_self (hfollows.length ▸ hlt), hnext⟩
  · rw [List.getElem?_set_ne hki] at hget ⊢
    exact hfollows.checkers i checker hget

theorem Follows.concat (hfollows : Follows id s t) (new : Checker) (i : ℕ) (checker : Checker)
    (hget : (s.checkers ++ [new])[i]? = some checker) :
    ∃ checker', (t.checkers ++ [new])[i]? = some checker' ∧ checker.Follows checker' := by
  rcases lt_or_ge i s.checkers.length with hlt | hge
  · have hlt' : i < t.checkers.length := hfollows.length ▸ hlt
    rw [List.getElem?_append_left hlt] at hget
    rw [List.getElem?_append_left hlt']
    exact hfollows.checkers i checker hget
  · have hge' : t.checkers.length ≤ i := hfollows.length ▸ hge
    rw [List.getElem?_append_right hge] at hget
    rw [List.getElem?_append_right hge', hfollows.length]
    exact ⟨checker, hget, .level checker⟩

theorem follows_checker (hlooser : Looser lax strict id) (hfollows : Follows id s t) {k : ℕ}
    {a : CheckerStep ResourceMonitor}
    (hstep : step strict options s (.checker k a) = some s') :
    ∃ part t', (Label.checker k a).Follows part ∧
      Transition.Runs (step lax options) t part t' ∧ Follows id s' t' := by
  have hkept := hfollows
  obtain ⟨hid, hrule, hidle, hdispatcher, hlength, hcheckers, hcommands⟩ := hkept
  simp only [step, Option.bind_eq_some_iff, Option.map_eq_some_iff] at hstep
  obtain ⟨checker, hget, ⟨next, after, commands⟩, hchecker, rfl⟩ := hstep
  obtain ⟨checker', hget', hbehind⟩ := hcheckers k checker hget
  obtain ⟨a', next', after', haccess, hnext, hafter, hstep'⟩ :=
    hlooser.follows hid hrule hbehind hchecker
  have hlt : k < s.checkers.length := (List.getElem?_eq_some_iff.mp hget).1
  have hset := hfollows.set hnext hlt
  have hlength' : (t.checkers.set k next').length = (s.checkers.set k next).length := by
    rw [List.length_set, List.length_set, hlength]
  have hid' : after.id = id := (Checker.move_of_step hchecker).id_eq.trans hid
  refine ⟨_, { t with
    rule := after'
    checkers := t.checkers.set k next'
    commands := t.commands ++ commands }, .checker k haccess, ?_, ?_⟩
  · cases a' with
    | some a' =>
        refine Transition.runs_singleton_iff.mpr ?_
        simp only [step, hget', Option.bind_some, hstep', Option.map_some]
    | none =>
        -- The looser rule waits: its checker is replaced by itself.
        obtain ⟨rfl, rfl, rfl⟩ := hstep'
        rw [set_of_getElem? hget', List.append_nil]
        exact Transition.runs_nil_iff.mpr rfl
  · exact ⟨hid', hafter, hidle, hdispatcher, hlength', hset, congrArg (· ++ commands) hcommands⟩

theorem follows_step (hlooser : Looser lax strict id) (hfollows : Follows id s t)
    {label : Label ResourceMonitor} (hstep : step strict options s label = some s') :
    ∃ part t', label.Follows part ∧ Transition.Runs (step lax options) t part t' ∧
      Follows id s' t' := by
  have hrule := hfollows.rule
  have hidle := hfollows.idle
  have hdispatcher := hfollows.dispatcher
  cases label with
  | idled =>
      simp only [step, Option.ite_none_right_eq_some, Option.some.injEq] at hstep
      obtain ⟨⟨hwaiting, hactive⟩, rfl⟩ := hstep
      refine ⟨_, _, .idled, Transition.runs_singleton_iff.mpr
        (if_pos ⟨hdispatcher.trans hwaiting, hidle.trans hactive⟩), ?_⟩
      exact { hfollows with
        idle := rfl
        length := by rw [List.length_append, List.length_append, hfollows.length]
        checkers := hfollows.concat .loadStart }
  | resumed =>
      simp only [step, Option.ite_none_right_eq_some, Option.some.injEq] at hstep
      obtain ⟨⟨hwaiting, hactive⟩, rfl⟩ := hstep
      refine ⟨_, _, .resumed, Transition.runs_singleton_iff.mpr
        (if_pos ⟨hdispatcher.trans hwaiting, hidle.trans hactive⟩), ?_⟩
      exact { hfollows with
        rule := ⟨hrule.id, congrArg (· + 1) hrule.epoch, hrule.fired⟩
        idle := rfl
        dispatcher := rfl }
  | loadFired =>
      simp only [step, Option.ite_none_right_eq_some, Option.some.injEq] at hstep
      obtain ⟨hloading, rfl⟩ := hstep
      refine ⟨_, _, .loadFired, Transition.runs_singleton_iff.mpr
        (if_pos (hdispatcher.trans hloading)), ?_⟩
      exact { hfollows with dispatcher := by rw [hrule.fired] }
  | clearFired =>
      simp only [step, Option.ite_none_right_eq_some, Option.some.injEq] at hstep
      obtain ⟨hclearing, rfl⟩ := hstep
      refine ⟨_, _, .clearFired, Transition.runs_singleton_iff.mpr
        (if_pos (hdispatcher.trans hclearing)), ?_⟩
      exact { hfollows with
        rule := ⟨hrule.id, hrule.epoch, rfl⟩
        dispatcher := rfl }
  | runOnResume =>
      have hrunning : s.dispatcher = .runOnResume := by
        by_contra hnot
        rw [step, if_neg hnot] at hstep
        cases hstep
      rw [step_runOnResume hrunning] at hstep
      cases hstep
      have hrestore : lax.onResume t.rule.id = strict.onResume s.rule.id := by
        rw [hrule.id, hfollows.id, hlooser.onResume]
      refine ⟨_, _, .runOnResume, Transition.runs_singleton_iff.mpr
        (step_runOnResume (hdispatcher.trans hrunning)), ?_⟩
      exact { hfollows with
        dispatcher := rfl
        commands := by rw [hfollows.commands, hrestore] }
  | checker k a => exact follows_checker hlooser hfollows hstep

/-- **Inhibitors only inhibit.** Whatever a rule does in a run, a looser rule can do too, with each
of its polls made at a poll of that run and on the same answers: the same events and calls are seen,
the same commands are run, and the flag and the dispatch end up the same. -/
theorem inhibitors_only_inhibit (hlooser : Looser lax strict id)
    {labels : List (Label ResourceMonitor)} (hrun : RunsFrom strict options id labels s) :
    ∃ parts t, List.Forall₂ Label.Follows labels parts ∧
      RunsFrom lax options id parts.flatten t ∧
      parts.flatten.filterMap Label.visible = labels.filterMap Label.visible ∧
      t.commands = s.commands ∧ t.rule.fired = s.rule.fired ∧ t.idle = s.idle ∧
      t.dispatcher = s.dispatcher := by
  have hinit : Follows id (init id) (init id) :=
    { id := rfl
      rule := .refl _
      idle := rfl
      dispatcher := rfl
      length := rfl
      checkers := fun _ checker hget => ⟨checker, hget, .level checker⟩
      commands := rfl }
  have hsim : ∀ (s t : State) (label : Label ResourceMonitor) (s' : State), Follows id s t →
      step strict options s label = some s' → ∃ part t', label.Follows part ∧
        Transition.Runs (step lax options) t part t' ∧ Follows id s' t' :=
    fun _ _ _ _ hfollows hstep => follows_step hlooser hfollows hstep
  obtain ⟨parts, t, hparts, hrun', hfollows⟩ := Transition.runs_of_follows hsim hrun hinit
  have hvisible := Transition.filterMap_flatten_of_forall₂
    (fun _ _ hfollows => Label.Follows.visible_eq hfollows) hparts
  exact ⟨parts, t, hparts, hrun', hvisible, hfollows.commands, hfollows.rule.fired, hfollows.idle,
    hfollows.dispatcher⟩

/-- `dimConfig` with a film and an encoder that keep it from dimming. -/
def watchfulConfig : RuleConfigSource :=
  FakeConfig.source { keepAlive := ["ffmpeg"], fullscreen := some true,
                      onTimeoutCmd := some "brightnessctl -s set 20%",
                      onResumeCmd := some "brightnessctl -r" }

theorem dim_looser : Looser dimConfig watchfulConfig "dim" where
  settings := by
    intro setting
    cases setting with
    | keepAliveProcesses =>
        intro targets htargets
        cases htargets
        exact ⟨["ffmpeg"], rfl, List.nil_subset _⟩
    | musicPlaying =>
        intro hplaying
        cases hplaying
    | fullscreen =>
        intro hfullscreen
        cases hfullscreen
    | _ =>
        intro value hvalue
        cases hvalue
  onTimeout := rfl
  onResume := rfl

/-- The film ends before the second poll. Without it the checker is through after the first one, and
`dim` fires all the same. -/
theorem dim_inhibitors_only_inhibit :
    ∃ (labels : List (Label ResourceMonitor)) (s t : State)
      (parts : List (List (Label ResourceMonitor))),
      s.commands = ["brightnessctl -s set 20%"] ∧ List.Forall₂ Label.Follows labels parts ∧
      RunsFrom dimConfig .default "dim" parts.flatten t ∧
      parts.flatten.filterMap Label.visible = labels.filterMap Label.visible ∧
      t.commands = s.commands ∧ t.rule.fired = s.rule.fired ∧ t.idle = s.idle ∧
      t.dispatcher = s.dispatcher := by
  obtain ⟨s, hrun⟩ := Transition.exists_runs (step watchfulConfig .default) (init "dim")
    [.idled, .checker 0 .loadStart,
      .checker 0 (.poll (.new Client.bareMonitor) (.new (FullscreenState.empty.set ⟨7⟩ true))),
      .checker 0 .sleep, .checker 0 .loopLoad,
      .checker 0 (.poll (.new Client.bareMonitor) (.new .empty)), .checker 0 .finalLoad,
      .checker 0 .runOnTimeout] (by decide +kernel)
  have hcommands := hrun.observe State.commands
    (by decide +kernel : _ = some ["brightnessctl -s set 20%"])
  obtain ⟨parts, t, hparts, hfollowed⟩ := inhibitors_only_inhibit dim_looser hrun
  exact ⟨_, s, t, parts, hcommands, hparts, hfollowed⟩

end IdleCycle

end Nothypridle
