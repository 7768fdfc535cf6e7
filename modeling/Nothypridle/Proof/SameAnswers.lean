import Nothypridle.Lib.Simulation
import Nothypridle.Proof.ClientMoves
import Nothypridle.Proof.Consulted

/-!
# What the client sees of its sources

A poll updates the resource monitor, and then sees of it what the getters answer and nothing else.
So two sources between which these answers never differ are one to the client: whatever happens, it
goes through the same states, makes the same calls and logs the same lines.
-/

namespace Nothypridle

variable {S T : Type} [ResourceSource S] [ResourceSource T]

/-- An update makes `stale` sources `fresh`, and as long as they are they answer alike. -/
structure AnswersAlike (stale fresh : S → T → Prop) : Prop where
  update : ∀ monitor other, stale monitor other →
    fresh (ResourceSource.update monitor) (ResourceSource.update other)
  stale : ∀ monitor other, fresh monitor other → stale monitor other
  cpu : ∀ monitor other, fresh monitor other →
    ResourceSource.getCpu other = ResourceSource.getCpu monitor
  gpu : ∀ monitor other, fresh monitor other →
    ResourceSource.getGpu other = ResourceSource.getGpu monitor
  ram : ∀ monitor other, fresh monitor other →
    ResourceSource.getRam other = ResourceSource.getRam monitor
  vram : ∀ monitor other, fresh monitor other →
    ResourceSource.getVram other = ResourceSource.getVram monitor
  running : ∀ monitor other targets, fresh monitor other →
    (ResourceSource.checkAnyProcessRunning other targets).1 =
      (ResourceSource.checkAnyProcessRunning monitor targets).1
  refreshed : ∀ monitor other targets, fresh monitor other →
    fresh (ResourceSource.checkAnyProcessRunning monitor targets).2
      (ResourceSource.checkAnyProcessRunning other targets).2
  audio : ∀ monitor other name, fresh monitor other →
    ResourceSource.isAudioPlaying other name = ResourceSource.isAudioPlaying monitor name
  anyAudio : ∀ monitor other, fresh monitor other →
    ResourceSource.isAnyAudioPlaying other = ResourceSource.isAnyAudioPlaying monitor

/-! ### A poll -/

section

omit [ResourceSource S] [ResourceSource T]

variable {fresh : S → T → Prop}

structure SamePoll (fresh : S → T → Prop) (st : PollState S) (other : PollState T) : Prop where
  monitor : fresh st.monitor other.monitor
  rule : other.rule = st.rule
  warnings : other.warnings = st.warnings

/-- Both come to the same answer, and leave the polls the same. -/
structure SameResult (fresh : S → T → Prop) (result : Bool × PollState S)
    (other : Bool × PollState T) : Prop where
  answer : other.1 = result.1
  poll : SamePoll fresh result.2 other.2

theorem SamePoll.answered {st : PollState S} {other : PollState T}
    (hsame : SamePoll fresh st other) {answer answer' : Bool} (hanswer : answer' = answer) :
    SameResult fresh (answer, st) (answer', other) :=
  ⟨hanswer, hsame⟩

theorem SamePoll.warned {st : PollState S} {other : PollState T}
    (hsame : SamePoll fresh st other) (key : String) (msg : String → String) :
    SameResult fresh (false, ((warnOnce key (msg st.rule.id)).run st).2)
      (false, ((warnOnce key (msg other.rule.id)).run other).2) := by
  obtain ⟨hmonitor, hrule, hwarnings⟩ := hsame
  refine ⟨rfl, hmonitor, ?_, ?_⟩
  · exact congrArg (fun rule : RuleRuntime => (rule.warnOnce key (msg rule.id)).1) hrule
  · exact congrArg₂ (fun (rule : RuleRuntime) lines =>
      lines ++ (rule.warnOnce key (msg rule.id)).2) hrule hwarnings

theorem SamePoll.exceedsMax {st : PollState S} {other : PollState T}
    (hsame : SamePoll fresh st other) (key : String) (getter : Except String Float32)
    {current : S → Float32} {current' : T → Float32}
    (hcurrent : current' other.monitor = current st.monitor) :
    SameResult fresh ((exceedsMax key getter current).run st)
      ((exceedsMax key getter current').run other) := by
  cases getter with
  | ok max =>
      apply hsame.answered
      rw [hcurrent]
  | error err =>
      exact hsame.warned key fun id =>
        s!"Monitor: rule '{id}' has invalid/missing '{key}'; skipping {key} check."

theorem SamePoll.belowMin {st : PollState S} {other : PollState T}
    (hsame : SamePoll fresh st other) (key : String) (getter : Except String UInt32)
    {currentMb : S → UInt64} {currentMb' : T → UInt64}
    (hcurrent : currentMb' other.monitor = currentMb st.monitor) :
    SameResult fresh ((belowMin key getter currentMb).run st)
      ((belowMin key getter currentMb').run other) := by
  cases getter with
  | ok min =>
      apply hsame.answered
      rw [hcurrent]
  | error err =>
      exact hsame.warned key fun id =>
        s!"Monitor: rule '{id}' has invalid/missing '{key}'; skipping {key} check."

end

variable {stale fresh : S → T → Prop} (config : RuleConfigSource)
  (fullscreen : Mutex FullscreenState)

theorem AnswersAlike.run_check (halike : AnswersAlike stale fresh) (id : String) (check : Check)
    {st : PollState S} {other : PollState T} (hsame : SamePoll fresh st other) :
    SameResult fresh ((check.run config fullscreen id).run st)
      ((check.run config fullscreen id).run other) := by
  have hid : other.rule.id = st.rule.id := congrArg RuleRuntime.id hsame.rule
  cases check with
  | cpu =>
      exact hsame.exceedsMax "max_cpu_usage" (config.maxCpuUsage id) (halike.cpu _ _ hsame.monitor)
  | gpu =>
      exact hsame.exceedsMax "max_gpu_usage" (config.maxGpuUsage id) (halike.gpu _ _ hsame.monitor)
  | ram =>
      have hram := congrArg (· / (1024 * 1024)) (halike.ram _ _ hsame.monitor)
      rw [Check.run, Check.run]
      exact hsame.belowMin "min_ram_mb" (config.minRamMb id) hram
  | vram =>
      have hvram := halike.vram _ _ hsame.monitor
      rw [Check.run, Check.run, run_belowMinVram, run_belowMinVram, hvram]
      by_cases hmax : ResourceSource.getVram st.monitor = u64Max
      · rw [if_pos hmax, if_pos hmax]
        exact hsame.answered rfl
      · rw [if_neg hmax, if_neg hmax]
        exact hsame.belowMin "min_vram_mb" (config.minVramMb id) hvram
  | keepAlive =>
      have htargets := congrArg config.keepAliveProcesses hid
      rw [Check.run, Check.run, run_inhibitByKeepAlive, run_inhibitByKeepAlive, htargets]
      rcases config.keepAliveProcesses st.rule.id with err | _ | ⟨target, targets⟩
      · exact hsame.warned "keep_alive_processes" fun id =>
          s!"Monitor: rule '{id}' has unparseable 'keep_alive_processes'; skipping process check: {err}"
      · exact hsame.answered rfl
      · exact ⟨halike.running _ _ _ hsame.monitor, halike.refreshed _ _ _ hsame.monitor, hsame.rule,
          hsame.warnings⟩
  | music =>
      have hplaying := congrArg config.musicPlaying hid
      have hname := congrArg config.musicProcessName hid
      rw [Check.run, Check.run, run_inhibitByMusic, run_inhibitByMusic, hplaying, hname]
      rcases config.musicPlaying st.rule.id with err | _ | _
      · exact hsame.answered rfl
      · exact hsame.answered rfl
      · rcases config.musicProcessName st.rule.id with err | _ | name
        · exact hsame.warned "music_process_name" fun id =>
            s!"Monitor: rule '{id}' has unparseable 'music_process_name'; skipping music check: {err}"
        · exact hsame.answered (halike.anyAudio _ _ hsame.monitor)
        · exact hsame.answered (halike.audio _ _ name hsame.monitor)
  | fullscreen =>
      have hfullscreen := congrArg config.fullscreen hid
      rw [Check.run, Check.run, run_inhibitByFullscreen, run_inhibitByFullscreen, hfullscreen]
      split <;> exact hsame.answered rfl

theorem AnswersAlike.run_checks (halike : AnswersAlike stale fresh) (id : String)
    (checks : List Check)
    {st : PollState S} {other : PollState T} (hsame : SamePoll fresh st other) :
    SameResult fresh ((untilInhibited (checks.map (Check.run config fullscreen id))).run st)
      ((untilInhibited (checks.map (Check.run config fullscreen id))).run other) := by
  induction checks generalizing st other with
  | nil => exact hsame.answered rfl
  | cons check checks ih =>
      obtain ⟨hanswer, hpoll⟩ := halike.run_check config fullscreen id check hsame
      rw [List.map_cons, List.map_cons, run_untilInhibited_cons, run_untilInhibited_cons, hanswer]
      by_cases hinhibits : ((check.run config fullscreen id).run st).1 = true
      · rw [if_pos hinhibits, if_pos hinhibits]
        exact hpoll.answered rfl
      · rw [if_neg hinhibits, if_neg hinhibits]
        exact ih hpoll

/-- The locks are in the same state, with `stale` sources behind them. -/
structure SameLock (stale : S → T → Prop) (mutex : Mutex S) (other : Mutex T) : Prop where
  data : stale mutex.data other.data
  poisoned : other.poisoned = mutex.poisoned

omit [ResourceSource S] [ResourceSource T] in
theorem SameLock.lock_of_ok {mutex : Mutex S} {other : Mutex T} {monitor : S}
    (hsame : SameLock stale mutex other) (hlock : mutex.lock = .ok monitor) :
    other.lock = .ok other.data := by
  cases hpoisoned : mutex.poisoned with
  | true =>
      rw [Mutex.lock_of_poisoned hpoisoned] at hlock
      cases hlock
  | false => exact Mutex.lock_of_healthy (hsame.poisoned.trans hpoisoned)

/-- The polls come to the same, and leave the locks the same. -/
structure SameOutcome (stale : S → T → Prop) (poll : Poll S) (other : Poll T) : Prop where
  inhibited : other.inhibited = poll.inhibited
  resourceMonitor : SameLock stale poll.resourceMonitor other.resourceMonitor
  rule : other.rule = poll.rule
  warnings : other.warnings = poll.warnings

theorem AnswersAlike.sameOutcome (halike : AnswersAlike stale fresh) {resourceMonitor : Mutex S}
    {other : Mutex T} (hsame : SameLock stale resourceMonitor other) (rule : RuleRuntime) :
    SameOutcome stale (shouldInhibit config resourceMonitor fullscreen rule)
      (shouldInhibit config other fullscreen rule) := by
  cases hpoisoned : resourceMonitor.poisoned with
  | true =>
      have hlock := Mutex.lock_of_poisoned hpoisoned
      have hlock' := Mutex.lock_of_poisoned (hsame.poisoned.trans hpoisoned)
      rw [shouldInhibit, shouldInhibit, hlock, hlock']
      exact ⟨rfl, hsame, rfl, rfl⟩
  | false =>
      have hlock := Mutex.lock_of_healthy hpoisoned
      have hlock' := Mutex.lock_of_healthy (hsame.poisoned.trans hpoisoned)
      have hupdated : SamePoll fresh
          ⟨ResourceSource.update resourceMonitor.data, rule, []⟩
          ⟨ResourceSource.update other.data, rule, []⟩ :=
        ⟨halike.update _ _ hsame.data, rfl, rfl⟩
      obtain ⟨hanswer, hpoll⟩ := halike.run_checks config fullscreen rule.id Check.all hupdated
      rw [shouldInhibit_eq hlock, shouldInhibit_eq hlock']
      exact ⟨hanswer, ⟨halike.stale _ _ hpoll.monitor, hsame.poisoned⟩, hpoll.rule, hpoll.warnings⟩

/-! ### The client -/

namespace Client

/-- The labels differ at most in the sources. -/
inductive Label.Same (stale : S → T → Prop) : Label S → Label T → Prop where
  | idled (j : ℕ) : Same stale (.idled j) (.idled j)
  | resumed (j : ℕ) : Same stale (.resumed j) (.resumed j)
  | loadFired (j : ℕ) : Same stale (.loadFired j) (.loadFired j)
  | clearFired (j : ℕ) : Same stale (.clearFired j) (.clearFired j)
  | runOnResume (j : ℕ) : Same stale (.runOnResume j) (.runOnResume j)
  | checker (j k : ℕ) (action : Action) : Same stale (.checker j k action) (.checker j k action)
  | pollPanics {monitor : S} {other : T} (j k : ℕ) (warned : Mutex (Finset String))
      (readsMap : Bool) (hsame : stale monitor other) :
      Same stale (.pollPanics j k monitor warned readsMap) (.pollPanics j k other warned readsMap)
  | toplevel (id : ObjectId) (event : ToplevelHandleEvent) :
      Same stale (.toplevel id event) (.toplevel id event)
  | readings {monitor : S} {other : T} (hsame : stale monitor other) :
      Same stale (.readings monitor) (.readings other)

/-- The states differ at most in the sources. -/
structure Same (stale : S → T → Prop) (s : State S) (t : State T) : Prop where
  rules : t.rules = s.rules
  dispatcher : t.dispatcher = s.dispatcher
  dispatched : t.dispatched = s.dispatched
  resourceMonitor : SameLock stale s.resourceMonitor t.resourceMonitor
  fullscreen : t.fullscreen = s.fullscreen
  calls : t.calls = s.calls
  warnings : t.warnings = s.warnings

variable {s s' : State S} {t : State T}

theorem Same.poll (halike : AnswersAlike stale fresh) (hsame : Same stale s t)
    (runtime : RuleRuntime) :
    SameOutcome stale (s.poll config runtime) (t.poll config runtime) := by
  rw [State.poll, State.poll, hsame.fullscreen]
  exact halike.sameOutcome config s.fullscreen hsame.resourceMonitor runtime

variable {config}

/-- A thread makes the same access. -/
theorem Same.checkerStep_eq (halike : AnswersAlike stale fresh) (hsame : Same stale s t)
    (checker : Checker) (options : IdleCheckOptions) (runtime : RuleRuntime) (action : Action) :
    checker.step config options runtime (action.step t.resourceMonitor t.fullscreen) =
      checker.step config options runtime (action.step s.resourceMonitor s.fullscreen) := by
  cases action with
  | poll =>
      obtain ⟨hinhibited, _, hrule, hwarnings⟩ := hsame.poll config halike runtime
      simp only [State.poll] at hinhibited hrule
      cases checker <;> simp only [Action.step, Checker.step, hinhibited, hrule]
  | _ => cases checker <;> rfl

theorem Same.step (halike : AnswersAlike stale fresh) {label : Label S} {label' : Label T}
    (hsame : Same stale s t) (hlabel : Label.Same stale label label')
    (hstep : step config s label = some s') :
    ∃ t', Client.step config t label' = some t' ∧ Same stale s' t' := by
  obtain ⟨hrules, hdispatcher, hdispatched, hmonitor, hfullscreen, hcalls, hwarnings⟩ := id hsame
  cases move_of_step hstep with
  | @idled j rule hget hwaiting hactive =>
      cases hlabel
      refine ⟨_, step_of_move (.idled (hrules ▸ hget) (hdispatcher.trans hwaiting) hactive), ?_⟩
      exact { hsame with rules := congrArg (List.set · j _) hrules }
  | @resumed j rule hget hwaiting hidle =>
      cases hlabel
      refine ⟨_, step_of_move (.resumed (hrules ▸ hget) (hdispatcher.trans hwaiting) hidle), ?_⟩
      exact { hsame with
        rules := congrArg (List.set · j _) hrules
        dispatcher := rfl
        dispatched := rfl }
  | @loadFired j rule hget hloading hcurrent =>
      cases hlabel
      refine ⟨_, step_of_move (.loadFired (hrules ▸ hget) (hdispatcher.trans hloading)
        (hdispatched.trans hcurrent)), ?_⟩
      exact { hsame with dispatcher := rfl }
  | @clearFired j rule hget hclearing hcurrent =>
      cases hlabel
      refine ⟨_, step_of_move (.clearFired (hrules ▸ hget) (hdispatcher.trans hclearing)
        (hdispatched.trans hcurrent)), ?_⟩
      exact { hsame with
        rules := congrArg (List.set · j _) hrules
        dispatcher := rfl }
  | @runOnResume j rule hget hrunning hcurrent =>
      cases hlabel
      refine ⟨_, step_of_move (.runOnResume (hrules ▸ hget) (hdispatcher.trans hrunning)
        (hdispatched.trans hcurrent)), ?_⟩
      exact { hsame with
        dispatcher := rfl
        calls := congrArg (· ++ _) hcalls }
  | @checker j k action rule thread checker runtime commands hget hthread halive hchecker =>
      cases hlabel
      have hchecker' := (hsame.checkerStep_eq halike thread.checker .default rule.runtime
        action).trans hchecker
      refine ⟨_, step_of_move (.checker (hrules ▸ hget) hthread halive hchecker'), ?_⟩
      obtain ⟨_, hmonitor', _, hlines⟩ := hsame.poll config halike rule.runtime
      constructor
      · rw [accessed_rules, accessed_rules, hrules]
      · rw [accessed_dispatcher, accessed_dispatcher, hdispatcher]
      · rw [accessed_dispatched, accessed_dispatched, hdispatched]
      · rw [accessed_resourceMonitor, accessed_resourceMonitor]
        split
        · exact hmonitor'
        · exact hmonitor
      · rw [accessed_fullscreen, accessed_fullscreen, hfullscreen]
      · rw [accessed_calls, accessed_calls, hcalls]
      · rw [accessed_warnings, accessed_warnings, hwarnings, hlines]
  | @pollPanics j k monitor warned readsMap rule startEpoch source hget hthread hlock =>
      cases hlabel with
      | pollPanics _ _ _ _ hbehind =>
          have hlock' := hmonitor.lock_of_ok hlock
          refine ⟨_, step_of_move (.pollPanics (hrules ▸ hget) hthread hlock'), ?_⟩
          exact { hsame with
            rules := congrArg (List.set · j _) hrules
            resourceMonitor := ⟨hbehind, rfl⟩
            fullscreen := by
              simp only [hfullscreen] }
  | @toplevel id event hwaiting =>
      cases hlabel
      refine ⟨_, step_of_move (.toplevel (hdispatcher.trans hwaiting)), ?_⟩
      exact { hsame with
        fullscreen := congrArg (handleToplevelEvent · id event) hfullscreen }
  | readings =>
      cases hlabel with
      | readings hbehind =>
          refine ⟨_, step_of_move .readings, ?_⟩
          exact { hsame with resourceMonitor := ⟨hbehind, hmonitor.poisoned⟩ }

/-- **The client sees the answers and nothing else.** On a source that answers alike, whatever
happens to both, a run of the client is the same. -/
theorem RunsFrom.same (halike : AnswersAlike stale fresh) {monitor : S} {other : T}
    (hmonitor : stale monitor other) {ids : List String} {labels : List (Label S)}
    {labels' : List (Label T)} (hrun : RunsFrom config monitor ids labels s)
    (hlabels : List.Forall₂ (Label.Same stale) labels labels') :
    ∃ t, RunsFrom config other ids labels' t ∧ Same stale s t := by
  have hinit : Same stale (init monitor (registerRules config ids))
      (init other (registerRules config ids)) := ⟨rfl, rfl, rfl, ⟨hmonitor, rfl⟩, rfl, rfl, rfl⟩
  exact Transition.runs_of_forall₂ (fun _ _ _ _ _ hsame hlabel hstep =>
    hsame.step halike hlabel hstep) hrun hlabels hinit

end Client

end Nothypridle
