import Nothypridle.Fakes
import Nothypridle.Proof.Consulted

/-!
# Warnings about broken settings

A setting that is warned about is recorded in the rule at the same moment, and is not warned about
again while it is recorded there; so the warnings about it number what the record has gained. Six of
the eight settings are recorded when their getter fails.
-/

namespace Nothypridle

variable {S : Type} [ResourceSource S]

namespace Setting

def key : Setting → String
  | maxCpuUsage => "max_cpu_usage"
  | maxGpuUsage => "max_gpu_usage"
  | minRamMb => "min_ram_mb"
  | minVramMb => "min_vram_mb"
  | keepAliveProcesses => "keep_alive_processes"
  | musicPlaying => "music_playing"
  | musicProcessName => "music_process_name"
  | fullscreen => "fullscreen"

def defect (invalid : Bool) : String :=
  if invalid then "' has invalid/missing '" else "' has unparseable '"

/-- The two ways in which a line complains of a setting of rule `id`. -/
def complaint (id : String) (setting : Setting) (invalid : Bool) : String :=
  "Monitor: rule '" ++ id ++ defect invalid ++ setting.key ++ "'"

def warnedBy (id : String) (setting : Setting) (line : String) : Bool :=
  (setting.complaint id true).toList.isPrefixOf line.toList ||
    (setting.complaint id false).toList.isPrefixOf line.toList

/-- A failing getter of these two is taken as `false`. -/
def Silent (setting : Setting) : Prop := setting = musicPlaying ∨ setting = fullscreen

end Setting

/-! ### Texts -/

theorem Setting.quote_not_mem_key (setting : Setting) : '\'' ∉ setting.key.toList := by
  cases setting <;> decide

theorem Setting.key_inj {setting setting' : Setting} (heq : setting.key = setting'.key) :
    setting = setting' := by
  cases setting <;> cases setting' <;> first | rfl | simp [key] at heq

theorem Setting.toList_complaint (id : String) (setting : Setting) (invalid : Bool) :
    (setting.complaint id invalid).toList =
      "Monitor: rule '".toList ++ (id.toList ++
        ((defect invalid).toList ++ (setting.key.toList ++ ['\'']))) := by
  have happend : ∀ a b c d e : String, (a ++ b ++ c ++ d ++ e).toList =
      a.toList ++ (b.toList ++ (c.toList ++ (d.toList ++ e.toList))) := by
    intro a b c d e
    simp only [String.toList_append, List.append_assoc]
  exact happend _ _ _ _ _

/-- A complaint names one setting, whatever the line goes on to say. -/
theorem Setting.warnedBy_iff {id line : String} {setting setting' : Setting} {invalid : Bool}
    {rest : List Char} (hline : line.toList = (setting'.complaint id invalid).toList ++ rest) :
    setting.warnedBy id line = true ↔ setting = setting' := by
  have hkey : setting.key.toList ++ ['\''] <+: setting'.key.toList ++ '\'' :: rest ↔
      setting = setting' := by
    rw [Separator.append_singleton_prefix_iff setting.quote_not_mem_key setting'.quote_not_mem_key]
    exact ⟨fun heq => key_inj (String.toList_inj.mp heq), fun heq => heq ▸ rfl⟩
  have hkind : ∀ kind, (setting.complaint id kind).toList <+: line.toList ↔
      kind = invalid ∧ setting = setting' := by
    intro kind
    rw [hline, toList_complaint, toList_complaint]
    simp only [List.append_assoc, List.prefix_append_right_inj, List.cons_append, List.nil_append]
    by_cases heq : kind = invalid
    · subst heq
      rw [List.prefix_append_right_inj, hkey]
      simp
    · have hdefect : ∀ tail tail' : List Char,
          ¬(defect kind).toList ++ tail <+: (defect invalid).toList ++ tail' := by
        cases kind <;> cases invalid <;> simp_all [defect]
      simp [heq, hdefect]
  simp only [warnedBy, Bool.or_eq_true, List.isPrefixOf_iff_prefix, hkind]
  cases invalid <;> simp

theorem Setting.warnedBy_line {id tail : String} {setting setting' : Setting} {invalid : Bool}
    {rest : List Char} (htail : tail.toList = '\'' :: rest) :
    setting.warnedBy id ("Monitor: rule '" ++ id ++ defect invalid ++ setting'.key ++ tail) = true ↔
      setting = setting' := by
  apply warnedBy_iff
  rw [toList_complaint, String.toList_append, String.toList_append, String.toList_append,
    String.toList_append, htail]
  simp only [List.append_assoc, List.singleton_append]
  rfl

/-! ### What is recorded and what is logged -/

def RuleRuntime.recordings (rule : RuleRuntime) (setting : Setting) : Nat :=
  if setting.key ∈ rule.warned.data then 1 else 0

/-- From `rule` to `rule'` the settings of `broken` are recorded, and `lines` warn about each of
them that was not recorded before. -/
structure Reported (id : String) (broken : Setting → Prop) (rule rule' : RuleRuntime)
    (lines : List String) : Prop where
  healthy : rule'.warned.poisoned = false
  recorded : ∀ setting, rule'.recordings setting = 1 ↔ rule.recordings setting = 1 ∨ broken setting
  warnings : ∀ setting,
    rule.recordings setting + lines.countP (setting.warnedBy id) = rule'.recordings setting
  unchanged : (∀ setting, ¬broken setting) → rule'.warned = rule.warned

namespace Reported

variable {id : String} {broken broken' : Setting → Prop} {rule rule' rule'' : RuleRuntime}
  {lines lines' : List String}

theorem nothing (hwarned : rule'.warned = rule.warned) (hhealthy : rule.warned.poisoned = false) :
    Reported id (fun _ => False) rule rule' [] where
  healthy := by rw [hwarned, hhealthy]
  recorded := fun setting => by simp [RuleRuntime.recordings, hwarned]
  warnings := fun setting => by simp [RuleRuntime.recordings, hwarned]
  unchanged := fun _ => hwarned

theorem trans (hfirst : Reported id broken rule rule' lines)
    (hsecond : Reported id broken' rule' rule'' lines') :
    Reported id (fun setting => broken setting ∨ broken' setting) rule rule''
      (lines ++ lines') where
  healthy := hsecond.healthy
  recorded := fun setting => by rw [hsecond.recorded, hfirst.recorded, or_assoc]
  warnings := fun setting => by
    rw [List.countP_append, ← Nat.add_assoc, hfirst.warnings, hsecond.warnings]
  unchanged := fun hnone => by
    rw [hsecond.unchanged fun setting => (not_or.mp (hnone setting)).2,
      hfirst.unchanged fun setting => (not_or.mp (hnone setting)).1]

theorem congr (hreported : Reported id broken rule rule' lines)
    (hiff : ∀ setting, broken setting ↔ broken' setting) :
    Reported id broken' rule rule' lines where
  healthy := hreported.healthy
  recorded := fun setting => by rw [hreported.recorded, hiff]
  warnings := hreported.warnings
  unchanged := fun hnone =>
    hreported.unchanged fun setting => (hiff setting).not.mpr (hnone setting)

/-- A line about a setting is logged exactly when the setting is not recorded yet. -/
theorem warnOnce {setting : Setting} {msg : String} (hhealthy : rule.warned.poisoned = false)
    (hmsg : ∀ other : Setting, other.warnedBy id msg = true ↔ other = setting) :
    Reported id (fun other => other = setting) rule (rule.warnOnce setting.key msg).1
      (rule.warnOnce setting.key msg).2 := by
  rw [RuleRuntime.warnOnce, Mutex.lock_of_healthy hhealthy]
  by_cases hseen : setting.key ∈ rule.warned.data
  · simp only [hseen, if_true]
    refine ⟨hhealthy, ?_, fun _ => rfl, fun hnone => absurd rfl (hnone setting)⟩
    intro other
    by_cases heq : other = setting
    · simp [RuleRuntime.recordings, heq, hseen]
    · simp [heq]
  · simp only [hseen, if_false]
    have hkey : ∀ other : Setting, other.key = setting.key ↔ other = setting :=
      fun other => ⟨Setting.key_inj, fun heq => heq ▸ rfl⟩
    refine ⟨hhealthy, ?_, ?_, fun hnone => absurd rfl (hnone setting)⟩
    · intro other
      by_cases heq : other = setting <;>
        simp [RuleRuntime.recordings, Mutex.release, hkey, heq]
    · intro other
      by_cases heq : other = setting
      · simp [RuleRuntime.recordings, Mutex.release, heq, hseen, hmsg]
      · simp [RuleRuntime.recordings, Mutex.release, hkey, heq, hmsg]

end Reported

/-! ### The checks -/

/-- What a computation of the poll reports when it runs from `st` to `st'`. -/
def Reports (id : String) (broken : Setting → Prop) (st st' : PollState S) : Prop :=
  st.rule.warned.poisoned = false →
    ∃ lines, st'.warnings = st.warnings ++ lines ∧ Reported id broken st.rule st'.rule lines

namespace Reports

variable {id : String} {broken broken' : Setting → Prop} {st st' st'' : PollState S}

omit [ResourceSource S] in
theorem nothing (st : PollState S) (monitor : S) :
    Reports id (fun _ => False) st { st with monitor } :=
  fun hhealthy => ⟨[], (List.append_nil _).symm, .nothing rfl hhealthy⟩

omit [ResourceSource S] in
theorem trans (hfirst : Reports id broken st st') (hsecond : Reports id broken' st' st'') :
    Reports id (fun setting => broken setting ∨ broken' setting) st st'' := by
  intro hhealthy
  obtain ⟨lines, hlines, hreported⟩ := hfirst hhealthy
  obtain ⟨lines', hlines', hreported'⟩ := hsecond hreported.healthy
  refine ⟨lines ++ lines', ?_, hreported.trans hreported'⟩
  rw [hlines', hlines, List.append_assoc]

omit [ResourceSource S] in
theorem congr (hreports : Reports id broken st st')
    (hiff : ∀ setting, broken setting ↔ broken' setting) : Reports id broken' st st' := by
  intro hhealthy
  obtain ⟨lines, hlines, hreported⟩ := hreports hhealthy
  exact ⟨lines, hlines, hreported.congr hiff⟩

omit [ResourceSource S] in
theorem warnOnce {setting : Setting} {invalid : Bool} {tail msg : String} {rest : List Char}
    (st : PollState S)
    (hmsg : msg = "Monitor: rule '" ++ id ++ Setting.defect invalid ++ setting.key ++ tail)
    (htail : tail.toList = '\'' :: rest) :
    Reports id (fun other => other = setting) st
      ((Nothypridle.warnOnce setting.key msg).run st).2 := by
  intro hhealthy
  refine ⟨(st.rule.warnOnce setting.key msg).2, rfl, Reported.warnOnce hhealthy ?_⟩
  intro other
  rw [hmsg, Setting.warnedBy_line htail]

end Reports

section Checks

variable {loader : RuleConfigSource} {id : String}

/-- The line of the two comparisons. -/
theorem comparison_line (id : String) (setting : Setting) :
    s!"Monitor: rule '{id}' has invalid/missing '{setting.key}'; skipping {setting.key} check." =
      "Monitor: rule '" ++ id ++ Setting.defect true ++ setting.key ++
        ("'; skipping " ++ (setting.key ++ " check.")) := by
  have hdefect : Setting.defect true = "' has invalid/missing '" := rfl
  simp only [hdefect, ← String.append_assoc]
  rfl

/-- The line of the two values that do not parse, `text` being what stands between the rule and the
error. -/
theorem unparseable_line (id text tail err : String) (setting : Setting)
    (htext : text = Setting.defect false ++ setting.key ++ tail) :
    "Monitor: rule '" ++ id ++ text ++ err =
      "Monitor: rule '" ++ id ++ Setting.defect false ++ setting.key ++ (tail ++ err) := by
  rw [htext]
  simp only [String.append_assoc]

theorem quote_append {tail : String} {rest : List Char} (htail : tail.toList = '\'' :: rest)
    (text : String) : (tail ++ text).toList = '\'' :: (rest ++ text.toList) := by
  rw [String.toList_append, htail, List.cons_append]

/-- The settings that a poll reports, of those whose getters it calls. -/
def Complains (loader : RuleConfigSource) (id : String) (consulted : List Setting)
    (setting : Setting) : Prop :=
  setting ∈ consulted ∧ setting.Fails loader id ∧ ¬setting.Silent

/-- Where one getter decides a check that reports its failure, no other setting is concerned. -/
theorem complains_singleton_iff {setting other : Setting} (hloud : ¬setting.Silent) :
    (other = setting ∧ setting.Fails loader id) ↔ Complains loader id [setting] other := by
  rw [Complains, List.mem_singleton]
  constructor
  · intro ⟨heq, hfails⟩
    subst heq
    exact ⟨rfl, hfails, hloud⟩
  · intro ⟨heq, hfails, _⟩
    subst heq
    exact ⟨rfl, hfails⟩

omit [ResourceSource S] in
theorem Reports.loud {setting : Setting} {st st' : PollState S}
    (hreports : Reports id (fun other => other = setting) st st') (hloud : ¬setting.Silent)
    (hfails : setting.Fails loader id) : Reports id (Complains loader id [setting]) st st' := by
  apply hreports.congr
  intro other
  rw [← complains_singleton_iff hloud, and_iff_left hfails]

omit [ResourceSource S] in
/-- A check that calls its getters and logs nothing. -/
theorem Reports.silent {consulted : List Setting}
    (hsilent : ∀ setting ∈ consulted, setting.Fails loader id → setting.Silent)
    (st : PollState S) (monitor : S) :
    Reports id (Complains loader id consulted) st { st with monitor } := by
  apply (Reports.nothing st monitor).congr
  intro setting
  rw [false_iff]
  exact fun ⟨hmem, hfails, hloud⟩ => hloud (hsilent setting hmem hfails)

omit [ResourceSource S] in
theorem exceedsMax_reports {setting : Setting} {getter : Except String Float32}
    (hloud : ¬setting.Silent) (hfails : setting.Fails loader id ↔ ∃ err, getter = .error err)
    (current : S → Float32) (st : PollState S) (hid : st.rule.id = id) :
    Reports id (Complains loader id [setting]) st
      ((exceedsMax setting.key getter current).run st).2 := by
  subst hid
  cases getter with
  | ok max => exact Reports.silent (by simp [hfails]) st st.monitor
  | error err =>
      apply (Reports.warnOnce st (comparison_line _ setting) (quote_append rfl _)).loud hloud
      exact hfails.mpr ⟨err, rfl⟩

omit [ResourceSource S] in
theorem belowMin_reports {setting : Setting} {getter : Except String UInt32}
    (hloud : ¬setting.Silent) (hfails : setting.Fails loader id ↔ ∃ err, getter = .error err)
    (currentMb : S → UInt64) (st : PollState S) (hid : st.rule.id = id) :
    Reports id (Complains loader id [setting]) st
      ((belowMin setting.key getter currentMb).run st).2 := by
  subst hid
  cases getter with
  | ok min => exact Reports.silent (by simp [hfails]) st st.monitor
  | error err =>
      apply (Reports.warnOnce st (comparison_line _ setting) (quote_append rfl _)).loud hloud
      exact hfails.mpr ⟨err, rfl⟩

theorem vram_reports (st : PollState S) (hid : st.rule.id = id) :
    Reports id (Complains loader id (Check.vram.getters loader id st.monitor)) st
      ((belowMinVram (loader.minVramMb id)).run st).2 := by
  rw [run_belowMinVram, Check.getters]
  by_cases hmax : ResourceSource.getVram st.monitor = u64Max
  · rw [if_pos hmax, if_pos hmax]
    exact Reports.silent (by simp) st st.monitor
  · rw [if_neg hmax, if_neg hmax]
    have hloud : ¬Setting.minVramMb.Silent := by simp [Setting.Silent]
    exact belowMin_reports hloud Iff.rfl ResourceSource.getVram st hid

theorem keepAlive_reports (st : PollState S) (hid : st.rule.id = id) :
    Reports id (Complains loader id [.keepAliveProcesses]) st
      ((inhibitByKeepAlive loader).run st).2 := by
  subst hid
  rw [run_inhibitByKeepAlive]
  cases hlist : loader.keepAliveProcesses st.rule.id with
  | ok targets =>
      have hparses : ∀ setting ∈ [Setting.keepAliveProcesses],
          setting.Fails loader st.rule.id → setting.Silent := by
        simp [Setting.Fails, hlist]
      cases targets with
      | nil => exact Reports.silent hparses st st.monitor
      | cons target targets => exact Reports.silent hparses st _
  | error err =>
      have hline := unparseable_line st.rule.id
        "' has unparseable 'keep_alive_processes'; skipping process check: "
        "'; skipping process check: " err .keepAliveProcesses (by decide)
      apply (Reports.warnOnce st hline (quote_append rfl err)).loud (by simp [Setting.Silent])
      simp [Setting.Fails, hlist]

theorem music_reports (st : PollState S) (hid : st.rule.id = id) :
    Reports id (Complains loader id (Check.music.getters loader id st.monitor)) st
      ((inhibitByMusic loader).run st).2 := by
  subst hid
  rw [run_inhibitByMusic, Check.getters]
  rcases hmusic : loader.musicPlaying st.rule.id with err | _ | _
  · exact Reports.silent (by simp [Setting.Silent]) st st.monitor
  · exact Reports.silent (by simp [Setting.Silent]) st st.monitor
  · cases hname : loader.musicProcessName st.rule.id with
    | error err =>
        have hline := unparseable_line st.rule.id
          "' has unparseable 'music_process_name'; skipping music check: "
          "'; skipping music check: " err .musicProcessName (by decide)
        apply (Reports.warnOnce st hline (quote_append rfl err)).congr
        intro other
        cases other <;> simp [Complains, Setting.Silent, Setting.Fails, hname]
    | ok name =>
        have hparses : ∀ setting ∈ [Setting.musicPlaying, .musicProcessName],
            setting.Fails loader st.rule.id → setting.Silent := by
          simp [Setting.Silent, Setting.Fails, hname]
        cases name <;> exact Reports.silent hparses st st.monitor

omit [ResourceSource S] in
theorem fullscreen_reports (fullscreen : Mutex FullscreenState) (st : PollState S) :
    Reports id (Complains loader id [.fullscreen]) st
      ((inhibitByFullscreen loader fullscreen).run st).2 := by
  have hsame : ((inhibitByFullscreen loader fullscreen).run st).2 = st := by
    rw [run_inhibitByFullscreen]
    rcases loader.fullscreen st.rule.id with err | _ | _
    · rfl
    · rfl
    · cases fullscreen.lock <;> rfl
  rw [hsame]
  exact Reports.silent (by simp [Setting.Silent]) st st.monitor

theorem Check.run_reports {fullscreen : Mutex FullscreenState} (check : Check) (st : PollState S)
    (hid : st.rule.id = id) :
    Reports id (Complains loader id (check.getters loader id st.monitor)) st
      ((check.run loader fullscreen id).run st).2 := by
  cases check with
  | cpu =>
      have hloud : ¬Setting.maxCpuUsage.Silent := by simp [Setting.Silent]
      exact exceedsMax_reports hloud Iff.rfl ResourceSource.getCpu st hid
  | gpu =>
      have hloud : ¬Setting.maxGpuUsage.Silent := by simp [Setting.Silent]
      exact exceedsMax_reports hloud Iff.rfl ResourceSource.getGpu st hid
  | ram =>
      have hloud : ¬Setting.minRamMb.Silent := by simp [Setting.Silent]
      exact belowMin_reports hloud Iff.rfl
        (fun monitor => ResourceSource.getRam monitor / (1024 * 1024)) st hid
  | vram => exact vram_reports st hid
  | keepAlive => exact keepAlive_reports st hid
  | music => exact music_reports st hid
  | fullscreen => exact fullscreen_reports fullscreen st

end Checks

/-! ### The polls of a rule -/

/-- A poll that cannot lock the resource monitor logs a line about no setting. -/
theorem Setting.not_warnedBy_poisoned (setting : Setting) (id rest : String) :
    setting.warnedBy id ("Monitor: ResourceMonitor lock poisoned for rule '" ++ rest) = false := by
  have hstart : ∀ invalid, ¬(setting.complaint id invalid).toList <+:
      ("Monitor: ResourceMonitor lock poisoned for rule '" ++ rest).toList := by
    intro invalid
    rw [toList_complaint, String.toList_append]
    simp
  rw [← Bool.not_eq_true, warnedBy, Bool.or_eq_true, List.isPrefixOf_iff_prefix,
    List.isPrefixOf_iff_prefix, not_or]
  exact ⟨hstart true, hstart false⟩

theorem Reported.unrelated {id : String} {rule : RuleRuntime} {line : String}
    (hhealthy : rule.warned.poisoned = false)
    (hline : ∀ setting : Setting, setting.warnedBy id line = false) :
    Reported id (fun _ => False) rule rule [line] where
  healthy := hhealthy
  recorded := fun setting => by simp
  warnings := fun setting => by simp [hline setting]
  unchanged := fun _ => rfl

theorem shouldInhibit_reported (loader : RuleConfigSource) (resourceMonitor : Mutex S)
    (fullscreen : Mutex FullscreenState) {rule : RuleRuntime}
    (hhealthy : rule.warned.poisoned = false) :
    Reported rule.id
      (Complains loader rule.id (consulted loader resourceMonitor fullscreen rule)) rule
      (shouldInhibit loader resourceMonitor fullscreen rule).rule
      (shouldInhibit loader resourceMonitor fullscreen rule).warnings := by
  cases hlock : resourceMonitor.lock with
  | error err =>
      rw [shouldInhibit, consulted, hlock]
      apply (Reported.unrelated hhealthy _).congr
      · simp [Complains]
      · intro setting
        have hline := setting.not_warnedBy_poisoned rule.id (rule.id ++ "': " ++ err)
        rwa [← String.append_assoc, ← String.append_assoc] at hline
  | ok monitor =>
      rw [shouldInhibit_eq hlock, consulted, hlock]
      have hchain := consultedFrom_induction loader fullscreen
        (fun settings st st' => Reports rule.id (Complains loader rule.id settings) st st')
        (fun st => (Reports.nothing st st.monitor).congr (by simp [Complains]))
        (fun first second st middle st' hfirst hsecond =>
          (hfirst.trans hsecond).congr (by simp [Complains, or_and_right]))
        (fun check st hid => check.run_reports st hid)
        Check.all ⟨ResourceSource.update monitor, rule, []⟩ rfl
      obtain ⟨lines, hlines, hreported⟩ := hchain hhealthy
      rw [List.nil_append] at hlines
      rw [← hlines] at hreported
      exact hreported

/-! ### Histories -/

/-- What happens to a rule: the polls of its checkers, each with the configuration and the locks it
finds, and the changes of its counters. -/
inductive RuleEvent (S : Type) where
  | poll (loader : RuleConfigSource) (resourceMonitor : Mutex S)
    (fullscreen : Mutex FullscreenState)
  | bumpEpoch
  | setFired (value : Bool)

namespace RuleEvent

def run (rule : RuleRuntime) : RuleEvent S → RuleRuntime × List String
  | poll loader resourceMonitor fullscreen =>
      let poll := shouldInhibit loader resourceMonitor fullscreen rule
      (poll.rule, poll.warnings)
  | bumpEpoch => (rule.bumpEpoch, [])
  | setFired value => (rule.setFired value, [])

/-- The event is a poll that calls the getter of the setting and gets an error. -/
def Finds (setting : Setting) (rule : RuleRuntime) : RuleEvent S → Prop
  | poll loader resourceMonitor fullscreen =>
      setting ∈ consulted loader resourceMonitor fullscreen rule ∧ setting.Fails loader rule.id
  | bumpEpoch => False
  | setFired _ => False

theorem run_id (rule : RuleRuntime) (event : RuleEvent S) : (event.run rule).1.id = rule.id := by
  cases event with
  | poll loader resourceMonitor fullscreen =>
      exact (shouldInhibit_sameCounters loader resourceMonitor fullscreen rule).id
  | bumpEpoch => rfl
  | setFired value => rfl

theorem run_reported {rule : RuleRuntime} (hhealthy : rule.warned.poisoned = false)
    (event : RuleEvent S) :
    Reported rule.id (fun setting => event.Finds setting rule ∧ ¬setting.Silent) rule
      (event.run rule).1 (event.run rule).2 := by
  cases event with
  | poll loader resourceMonitor fullscreen =>
      apply (shouldInhibit_reported loader resourceMonitor fullscreen hhealthy).congr
      intro setting
      rw [Complains, Finds, and_assoc]
  | bumpEpoch => exact Reported.congr (.nothing rfl hhealthy) (by simp [Finds])
  | setFired value => exact Reported.congr (.nothing rfl hhealthy) (by simp [Finds])

end RuleEvent

/-- The lines that a history logs. -/
def watch : RuleRuntime → List (RuleEvent S) → List String
  | _, [] => []
  | rule, event :: events => (event.run rule).2 ++ watch (event.run rule).1 events

/-- Some poll of the history calls the getter of the setting and gets an error. -/
def Broken (setting : Setting) : RuleRuntime → List (RuleEvent S) → Prop
  | _, [] => False
  | rule, event :: events => event.Finds setting rule ∨ Broken setting (event.run rule).1 events

def warningCount (setting : Setting) (rule : RuleRuntime) (events : List (RuleEvent S)) : Nat :=
  (watch rule events).countP (setting.warnedBy rule.id)

structure ReportedOnce (setting : Setting) (rule : RuleRuntime) (events : List (RuleEvent S)) :
    Prop where
  broken : Broken setting rule events → warningCount setting rule events = 1
  sound : ¬Broken setting rule events → warningCount setting rule events = 0

theorem watch_reported (events : List (RuleEvent S)) (rule : RuleRuntime)
    (hhealthy : rule.warned.poisoned = false) :
    ∃ rule', Reported rule.id (fun setting => Broken setting rule events ∧ ¬setting.Silent) rule
      rule' (watch rule events) := by
  induction events generalizing rule with
  | nil => exact ⟨rule, (Reported.nothing rfl hhealthy).congr (by simp [Broken])⟩
  | cons event events ih =>
      have hfirst := event.run_reported hhealthy
      obtain ⟨rule', hrest⟩ := ih (event.run rule).1 hfirst.healthy
      rw [event.run_id rule] at hrest
      exact ⟨rule', (hfirst.trans hrest).congr (by simp [Broken, or_and_right])⟩

theorem warningCount_eq_one_iff {id : String} {events : List (RuleEvent S)} {setting : Setting} :
    warningCount setting (.new id) events = 1 ↔
      Broken setting (.new id) events ∧ ¬setting.Silent := by
  obtain ⟨rule', hreported⟩ := watch_reported events (.new id) rfl
  have hcount : warningCount setting (.new id) events = rule'.recordings setting := by
    rw [← hreported.warnings setting]
    exact (Nat.zero_add _).symm
  rw [hcount, hreported.recorded setting, or_iff_right]
  exact Nat.zero_ne_one

theorem warningCount_le_one (id : String) (events : List (RuleEvent S)) (setting : Setting) :
    warningCount setting (.new id) events ≤ 1 := by
  obtain ⟨rule', hreported⟩ := watch_reported events (.new id) rfl
  have hcount := hreported.warnings setting
  have hbound : rule'.recordings setting ≤ 1 := by
    unfold RuleRuntime.recordings
    split <;> omega
  exact le_trans (Nat.le_add_left _ _) (hcount.le.trans hbound)

/-- **Warnings.** Over a history of polls from the start of its rule, a setting is reported exactly
as often as it should be, once if a poll found it broken and never otherwise, if and only if it is
not one of the two whose failure is silent or no poll found it broken. -/
theorem reportedOnce_iff (id : String) (events : List (RuleEvent S)) (setting : Setting) :
    ReportedOnce setting (.new id) events ↔
      (setting.Silent → ¬Broken setting (.new id) events) := by
  have hbound := warningCount_le_one id events setting
  constructor
  · intro hreports hsilent hbroken
    exact (warningCount_eq_one_iff.mp (hreports.broken hbroken)).2 hsilent
  · intro hloud
    refine ⟨?_, ?_⟩
    · intro hbroken
      exact warningCount_eq_one_iff.mpr ⟨hbroken, fun hsilent => hloud hsilent hbroken⟩
    · intro hsound
      have hne : warningCount setting (.new id) events ≠ 1 :=
        fun hone => hsound (warningCount_eq_one_iff.mp hone).1
      omega

/-- A `music_playing` that does not parse is never reported. -/
theorem brokenMusicPlaying_unreported :
    ¬∀ (id : String) (events : List (RuleEvent FakeResourceSource)) (setting : Setting),
      ReportedOnce setting (.new id) events := by
  intro hreported
  have honce := hreported "dim" [.poll dimConfig (.new {}) (.new .empty)] .musicPlaying
  have hbroken : Broken .musicPlaying (.new "dim")
      [RuleEvent.poll (S := FakeResourceSource) dimConfig (.new {}) (.new .empty)] :=
    .inl ⟨by decide +kernel, "", rfl⟩
  exact (warningCount_eq_one_iff.mp (honce.broken hbroken)).2 (.inl rfl)

end Nothypridle
