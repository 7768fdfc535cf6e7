import Nothypridle.Client
import Nothypridle.Lib.Entries
import Nothypridle.Proof.Moves

/-!
# What one step of the client can do

The inversion of the step function of the client, and what follows at once: rules are never added or
dropped, a rule changes only in the steps for it, and the identity of a rule is fixed.
-/

namespace Nothypridle.Client

open Entries (getElem?_set_of_some map_set_eq)

section

variable {S : Type}

def Label.isIdled : Label S → Bool
  | .idled _ => true
  | _ => false

def Label.isResumed : Label S → Bool
  | .resumed _ => true
  | _ => false

end

variable {S : Type} [ResourceSource S] {config : RuleConfigSource}

/-- The state after an access of the `k`-th thread of rule `j`. -/
def State.accessed (config : RuleConfigSource) (s : State S) (j k : ℕ) (rule : Rule)
    (thread : Thread) (action : Action) (checker : Checker) (runtime : RuleRuntime)
    (commands : List String) : State S :=
  let threads := rule.threads.set k { thread with checker }
  let s' := { s.setRule j { rule with runtime, threads } with
    calls := s.calls ++ commands.map (j, ·) }
  if action = .poll then
    let poll := s.poll config rule.runtime
    { s' with
      resourceMonitor := poll.resourceMonitor
      warnings := s.warnings ++ poll.warnings.map (j, ·) }
  else s'

inductive Move (config : RuleConfigSource) (s : State S) : Label S → State S → Prop where
  | idled {j rule} (hget : s.rules[j]? = some rule) (hwaiting : s.dispatcher = .waiting)
      (hactive : rule.idle = false) :
      Move config s (.idled j)
        (s.setRule j { rule with idle := true, threads := rule.threads ++ [.spawned] })
  | resumed {j rule} (hget : s.rules[j]? = some rule) (hwaiting : s.dispatcher = .waiting)
      (hidle : rule.idle = true) :
      Move config s (.resumed j)
        { s.setRule j { rule with idle := false, runtime := rule.runtime.bumpEpoch } with
          dispatcher := .loadFired
          dispatched := j }
  | loadFired {j rule} (hget : s.rules[j]? = some rule) (hloading : s.dispatcher = .loadFired)
      (hdispatched : s.dispatched = j) :
      Move config s (.loadFired j)
        { s with dispatcher := if rule.runtime.fired then .clearFired else .waiting }
  | clearFired {j rule} (hget : s.rules[j]? = some rule) (hclearing : s.dispatcher = .clearFired)
      (hdispatched : s.dispatched = j) :
      Move config s (.clearFired j)
        { s.setRule j { rule with runtime := rule.runtime.setFired false } with
          dispatcher := .runOnResume }
  | runOnResume {j rule} (hget : s.rules[j]? = some rule) (hrunning : s.dispatcher = .runOnResume)
      (hdispatched : s.dispatched = j) :
      Move config s (.runOnResume j)
        { s with
          calls := s.calls ++ (commandOf (config.onResume rule.runtime.id)).map (j, ·)
          dispatcher := .waiting }
  | checker {j k action rule thread checker runtime commands} (hget : s.rules[j]? = some rule)
      (hthread : rule.threads[k]? = some thread) (halive : thread.panicked = false)
      (hstep : thread.checker.step config .default rule.runtime
        (action.step s.resourceMonitor s.fullscreen) = some (checker, runtime, commands)) :
      Move config s (.checker j k action)
        (s.accessed config j k rule thread action checker runtime commands)
  | pollPanics {j k monitor warned readsMap rule startEpoch source}
      (hget : s.rules[j]? = some rule)
      (hthread : rule.threads[k]? = some ⟨.poll startEpoch, false⟩)
      (hlock : s.resourceMonitor.lock = .ok source) :
      Move config s (.pollPanics j k monitor warned readsMap)
        { s.setRule j
            { rule with
              runtime := { rule.runtime with warned }
              threads := rule.threads.set k ⟨.poll startEpoch, true⟩ } with
          resourceMonitor := (s.resourceMonitor.release monitor).poison
          fullscreen := if readsMap then s.fullscreen.poison else s.fullscreen }
  | toplevel {id event} (hwaiting : s.dispatcher = .waiting) :
      Move config s (.toplevel id event)
        { s with fullscreen := handleToplevelEvent s.fullscreen id event }
  | readings {monitor} :
      Move config s (.readings monitor)
        { s with resourceMonitor := s.resourceMonitor.release monitor }

theorem move_of_step {s s' : State S} {label : Label S} (hstep : step config s label = some s') :
    Move config s label s' := by
  cases label with
  | idled j =>
      simp only [step, Option.bind_eq_some_iff, Option.ite_none_right_eq_some] at hstep
      obtain ⟨rule, hget, ⟨hwaiting, hactive⟩, hstep⟩ := hstep
      obtain rfl := Option.some.inj hstep
      exact .idled hget hwaiting hactive
  | resumed j =>
      simp only [step, Option.bind_eq_some_iff, Option.ite_none_right_eq_some] at hstep
      obtain ⟨rule, hget, ⟨hwaiting, hidle⟩, hstep⟩ := hstep
      obtain rfl := Option.some.inj hstep
      exact .resumed hget hwaiting hidle
  | loadFired j =>
      simp only [step, Option.bind_eq_some_iff, Option.ite_none_right_eq_some] at hstep
      obtain ⟨rule, hget, ⟨hloading, hdispatched⟩, hstep⟩ := hstep
      obtain rfl := Option.some.inj hstep
      exact .loadFired hget hloading hdispatched
  | clearFired j =>
      simp only [step, Option.bind_eq_some_iff, Option.ite_none_right_eq_some] at hstep
      obtain ⟨rule, hget, ⟨hclearing, hdispatched⟩, hstep⟩ := hstep
      obtain rfl := Option.some.inj hstep
      exact .clearFired hget hclearing hdispatched
  | runOnResume j =>
      simp only [step, Option.bind_eq_some_iff, Option.ite_none_right_eq_some] at hstep
      obtain ⟨rule, hget, ⟨hrunning, hdispatched⟩, hstep⟩ := hstep
      have hmove : Move config s (.runOnResume j : Label S) _ :=
        .runOnResume hget hrunning hdispatched
      rcases hrestore : config.onResume rule.runtime.id with err | _ | cmd
      · rw [hrestore] at hstep
        cases hstep
        simpa [commandOf, hrestore] using hmove
      · rw [hrestore] at hstep
        cases hstep
        simpa [commandOf, hrestore] using hmove
      · rw [hrestore] at hstep
        cases hstep
        simpa [commandOf, hrestore] using hmove
  | checker j k action =>
      simp only [step, Option.bind_eq_some_iff, Option.ite_none_left_eq_some,
        Option.map_eq_some_iff] at hstep
      obtain ⟨rule, hget, thread, hthread, halive, ⟨checker, runtime, commands⟩, hchecker, rfl⟩ :=
        hstep
      exact .checker hget hthread (by simpa using halive) hchecker
  | pollPanics j k monitor warned readsMap =>
      simp only [step, Option.bind_eq_some_iff] at hstep
      obtain ⟨rule, hget, hstep⟩ := hstep
      split at hstep
      next startEpoch source hthread hlock =>
        obtain rfl := Option.some.inj hstep
        exact .pollPanics hget hthread hlock
      next => cases hstep
  | toplevel id event =>
      simp only [step, Option.ite_none_right_eq_some] at hstep
      obtain ⟨hwaiting, hstep⟩ := hstep
      obtain rfl := Option.some.inj hstep
      exact .toplevel hwaiting
  | readings monitor =>
      obtain rfl := Option.some.inj hstep
      exact .readings

theorem step_of_move {s s' : State S} {label : Label S} (hmove : Move config s label s') :
    step config s label = some s' := by
  cases hmove with
  | idled hget hwaiting hactive => simp [step, hget, hwaiting, hactive]
  | resumed hget hwaiting hidle => simp [step, hget, hwaiting, hidle]
  | loadFired hget hloading hdispatched => simp [step, hget, hloading, hdispatched]
  | clearFired hget hclearing hdispatched => simp [step, hget, hclearing, hdispatched]
  | @runOnResume j rule hget hrunning hdispatched =>
      rcases hrestore : config.onResume rule.runtime.id with err | _ | cmd <;>
        simp [step, commandOf, hget, hrunning, hdispatched, hrestore]
  | checker hget hthread halive hstep =>
      simp [step, State.accessed, hget, hthread, halive, hstep]
  | pollPanics hget hthread hlock => simp [step, hget, hthread, hlock]
  | toplevel hwaiting => rw [step, if_pos hwaiting]
  | readings => rfl

/-! ### The fields after an access -/

section

variable (config) (s : State S) (j k : ℕ) (rule : Rule) (thread : Thread) (action : Action)
  (checker : Checker) (runtime : RuleRuntime) (commands : List String)

@[simp] theorem accessed_rules :
    (s.accessed config j k rule thread action checker runtime commands).rules =
      s.rules.set j
        { rule with runtime, threads := rule.threads.set k { thread with checker } } := by
  unfold State.accessed
  split <;> rfl

@[simp] theorem accessed_dispatcher :
    (s.accessed config j k rule thread action checker runtime commands).dispatcher =
      s.dispatcher := by
  unfold State.accessed
  split <;> rfl

@[simp] theorem accessed_dispatched :
    (s.accessed config j k rule thread action checker runtime commands).dispatched =
      s.dispatched := by
  unfold State.accessed
  split <;> rfl

@[simp] theorem accessed_fullscreen :
    (s.accessed config j k rule thread action checker runtime commands).fullscreen =
      s.fullscreen := by
  unfold State.accessed
  split <;> rfl

@[simp] theorem accessed_calls :
    (s.accessed config j k rule thread action checker runtime commands).calls =
      s.calls ++ commands.map (j, ·) := by
  unfold State.accessed
  split <;> rfl

@[simp] theorem accessed_resourceMonitor :
    (s.accessed config j k rule thread action checker runtime commands).resourceMonitor =
      if action = .poll then (s.poll config rule.runtime).resourceMonitor
      else s.resourceMonitor := by
  unfold State.accessed
  split <;> rfl

@[simp] theorem accessed_warnings :
    (s.accessed config j k rule thread action checker runtime commands).warnings =
      s.warnings ++ (if action = .poll then (s.poll config rule.runtime).warnings else []).map
        (j, ·) := by
  unfold State.accessed
  split
  · rfl
  · exact (List.append_nil _).symm

end

/-- What an access hands to the runner. -/
def Action.commands (config : RuleConfigSource) (id : String) : Action → List String
  | .runOnTimeout => commandOf (config.onTimeout id)
  | _ => []

/-- **A thread hands nothing over but `on_timeout`**, and only where it calls it. -/
theorem calls_of_step {s s' : State S} {j k : ℕ} {action : Action}
    (hstep : step config s (.checker j k action) = some s') :
    ∃ rule, s.rules[j]? = some rule ∧
      s'.calls = s.calls ++ (action.commands config rule.runtime.id).map (j, ·) := by
  cases move_of_step hstep with
  | @checker _ _ _ rule thread checker runtime commands hget hthread halive hchecker =>
      refine ⟨rule, hget, ?_⟩
      rw [accessed_calls, IdleCycle.commands_of_move k (Checker.move_of_step hchecker)]
      cases action <;> rfl

/-- The calls are only ever appended to. -/
theorem Move.calls_grow {s s' : State S} {label : Label S} (hmove : Move config s label s') :
    s.calls <+: s'.calls := by
  cases hmove with
  | checker =>
      rw [accessed_calls]
      exact List.prefix_append _ _
  | runOnResume => exact List.prefix_append _ _
  | _ => exact List.prefix_refl _

/-! ### What no step changes -/

/-- No rule is added, dropped or renamed. -/
theorem Move.ids_eq {s s' : State S} {label : Label S} (hmove : Move config s label s') :
    s'.rules.map (fun rule => rule.runtime.id) = s.rules.map fun rule => rule.runtime.id := by
  cases hmove with
  | idled hget => exact map_set_eq (fun rule : Rule => rule.runtime.id) hget rfl
  | resumed hget => exact map_set_eq (fun rule : Rule => rule.runtime.id) hget rfl
  | loadFired => rfl
  | clearFired hget => exact map_set_eq (fun rule : Rule => rule.runtime.id) hget rfl
  | runOnResume => rfl
  | checker hget hthread halive hstep =>
      rw [accessed_rules]
      exact map_set_eq (fun rule : Rule => rule.runtime.id) hget (Checker.move_of_step hstep).id_eq
  | @pollPanics j k monitor warned readsMap rule startEpoch source hget =>
      have hsame : (Rule.runtime { rule with
          runtime := { rule.runtime with warned }
          threads := rule.threads.set k ⟨.poll startEpoch, true⟩ }).id = rule.runtime.id := rfl
      exact map_set_eq (fun rule : Rule => rule.runtime.id) hget hsame
  | toplevel => rfl
  | readings => rfl

/-- A thread is where it was, has just been spawned, or has made an access. -/
theorem Move.backward {s s' : State S} {label : Label S} (hmove : Move config s label s')
    {j k : ℕ} {rule' : Rule} {thread' : Thread} (hget' : s'.rules[j]? = some rule')
    (hthread' : rule'.threads[k]? = some thread') :
    (∃ rule thread, s.rules[j]? = some rule ∧ rule.threads[k]? = some thread ∧
        thread.checker = thread'.checker ∧ ∀ action, label ≠ .checker j k action) ∨
      (label = .idled j ∧ thread' = .spawned) ∨
      ∃ action rule thread runtime commands, label = .checker j k action ∧
        s.rules[j]? = some rule ∧ rule.threads[k]? = some thread ∧
        thread.checker.step config .default rule.runtime
          (action.step s.resourceMonitor s.fullscreen) =
            some (thread'.checker, runtime, commands) := by
  -- What a rule is after a rule has been replaced.
  have hset : ∀ {i : ℕ} {rule other : Rule}, s.rules[i]? = some rule →
      (s.rules.set i other)[j]? = some rule' → (i = j ∧ other = rule') ∨
        (i ≠ j ∧ s.rules[j]? = some rule') := by
    intro i rule other hget hset
    by_cases hij : i = j
    · subst hij
      rw [getElem?_set_of_some hget] at hset
      exact .inl ⟨rfl, Option.some.inj hset⟩
    · rw [List.getElem?_set_ne hij] at hset
      exact .inr ⟨hij, hset⟩
  cases hmove with
  | @idled i rule hget =>
      rcases hset hget hget' with ⟨rfl, rfl⟩ | ⟨_, hsame⟩
      · simp only [List.getElem?_append] at hthread'
        split at hthread'
        · exact .inl ⟨rule, thread', hget, hthread', rfl, by simp⟩
        · obtain rfl := List.mem_singleton.mp (List.mem_of_getElem? hthread')
          exact .inr (.inl ⟨rfl, rfl⟩)
      · exact .inl ⟨rule', thread', hsame, hthread', rfl, by simp⟩
  | @resumed i rule hget =>
      rcases hset hget hget' with ⟨rfl, rfl⟩ | ⟨_, hsame⟩
      · exact .inl ⟨rule, thread', hget, hthread', rfl, by simp⟩
      · exact .inl ⟨rule', thread', hsame, hthread', rfl, by simp⟩
  | loadFired => exact .inl ⟨rule', thread', hget', hthread', rfl, by simp⟩
  | @clearFired i rule hget =>
      rcases hset hget hget' with ⟨rfl, rfl⟩ | ⟨_, hsame⟩
      · exact .inl ⟨rule, thread', hget, hthread', rfl, by simp⟩
      · exact .inl ⟨rule', thread', hsame, hthread', rfl, by simp⟩
  | runOnResume => exact .inl ⟨rule', thread', hget', hthread', rfl, by simp⟩
  | @checker i l action rule thread checker runtime commands hget hthread halive hstep =>
      rw [accessed_rules] at hget'
      rcases hset hget hget' with ⟨rfl, rfl⟩ | ⟨hij, hsame⟩
      · by_cases hlk : l = k
        · subst hlk
          simp only at hthread'
          rw [getElem?_set_of_some hthread] at hthread'
          obtain rfl := Option.some.inj hthread'
          exact .inr (.inr ⟨action, rule, thread, runtime, commands, rfl, hget, hthread, hstep⟩)
        · simp only [List.getElem?_set_ne hlk] at hthread'
          exact .inl ⟨rule, thread', hget, hthread', rfl, by simp [hlk]⟩
      · exact .inl ⟨rule', thread', hsame, hthread', rfl, by simp [hij]⟩
  | @pollPanics i l monitor warned readsMap rule startEpoch source hget hthread =>
      rcases hset hget hget' with ⟨rfl, rfl⟩ | ⟨_, hsame⟩
      · by_cases hlk : l = k
        · subst hlk
          simp only at hthread'
          rw [getElem?_set_of_some hthread] at hthread'
          obtain rfl := Option.some.inj hthread'
          exact .inl ⟨rule, _, hget, hthread, rfl, by simp⟩
        · simp only [List.getElem?_set_ne hlk] at hthread'
          exact .inl ⟨rule, thread', hget, hthread', rfl, by simp⟩
      · exact .inl ⟨rule', thread', hsame, hthread', rfl, by simp⟩
  | toplevel => exact .inl ⟨rule', thread', hget', hthread', rfl, by simp⟩
  | readings => exact .inl ⟨rule', thread', hget', hthread', rfl, by simp⟩

end Nothypridle.Client
