import Nothypridle.Proof.HookSource

/-!
# Signals of other sessions

Logind broadcasts the `Lock` and `Unlock` of every session to every listener, each from the object
of its own session. Neither the match rule nor the classification looks at the object path.
-/

namespace Nothypridle

/-- A signal that logind broadcasts. -/
structure LogindSignal (owners : String → Option String) where
  msg : Message
  fromLogind : FromLogind owners msg

def hookCommands (hooks : GlobalHooks) {owners : String → Option String}
    (signals : List (LogindSignal owners)) : List String :=
  (listen hooks owners (signals.map fun signal => .broadcast signal.msg)).commands

/-- A signal of a session object other than `path`. -/
def OfOtherSession (path : String) (msg : Message) : Prop :=
  msg.interface = some "org.freedesktop.login1.Session" ∧ msg.path ≠ some path

instance decidableOfOtherSession (path : String) (msg : Message) :
    Decidable (OfOtherSession path msg) :=
  inferInstanceAs (Decidable (_ ∧ _))

def withoutOtherSessions {owners : String → Option String} (path : String)
    (signals : List (LogindSignal owners)) : List (LogindSignal owners) :=
  signals.filter fun signal => ¬OfOtherSession path signal.msg

/-- Of the streams of allowed signals, those that differ only in signals of other sessions run the
same commands. -/
def IgnoresOtherSessions (path : String) {owners : String → Option String}
    (allowed : LogindSignal owners → Prop) : Prop :=
  ∀ first second : List (LogindSignal owners), (∀ signal ∈ first, allowed signal) →
    (∀ signal ∈ second, allowed signal) →
    withoutOtherSessions path first = withoutOtherSessions path second →
    ∀ hooks, hookCommands hooks first = hookCommands hooks second

def logindOwner (name : String) : Option String :=
  if name = "org.freedesktop.login1" then some ":1.5" else none

/-- Session 1 unlocks while the daemon runs in session 2. -/
def otherUnlock : LogindSignal logindOwner where
  msg := { spoofedUnlock with sender := some ":1.5" }
  fromLogind := ⟨rfl, by decide, rfl⟩

theorem otherUnlock_runs :
    ¬IgnoresOtherSessions "/org/freedesktop/login1/session/_32"
      fun _ : LogindSignal logindOwner => True := by
  intro hignores
  have hempty : withoutOtherSessions "/org/freedesktop/login1/session/_32" [otherUnlock] =
      withoutOtherSessions "/org/freedesktop/login1/session/_32" [] :=
    List.filter_cons_of_neg (by decide)
  have hsame := hignores [otherUnlock] [] (by simp) (by simp) hempty
    { unlock := some "pkill hyprlock" }
  exact absurd hsame (by decide)

/-! ### The commands of a stream -/

section

variable {hooks : GlobalHooks} {owners : String → Option String} {path : String}

theorem hookCommands_eq (signals : List (LogindSignal owners)) :
    hookCommands hooks signals = signals.flatMap fun signal => receive hooks (.ok signal.msg) := by
  have hstep : ∀ (s : List String) (signal : LogindSignal owners),
      Listener.step hooks ⟨owners, s⟩ (.broadcast signal.msg) =
        ⟨owners, s ++ receive hooks (.ok signal.msg)⟩ := by
    intro s signal
    exact if_pos signal.fromLogind
  have hfold : ∀ commands, (signals.map fun signal => BusEvent.broadcast signal.msg).foldl
      (Listener.step hooks) ⟨owners, commands⟩ =
        ⟨owners, commands ++ signals.flatMap fun signal => receive hooks (.ok signal.msg)⟩ := by
    induction signals with
    | nil => simp
    | cons signal signals ih =>
        intro commands
        rw [List.map_cons, List.foldl_cons, hstep, ih, List.flatMap_cons, List.append_assoc]
  rw [hookCommands, listen, hfold, List.nil_append]

theorem receive_eq_nil_of_not_names {msg : Message} (hnames : ∀ event, ¬Names msg event) :
    receive hooks (.ok msg) = [] := by
  have hnone : classifySignal (msg.interface.getD "") (msg.member.getD "") msg = none := by
    rw [Option.eq_none_iff_forall_ne_some]
    intro event hevent
    exact hnames event (classifySignal_eq_some_iff.mp hevent)
  simp only [receive, hnone]

theorem OfOtherSession.names_cases {msg : Message} (hother : OfOtherSession path msg)
    {event : DbusHookEvent} (hnames : Names msg event) : event = .lock ∨ event = .unlock := by
  cases event with
  | beforeSleep => exact absurd (hother.1.symm.trans hnames.1) (by decide)
  | afterSleep => exact absurd (hother.1.symm.trans hnames.1) (by decide)
  | lock => exact .inl rfl
  | unlock => exact .inr rfl

/-- Signals that name no hook can be left out. -/
theorem hookCommands_withoutOtherSessions {signals : List (LogindSignal owners)}
    (hsilent : ∀ signal ∈ signals, OfOtherSession path signal.msg → ∀ event,
      ¬Names signal.msg event) :
    hookCommands hooks (withoutOtherSessions path signals) = hookCommands hooks signals := by
  rw [hookCommands_eq, hookCommands_eq]
  induction signals with
  | nil => rfl
  | cons signal signals ih =>
      obtain ⟨hsignal, hsignals⟩ := List.forall_mem_cons.mp hsilent
      rw [List.flatMap_cons, ← ih hsignals, withoutOtherSessions]
      by_cases hother : OfOtherSession path signal.msg
      · rw [List.filter_cons_of_neg (by simpa using hother),
          receive_eq_nil_of_not_names (hsignal hother), List.nil_append]
        rfl
      · rw [List.filter_cons_of_pos (by simpa using hother), List.flatMap_cons]
        rfl

theorem hookCommands_singleton_ne_nil {signal : LogindSignal owners} {event : DbusHookEvent}
    (hnames : Names signal.msg event) :
    hookCommands { beforeSleep := some "b", afterSleep := some "a", lock := some "l",
                   unlock := some "u" } [signal] ≠ [] := by
  have hclassified := classifySignal_eq_some_iff.mpr hnames
  rw [hookCommands_eq, List.flatMap_singleton, receive]
  simp only [hclassified]
  cases event <;> simp [handleHookEvent]

end

/-- **Other sessions are ignored** in all streams of a class of signals exactly if the class has no
`Lock` and no `Unlock` of another session. -/
theorem ignoresOtherSessions_iff (path : String) {owners : String → Option String}
    (allowed : LogindSignal owners → Prop) :
    IgnoresOtherSessions path allowed ↔
      ∀ signal, allowed signal → OfOtherSession path signal.msg →
        ¬Names signal.msg .lock ∧ ¬Names signal.msg .unlock := by
  constructor
  · intro hignores signal hallowed hother
    have hsilent : ∀ event, ¬Names signal.msg event := by
      intro event hnames
      have hempty : withoutOtherSessions path [signal] = withoutOtherSessions path [] :=
        List.filter_cons_of_neg (by simpa using hother)
      have hsame := hignores [signal] [] (by simpa using hallowed) (by simp) hempty
      exact hookCommands_singleton_ne_nil hnames (hsame _)
    exact ⟨hsilent .lock, hsilent .unlock⟩
  · intro hclass first second hfirst hsecond hagree hooks
    have hsilent : ∀ signal, allowed signal → OfOtherSession path signal.msg → ∀ event,
        ¬Names signal.msg event := by
      intro signal hallowed hother event hnames
      obtain ⟨hlock, hunlock⟩ := hclass signal hallowed hother
      rcases hother.names_cases hnames with rfl | rfl
      · exact hlock hnames
      · exact hunlock hnames
    calc
      hookCommands hooks first = hookCommands hooks (withoutOtherSessions path first) :=
        (hookCommands_withoutOtherSessions fun signal hmem =>
          hsilent signal (hfirst signal hmem)).symm
      _ = hookCommands hooks (withoutOtherSessions path second) := by rw [hagree]
      _ = hookCommands hooks second :=
        hookCommands_withoutOtherSessions fun signal hmem => hsilent signal (hsecond signal hmem)

end Nothypridle
