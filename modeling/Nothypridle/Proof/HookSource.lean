import Nothypridle.Dbus
import Mathlib.Data.List.Basic

/-!
# Who can trigger a hook

The loop looks at the interface and the member of a message only. A broadcast reaches it through the
match rule, so it is a signal of logind; for a message addressed to the connection nothing else is
checked, and any client of the bus can send one.
-/

namespace Nothypridle

def FromLogind (owners : String → Option String) (msg : Message) : Prop :=
  msg.msgType = .signal ∧ msg.sender ≠ none ∧ msg.sender = owners "org.freedesktop.login1"

/-- Whenever an event makes the listener run a command, the event is a signal of logind. -/
def OnlyLogindTriggers (hooks : GlobalHooks) (owners : String → Option String)
    (events : List BusEvent) : Prop :=
  ∀ before event after, events = before ++ event :: after →
    (listen hooks owners (before ++ [event])).commands ≠ (listen hooks owners before).commands →
    ∃ msg, (event = .broadcast msg ∨ event = .unicast msg) ∧
      FromLogind (listen hooks owners before).owners msg

/-- A spoofed `Unlock`, addressed to the listener by a client that owns nothing. -/
def spoofedUnlock : Message where
  msgType := .signal
  sender := some ":1.66"
  path := some "/org/freedesktop/login1/session/_31"
  interface := some "org.freedesktop.login1.Session"
  member := some "Unlock"
  body := .error "signature mismatch"

theorem spoofedUnlock_triggers :
    ¬OnlyLogindTriggers { unlock := some "pkill hyprlock" }
      (fun name => if name = "org.freedesktop.login1" then some ":1.5" else none)
      [.unicast spoofedUnlock] := by
  intro honly
  obtain ⟨msg, hevent, _, _, hsender⟩ := honly [] _ [] rfl (by decide)
  rcases hevent with hevent | hevent
  · cases hevent
  · obtain rfl := BusEvent.unicast.inj hevent
    simp [spoofedUnlock, listen] at hsender

def Names (msg : Message) : DbusHookEvent → Prop
  | .beforeSleep => msg.interface = some "org.freedesktop.login1.Manager" ∧
      msg.member = some "PrepareForSleep" ∧ msg.body = .ok true
  | .afterSleep => msg.interface = some "org.freedesktop.login1.Manager" ∧
      msg.member = some "PrepareForSleep" ∧ msg.body = .ok false
  | .lock => msg.interface = some "org.freedesktop.login1.Session" ∧ msg.member = some "Lock"
  | .unlock => msg.interface = some "org.freedesktop.login1.Session" ∧ msg.member = some "Unlock"

theorem getD_empty_eq_iff (field : Option String) {name : String} (hname : name ≠ "") :
    field.getD "" = name ↔ field = some name := by
  cases field with
  | none => simpa using hname.symm
  | some value => simp

theorem classifySignal_eq_some_iff {msg : Message} {event : DbusHookEvent} :
    classifySignal (msg.interface.getD "") (msg.member.getD "") msg = some event ↔
      Names msg event := by
  have hmanager := getD_empty_eq_iff msg.interface
    (show "org.freedesktop.login1.Manager" ≠ "" by decide)
  have hsession := getD_empty_eq_iff msg.interface
    (show "org.freedesktop.login1.Session" ≠ "" by decide)
  have hprepare := getD_empty_eq_iff msg.member (show "PrepareForSleep" ≠ "" by decide)
  have hlock := getD_empty_eq_iff msg.member (show "Lock" ≠ "" by decide)
  have hunlock := getD_empty_eq_iff msg.member (show "Unlock" ≠ "" by decide)
  unfold classifySignal
  simp only [hmanager, hsession, hprepare, hlock, hunlock]
  by_cases hsleep : msg.interface = some "org.freedesktop.login1.Manager" ∧
      msg.member = some "PrepareForSleep"
  · obtain ⟨hinterface, hmember⟩ := hsleep
    rcases hbody : msg.body with err | _ | _ <;> cases event <;>
      simp [Names, hinterface, hmember, hbody]
  · rw [if_neg hsleep]
    have hnot : ∀ active, ¬(msg.interface = some "org.freedesktop.login1.Manager" ∧
        msg.member = some "PrepareForSleep" ∧ msg.body = .ok active) :=
      fun active hall => hsleep ⟨hall.1, hall.2.1⟩
    by_cases hinterface : msg.interface = some "org.freedesktop.login1.Session"
    · rw [if_pos hinterface]
      by_cases hlocked : msg.member = some "Lock"
      · cases event <;> simp [Names, hinterface, hlocked]
      · by_cases hunlocked : msg.member = some "Unlock" <;> cases event <;>
          simp [Names, hinterface, hlocked, hunlocked]
    · cases event <;> simp [Names, hinterface, hnot]

def NamesConfiguredHook (hooks : GlobalHooks) (msg : Message) : Prop :=
  (Names msg .beforeSleep ∧ hooks.beforeSleep ≠ none) ∨
    (Names msg .afterSleep ∧ hooks.afterSleep ≠ none) ∨
    (Names msg .lock ∧ hooks.lock ≠ none) ∨ (Names msg .unlock ∧ hooks.unlock ≠ none)

theorem handleHookEvent_ne_nil_iff {hooks : GlobalHooks} {event : DbusHookEvent} :
    handleHookEvent hooks event ≠ [] ↔ match event with
      | .beforeSleep => hooks.beforeSleep ≠ none
      | .afterSleep => hooks.afterSleep ≠ none
      | .lock => hooks.lock ≠ none
      | .unlock => hooks.unlock ≠ none := by
  cases event <;> simp [handleHookEvent]

theorem receive_ne_nil_iff {hooks : GlobalHooks} {msg : Message} :
    receive hooks (.ok msg) ≠ [] ↔ NamesConfiguredHook hooks msg := by
  have hreceive : receive hooks (.ok msg) ≠ [] ↔
      ∃ event, Names msg event ∧ handleHookEvent hooks event ≠ [] := by
    simp only [← classifySignal_eq_some_iff, receive]
    cases classifySignal (msg.interface.getD "") (msg.member.getD "") msg <;> simp
  rw [hreceive]
  constructor
  · intro hsome
    obtain ⟨event, hnames, hcommand⟩ := hsome
    rw [handleHookEvent_ne_nil_iff] at hcommand
    cases event with
    | beforeSleep => exact .inl ⟨hnames, hcommand⟩
    | afterSleep => exact .inr (.inl ⟨hnames, hcommand⟩)
    | lock => exact .inr (.inr (.inl ⟨hnames, hcommand⟩))
    | unlock => exact .inr (.inr (.inr ⟨hnames, hcommand⟩))
  · rintro (⟨hnames, hcommand⟩ | ⟨hnames, hcommand⟩ | ⟨hnames, hcommand⟩ | ⟨hnames, hcommand⟩) <;>
      exact ⟨_, hnames, handleHookEvent_ne_nil_iff.mpr hcommand⟩

theorem listen_concat (hooks : GlobalHooks) (owners : String → Option String)
    (before : List BusEvent) (event : BusEvent) :
    listen hooks owners (before ++ [event]) = (listen hooks owners before).step hooks event := by
  simp [listen]

/-- The events on which the commands grow: broadcasts that match the rule and messages to the
connection, if they name a configured hook. -/
theorem commands_ne_iff {hooks : GlobalHooks} {s : Listener} {event : BusEvent} :
    (s.step hooks event).commands ≠ s.commands ↔
      ∃ msg, NamesConfiguredHook hooks msg ∧
        (event = .unicast msg ∨ (event = .broadcast msg ∧ FromLogind s.owners msg)) := by
  cases event with
  | nameOwnerChanged name owner => simp [Listener.step]
  | broadcast msg =>
      by_cases hmatches : logindRule.Matches s.owners msg
      · have hfrom : FromLogind s.owners msg := hmatches
        simpa [Listener.step, hmatches, hfrom] using receive_ne_nil_iff
      · have hfrom : ¬FromLogind s.owners msg := hmatches
        simp [Listener.step, hmatches, hfrom]
  | unicast msg => simpa [Listener.step] using receive_ne_nil_iff
  | streamError err => simp [Listener.step, receive]

def takeOver (owners : String → Option String) : BusEvent → String → Option String
  | .nameOwnerChanged name owner => Function.update owners name owner
  | _ => owners

def ownersAfter (owners : String → Option String) (events : List BusEvent) :
    String → Option String :=
  events.foldl takeOver owners

theorem step_owners (hooks : GlobalHooks) (s : Listener) (event : BusEvent) :
    takeOver s.owners event = (s.step hooks event).owners := by
  cases event with
  | broadcast msg =>
      simp only [takeOver, Listener.step]
      split <;> rfl
  | _ => rfl

theorem listen_owners (hooks : GlobalHooks) (owners : String → Option String)
    (events : List BusEvent) :
    (listen hooks owners events).owners = ownersAfter owners events :=
  (List.foldl_hom Listener.owners (step_owners hooks)).symm

/-- **Only logind triggers hooks** exactly if every message addressed to the connection that names a
configured hook is a signal of logind. -/
theorem onlyLogindTriggers_iff (hooks : GlobalHooks) (owners : String → Option String)
    (events : List BusEvent) :
    OnlyLogindTriggers hooks owners events ↔
      ∀ before msg after, events = before ++ .unicast msg :: after →
        NamesConfiguredHook hooks msg → FromLogind (ownersAfter owners before) msg := by
  simp only [OnlyLogindTriggers, listen_concat, commands_ne_iff, listen_owners]
  constructor
  · intro honly before msg after hevents hnames
    obtain ⟨msg', hevent, hfrom⟩ := honly before _ after hevents ⟨msg, hnames, .inl rfl⟩
    rcases hevent with hevent | hevent
    · cases hevent
    · obtain rfl := BusEvent.unicast.inj hevent
      exact hfrom
  · intro hunicast before event after hevents hcaused
    obtain ⟨msg, hnames, hevent⟩ := hcaused
    cases hevent with
    | inl hevent =>
        subst hevent
        exact ⟨msg, .inr rfl, hunicast before msg after hevents hnames⟩
    | inr hevent => exact ⟨msg, .inl hevent.1, hevent.2⟩

end Nothypridle
