import Nothypridle.App

/-!
# When a component dies

The two components are joined on one side only: `app::run` awaits the listener and lets go of the
Wayland thread. A failure of the listener's set-up ends the process with an error; the end of its
stream ends it without one, and after a failure of the Wayland client the listener goes on.
-/

namespace Nothypridle.App

open Transition (Runs)

variable {hooks : GlobalHooks}

def Dead (s : State) : Prop :=
  (∃ err, s.wayland = .returned err) ∨ ∃ res, s.dbus = .returned res

def SettingUp (s : State) : Prop :=
  s.dbus = .connecting ∨ s.dbus = .creatingProxy ∨ s.dbus = .addingMatchRule

/-- Once a component is dead no further message is processed, the result is never `Ok`, and as soon
as the listener is no longer being set up it is an error. -/
def TakesDaemonDown (hooks : GlobalHooks) (labels : List Label) : Prop :=
  ∀ before after s s', labels = before ++ after → Runs (step hooks) start before s →
    Runs (step hooks) s after s' → Dead s →
    (∀ item, .message item ∉ after) ∧ s'.result ≠ some (.ok ()) ∧
      (¬SettingUp s' → ∃ err, s'.result = some (.error err))

def lockSignal : Message where
  msgType := .signal
  sender := some ":1.5"
  path := some "/org/freedesktop/login1/session/_31"
  interface := some "org.freedesktop.login1.Session"
  member := some "Lock"
  body := .error "signature mismatch"

/-- Two runs that break this. The compositor goes away and the listener goes on processing messages;
the bus goes away and `app::run` returns `Ok`. -/
theorem exists_not_takesDaemonDown :
    (∃ s, Runs (step { lock := some "hyprlock" }) start [.setUp (.ok ()), .setUp (.ok ()),
        .setUp (.ok ()), .wayland (.error "NoCompositor"), .message (.ok lockSignal)] s ∧
          s.commands = ["hyprlock"]) ∧
      ¬TakesDaemonDown { lock := some "hyprlock" } [.setUp (.ok ()), .setUp (.ok ()),
        .setUp (.ok ()), .wayland (.error "NoCompositor"), .message (.ok lockSignal)] ∧
      (∃ s, Runs (step {}) start
        [.setUp (.ok ()), .setUp (.ok ()), .setUp (.ok ()), .streamEnd] s) ∧
      ¬TakesDaemonDown {} [.setUp (.ok ()), .setUp (.ok ()), .setUp (.ok ()), .streamEnd] := by
  refine ⟨⟨_, rfl, rfl⟩, ?_, ⟨_, rfl⟩, ?_⟩
  · intro hdown
    have hdead := hdown [.setUp (.ok ()), .setUp (.ok ()), .setUp (.ok ()),
      .wayland (.error "NoCompositor")] [.message (.ok lockSignal)] _ _ rfl rfl rfl (.inl ⟨_, rfl⟩)
    exact hdead.1 _ (List.mem_singleton_self _)
  · intro hdown
    have hdead := hdown [.setUp (.ok ()), .setUp (.ok ()), .setUp (.ok ()), .streamEnd] [] _ _ rfl
      rfl rfl (.inr ⟨_, rfl⟩)
    exact hdead.2.1 rfl

def Label.isSetUp : Label → Bool
  | .setUp (.ok ()) => true
  | _ => false

/-- What the labels taken so far show of the state. -/
structure Progress (labels : List Label) (s : State) : Prop where
  wayland : (∃ err, .wayland (.error err) ∈ labels) ↔ ∃ err, s.wayland = .returned err
  streamEnd : .streamEnd ∈ labels ↔ s.dbus = .returned (.ok ())
  message : (∃ item, .message item ∈ labels) → 3 ≤ labels.countP Label.isSetUp
  setUp : match s.dbus with
    | .connecting => labels.countP Label.isSetUp = 0
    | .creatingProxy => labels.countP Label.isSetUp = 1
    | .addingMatchRule => labels.countP Label.isSetUp = 2
    | .streaming => labels.countP Label.isSetUp = 3
    | .returned (.error _) => labels.countP Label.isSetUp < 3
    | .returned (.ok ()) => labels.countP Label.isSetUp = 3

theorem WaylandClient.returned_iff_of_step {client client' : WaylandClient}
    {outcome : Except String Unit} (hstep : client.step outcome = some client') :
    (∀ err, client ≠ .returned err) ∧
      ((∃ err, client' = .returned err) ↔ ∃ err, outcome = .error err) := by
  cases client <;> rcases outcome with err | _ <;> simp only [WaylandClient.step, reduceCtorEq,
    Option.some.injEq] at hstep <;> subst hstep <;> simp

theorem Progress.step {labels : List Label} {s s' : State} {label : Label}
    (hprogress : Progress labels s) (hstep : step hooks s label = some s') :
    Progress (labels ++ [label]) s' := by
  obtain ⟨hwayland, hend, hmessage, hsetUp⟩ := hprogress
  cases label with
  | wayland outcome =>
      simp only [App.step, Option.ite_none_left_eq_some, Option.map_eq_some_iff] at hstep
      obtain ⟨_, client, hclient, rfl⟩ := hstep
      obtain ⟨hlive, hreturned⟩ := WaylandClient.returned_iff_of_step hclient
      have hnone : ¬∃ err, .wayland (.error err) ∈ labels := by
        rw [hwayland]
        intro hreturned
        obtain ⟨err, herr⟩ := hreturned
        exact hlive err herr
      refine ⟨?_, by simpa using hend, by simpa [Label.isSetUp] using hmessage,
        by simpa [Label.isSetUp] using hsetUp⟩
      simp only [List.mem_append, List.mem_singleton, exists_or, hnone, false_or, hreturned,
        Label.wayland.injEq, eq_comm]
  | setUp outcome =>
      simp only [App.step, Option.map_eq_some_iff] at hstep
      obtain ⟨dbus, hdbus, rfl⟩ := hstep
      have hmessage' : (∃ item, Label.message item ∈ labels ++ [.setUp outcome]) →
          3 ≤ (labels ++ [Label.setUp outcome]).countP Label.isSetUp := by
        intro hsome
        obtain ⟨item, hitem⟩ := hsome
        have hcount := hmessage ⟨item, by simpa using hitem⟩
        rw [List.countP_append]
        omega
      cases hat : s.dbus <;> rcases outcome with err | _ <;>
        simp only [hat, DbusListener.setUp, reduceCtorEq, Option.some.injEq]
          at hdbus hsetUp hend <;>
        subst hdbus <;>
        refine ⟨by simpa using hwayland, by simpa using hend, hmessage', ?_⟩ <;>
        simp [Label.isSetUp, hsetUp]
  | message item =>
      cases hat : s.dbus <;> simp only [App.step, hat, reduceCtorEq, Option.some.injEq] at hstep
      subst hstep
      simp only [hat] at hsetUp hend
      refine ⟨by simpa using hwayland, by simpa [hat] using hend, ?_, ?_⟩
      · intro _
        rw [List.countP_append]
        omega
      · simpa [hat, Label.isSetUp] using hsetUp
  | streamEnd =>
      cases hat : s.dbus <;> simp only [App.step, hat, reduceCtorEq, Option.some.injEq] at hstep
      subst hstep
      simp only [hat] at hsetUp
      exact ⟨by simpa using hwayland, by simp, by simpa [Label.isSetUp] using hmessage,
        by simpa [Label.isSetUp] using hsetUp⟩

theorem progress {labels : List Label} {s : State} (hrun : Runs (step hooks) start labels s) :
    Progress labels s := by
  have hinit : Progress [] start := ⟨by simp [start], by simp [start], by simp, rfl⟩
  exact hrun.history_invariant (fun _ _ _ _ hprogress hstep => hprogress.step hstep) [] hinit

theorem stuck_of_returned {s s' : State} {labels : List Label} {res : Except String Unit}
    (hreturned : s.dbus = .returned res) (hrun : Runs (step hooks) s labels s') :
    labels = [] ∧ s' = s := by
  cases labels with
  | nil => exact ⟨rfl, (Transition.runs_nil_iff.mp hrun).symm⟩
  | cons label labels =>
      obtain ⟨next, hstep, _⟩ := Transition.runs_cons_iff.mp hrun
      cases label with
      | wayland outcome =>
          rcases res with err | _ <;> simp [App.step, State.result, hreturned] at hstep
      | setUp outcome => simp [App.step, DbusListener.setUp, hreturned] at hstep
      | message item => simp [App.step, hreturned] at hstep
      | streamEnd => simp [App.step, hreturned] at hstep

/-- **A dead component takes the daemon down** exactly if the message stream does not end and the
Wayland client does not return in a run in which the listener has been set up. While the listener is
being set up `app::run` has no result yet. -/
theorem takesDaemonDown_iff {labels : List Label} {s : State}
    (hrun : Runs (step hooks) start labels s) :
    TakesDaemonDown hooks labels ↔ .streamEnd ∉ labels ∧
      ((∃ err, .wayland (.error err) ∈ labels) → labels.countP Label.isSetUp < 3) := by
  constructor
  · intro hdown
    have hprogress := progress hrun
    have hfinal := hdown labels [] s s (by simp) hrun (by simp)
    have hend : .streamEnd ∉ labels := by
      intro hmem
      have hok := hprogress.streamEnd.mp hmem
      exact (hfinal (.inr ⟨_, hok⟩)).2.1 (by simp [State.result, hok])
    refine ⟨hend, ?_⟩
    intro hwayland
    obtain ⟨_, hok, herr⟩ := hfinal (.inl (hprogress.wayland.mp hwayland))
    have hsetUp := hprogress.setUp
    cases hat : s.dbus with
    | streaming => simp [SettingUp, State.result, hat] at herr
    | returned res =>
        rcases res with err | _
        · simpa [hat] using hsetUp
        · simp [State.result, hat] at hok
    | _ =>
        simp only [hat] at hsetUp
        omega
  · intro hcondition before after s₁ s₂ hlabels hbefore hafter hdead
    obtain ⟨hend, hwayland⟩ := hcondition
    have hwhole : Runs (step hooks) start labels s₂ := hlabels ▸ hbefore.append hafter
    have hprogress := progress hwhole
    have hnotOk : s₂.dbus ≠ .returned (.ok ()) := fun hok => hend (hprogress.streamEnd.mpr hok)
    have hsetUp := hprogress.setUp
    refine ⟨?_, ?_, ?_⟩
    · intro item hitem
      rcases hdead with hclient | ⟨res, hres⟩
      · obtain ⟨err, herr⟩ := (progress hbefore).wayland.mpr hclient
        have hfew := hwayland ⟨err, hlabels ▸ List.mem_append_left _ herr⟩
        have hmany := hprogress.message ⟨item, hlabels ▸ List.mem_append_right _ hitem⟩
        omega
      · rw [(stuck_of_returned hres hafter).1] at hitem
        cases hitem
    · intro hok
      cases hat : s₂.dbus with
      | returned res =>
          rcases res with err | _
          · simp [State.result, hat] at hok
          · exact hnotOk hat
      | _ => simp [State.result, hat] at hok
    · intro hnot
      cases hat : s₂.dbus with
      | streaming =>
          -- The listener has been set up, so it must be the Wayland client that is dead.
          simp only [hat] at hsetUp
          rcases hdead with hclient | ⟨res, hres⟩
          · obtain ⟨err, herr⟩ := (progress hbefore).wayland.mpr hclient
            have hfew := hwayland ⟨err, hlabels ▸ List.mem_append_left _ herr⟩
            omega
          · rw [(stuck_of_returned hres hafter).2, hres] at hat
            cases hat
      | returned res =>
          rcases res with err | _
          · exact ⟨s!"D-Bus listener crashed: {err}", by simp [State.result, hat]⟩
          · exact absurd hat hnotOk
      | _ => exact absurd (by simp [SettingUp, hat]) hnot

theorem noCompositor_takesDaemonDown :
    ∃ s, Runs (step {}) start [.wayland (.error "NoCompositor"), .setUp (.ok ()),
        .setUp (.error "no system bus")] s ∧
      s.result = some (.error "D-Bus listener crashed: no system bus") ∧
      TakesDaemonDown {} [.wayland (.error "NoCompositor"), .setUp (.ok ()),
        .setUp (.error "no system bus")] := by
  have hrun : Runs (step {}) start [.wayland (.error "NoCompositor"), .setUp (.ok ()),
      .setUp (.error "no system bus")]
      ⟨.returned "NoCompositor", .returned (.error "no system bus"), []⟩ := rfl
  exact ⟨_, hrun, rfl, (takesDaemonDown_iff hrun).mpr ⟨by simp, fun _ => by decide⟩⟩

end Nothypridle.App
