import Nothypridle.Dbus
import Nothypridle.Lib.Transition

/-!
# The daemon

`app::run` once the rules are loaded: it hands the Wayland client to a detached thread and awaits
the D-Bus listener. A label is what one of the two is told by the outside: how a step of its set-up
or a dispatch went, the next item of the message stream, or the end of the stream. The process is
over when `app::run` returns, and no thread outlives it.
-/

namespace Nothypridle

inductive WaylandClient where
  | connecting
  | initRegistry
  | bindingSeat
  | bindingIdleNotifier
  | dispatching
  | returned (err : String)
  deriving DecidableEq

/-- The client never returns `Ok`: it dispatches until a dispatch fails. -/
def WaylandClient.step : WaylandClient → Except String Unit → Option WaylandClient
  | .connecting, .ok () => some .initRegistry
  | .connecting, .error err => some (.returned err)
  | .initRegistry, .ok () => some .bindingSeat
  | .initRegistry, .error err => some (.returned err)
  | .bindingSeat, .ok () => some .bindingIdleNotifier
  | .bindingSeat, .error err => some (.returned s!"Failed to bind wl_seat: {err}")
  | .bindingIdleNotifier, .ok () => some .dispatching
  | .bindingIdleNotifier, .error err =>
      some (.returned s!"Failed to bind ext_idle_notifier_v1: {err}")
  | .dispatching, .ok () => some .dispatching
  | .dispatching, .error err => some (.returned err)
  | .returned _, _ => none

inductive DbusListener where
  | connecting
  | creatingProxy
  | addingMatchRule
  | streaming
  | returned (res : Except String Unit)

def DbusListener.setUp : DbusListener → Except String Unit → Option DbusListener
  | .connecting, .ok () => some .creatingProxy
  | .creatingProxy, .ok () => some .addingMatchRule
  | .addingMatchRule, .ok () => some .streaming
  | .connecting, .error err => some (.returned (.error err))
  | .creatingProxy, .error err => some (.returned (.error err))
  | .addingMatchRule, .error err => some (.returned (.error err))
  | .streaming, _ => none
  | .returned _, _ => none

namespace App

structure State where
  wayland : WaylandClient
  dbus : DbusListener
  commands : List String

/-- What `app::run` has returned. The error of the Wayland client is logged by its thread. -/
def State.result (s : State) : Option (Except String Unit) :=
  match s.dbus with
  | .returned (.error err) => some (.error s!"D-Bus listener crashed: {err}")
  | .returned (.ok ()) => some (.ok ())
  | _ => none

inductive Label where
  | wayland (outcome : Except String Unit)
  | setUp (outcome : Except String Unit)
  | message (item : Except String Message)
  | streamEnd

def start : State := { wayland := .connecting, dbus := .connecting, commands := [] }

def step (hooks : GlobalHooks) (s : State) : Label → Option State
  | .wayland outcome =>
      if s.result.isSome then none
      else (s.wayland.step outcome).map fun wayland => { s with wayland }
  | .setUp outcome => (s.dbus.setUp outcome).map fun dbus => { s with dbus }
  | .message item =>
      match s.dbus with
      | .streaming => some { s with commands := s.commands ++ receive hooks item }
      | _ => none
  | .streamEnd =>
      match s.dbus with
      | .streaming => some { s with dbus := .returned (.ok ()) }
      | _ => none

end App

end Nothypridle
