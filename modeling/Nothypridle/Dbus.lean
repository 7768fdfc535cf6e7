import Mathlib.Logic.Function.Basic

/-!
# The logind listener

The messages that reach the connection of the listener, and what the listener makes of each of them.
The match rule is registered with the bus, which uses it to route broadcast signals; a message that
is addressed to the connection is delivered whether or not it matches.
-/

namespace Nothypridle

structure GlobalHooks where
  beforeSleep : Option String := none
  afterSleep : Option String := none
  lock : Option String := none
  unlock : Option String := none

inductive DbusHookEvent where
  | beforeSleep
  | afterSleep
  | lock
  | unlock
  deriving DecidableEq

def handleHookEvent (hooks : GlobalHooks) : DbusHookEvent → List String
  | .beforeSleep => hooks.beforeSleep.toList
  | .afterSleep => hooks.afterSleep.toList
  | .lock => hooks.lock.toList
  | .unlock => hooks.unlock.toList

inductive MessageType where
  | methodCall
  | methodReturn
  | error
  | signal
  deriving DecidableEq

/-- A message with the header fields that are read or routed by. `body` is what deserializing the
body as a `bool` answers. -/
structure Message where
  msgType : MessageType
  sender : Option String
  path : Option String
  interface : Option String
  member : Option String
  body : Except String Bool

def classifySignal (interface member : String) (msg : Message) : Option DbusHookEvent :=
  if interface = "org.freedesktop.login1.Manager" ∧ member = "PrepareForSleep" then
    match msg.body with
    | .ok active => some (if active then .beforeSleep else .afterSleep)
    | .error _ => none
  else if interface = "org.freedesktop.login1.Session" then
    if member = "Lock" then some .lock
    else if member = "Unlock" then some .unlock
    else none
  else none

def receive (hooks : GlobalHooks) : Except String Message → List String
  | .error _ => []
  | .ok msg =>
      let member := msg.member.getD ""
      let interface := msg.interface.getD ""
      match classifySignal interface member msg with
      | some event => handleHookEvent hooks event
      | none => []

/-! ### The bus -/

structure MatchRule where
  sender : String
  msgType : MessageType

def logindRule : MatchRule := { sender := "org.freedesktop.login1", msgType := .signal }

/-- A rule names its sender by a well-known name, a message by the unique name of its owner. -/
def MatchRule.Matches (rule : MatchRule) (owners : String → Option String) (msg : Message) : Prop :=
  msg.msgType = rule.msgType ∧ msg.sender ≠ none ∧ msg.sender = owners rule.sender

instance (rule : MatchRule) (owners : String → Option String) (msg : Message) :
    Decidable (rule.Matches owners msg) :=
  inferInstanceAs (Decidable (_ ∧ _))

inductive BusEvent where
  | nameOwnerChanged (name : String) (owner : Option String)
  | broadcast (msg : Message)
  | unicast (msg : Message)
  | streamError (err : String)

structure Listener where
  owners : String → Option String
  commands : List String

def Listener.step (hooks : GlobalHooks) (s : Listener) : BusEvent → Listener
  | .nameOwnerChanged name owner => { s with owners := Function.update s.owners name owner }
  | .broadcast msg =>
      if logindRule.Matches s.owners msg then
        { s with commands := s.commands ++ receive hooks (.ok msg) }
      else s
  | .unicast msg => { s with commands := s.commands ++ receive hooks (.ok msg) }
  | .streamError err => { s with commands := s.commands ++ receive hooks (.error err) }

def listen (hooks : GlobalHooks) (owners : String → Option String) (events : List BusEvent) :
    Listener :=
  events.foldl (Listener.step hooks) ⟨owners, []⟩

end Nothypridle
