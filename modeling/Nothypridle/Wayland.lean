import Nothypridle.Lib.Machine
import Nothypridle.Lib.Words
import Nothypridle.Monitor

/-!
# The Wayland client

How the client registers the rules before it dispatches, and what it does with the events of the
toplevel handles. The state of a toplevel arrives as an array of bytes that holds one 32-bit word
for every state it is in.
-/

namespace Nothypridle

/-! ### Registration -/

/-- What is asked of the compositor: the milliseconds, and the rule to be notified of, by its place
among the rules that were allocated. -/
structure ExtIdleNotification where
  timeoutMs : UInt32
  rule : ℕ

structure Registration where
  rules : List RuleRuntime
  notifications : List ExtIdleNotification
  warnings : List String

namespace Registration

def empty : Registration := ⟨[], [], []⟩

def warn (reg : Registration) (lines : List String) : Registration :=
  { reg with warnings := reg.warnings ++ lines }

def getIdleNotification (reg : Registration) (timeoutMs : UInt32) (rule : RuleRuntime) :
    Registration :=
  { reg with
    rules := reg.rules ++ [rule]
    notifications := reg.notifications ++ [{ timeoutMs, rule := reg.rules.length }] }

end Registration

def toMillis (timeoutSecs : UInt32) : UInt64 := Machine.saturatingMul timeoutSecs.toUInt64 1000

def clampMillis (timeoutMs : UInt64) : UInt32 := (min timeoutMs Machine.u32Max.toUInt64).toUInt32

def register (config : RuleConfigSource) (reg : Registration) (id : String) : Registration :=
  match config.timeout id with
  | .error err =>
      reg.warn
        [s!"Wayland: rule '{id}' has unparseable/missing 'timeout'; skipping: {err}"]
  | .ok timeoutSecs =>
      let timeoutMs := toMillis timeoutSecs
      let lines := if timeoutMs > Machine.u32Max.toUInt64 then
          [s!"Wayland: rule '{id}' timeout {timeoutSecs}s ({timeoutMs} ms) exceeds the u32 " ++
            s!"millisecond range; clamping to {Machine.u32Max} ms."]
        else []
      (reg.warn lines).getIdleNotification (clampMillis timeoutMs) (.new id)

def registerRules (config : RuleConfigSource) (ids : List String) : Registration :=
  ids.foldl (register config) .empty

/-! ### Toplevels -/

inductive ToplevelHandleEvent where
  | state (bytes : List UInt8)
  | closed
  | other
  deriving DecidableEq

def isFullscreen (bytes : List UInt8) : Bool :=
  let states := (Words.chunksExact 4 bytes).map fun c => UInt32.ofNat (Words.ofBytesLE c)
  states.contains 3

/-- `id` is that of the handle the event is for. -/
def handleToplevelEvent (fullscreenStates : Mutex FullscreenState) (id : ObjectId) :
    ToplevelHandleEvent → Mutex FullscreenState
  | .state bytes =>
      match fullscreenStates.lock with
      | .ok map => fullscreenStates.release (map.set id (isFullscreen bytes))
      | .error _ => fullscreenStates
  | .closed =>
      match fullscreenStates.lock with
      | .ok map => fullscreenStates.release (map.remove id)
      | .error _ => fullscreenStates
  | .other => fullscreenStates

end Nothypridle
