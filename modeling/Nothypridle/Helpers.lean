import Nothypridle.Lib.Text
import Nothypridle.Lib.Transition

/-!
# Command runners

`ShellRunner` hands every command to a thread of its own, which starts `sh -c` on it when it is
scheduled; `RecordingRunner` stands in for it in the tests and takes the commands down as they come.
-/

namespace Nothypridle

/-- `none` where the slice would fall inside a character. -/
def stripSurroundingQuotes (s : String) : Option String :=
  let bytes := Text.bytes s
  let quoted (quote : Char) : Bool :=
    bytes.head? = some quote.toUInt8 && bytes.getLast? = some quote.toUInt8
  if bytes.length ≥ 2 && (quoted '"' || quoted '\'') then Text.slice s 1 (bytes.length - 1)
  else some s

def shellText (cmd : String) : Option String := stripSurroundingQuotes (Text.trim cmd)

/-! ### `ShellRunner` -/

inductive ShellThread where
  | spawned (text : String)
  | started (text : String)
  | failed (text : String)
  deriving DecidableEq

namespace ShellRunner

/-- The threads in the order of the calls, and the processes in the order in which they were
started, each with the number of its call. -/
structure State where
  threads : List ShellThread
  processes : List (Nat × String)

inductive Label where
  | run (cmd : String)
  | start (i : Nat)
  | startFails (i : Nat)

def init : State := ⟨[], []⟩

def step (s : State) : Label → Option State
  | .run cmd =>
      (shellText cmd).map fun text => { s with threads := s.threads ++ [.spawned text] }
  | .start i =>
      match s.threads[i]? with
      | some (.spawned text) =>
          some
            { threads := s.threads.set i (.started text)
              processes := s.processes ++ [(i, text)] }
      | _ => none
  | .startFails i =>
      match s.threads[i]? with
      | some (.spawned text) => some { s with threads := s.threads.set i (.failed text) }
      | _ => none

def Label.cmd : Label → Option String
  | .run cmd => some cmd
  | _ => none

end ShellRunner

/-! ### `RecordingRunner` -/

def recorded (labels : List ShellRunner.Label) : List String :=
  labels.filterMap ShellRunner.Label.cmd

end Nothypridle
