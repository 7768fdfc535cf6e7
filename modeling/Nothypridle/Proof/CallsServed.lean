import Nothypridle.Lib.Entries
import Nothypridle.Proof.Accounting

/-!
# No call is forgotten

Every call of the command runner has a thread of its own, which waits, has started its process or
has failed to. So once none waits, what has been started and what has failed to start is together
what the listener and the client have called, each call as often as it was made.
-/

namespace Nothypridle

open Entries (filterMap_set_perm)

namespace ShellThread

def waiting : ShellThread → Bool
  | spawned _ => true
  | _ => false

def startedText : ShellThread → Option String
  | started text => some text
  | _ => none

def failedText : ShellThread → Option String
  | failed text => some text
  | _ => none

end ShellThread

namespace ShellRunner

/-- The processes are those of the threads that have started one. -/
theorem processes_perm {labels : List Label} {s : State}
    (hrun : Transition.Runs step init labels s) :
    (s.processes.map Prod.snd).Perm (s.threads.filterMap ShellThread.startedText) := by
  have hpreserved : ∀ s label s',
      (s.processes.map Prod.snd).Perm (s.threads.filterMap ShellThread.startedText) →
      step s label = some s' →
      (s'.processes.map Prod.snd).Perm (s'.threads.filterMap ShellThread.startedText) := by
    intro s label s' hperm hstep
    cases move_of_step hstep with
    | run htext =>
        rw [List.filterMap_append]
        exact hperm.trans (List.Perm.of_eq (List.append_nil _).symm)
    | @start i text hget =>
        have hset := filterMap_set_perm ShellThread.startedText hget (.started text)
        simp only [ShellThread.startedText, Option.toList_none, List.append_nil] at hset
        rw [List.map_append]
        exact (hperm.append_right _).trans hset.symm
    | @startFails i text hget =>
        have hset := filterMap_set_perm ShellThread.startedText hget (.failed text)
        simp only [ShellThread.startedText, Option.toList_none, List.append_nil] at hset
        exact hperm.trans hset.symm
  exact Transition.Runs.invariant hpreserved hrun .nil

theorem texts_perm {threads : List ShellThread}
    (hserved : ∀ thread ∈ threads, thread.waiting = false) :
    (threads.filterMap ShellThread.startedText ++ threads.filterMap ShellThread.failedText).Perm
      (threads.map threadText) := by
  induction threads with
  | nil => exact .nil
  | cons thread threads ih =>
      have hrest := ih fun other hmem => hserved other (List.mem_cons_of_mem _ hmem)
      cases thread with
      | spawned text => cases hserved _ List.mem_cons_self
      | started text => exact hrest.cons text
      | failed text => exact List.perm_middle.trans (hrest.cons text)

end ShellRunner

namespace System

variable {S : Type} [ResourceSource S] {env : Environment S}

/-- **No call is forgotten.** In every run of the daemon, once no thread of the command runner waits
to be scheduled, the processes that have been started and those that could not be are those of the
calls, each call as often as it was made. -/
theorem calls_served {labels : List (Label S)} {s : State S} (hrun : RunsFrom env labels s)
    (hserved : ∀ thread ∈ s.shell.threads, thread.waiting = false) :
    ((s.shell.processes.map Prod.snd ++
        s.shell.threads.filterMap ShellThread.failedText).map some).Perm
      ((s.app.commands ++ clientCalls s.client).map shellText) := by
  obtain ⟨shellLabels, hshell, hcalls⟩ := hrun.assembled.shell
  have htexts := (ShellRunner.books hshell).texts
  have hstarted := ShellRunner.processes_perm hshell
  calc List.Perm _ ((s.shell.threads.filterMap ShellThread.startedText ++
          s.shell.threads.filterMap ShellThread.failedText).map some) :=
        (hstarted.append_right _).map some
    List.Perm _ ((s.shell.threads.map ShellRunner.threadText).map some) :=
        (ShellRunner.texts_perm hserved).map some
    _ = (recorded shellLabels).map shellText := by
        rw [List.map_map]
        exact htexts
    List.Perm _ ((s.app.commands ++ clientCalls s.client).map shellText) := hcalls.map shellText

theorem dim_calls_served :
    ∃ s : State FakeResourceSource,
      (s.shell.processes.map Prod.snd = ["hyprlock"]) ∧
      s.shell.threads.filterMap ShellThread.failedText = ["brightnessctl -s set 20%"] ∧
      ((s.shell.processes.map Prod.snd ++
          s.shell.threads.filterMap ShellThread.failedText).map some).Perm
        ((s.app.commands ++ clientCalls s.client).map shellText) := by
  obtain ⟨s, hrun⟩ := Transition.exists_runs (step dimEnvironment) dimBooted
    (comesUp ++ [.client (.idled 0), .client (.checker 0 0 .loadStart),
      .client (.checker 0 0 .poll), .client (.checker 0 0 .finalLoad),
      .client (.checker 0 0 .runOnTimeout), .app (.message (.ok App.lockSignal)), .start 1,
      .startFails 0]) (by decide +kernel)
  have hprocesses := hrun.observe (fun s => s.shell.processes.map Prod.snd)
    (by decide +kernel : _ = some ["hyprlock"])
  have hfailed := hrun.observe (fun s => s.shell.threads.filterMap ShellThread.failedText)
    (by decide +kernel : _ = some ["brightnessctl -s set 20%"])
  have hserved : ∀ thread ∈ s.shell.threads, thread.waiting = false := by
    have hall := hrun.observe (fun s => s.shell.threads.all fun thread => !thread.waiting)
      (by decide +kernel : _ = some true)
    simpa using hall
  exact ⟨s, hprocesses, hfailed, calls_served ⟨_, rfl, hrun⟩ hserved⟩

end System

end Nothypridle
