import Nothypridle.Helpers

/-!
# The order in which commands start

Between a call and the start of its process nothing is ordered: a thread that was spawned later may
be scheduled first. What the runner does keep is that a call starts at most one process, with its
own text, and that a call made after the earlier processes were started comes after them.
-/

namespace Nothypridle.ShellRunner

open Transition (Along Runs)

def StartsInOrder (s : State) : Prop := (s.processes.map Prod.fst).Pairwise (· < ·)

instance (s : State) : Decidable (StartsInOrder s) :=
  inferInstanceAs (Decidable (List.Pairwise _ _))

/-- A dimming and its restore, started the other way round. -/
theorem exists_reordered :
    ∃ s, Runs step init [.run "brightnessctl -s set 20%", .run "brightnessctl -r", .start 1,
        .start 0] s ∧
      s.processes = [(1, "brightnessctl -r"), (0, "brightnessctl -s set 20%")] ∧
      ¬StartsInOrder s :=
  ⟨_, rfl, rfl, by decide⟩

/-- A call is made only when the processes of the earlier calls have been started. -/
def CallsAfterStarts (s : State) : Label → Prop
  | .run _ => ∀ thread ∈ s.threads, ∀ text, thread ≠ .spawned text
  | _ => True

/-! ### What a step can do -/

inductive Move (s : State) : Label → State → Prop where
  | run {cmd text} (htext : shellText cmd = some text) :
      Move s (.run cmd) { s with threads := s.threads ++ [.spawned text] }
  | start {i text} (hget : s.threads[i]? = some (.spawned text)) :
      Move s (.start i)
        { threads := s.threads.set i (.started text), processes := s.processes ++ [(i, text)] }
  | startFails {i text} (hget : s.threads[i]? = some (.spawned text)) :
      Move s (.startFails i) { s with threads := s.threads.set i (.failed text) }

theorem move_of_step {s s' : State} {label : Label} (hstep : step s label = some s') :
    Move s label s' := by
  cases label with
  | run cmd =>
      simp only [step, Option.map_eq_some_iff] at hstep
      obtain ⟨text, htext, rfl⟩ := hstep
      exact .run htext
  | start i =>
      simp only [step] at hstep
      split at hstep
      · rename_i text hget
        obtain rfl := Option.some.inj hstep
        exact .start hget
      · cases hstep
  | startFails i =>
      simp only [step] at hstep
      split at hstep
      · rename_i text hget
        obtain rfl := Option.some.inj hstep
        exact .startFails hget
      · cases hstep

/-! ### What every run keeps -/

def threadText : ShellThread → String
  | .spawned text => text
  | .started text => text
  | .failed text => text

/-- The threads against the calls, and the processes against the threads. -/
structure Books (labels : List Label) (s : State) : Prop where
  texts : s.threads.map (fun thread => some (threadText thread)) = (recorded labels).map shellText
  process : ∀ i text, (i, text) ∈ s.processes ↔ s.threads[i]? = some (.started text)
  once : (s.processes.map Prod.fst).Nodup

theorem map_set_of_text_eq {threads : List ShellThread} {i : ℕ} {thread : ShellThread}
    (thread' : ShellThread) (hget : threads[i]? = some thread)
    (htext : threadText thread' = threadText thread) :
    (threads.set i thread').map (fun thread => some (threadText thread)) =
      threads.map fun thread => some (threadText thread) := by
  obtain ⟨hlt, rfl⟩ := List.getElem?_eq_some_iff.mp hget
  have hlt' : i < (threads.map fun thread => some (threadText thread)).length := by simpa using hlt
  rw [List.map_set, htext]
  simpa using List.set_getElem_self hlt'

theorem Books.step {labels : List Label} {s s' : State} {label : Label}
    (hbooks : Books labels s) (hmove : Move s label s') : Books (labels ++ [label]) s' := by
  obtain ⟨htexts, hprocess, honce⟩ := hbooks
  cases hmove with
  | @run cmd text hshell =>
      refine ⟨?_, ?_, honce⟩
      · simpa [recorded, Label.cmd, hshell, threadText] using htexts
      · intro i other
        rw [hprocess, List.getElem?_append]
        split
        · rfl
        · rename_i hge
          have hnone : s.threads[i]? = none := List.getElem?_eq_none (by omega)
          rw [hnone]
          cases i - s.threads.length <;> simp
  | @start i text hget =>
      have hlt : i < s.threads.length := (List.getElem?_eq_some_iff.mp hget).1
      have hfresh : ∀ other, (i, other) ∉ s.processes := by
        intro other hmem
        rw [hprocess, hget] at hmem
        cases hmem
      refine ⟨?_, ?_, ?_⟩
      · rw [map_set_of_text_eq (.started text) hget rfl]
        simpa [recorded, Label.cmd, List.filterMap_cons] using htexts
      · intro j other
        by_cases hij : i = j
        · subst hij
          simp [hfresh, List.getElem?_set_self hlt, eq_comm]
        · rw [List.getElem?_set_ne hij, ← hprocess]
          simp [Ne.symm hij]
      · rw [List.map_append, List.nodup_append]
        refine ⟨honce, by simp, fun j hj k hk => ?_⟩
        obtain ⟨⟨j, other⟩, hmem, rfl⟩ := List.mem_map.mp hj
        obtain rfl : k = i := by simpa using hk
        rintro rfl
        exact hfresh other hmem
  | @startFails i text hget =>
      have hlt : i < s.threads.length := (List.getElem?_eq_some_iff.mp hget).1
      refine ⟨?_, ?_, honce⟩
      · rw [map_set_of_text_eq (.failed text) hget rfl]
        simpa [recorded, Label.cmd, List.filterMap_cons] using htexts
      · intro j other
        rw [hprocess]
        by_cases hij : i = j
        · subst hij
          simp [hget, List.getElem?_set_self hlt]
        · rw [List.getElem?_set_ne hij]

theorem books {labels : List Label} {s : State} (hrun : Runs step init labels s) :
    Books labels s := by
  have hinit : Books [] init := ⟨rfl, by simp [init], by simp [init]⟩
  exact hrun.history_invariant (fun _ _ _ _ hbooks hstep => hbooks.step (move_of_step hstep)) []
    hinit

theorem Books.length_eq {labels : List Label} {s : State} (hbooks : Books labels s) :
    s.threads.length = (recorded labels).length := by
  simpa using congrArg List.length hbooks.texts

theorem processes_grow {s s' : State} {labels : List Label} (hrun : Runs step s labels s') :
    s.processes <+: s'.processes := by
  have hpreserved : ∀ t (label : Label) t', s.processes <+: t.processes →
      step t label = some t' → s.processes <+: t'.processes := by
    intro t label t' hgrown hstep
    cases move_of_step hstep with
    | run => exact hgrown
    | start => exact hgrown.trans (List.prefix_append _ _)
    | startFails => exact hgrown
  exact hrun.invariant hpreserved (List.prefix_refl _)

/-! ### Calls that wait -/

/-- With calls that wait, at most the newest call is pending, and everything started is older. -/
structure InOrder (s : State) : Prop where
  pending : ∀ (i : ℕ) text, s.threads[i]? = some (.spawned text) → i + 1 = s.threads.length
  below : ∀ process ∈ s.processes, s.threads[process.1]? = some (.started process.2)
  sorted : StartsInOrder s

theorem InOrder.ne_of_spawned {s : State} (horder : InOrder s) {i : ℕ} {text : String}
    (hget : s.threads[i]? = some (.spawned text)) : ∀ process ∈ s.processes, i ≠ process.1 := by
  intro process hmem heq
  subst heq
  rw [horder.below process hmem] at hget
  cases hget

/-- A thread that goes on leaves no call pending but those that were. -/
theorem InOrder.pending_set {s : State} (horder : InOrder s) {i j : ℕ} {thread : ShellThread}
    {other : String} (hthread : ∀ text, thread ≠ .spawned text)
    (hget : (s.threads.set i thread)[j]? = some (.spawned other)) : j + 1 = s.threads.length := by
  by_cases hij : i = j
  · subst hij
    rw [List.getElem?_set_self'] at hget
    obtain ⟨_, _, heq⟩ := Option.map_eq_some_iff.mp hget
    exact absurd heq (hthread other)
  · rw [List.getElem?_set_ne hij] at hget
    exact horder.pending j other hget

theorem InOrder.step {s s' : State} {label : Label} (horder : InOrder s)
    (hwaits : CallsAfterStarts s label) (hmove : Move s label s') : InOrder s' := by
  have hlt : ∀ process ∈ s.processes, process.1 < s.threads.length := fun process hmem =>
    (List.getElem?_eq_some_iff.mp (horder.below process hmem)).1
  cases hmove with
  | @run cmd text hshell =>
      refine ⟨?_, ?_, horder.sorted⟩
      · intro i other hget
        rw [List.getElem?_append] at hget
        split at hget
        · exact absurd rfl (hwaits _ (List.mem_of_getElem? hget) other)
        · have hone := (List.getElem?_eq_some_iff.mp hget).1
          simp only [List.length_singleton] at hone
          simp only [List.length_append, List.length_singleton]
          omega
      · intro process hmem
        rw [List.getElem?_append_left (hlt process hmem)]
        exact horder.below process hmem
  | @start i text hget =>
      have hi := horder.pending i text hget
      have hother := horder.ne_of_spawned hget
      refine ⟨?_, ?_, ?_⟩
      · intro j other hgetj
        rw [List.length_set]
        exact horder.pending_set (by simp) hgetj
      · intro process hmem
        rcases List.mem_append.mp hmem with hold | hnew
        · rw [List.getElem?_set_ne (hother process hold)]
          exact horder.below process hold
        · obtain rfl := List.mem_singleton.mp hnew
          exact List.getElem?_set_self (List.getElem?_eq_some_iff.mp hget).1
      · have hsorted := horder.sorted
        unfold StartsInOrder at hsorted ⊢
        rw [List.map_append, List.pairwise_append]
        refine ⟨hsorted, by simp, fun j hj k hk => ?_⟩
        obtain ⟨process, hmem, rfl⟩ := List.mem_map.mp hj
        obtain rfl : k = i := by simpa using hk
        have hlast := hlt process hmem
        have hne := hother process hmem
        omega
  | @startFails i text hget =>
      refine ⟨?_, ?_, horder.sorted⟩
      · intro j other hgetj
        rw [List.length_set]
        exact horder.pending_set (by simp) hgetj
      · intro process hmem
        rw [List.getElem?_set_ne (horder.ne_of_spawned hget process hmem)]
        exact horder.below process hmem

/-! ### The law -/

/-- What `ShellRunner` keeps of the order of the calls: every process has the text of its call; no
call starts two; all of them are started once no thread is left; the processes started before a call
stay in front of it; and calls that wait for the earlier ones are started in order. -/
structure Starts (labels : List Label) (s : State) : Prop where
  fromCall : ∀ i text, (i, text) ∈ s.processes →
    (recorded labels)[i]?.bind shellText = some text
  once : (s.processes.map Prod.fst).Nodup
  all : (∀ thread ∈ s.threads, ∃ text, thread = .started text) →
    (s.processes.map Prod.fst).Perm (List.range (recorded labels).length)
  kept : ∀ before after middle, labels = before ++ after → Runs step init before middle →
    middle.processes <+: s.processes ∧
      ∀ process ∈ middle.processes, process.1 < (recorded before).length
  inOrder : Along step CallsAfterStarts init labels → StartsInOrder s

/-- **The order of the starts**, in any run. -/
theorem starts {labels : List Label} {s : State} (hrun : Runs step init labels s) :
    Starts labels s := by
  have hbooks := books hrun
  refine ⟨?_, hbooks.once, ?_, ?_, ?_⟩
  · intro i text hmem
    have hthread := (hbooks.process i text).mp hmem
    have htext := congrArg (fun texts => texts[i]?) hbooks.texts
    simp only [List.getElem?_map, hthread, Option.map_some, threadText] at htext
    rw [Option.bind_eq_some_iff]
    exact Option.map_eq_some_iff.mp htext.symm
  · intro hall
    apply (List.perm_ext_iff_of_nodup hbooks.once List.nodup_range).mpr
    intro i
    rw [List.mem_range, ← hbooks.length_eq, List.mem_map]
    constructor
    · intro hsome
      obtain ⟨process, hmem, rfl⟩ := hsome
      exact (List.getElem?_eq_some_iff.mp ((hbooks.process _ _).mp hmem)).1
    · intro hlt
      obtain ⟨text, htext⟩ := hall _ (List.getElem_mem hlt)
      exact ⟨(i, text), (hbooks.process i text).mpr (List.getElem?_eq_some_iff.mpr ⟨hlt, htext⟩),
        rfl⟩
  · intro before after middle hlabels hbefore
    subst hlabels
    obtain ⟨middle', hbefore', hafter⟩ := Transition.runs_append_iff.mp hrun
    obtain rfl := hbefore'.deterministic hbefore
    have hbooks' := books hbefore
    refine ⟨processes_grow hafter, fun process hmem => ?_⟩
    rw [← hbooks'.length_eq]
    exact (List.getElem?_eq_some_iff.mp ((hbooks'.process _ _).mp hmem)).1
  · intro hwaits
    have hinit : InOrder init := ⟨by simp [init], by simp [init], List.Pairwise.nil⟩
    exact (hrun.guarded_invariant (fun _ _ _ horder hwaits hstep =>
      horder.step hwaits (move_of_step hstep)) hwaits hinit).sorted

theorem dim_then_restore_starts :
    ∃ s, Starts
      [.run "brightnessctl -s set 20%", .start 0, .run "brightnessctl -r", .start 1] s := by
  obtain ⟨s, hrun⟩ := Transition.exists_runs step init
    [.run "brightnessctl -s set 20%", .start 0, .run "brightnessctl -r", .start 1] rfl
  exact ⟨s, starts hrun⟩

end Nothypridle.ShellRunner
