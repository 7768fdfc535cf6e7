import Mathlib.Data.List.Basic
import Mathlib.Data.Nat.Notation

/-!
# Runs of a partial labelled step

A system is a partial step function: a label is a scheduling choice, and a step that is not enabled
answers `none`. A run is a list of labels all of whose steps are enabled. Everything proved about
runs goes through three rules: an invariant may depend on the labels already taken
(`Runs.history_invariant`), it may be preserved only by steps that meet a guard (`Along`), and a
budget that a kind of label spends bounds how often that kind occurs (`Runs.countP_add_budget_le`).
-/

namespace Transition

variable {σ α : Type*}

/-- A partial step: `none` where the label is not enabled. -/
abbrev Step (σ α : Type*) := σ → α → Option σ

def exec (step : Step σ α) : σ → List α → Option σ
  | s, [] => some s
  | s, a :: labels => (step s a).bind fun next => exec step next labels

/-- The labels lead from `s` to `s'`, every one of them enabled where it is taken. -/
def Runs (step : Step σ α) (s : σ) (labels : List α) (s' : σ) : Prop :=
  exec step s labels = some s'

variable {step : Step σ α}

@[simp]
theorem runs_nil_iff {s s' : σ} : Runs step s [] s' ↔ s = s' := by
  simp [Runs, exec]

theorem runs_cons_iff {s s' : σ} {a : α} {labels : List α} :
    Runs step s (a :: labels) s' ↔ ∃ next, step s a = some next ∧ Runs step next labels s' := by
  simp [Runs, exec, Option.bind_eq_some_iff]

theorem runs_append_iff {s s' : σ} {first second : List α} :
    Runs step s (first ++ second) s' ↔
      ∃ middle, Runs step s first middle ∧ Runs step middle second s' := by
  induction first generalizing s with
  | nil => simp
  | cons a first ih =>
      simp only [List.cons_append, runs_cons_iff, ih]
      constructor
      · intro hrun
        obtain ⟨next, hstep, middle, hfirst, hsecond⟩ := hrun
        exact ⟨middle, ⟨next, hstep, hfirst⟩, hsecond⟩
      · intro hrun
        obtain ⟨middle, ⟨next, hstep, hfirst⟩, hsecond⟩ := hrun
        exact ⟨next, hstep, middle, hfirst, hsecond⟩

theorem runs_singleton_iff {s s' : σ} {a : α} : Runs step s [a] s' ↔ step s a = some s' := by
  simp [runs_cons_iff]

theorem runs_concat_iff {s s' : σ} {labels : List α} {a : α} :
    Runs step s (labels ++ [a]) s' ↔
      ∃ middle, Runs step s labels middle ∧ step middle a = some s' := by
  simp only [runs_append_iff, runs_singleton_iff]

theorem Runs.append {s middle s' : σ} {first second : List α}
    (hfirst : Runs step s first middle) (hsecond : Runs step middle second s') :
    Runs step s (first ++ second) s' :=
  runs_append_iff.mpr ⟨middle, hfirst, hsecond⟩

theorem Runs.deterministic {s t t' : σ} {labels : List α}
    (h : Runs step s labels t) (h' : Runs step s labels t') : t = t' :=
  Option.some.inj (h.symm.trans h')

theorem exists_runs (step : Step σ α) (s : σ) (labels : List α)
    (hsome : (exec step s labels).isSome) : ∃ s', Runs step s labels s' :=
  Option.isSome_iff_exists.mp hsome

theorem Runs.observe {β : Type*} {s s' : σ} {labels : List α} (hrun : Runs step s labels s')
    (f : σ → β) {b : β} (hread : (exec step s labels).map f = some b) : f s' = b := by
  rw [hrun] at hread
  exact Option.some.inj hread

/-! ### Guards

A law about the runs whose steps all meet a condition carries the condition as `Along`. -/

/-- Every step of the labels is taken from a state that meets the guard for its label. -/
def Along (step : Step σ α) (guard : σ → α → Prop) : σ → List α → Prop
  | _, [] => True
  | s, a :: labels => guard s a ∧ ∀ next, step s a = some next → Along step guard next labels

variable {guard : σ → α → Prop}

theorem along_append {s middle : σ} {first second : List α}
    (hrun : Runs step s first middle) (halong : Along step guard s (first ++ second)) :
    Along step guard s first ∧ Along step guard middle second := by
  induction first generalizing s with
  | nil =>
      obtain rfl := runs_nil_iff.mp hrun
      exact ⟨trivial, halong⟩
  | cons a first ih =>
      obtain ⟨next, hstep, hrest⟩ := runs_cons_iff.mp hrun
      obtain ⟨hguard, hnext⟩ := halong
      refine ⟨⟨hguard, ?_⟩, (ih hrest (hnext next hstep)).2⟩
      intro other hother
      obtain rfl : next = other := Option.some.inj (hstep.symm.trans hother)
      exact (ih hrest (hnext next hstep)).1

theorem along_cons_iff_of_step {s next : σ} {a : α} {labels : List α}
    (hstep : step s a = some next) :
    Along step guard s (a :: labels) ↔ guard s a ∧ Along step guard next labels := by
  constructor
  · exact fun ⟨hguard, hnext⟩ => ⟨hguard, hnext next hstep⟩
  · intro halong
    refine ⟨halong.1, ?_⟩
    intro other hother
    rw [Option.some.inj (hother.symm.trans hstep)]
    exact halong.2

instance decidableAlong [∀ s a, Decidable (guard s a)] :
    (s : σ) → (labels : List α) → Decidable (Along step guard s labels)
  | _, [] => isTrue trivial
  | s, a :: labels =>
      match hstep : step s a with
      | none => decidable_of_iff (guard s a) (by simp [Along, hstep])
      | some next =>
          have := decidableAlong next labels
          decidable_of_iff _ (along_cons_iff_of_step hstep).symm

theorem along_of_labels {allowed : α → Prop} {s : σ} {labels : List α}
    (hallowed : ∀ a ∈ labels, allowed a) : Along step (fun _ a => allowed a) s labels := by
  induction labels generalizing s with
  | nil => trivial
  | cons a labels ih =>
      obtain ⟨ha, htail⟩ := List.forall_mem_cons.mp hallowed
      exact ⟨ha, fun next _ => ih htail⟩

theorem Along.and {guard' : σ → α → Prop} {s : σ} {labels : List α}
    (halong : Along step guard s labels) (halong' : Along step guard' s labels) :
    Along step (fun s a => guard s a ∧ guard' s a) s labels := by
  induction labels generalizing s with
  | nil => trivial
  | cons a labels ih =>
      refine ⟨⟨halong.1, halong'.1⟩, ?_⟩
      intro next hstep
      exact ih (halong.2 next hstep) (halong'.2 next hstep)

theorem along_of_runs [∀ s a, Decidable (guard s a)] {s middle : σ} {first second : List α}
    (hrun : Runs step s first middle)
    (halong : (exec step s first).all fun t => decide (Along step guard t second)) :
    Along step guard middle second := by
  rw [hrun] at halong
  exact of_decide_eq_true halong

/-! ### Invariants -/

/-- **The invariant rule.** What holds of the labels taken so far and the state they lead to, and
is preserved by every guarded step, holds after every guarded run. -/
theorem Runs.guarded_history_invariant {inv : List α → σ → Prop}
    (hpreserved : ∀ history s a s', inv history s → guard s a → step s a = some s' →
      inv (history ++ [a]) s')
    (history : List α) {s s' : σ} {labels : List α} (hrun : Runs step s labels s')
    (halong : Along step guard s labels) (hinv : inv history s) : inv (history ++ labels) s' := by
  induction labels generalizing s history with
  | nil =>
      obtain rfl := runs_nil_iff.mp hrun
      simpa using hinv
  | cons a labels ih =>
      obtain ⟨next, hstep, hrest⟩ := runs_cons_iff.mp hrun
      have hnext := hpreserved history s a next hinv halong.1 hstep
      simpa using ih _ hrest (halong.2 next hstep) hnext

theorem Runs.history_invariant {inv : List α → σ → Prop}
    (hpreserved : ∀ history s a s', inv history s → step s a = some s' → inv (history ++ [a]) s')
    (history : List α) {s s' : σ} {labels : List α} (hrun : Runs step s labels s')
    (hinv : inv history s) : inv (history ++ labels) s' := by
  have halong : Along step (fun _ _ => True) s labels := along_of_labels fun _ _ => trivial
  exact hrun.guarded_history_invariant
    (fun history s a s' hs _ hstep => hpreserved history s a s' hs hstep) history halong hinv

theorem Runs.guarded_invariant {inv : σ → Prop}
    (hpreserved : ∀ s a s', inv s → guard s a → step s a = some s' → inv s')
    {s s' : σ} {labels : List α} (hrun : Runs step s labels s')
    (halong : Along step guard s labels) (hinv : inv s) : inv s' :=
  hrun.guarded_history_invariant (fun _ => hpreserved) [] halong hinv

theorem Runs.invariant {inv : σ → Prop}
    (hpreserved : ∀ s a s', inv s → step s a = some s' → inv s')
    {s s' : σ} {labels : List α} (hrun : Runs step s labels s') (hinv : inv s) : inv s' :=
  hrun.history_invariant (fun _ => hpreserved) [] hinv

/-- **The budget rule.** Where a step spends what its label costs, the labels of a run that cost
something number at most the budget the run started with. -/
theorem Runs.countP_add_budget_le {inv : σ → Prop} {spends : α → Bool} {budget : σ → ℕ}
    (hpreserved : ∀ s a s', inv s → guard s a → step s a = some s' →
      inv s' ∧ [a].countP spends + budget s' ≤ budget s)
    {s s' : σ} {labels : List α} (hrun : Runs step s labels s')
    (halong : Along step guard s labels) (hinv : inv s) :
    labels.countP spends + budget s' ≤ budget s := by
  induction labels generalizing s with
  | nil =>
      obtain rfl := runs_nil_iff.mp hrun
      simp
  | cons a labels ih =>
      obtain ⟨next, hstep, hrest⟩ := runs_cons_iff.mp hrun
      obtain ⟨hnext, hspent⟩ := hpreserved s a next hinv halong.1 hstep
      have htail := ih hrest (halong.2 next hstep) hnext
      rw [← List.singleton_append, List.countP_append]
      omega

/-! ### The steps of a run, and what they put out -/

/-- The labels `before` of a run are taken, and then the step from `t` to `t'`. -/
structure Takes (step : Step σ α) (s : σ) (labels before : List α) (t : σ) (a : α) (t' : σ) :
    Prop where
  split : before ++ [a] <+: labels
  runs : Runs step s before t
  step : step t a = some t'

theorem Takes.mem {s t t' : σ} {labels before : List α} {a : α}
    (htakes : Takes step s labels before t a t') : a ∈ labels :=
  htakes.split.subset (by simp)

theorem Takes.of_runs {s s' : σ} {before after : List α} {a : α}
    (hrun : Runs step s (before ++ a :: after) s') :
    ∃ t t', Takes step s (before ++ a :: after) before t a t' ∧ Runs step t' after s' := by
  obtain ⟨t, hbefore, hrest⟩ := runs_append_iff.mp hrun
  obtain ⟨t', hstep, hafter⟩ := runs_cons_iff.mp hrest
  exact ⟨t, t', ⟨⟨after, by simp⟩, hbefore, hstep⟩, hafter⟩

/-- What the steps of the labels put out, one after another. -/
def emitted {β : Type*} (step : Step σ α) (out : σ → α → List β) : σ → List α → List β
  | _, [] => []
  | s, a :: labels => out s a ++ (step s a).elim [] fun next => emitted step out next labels

/-- Where the steps of a kind all put out the same and no other step puts out anything, a run puts
it out as often as it takes such a step. -/
theorem Runs.emitted_eq_replicate {β : Type*} {inv : σ → Prop} {out : σ → α → List β}
    {kind : α → Bool} {part : List β} (hpreserved : ∀ s a s', inv s → step s a = some s' → inv s')
    (hout : ∀ s a s', inv s → step s a = some s' → out s a = if kind a then part else [])
    {s s' : σ} {labels : List α} (hrun : Runs step s labels s') (hinv : inv s) :
    emitted step out s labels = (List.replicate (labels.countP kind) part).flatten := by
  induction labels generalizing s with
  | nil => rfl
  | cons a labels ih =>
      obtain ⟨next, hstep, hrest⟩ := runs_cons_iff.mp hrun
      rw [emitted, hstep, Option.elim_some, hout s a next hinv hstep,
        ih hrest (hpreserved s a next hinv hstep), List.countP_cons]
      cases kind a <;> simp [List.replicate_succ]

/-! ### What can still happen -/

def CanReach (step : Step σ α) (goal : σ → Prop) (s : σ) : Prop :=
  ∃ labels s', Runs step s labels s' ∧ goal s'

variable {goal : σ → Prop}

theorem CanReach.done {s : σ} (hgoal : goal s) : CanReach step goal s :=
  ⟨[], s, runs_nil_iff.mpr rfl, hgoal⟩

theorem CanReach.of_step {s next : σ} {a : α} (hstep : step s a = some next)
    (hnext : CanReach step goal next) : CanReach step goal s := by
  obtain ⟨labels, s', hrun, hgoal⟩ := hnext
  exact ⟨a :: labels, s', runs_cons_iff.mpr ⟨next, hstep, hrun⟩, hgoal⟩

/-! ### Coming to rest -/

/-- The prompt steps use work up, and there is one as long as there is work left. -/
structure Settles (step : Step σ α) (prompt : α → Prop) (inv : σ → Prop) (work : σ → ℕ) : Prop where
  preserves : ∀ s a s', inv s → prompt a → step s a = some s' → inv s'
  uses : ∀ s a s', inv s → prompt a → step s a = some s' → work s' < work s
  enabled : ∀ s, inv s → 0 < work s → ∃ a s', prompt a ∧ step s a = some s'

variable {prompt : α → Prop} {inv : σ → Prop} {work : σ → ℕ}

/-- **The rest rule.** Prompt steps run out, and only where no work is left. -/
theorem Settles.runs (hsettles : Settles step prompt inv work) {s s' : σ} {labels : List α}
    (hrun : Runs step s labels s') (hprompt : ∀ a ∈ labels, prompt a) (hinv : inv s) :
    labels.length + work s' ≤ work s ∧
      ((∀ a s'', prompt a → step s' a ≠ some s'') → work s' = 0) := by
  induction labels generalizing s with
  | nil =>
      obtain rfl := runs_nil_iff.mp hrun
      refine ⟨by simp, ?_⟩
      intro hnone
      by_contra hwork
      obtain ⟨a, s', ha, hstep⟩ := hsettles.enabled s hinv (Nat.pos_of_ne_zero hwork)
      exact hnone a s' ha hstep
  | cons a labels ih =>
      obtain ⟨next, hstep, hrest⟩ := runs_cons_iff.mp hrun
      have ha := hprompt a List.mem_cons_self
      have hused := hsettles.uses s a next hinv ha hstep
      obtain ⟨hlength, hdone⟩ := ih hrest (fun b hb => hprompt b (List.mem_cons_of_mem a hb))
        (hsettles.preserves s a next hinv ha hstep)
      refine ⟨?_, hdone⟩
      rw [List.length_cons]
      omega

/-! ### First arrivals -/

/-- The labels lead from `s` to `s'`, which is the first state from `s` on that meets the goal. -/
structure FirstReaches (step : Step σ α) (goal : σ → Prop) (s : σ) (labels : List α) (s' : σ) :
    Prop where
  runs : Runs step s labels s'
  arrived : goal s'
  before : Along step (fun s _ => ¬goal s) s labels

end Transition
