import Nothypridle.Lib.Transition

/-!
# Simulations of partial labelled steps

A concrete system is simulated by an abstract one along a relation of their states: what a concrete
label translates to, where it is taken, is an abstract label or nothing, and the abstract system
follows with that step or stays. So a whole run of the concrete system is followed by the run of the
abstract one on the translated labels, and what is known of abstract runs is known of it.
-/

namespace Transition

variable {σ τ α β : Type*}

/-- The abstract labels of a run, each translated in the state in which its step is taken. -/
def translate (step : Step σ α) (label : σ → α → Option β) : σ → List α → List β
  | _, [] => []
  | s, a :: labels =>
      (label s a).toList ++ (step s a).elim [] fun next => translate step label next labels

variable {step : Step σ α} {label : σ → α → Option β}

@[simp]
theorem translate_nil (s : σ) : translate step label s [] = [] := rfl

theorem translate_cons_of_step {s next : σ} {a : α} {labels : List α}
    (hstep : step s a = some next) : translate step label s (a :: labels) =
      (label s a).toList ++ translate step label next labels := by
  rw [translate, hstep, Option.elim_some]

theorem mem_of_mem_translate {s : σ} {labels : List α} {b : β}
    (hmem : b ∈ translate step label s labels) : ∃ t, ∃ a ∈ labels, label t a = some b := by
  induction labels generalizing s with
  | nil => cases hmem
  | cons a labels ih =>
      rw [translate, List.mem_append, Option.mem_toList] at hmem
      rcases hmem with hhere | hlater
      · exact ⟨s, a, List.mem_cons_self, hhere⟩
      · cases hstep : step s a with
        | none =>
            rw [hstep] at hlater
            cases hlater
        | some next =>
            rw [hstep] at hlater
            obtain ⟨t, a', hmem, hlabel⟩ := ih hlater
            exact ⟨t, a', List.mem_cons_of_mem a hmem, hlabel⟩

theorem translate_eq_filterMap {f : α → Option β} (hlabel : ∀ s a, label s a = f a) {s s' : σ}
    {labels : List α} (hrun : Runs step s labels s') :
    translate step label s labels = labels.filterMap f := by
  induction labels generalizing s with
  | nil => rfl
  | cons a labels ih =>
      obtain ⟨next, hstep, hrest⟩ := runs_cons_iff.mp hrun
      rw [translate_cons_of_step hstep, ih hrest, hlabel, List.filterMap_cons]
      cases f a <;> rfl

/-- Every step that meets the guard is followed by the abstract system. -/
def Simulation (step : Step σ α) (guard : σ → α → Prop) (step' : Step τ β)
    (label : σ → α → Option β) (rel : σ → τ → Prop) : Prop :=
  ∀ s t a s', rel s t → guard s a → step s a = some s' →
    ∃ t', Runs step' t (label s a).toList t' ∧ rel s' t'

variable {guard : σ → α → Prop} {step' : Step τ β} {rel : σ → τ → Prop}

/-- **The simulation rule.** A guarded run is followed by the run on its translated labels. -/
theorem Simulation.runs (hsim : Simulation step guard step' label rel) {s s' : σ} {t : τ}
    {labels : List α} (hrun : Runs step s labels s') (halong : Along step guard s labels)
    (hrel : rel s t) :
    ∃ t', Runs step' t (translate step label s labels) t' ∧ rel s' t' := by
  induction labels generalizing s t with
  | nil =>
      obtain rfl := runs_nil_iff.mp hrun
      exact ⟨t, runs_nil_iff.mpr rfl, hrel⟩
  | cons a labels ih =>
      obtain ⟨next, hstep, hrest⟩ := runs_cons_iff.mp hrun
      obtain ⟨middle, hfirst, hmiddle⟩ := hsim s t a next hrel halong.1 hstep
      obtain ⟨t', hsecond, hrel'⟩ := ih hrest (halong.2 next hstep) hmiddle
      rw [translate_cons_of_step hstep]
      exact ⟨t', hfirst.append hsecond, hrel'⟩

/-- Where no step is excluded. -/
theorem Simulation.runs_of_unguarded (hsim : Simulation step (fun _ _ => True) step' label rel)
    {s s' : σ} {t : τ} {labels : List α} (hrun : Runs step s labels s') (hrel : rel s t) :
    ∃ t', Runs step' t (translate step label s labels) t' ∧ rel s' t' := by
  have halong : Along step (fun _ _ => True) s labels := along_of_labels fun _ _ => trivial
  exact hsim.runs hrun halong hrel

theorem Simulation.guarded (hsim : Simulation step (fun _ _ => True) step' label rel) :
    Simulation step guard step' label rel :=
  fun s t a s' hrel _ hstep => hsim s t a s' hrel trivial hstep

/-- **Simulations compose.** The second needs its guard only where the first has a label. -/
theorem Simulation.comp {υ γ : Type*} {step'' : Step υ γ} {guard' : τ → β → Prop}
    {label' : τ → β → Option γ} {label'' : σ → α → Option γ} {rel' : τ → υ → Prop}
    (hsim : Simulation step guard step' label rel)
    (hsim' : Simulation step' guard' step'' label' rel')
    (hguard : ∀ s t a s' b, rel s t → guard s a → step s a = some s' → label s a = some b →
      guard' t b)
    (hlabel : ∀ s t a, rel s t → label'' s a = (label s a).bind (label' t)) :
    Simulation step guard step'' label'' fun s u => ∃ t, rel s t ∧ rel' t u := by
  intro s u a s' hrel hmeets hstep
  obtain ⟨t, hst, htu⟩ := hrel
  obtain ⟨t', hruns, hst'⟩ := hsim s t a s' hst hmeets hstep
  rw [hlabel s t a hst]
  cases hb : label s a with
  | none =>
      rw [hb] at hruns
      obtain rfl := runs_nil_iff.mp hruns
      exact ⟨u, runs_nil_iff.mpr rfl, t, hst', htu⟩
  | some b =>
      rw [hb] at hruns
      obtain ⟨u', hruns', htu'⟩ := hsim' t u b t' htu (hguard s t a s' b hst hmeets hstep hb)
        (runs_singleton_iff.mp hruns)
      exact ⟨u', hruns', t', hst', htu'⟩

/-- A run is followed label by label where the labels correspond. -/
theorem runs_of_forall₂ {pair : α → β → Prop}
    (hsim : ∀ s t a b s', rel s t → pair a b → step s a = some s' →
      ∃ t', step' t b = some t' ∧ rel s' t')
    {s s' : σ} {t : τ} {labels : List α} {labels' : List β} (hrun : Runs step s labels s')
    (hpairs : List.Forall₂ pair labels labels') (hrel : rel s t) :
    ∃ t', Runs step' t labels' t' ∧ rel s' t' := by
  induction hpairs generalizing s t with
  | nil =>
      obtain rfl := runs_nil_iff.mp hrun
      exact ⟨t, runs_nil_iff.mpr rfl, hrel⟩
  | cons hpair hpairs ih =>
      obtain ⟨next, hstep, hrest⟩ := runs_cons_iff.mp hrun
      obtain ⟨middle, hstep', hmiddle⟩ := hsim s t _ _ next hrel hpair hstep
      obtain ⟨t', hrest', hrel'⟩ := ih hrest hmiddle
      exact ⟨t', runs_cons_iff.mpr ⟨middle, hstep', hrest'⟩, hrel'⟩

/-- **The rule for a follower of its own pace.** Where every step is followed by some labels, and
which ones may depend on both states, a run is followed by the labels of its steps. -/
theorem runs_of_follows {follows : α → List β → Prop}
    (hsim : ∀ s t a s', rel s t → step s a = some s' →
      ∃ part t', follows a part ∧ Runs step' t part t' ∧ rel s' t')
    {s s' : σ} {t : τ} {labels : List α} (hrun : Runs step s labels s') (hrel : rel s t) :
    ∃ parts t', List.Forall₂ follows labels parts ∧ Runs step' t parts.flatten t' ∧
      rel s' t' := by
  induction labels generalizing s t with
  | nil =>
      obtain rfl := runs_nil_iff.mp hrun
      exact ⟨[], t, .nil, runs_nil_iff.mpr rfl, hrel⟩
  | cons a labels ih =>
      obtain ⟨next, hstep, hrest⟩ := runs_cons_iff.mp hrun
      obtain ⟨part, middle, hpart, hfirst, hmiddle⟩ := hsim s t a next hrel hstep
      obtain ⟨parts, t', hparts, hsecond, hrel'⟩ := ih hrest hmiddle
      refine ⟨part :: parts, t', .cons hpart hparts, ?_, hrel'⟩
      rw [List.flatten_cons]
      exact hfirst.append hsecond

/-- What every step and its labels show alike, the runs show alike. -/
theorem filterMap_flatten_of_forall₂ {γ : Type*} {follows : α → List β → Prop} {f : α → Option γ}
    {g : β → Option γ} (hseen : ∀ a part, follows a part → part.filterMap g = [a].filterMap f)
    {labels : List α} {parts : List (List β)} (hparts : List.Forall₂ follows labels parts) :
    parts.flatten.filterMap g = labels.filterMap f := by
  induction hparts with
  | nil => rfl
  | cons hpart hparts ih =>
      rw [List.flatten_cons, List.filterMap_append, hseen _ _ hpart, ih, ← List.filterMap_append,
        List.singleton_append]

end Transition
