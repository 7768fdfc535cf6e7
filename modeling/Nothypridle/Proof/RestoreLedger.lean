import Mathlib.Data.Finset.Card
import Nothypridle.Fakes
import Nothypridle.Lib.Matching
import Nothypridle.Proof.Moves

/-!
# Every restore is owed to a checker

`on_resume` is paid for by the stores of the fired flag. The flag is read and cleared in two steps,
and stores may fall before, between and after them, so what a run still owes depends on where the
dispatcher stands: a flag that has been read but not cleared is one restore, a flag set again after
the clearing is another.
-/

namespace Nothypridle.IdleCycle

open Transition (Takes emitted)

variable {S : Type} [ResourceSource S] {config : RuleConfigSource} {options : IdleCheckOptions}
  {id : String}

def Label.isStore (label : Label S) : Bool := label.storingChecker.isSome

def firedCheckers (labels : List (Label S)) : Finset ℕ :=
  (labels.filterMap Label.storingChecker).toFinset

/-- The restores that the state can still make without another store. -/
def restoresOwed (s : State) : ℕ :=
  match s.dispatcher with
  | .waiting => s.rule.fired.toNat
  | .loadFired => s.rule.fired.toNat
  | .clearFired => 1
  | .runOnResume => 1 + s.rule.fired.toNat

/-! ### The balance -/

omit [ResourceSource S] in
theorem storingChecker_eq_some_iff {label : Label S} {k : ℕ} :
    label.storingChecker = some k ↔ label = .checker k .storeFired := by
  constructor
  · intro heq
    cases label with
    | checker j a =>
        cases a with
        | storeFired => exact congrArg (Label.checker · .storeFired) (Option.some.inj heq)
        | _ => cases heq
    | _ => cases heq
  · intro heq
    subst heq
    rfl

omit [ResourceSource S] in
theorem restoresOwed_step {s s' : State} {label : Label S} (hmove : Move config s label s') :
    [label].countP Label.isRunOnResume + restoresOwed s' ≤
      [label].countP Label.isStore + restoresOwed s := by
  cases hmove with
  | idled hwaiting => simp [Label.isRunOnResume, restoresOwed, hwaiting]
  | resumed hwaiting => simp [Label.isRunOnResume, restoresOwed, hwaiting]
  | loadFired hloading =>
      cases hfired : s.rule.fired <;> simp [Label.isRunOnResume, restoresOwed, hloading, hfired]
  | clearFired hclearing => simp [Label.isRunOnResume, restoresOwed, hclearing]
  | runOnResume hrunning =>
      simp [Label.isRunOnResume, restoresOwed, hrunning]
  | checker hget hmovek =>
      rcases hmovek.fired_cases with ⟨hnot, hfired⟩ | ⟨rfl, hfired⟩
      · simp [Label.isRunOnResume, restoresOwed, hfired]
      · have hone : s.rule.fired.toNat ≤ 1 := Bool.toNat_le _
        cases hat : s.dispatcher <;> simp [Label.isRunOnResume, Label.isStore,
          Label.storingChecker, restoresOwed, hat, hfired]
        all_goals omega

structure Ledger (labels : List (Label S)) (s : State) : Prop where
  balance : labels.countP Label.isRunOnResume + restoresOwed s ≤ labels.countP Label.isStore
  pending : ∀ (k : ℕ) res, s.checkers[k]? = some (.storeFired res) → res ≠ .abortedByUserResume
  returned : ∀ k, .checker k .storeFired ∈ labels →
    ∃ res, s.checkers[k]? = some (.returned res) ∧ res ≠ .abortedByUserResume
  once : (labels.filterMap Label.storingChecker).Nodup

omit [ResourceSource S] in
theorem Checker.pending_of_move {rule rule' : RuleRuntime} {checker checker' : Checker}
    {a : CheckerStep S} {commands : List String} {res : IdleCheckOutcome}
    (hmove : Checker.Move config rule checker a checker' rule' commands)
    (hpending : checker' = .storeFired res) : res ≠ .abortedByUserResume := by
  subst hpending
  cases hmove with
  | fire => simp
  | noCommand => simp
  | parseError => simp

omit [ResourceSource S] in
theorem Ledger.step {labels : List (Label S)} {s s' : State} {label : Label S}
    (hledger : Ledger labels s) (hmove : Move config s label s') :
    Ledger (labels ++ [label]) s' := by
  obtain ⟨hbalance, hpending, hreturned, honce⟩ := hledger
  refine ⟨?_, ?_, ?_, ?_⟩
  · have hstep := restoresOwed_step hmove
    rw [List.countP_append, List.countP_append]
    omega
  · intro k res hget'
    rcases hmove.backward hget' with ⟨hget, _⟩ | ⟨_, _, hnew⟩ | ⟨a, checker, _, _, _, hmovek⟩
    · exact hpending k res hget
    · cases hnew
    · exact Checker.pending_of_move hmovek rfl
  · intro k hmem
    simp only [List.mem_append, List.mem_singleton] at hmem
    rcases hmem with hmem | rfl
    · obtain ⟨res, hget, hres⟩ := hreturned k hmem
      rcases hmove.forward hget with ⟨hsame, _⟩ | ⟨a, checker', _, _, _, hmovek⟩
      · exact ⟨res, hsame, hres⟩
      · cases hmovek
    · cases hmove with
      | checker hget hmovek =>
          cases hmovek
          have hlt : k < s.checkers.length := (List.getElem?_eq_some_iff.mp hget).1
          exact ⟨_, List.getElem?_set_self hlt, hpending k _ hget⟩
  · rw [List.filterMap_append, List.nodup_append]
    refine ⟨honce, by cases hlabel : label.storingChecker <;> simp [hlabel], fun k hk j hj => ?_⟩
    intro heq
    subst heq
    -- A checker that stored has returned, and takes no further step.
    have hstored : .checker k .storeFired ∈ labels := by
      simpa [storingChecker_eq_some_iff] using hk
    have hlabel : label = .checker k .storeFired := by
      simpa [storingChecker_eq_some_iff] using hj
    obtain ⟨res, hget, _⟩ := hreturned k hstored
    rcases hmove.forward hget with ⟨_, hnot⟩ | ⟨a, checker', _, _, _, hmovek⟩
    · exact hnot _ hlabel
    · cases hmovek

theorem RunsFrom.ledger {labels : List (Label S)} {s : State}
    (hrun : RunsFrom config options id labels s) : Ledger labels s := by
  have hinit : Ledger ([] : List (Label S)) (init id) := by
    refine ⟨by simp [restoresOwed, init, RuleRuntime.new], ?_, by simp, by simp⟩
    simp [init]
  exact hrun.history_invariant hinit fun _ _ _ _ hledger hmove => hledger.step hmove

omit [ResourceSource S] in
theorem Ledger.card_firedCheckers {labels : List (Label S)} {s : State}
    (hledger : Ledger labels s) : (firedCheckers labels).card = labels.countP Label.isStore := by
  rw [firedCheckers, List.toFinset_card_of_nodup hledger.once, List.length_filterMap_eq_countP]
  rfl

/-! ### Between two clearings -/

def ClearsSetFlag (s : State) : Prop := s.dispatcher = .clearFired → s.rule.fired = true

omit [ResourceSource S] in
theorem fired_of_no_store {s s' : State} {label : Label S} (hmove : Move config s label s')
    (hnot : label.isStore = false) (hclear : s.rule.fired = false) : s'.rule.fired = false := by
  cases hmove with
  | clearFired => rfl
  | checker hget hmovek =>
      rcases hmovek.fired_cases with ⟨_, hfired⟩ | ⟨rfl, _⟩
      · exact hfired.trans hclear
      · cases hnot
  | _ => exact hclear

omit [ResourceSource S] in
theorem ClearsSetFlag.step {s s' : State} {label : Label S} (hset : ClearsSetFlag s)
    (hmove : Move config s label s') : ClearsSetFlag s' := by
  intro hclearing
  cases hmove with
  | idled hwaiting => simp [hwaiting] at hclearing
  | resumed => cases hclearing
  | loadFired => cases hfired : s.rule.fired <;> simp [hfired] at hclearing ⊢
  | clearFired => cases hclearing
  | runOnResume => cases hclearing
  | checker hget hmovek =>
      rcases hmovek.fired_cases with ⟨_, hfired⟩ | ⟨_, hfired⟩
      · exact hfired.trans (hset hclearing)
      · exact hfired

theorem RunsFrom.exists_store_between {before between after : List (Label S)} {s : State}
    (hrun : RunsFrom config options id
      (before ++ .clearFired :: (between ++ .clearFired :: after)) s) :
    ∃ k, .checker k .storeFired ∈ between := by
  obtain ⟨first, hbefore, hrest⟩ := hrun.split
  obtain ⟨cleared, hclear, hrest⟩ := Transition.runs_cons_iff.mp hrest
  obtain ⟨second, hbetween, hrest⟩ := Transition.runs_append_iff.mp hrest
  obtain ⟨cleared', hclear', _⟩ := Transition.runs_cons_iff.mp hrest
  by_contra hnone
  have hnot : ∀ label ∈ between, label.isStore = false := by
    intro label hmem
    rw [Label.isStore, Option.isSome_eq_false_iff, Option.isNone_iff_eq_none]
    by_contra hsome
    obtain ⟨k, hk⟩ := Option.ne_none_iff_exists'.mp hsome
    exact hnone ⟨k, storingChecker_eq_some_iff.mp hk ▸ hmem⟩
  have hfired : cleared.rule.fired = false := by
    cases move_of_step hclear with
    | clearFired => rfl
  have hstill : second.rule.fired = false :=
    hbetween.guarded_invariant (fun _ _ _ hclear hnot hstep =>
      fired_of_no_store (move_of_step hstep) hnot hclear) (Transition.along_of_labels hnot) hfired
  have hset : ClearsSetFlag second := by
    have hreach : RunsFrom config options id (before ++ .clearFired :: between) second :=
      hbefore.append (Transition.runs_cons_iff.mpr ⟨cleared, hclear, hbetween⟩)
    exact hreach.invariant (by simp [ClearsSetFlag, init]) fun _ _ _ hset hmove => hset.step hmove
  cases move_of_step hclear' with
  | clearFired hclearing => simp [hset hclearing] at hstill

/-! ### The law -/

/-- Every `on_resume` is matched to an earlier store of its own, made by a checker that did not
abort and that stores only once; no prefix runs more restores than checkers have fired in it; and a
store lies between any two clearings of the flag. The dispatch hands nothing to the runner but in
its calls of `on_resume`, and nothing but a store sets the flag. -/
structure RestoresMatched (config : RuleConfigSource) (options : IdleCheckOptions) (id : String)
    (labels : List (Label S)) (s : State) : Prop where
  matched : ∃ store : ℕ → ℕ, Set.InjOn store {i | labels[i]? = some .runOnResume} ∧
    ∀ i, labels[i]? = some .runOnResume → store i < i ∧
      ∃ k res, labels[store i]? = some (.checker k .storeFired) ∧
        s.checkers[k]? = some (.returned res) ∧ res ≠ .abortedByUserResume
  storedOnce : ∀ k, labels.countP (fun label => label.storingChecker == some k) ≤ 1
  atMostFired : ∀ before, before <+: labels →
    before.countP Label.isRunOnResume ≤ (firedCheckers before).card ∧
      (emitted (step config options) (handed config options Label.isDispatch) (init id)
        before).length ≤ (firedCheckers before).card
  storeBetween : ∀ before between after,
    labels = before ++ .clearFired :: (between ++ .clearFired :: after) →
      ∃ k, .checker k .storeFired ∈ between
  handing : ∀ before t label t', Takes (step config options) (init id) labels before t label t' →
    label.isDispatch = true → t'.commands ≠ t.commands → label = .runOnResume
  setting : ∀ before t label t', Takes (step config options) (init id) labels before t label t' →
    t'.rule.fired ≠ t.rule.fired → t'.rule.fired = true → ∃ k, label = .checker k .storeFired

/-- **No spurious and no duplicated restore**, in any run. -/
theorem RunsFrom.restoresMatched {labels : List (Label S)} {s : State}
    (hrun : RunsFrom config options id labels s) : RestoresMatched config options id labels s := by
  have hledgers : ∀ before, before <+: labels →
      ∃ middle, RunsFrom config options id before middle ∧ Ledger before middle := by
    rintro before ⟨after, rfl⟩
    obtain ⟨middle, hbefore, _⟩ := hrun.split
    exact ⟨middle, hbefore, hbefore.ledger⟩
  have hbalance : ∀ before, before <+: labels →
      before.countP Label.isRunOnResume ≤ before.countP Label.isStore := by
    intro before hbefore
    obtain ⟨middle, _, hledger⟩ := hledgers before hbefore
    have hbalance := hledger.balance
    omega
  have hledger := hrun.ledger
  have hat : ∀ i, Matching.At Label.isRunOnResume labels i ↔ labels[i]? = some .runOnResume := by
    intro i
    constructor
    · intro hsome
      obtain ⟨label, hget, hlabel⟩ := hsome
      cases label with
      | runOnResume => exact hget
      | _ => cases hlabel
    · intro hget
      exact ⟨_, hget, rfl⟩
  refine ⟨?_, ?_, ?_, ?_, ?_, ?_⟩
  · have hdisjoint : ∀ label : Label S, label.isRunOnResume = true → label.isStore = false := by
      intro label hlabel
      cases label with
      | runOnResume => rfl
      | _ => cases hlabel
    obtain ⟨store, hinj, hstore⟩ := Matching.exists_earlier_matching hdisjoint hbalance
    simp only [hat] at hinj hstore
    refine ⟨store, hinj, fun i hi => ?_⟩
    obtain ⟨hlt, label, hget, hlabel⟩ := hstore i hi
    obtain ⟨k, hk⟩ := Option.isSome_iff_exists.mp hlabel
    obtain rfl := storingChecker_eq_some_iff.mp hk
    obtain ⟨res, hreturned, hres⟩ := hledger.returned k (List.mem_of_getElem? hget)
    exact ⟨hlt, k, res, hget, hreturned, hres⟩
  · intro k
    rw [← List.count_filterMap]
    exact List.nodup_iff_count_le_one.mp hledger.once k
  · intro before hbefore
    obtain ⟨middle, hreach, hledger⟩ := hledgers before hbefore
    rw [hledger.card_firedCheckers]
    have hcounts := hbalance before hbefore
    refine ⟨hcounts, le_trans ?_ hcounts⟩
    rw [handed_dispatch hreach, List.length_flatten, List.map_replicate, List.sum_replicate_nat]
    exact (Nat.mul_le_mul_left _ (length_commandOf_le _)).trans_eq (Nat.mul_one _)
  · intro before between after hlabels
    subst hlabels
    exact hrun.exists_store_between
  · intro before t label t' htakes hdispatch hne
    exact eq_runOnResume_of_commands_ne hdispatch htakes.step hne
  · intro before t label t' htakes hne hset
    rw [fired_of_step htakes.step] at hne hset
    rcases label with _ | _ | _ | _ | _ | ⟨k, _ | _⟩ <;>
      simp_all [Label.writesFired]

theorem dim_restoresMatched :
    ∃ s, RestoresMatched (S := FakeResourceSource) dimConfig .default "dim"
      [.idled, .checker 0 .loadStart, .checker 0 quietPoll, .checker 0 .finalLoad,
        .checker 0 .runOnTimeout, .checker 0 .storeFired, .resumed, .loadFired, .clearFired,
        .runOnResume, .idled, .checker 1 .loadStart, .checker 1 quietPoll, .checker 1 .finalLoad,
        .checker 1 .runOnTimeout, .checker 1 .storeFired, .resumed, .loadFired, .clearFired,
        .runOnResume] s := by
  obtain ⟨s, hrun⟩ := Transition.exists_runs (step dimConfig .default) (init "dim")
    [.idled, .checker 0 .loadStart, .checker 0 quietPoll, .checker 0 .finalLoad,
      .checker 0 .runOnTimeout, .checker 0 .storeFired, .resumed, .loadFired, .clearFired,
      .runOnResume, .idled, .checker 1 .loadStart, .checker 1 quietPoll, .checker 1 .finalLoad,
      .checker 1 .runOnTimeout, .checker 1 .storeFired, .resumed, .loadFired, .clearFired,
      .runOnResume] (by decide +kernel)
  exact ⟨s, RunsFrom.restoresMatched hrun⟩

end Nothypridle.IdleCycle
