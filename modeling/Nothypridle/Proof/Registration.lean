import Nothypridle.Daemon
import Nothypridle.Fakes
import Mathlib.Data.List.Nodup

/-!
# Registering the rules

The loop goes over the rules once. After any number of them it has one notification for each that
has a timeout, in their order, and each notification has a rule of its own; a rule without one is
passed over and changes nothing for those after it. The milliseconds are computed without
wrap-around, so they keep the order of the timeouts.
-/

namespace Nothypridle

/-! ### Milliseconds -/

/-- The milliseconds of a timeout, as far as the protocol has them. -/
def millis (timeoutSecs : UInt32) : ℕ := min (1000 * timeoutSecs.toNat) (UInt32.size - 1)

theorem toNat_toMillis (timeoutSecs : UInt32) :
    (toMillis timeoutSecs).toNat = 1000 * timeoutSecs.toNat := by
  have hlt := timeoutSecs.toNat_lt
  have hthousand : (1000 : UInt64).toNat = 1000 := rfl
  rw [toMillis, Machine.toNat_saturatingMul, UInt32.toNat_toUInt64, hthousand, UInt64.size]
  omega

theorem toNat_clampMillis_toMillis (timeoutSecs : UInt32) :
    (clampMillis (toMillis timeoutSecs)).toNat = millis timeoutSecs := by
  rw [clampMillis, Machine.toNat_toUInt32_min, toNat_toMillis, millis]

theorem u32Max_lt_toMillis_iff (timeoutSecs : UInt32) :
    toMillis timeoutSecs > Machine.u32Max.toUInt64 ↔ UInt32.size ≤ 1000 * timeoutSecs.toNat := by
  have hmax : Machine.u32Max.toUInt64.toNat = UInt32.size - 1 := rfl
  rw [gt_iff_lt, UInt64.lt_iff_toNat_lt, toNat_toMillis, hmax, UInt32.size]
  omega

theorem millis_mono {a b : UInt32} (hle : a ≤ b) : millis a ≤ millis b := by
  have hnat := UInt32.le_iff_toNat_le.mp hle
  rw [millis, millis]
  omega

/-! ### The loop -/

/-- The rules that have a timeout. -/
def timedRules (config : RuleConfigSource) (ids : List String) : List (String × UInt32) :=
  ids.filterMap fun id => (config.timeout id).toOption.map fun timeoutSecs => (id, timeoutSecs)

theorem timedRules_append (config : RuleConfigSource) (ids ids' : List String) :
    timedRules config (ids ++ ids') = timedRules config ids ++ timedRules config ids' :=
  List.filterMap_append

theorem timeout_of_mem_timedRules {config : RuleConfigSource} {ids : List String}
    {rule : String × UInt32} (hmem : rule ∈ timedRules config ids) :
    config.timeout rule.1 = .ok rule.2 := by
  obtain ⟨id, hid, hrule⟩ := List.mem_filterMap.mp hmem
  cases htimeout : config.timeout id with
  | error err => simp [htimeout, Except.toOption] at hrule
  | ok timeoutSecs =>
      simp only [htimeout, Except.toOption, Option.map_some, Option.some.injEq] at hrule
      subst hrule
      exact htimeout

theorem map_fst_timedRules (config : RuleConfigSource) (ids : List String) :
    (timedRules config ids).map Prod.fst = ids.filter fun id => (config.timeout id).isOk := by
  rw [timedRules, List.map_filterMap, ← List.filterMap_eq_filter]
  congr 1
  funext id
  cases htimeout : config.timeout id with
  | error err => simp [Option.guard, htimeout, Except.toOption, Except.isOk, Except.toBool]
  | ok timeoutSecs => simp [Option.guard, htimeout, Except.toOption, Except.isOk, Except.toBool]

structure Registered (timed : List (String × UInt32)) (reg : Registration) : Prop where
  rules : reg.rules = timed.map fun rule => .new rule.1
  notifications : reg.notifications = timed.mapIdx fun k rule =>
    { timeoutMs := clampMillis (toMillis rule.2), rule := k }

theorem Registered.register {timed : List (String × UInt32)} {reg : Registration}
    (hreg : Registered timed reg) (config : RuleConfigSource) (id : String) :
    Registered (timed ++ timedRules config [id]) (register config reg id) := by
  rw [Nothypridle.register, timedRules]
  cases htimeout : config.timeout id with
  | error err =>
      -- A rule that is passed over leaves everything but the log as it was.
      simpa [htimeout, Except.toOption] using ⟨hreg.rules, hreg.notifications⟩
  | ok timeoutSecs =>
      simp only [List.filterMap_cons, htimeout, Except.toOption, Option.map_some,
        List.filterMap_nil]
      constructor
      · simp [Registration.getIdleNotification, Registration.warn, hreg.rules]
      · simp [Registration.getIdleNotification, Registration.warn, hreg.rules, hreg.notifications]

theorem registered (config : RuleConfigSource) (ids : List String) :
    Registered (timedRules config ids) (registerRules config ids) := by
  induction ids using List.reverseRecOn with
  | nil => exact ⟨rfl, rfl⟩
  | append_singleton ids id ih =>
      rw [timedRules_append, registerRules, List.foldl_append]
      exact ih.register config id

/-! ### The notifications -/

section

variable {timed : List (String × UInt32)} {reg : Registration} (hreg : Registered timed reg)

include hreg

theorem Registered.inOrder :
    reg.notifications.map (fun n => (reg.rules[n.rule]?, n.timeoutMs.toNat)) =
      timed.map fun rule => (some (.new rule.1), millis rule.2) := by
  rw [hreg.notifications, hreg.rules]
  apply List.ext_getElem?
  intro k
  simp only [List.getElem?_map, List.getElem?_mapIdx, Option.map_map]
  cases hrule : timed[k]? with
  | none => rfl
  | some rule => simp [hrule, toNat_clampMillis_toMillis]

theorem Registered.nodup : (reg.notifications.map ExtIdleNotification.rule).Nodup := by
  have hrange : reg.notifications.map ExtIdleNotification.rule = List.range timed.length := by
    rw [hreg.notifications, List.mapIdx_eq_zipIdx_map, List.map_map, List.range_eq_range']
    exact List.zipIdx_map_snd 0 timed
  rw [hrange]
  exact List.nodup_range

theorem Registered.fresh : ∀ rule ∈ reg.rules, rule.epoch = 0 ∧ rule.fired = false := by
  intro rule hmem
  rw [hreg.rules] at hmem
  obtain ⟨timedRule, _, rfl⟩ := List.mem_map.mp hmem
  exact ⟨rfl, rfl⟩

theorem Registered.countP_eq (id : String) :
    reg.notifications.countP (fun n => (reg.rules[n.rule]?).any fun rule => rule.id == id) =
      (timed.map Prod.fst).count id := by
  calc
    reg.notifications.countP (fun n => (reg.rules[n.rule]?).any fun rule => rule.id == id) =
        (reg.notifications.map fun n => (reg.rules[n.rule]?, n.timeoutMs.toNat)).countP
          fun n => n.1.any fun rule => rule.id == id := by
      rw [List.countP_map]
      rfl
    _ = (timed.map Prod.fst).count id := by
      rw [hreg.inOrder, List.countP_map, List.count, List.countP_map]
      rfl

/-- The milliseconds of a notification are those of the timeout of its rule. -/
theorem Registered.timeoutMs_eq {config : RuleConfigSource} {n : ExtIdleNotification} {id : String}
    {secs : UInt32} (hloaded : ∀ rule ∈ timed, config.timeout rule.1 = .ok rule.2)
    (hn : n ∈ reg.notifications) (hrule : reg.rules[n.rule]? = some (.new id))
    (htimeout : config.timeout id = .ok secs) : n.timeoutMs.toNat = millis secs := by
  have hmem : (reg.rules[n.rule]?, n.timeoutMs.toNat) ∈
      timed.map fun rule => (some (RuleRuntime.new rule.1), millis rule.2) := by
    rw [← hreg.inOrder]
    exact List.mem_map_of_mem hn
  obtain ⟨rule, hmem, heq⟩ := List.mem_map.mp hmem
  obtain ⟨hsame, hmillis⟩ := Prod.mk.inj heq
  rw [hrule, Option.some.injEq] at hsame
  have hid : rule.1 = id := congrArg RuleRuntime.id hsame
  have hsecs := hloaded rule hmem
  rw [hid, htimeout, Except.ok.injEq] at hsecs
  rw [← hmillis, hsecs]

end

/-! ### The law -/

/-- What the loop leaves for rules with different ids. -/
structure RegistersRules (config : RuleConfigSource) (ids : List String) (reg : Registration) :
    Prop where
  inOrder : reg.notifications.map (fun n => (reg.rules[n.rule]?, n.timeoutMs.toNat)) =
    (timedRules config ids).map fun rule => (some (.new rule.1), millis rule.2)
  own : (reg.notifications.map ExtIdleNotification.rule).Nodup
  fresh : ∀ rule ∈ reg.rules, rule.epoch = 0 ∧ rule.fired = false
  once : ∀ id, reg.notifications.countP (fun n =>
    (reg.rules[n.rule]?).any fun rule => rule.id == id) =
      if id ∈ ids ∧ (config.timeout id).isOk then 1 else 0
  monotone : ∀ n ∈ reg.notifications, ∀ n' ∈ reg.notifications, ∀ id id' secs secs',
    reg.rules[n.rule]? = some (.new id) → reg.rules[n'.rule]? = some (.new id') →
      config.timeout id = .ok secs → config.timeout id' = .ok secs' → secs ≤ secs' →
        n.timeoutMs ≤ n'.timeoutMs

/-- **Registration is complete, isolated and in order.** -/
theorem registerRules_complete (config : RuleConfigSource) {ids : List String}
    (hdistinct : ids.Nodup) : RegistersRules config ids (registerRules config ids) := by
  have hreg := registered config ids
  refine ⟨hreg.inOrder, hreg.nodup, hreg.fresh, ?_, ?_⟩
  · intro id
    rw [hreg.countP_eq, map_fst_timedRules, (hdistinct.filter _).count]
    simp only [List.mem_filter]
  · intro n hn n' hn' id id' secs secs' hrule hrule' htimeout htimeout' hle
    rw [UInt32.le_iff_toNat_le,
      hreg.timeoutMs_eq (fun _ => timeout_of_mem_timedRules) hn hrule htimeout,
      hreg.timeoutMs_eq (fun _ => timeout_of_mem_timedRules) hn' hrule' htimeout']
    exact millis_mono hle

/-- Rules of which one has no timeout and one has a timeout beyond the range of the protocol. -/
def mixedConfig : RuleConfigSource :=
  (loaderOf [("dim", lockRule "dim" "300"), ("torn", lockRule "torn" "5min"),
    ("lock", lockRule "lock" "4294968")]).source

theorem registerRules_complete_mixed :
    ["dim", "torn", "lock"].Nodup ∧
      RegistersRules mixedConfig ["dim", "torn", "lock"]
        (registerRules mixedConfig ["dim", "torn", "lock"]) ∧
      (registerRules mixedConfig ["dim", "torn", "lock"]).notifications.map
        ExtIdleNotification.timeoutMs = [300000, 4294967295] :=
  ⟨by decide, registerRules_complete mixedConfig (by decide), by decide +kernel⟩

/-! ### What follows -/

/-- The daemon starts with the rules that were registered. -/
theorem registerRules_rules {S : Type} (config : RuleConfigSource) (ids : List String)
    (monitor : S) :
    (registerRules config ids).rules =
      (Daemon.init monitor (ids.filter fun id => (config.timeout id).isOk)).rules := by
  rw [(registered config ids).rules, Daemon.init, ← map_fst_timedRules, List.map_map]
  rfl

/-- A rule that is passed over, or registered with fewer milliseconds than it asks for. -/
def isWarnedOf (config : RuleConfigSource) (id : String) : Bool :=
  (config.timeout id).toOption.all fun timeoutSecs => UInt32.size ≤ 1000 * timeoutSecs.toNat

theorem length_warnings_register (config : RuleConfigSource) (reg : Registration) (id : String) :
    (register config reg id).warnings.length =
      reg.warnings.length + if isWarnedOf config id then 1 else 0 := by
  rw [register, isWarnedOf]
  cases htimeout : config.timeout id with
  | error err => simp [Registration.warn, Except.toOption]
  | ok timeoutSecs =>
      by_cases hclamped : UInt32.size ≤ 1000 * timeoutSecs.toNat
      · simp [Registration.getIdleNotification, Registration.warn, Except.toOption,
          u32Max_lt_toMillis_iff, hclamped]
      · simp [Registration.getIdleNotification, Registration.warn, Except.toOption,
          u32Max_lt_toMillis_iff, hclamped]

/-- **Every deviation is logged**, once. -/
theorem length_warnings (config : RuleConfigSource) (ids : List String) :
    (registerRules config ids).warnings.length = ids.countP (isWarnedOf config) := by
  induction ids using List.reverseRecOn with
  | nil => rfl
  | append_singleton ids id ih =>
      rw [registerRules, List.foldl_append, List.countP_append, List.countP_singleton, ← ih]
      exact length_warnings_register config (registerRules config ids) id

end Nothypridle
