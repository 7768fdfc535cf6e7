import Nothypridle.Fakes

/-!
# Schema and loader

Between the schema and the loader the width of the floating-point fields does not matter, and the
signedness of the integer fields does: a value with a minus sign passes the schema and is refused by
the getter, which then skips the rule or one of its checks.
-/

namespace Nothypridle

def RequiredGettersOk (source : RuleConfigSource) (id : String) : Prop :=
  (source.timeout id).isOk ∧ (source.maxCpuUsage id).isOk ∧ (source.maxGpuUsage id).isOk ∧
    (source.minRamMb id).isOk ∧ (source.minVramMb id).isOk ∧ (source.musicPlaying id).isOk ∧
    (source.fullscreen id).isOk

/-- The file passes the schema, and its timeout is refused by the getter. -/
theorem negativeTimeout_accepted_and_refused :
    schemaAccepts permissiveAam ruleSchema (lockRule "lock" "-1") = true ∧
      ¬RequiredGettersOk (loaderOf [("lock", lockRule "lock" "-1")]).source "lock" := by
  refine ⟨by decide +kernel, ?_⟩
  intro hok
  exact absurd hok.1 (by decide +kernel)

def unsignedKeys : List String := ["timeout", "min_ram_mb", "min_vram_mb"]

/-! ### A required field -/

section

variable {aam : AamTypes} {content : RuleFile} (haccepts : schemaAccepts aam ruleSchema content)
include haccepts

theorem accepted_field (name : String) (type : AamType)
    (hfield : (⟨name, type, false⟩ : SchemaField) ∈ ruleSchema) :
    ∃ value, content name = some value ∧ aam.accepts type value := by
  have hall := List.all_eq_true.mp haccepts _ hfield
  unfold SchemaField.accepts at hall
  cases hvalue : content name with
  | none => simp [hvalue] at hall
  | some value => exact ⟨value, rfl, by simpa [hvalue] using hall⟩

theorem unsigned_isSome_iff (name : String)
    (hfield : (⟨name, .i32, false⟩ : SchemaField) ∈ ruleSchema) :
    ((content name).bind Text.parseU32).isSome ↔
      ∀ value, content name = some value → value.toList.head? ≠ some '-' := by
  obtain ⟨value, hvalue, haccepted⟩ := accepted_field haccepts name _ hfield
  rw [aam.accepts_i32] at haccepted
  simp [hvalue, Text.parseU32_isSome_iff_of_parseI32 haccepted]

theorem float_isSome (name : String)
    (hfield : (⟨name, .f64, false⟩ : SchemaField) ∈ ruleSchema) :
    ((content name).bind Text.parseF32).isSome := by
  obtain ⟨value, hvalue, haccepted⟩ := accepted_field haccepts name _ hfield
  rw [aam.accepts_f64, ← Text.parseF32_isSome] at haccepted
  simpa [hvalue] using haccepted

theorem bool_isSome (name : String)
    (hfield : (⟨name, .bool, false⟩ : SchemaField) ∈ ruleSchema) :
    ((content name).bind Text.parseBool).isSome := by
  obtain ⟨value, hvalue, haccepted⟩ := accepted_field haccepts name _ hfield
  rw [aam.accepts_bool] at haccepted
  simpa [hvalue] using haccepted

end

/-- **Schema and loader agree** on an accepted file exactly if none of the three unsigned fields is
written with a minus sign. -/
theorem requiredGettersOk_iff {aam : AamTypes} (loader : ListenerLoader) {id : String}
    {content : RuleFile} (hrule : loader.rules.lookup id = some content)
    (haccepts : schemaAccepts aam ruleSchema content) :
    RequiredGettersOk loader.source id ↔ ∀ key ∈ unsignedKeys, ∀ value,
      content key = some value → value.toList.head? ≠ some '-' := by
  have htimeout := unsigned_isSome_iff haccepts "timeout" (by simp [ruleSchema])
  have hram := unsigned_isSome_iff haccepts "min_ram_mb" (by simp [ruleSchema])
  have hvram := unsigned_isSome_iff haccepts "min_vram_mb" (by simp [ruleSchema])
  have hcpu := float_isSome haccepts "max_cpu_usage" (by simp [ruleSchema])
  have hgpu := float_isSome haccepts "max_gpu_usage" (by simp [ruleSchema])
  have hmusic := bool_isSome haccepts "music_playing" (by simp [ruleSchema])
  have hfullscreen := bool_isSome haccepts "fullscreen" (by simp [ruleSchema])
  rw [RequiredGettersOk, loader.timeout.isOk_iff hrule, loader.maxCpuUsage.isOk_iff hrule,
    loader.maxGpuUsage.isOk_iff hrule, loader.minRamMb.isOk_iff hrule,
    loader.minVramMb.isOk_iff hrule, loader.musicPlaying.isOk_iff hrule,
    loader.fullscreen.isOk_iff hrule, htimeout, hram, hvram]
  simp only [hcpu, hgpu, hmusic, hfullscreen, unsignedKeys, List.mem_cons, List.not_mem_nil,
    or_false, forall_eq_or_imp, forall_eq, true_and, and_true]

theorem lockRule_requiredGettersOk :
    RequiredGettersOk (loaderOf [("lock", lockRule "lock" "300")]).source "lock" := by
  apply (@requiredGettersOk_iff permissiveAam _ _ _ rfl (by decide +kernel)).mpr
  intro key hkey value hvalue
  simp only [unsignedKeys, List.mem_cons, List.not_mem_nil, or_false] at hkey
  rcases hkey with rfl | rfl | rfl <;> obtain rfl := Option.some.inj hvalue <;> decide

end Nothypridle
