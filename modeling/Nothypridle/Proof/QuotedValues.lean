import Nothypridle.Fakes
import Nothypridle.Proof.Inhibit
import Nothypridle.Proof.ShellText
import Nothypridle.Resources
import Mathlib.Logic.Function.Basic

/-!
# Quoted values

A value that is written in quotes is stored with them. The shell runner takes them off again, the
process check and the player check compare with them; so the two ways of writing a value agree
exactly where the check that reads it is not what decides the poll, or finds the same either way.
-/

namespace Nothypridle

/-- A value without white space or quotes at its ends. -/
structure BareValue where
  text : String
  head : ∀ c ∈ text.toList.head?, Text.isWhitespace c = false ∧ c ≠ '"' ∧ c ≠ '\''
  last : ∀ c ∈ text.toList.getLast?, Text.isWhitespace c = false ∧ c ≠ '"' ∧ c ≠ '\''

def quoted (text : String) : String := String.ofList ('"' :: text.toList ++ ['"'])

/-- The string fields of a rule; of a list field, one element between its neighbours. -/
inductive StringField where
  | onTimeout
  | onResume
  | musicProcessName
  | keepAliveProcesses (before after : List String)

/-- The configuration in which the rule has `text` written in that field. -/
def StringField.write (config : RuleConfigSource) (id text : String) :
    StringField → RuleConfigSource
  | onTimeout => { config with onTimeout := Function.update config.onTimeout id (.ok (some text)) }
  | onResume => { config with onResume := Function.update config.onResume id (.ok (some text)) }
  | musicProcessName =>
      { config with
        musicProcessName := Function.update config.musicProcessName id (.ok (some text)) }
  | keepAliveProcesses before after =>
      { config with
        keepAliveProcesses :=
          Function.update config.keepAliveProcesses id (.ok (before ++ text :: after)) }

def shellTexts (command : String → Except String (Option String)) (id : String) :
    Except String (Option (Option String)) :=
  (command id).map fun cmd => cmd.map shellText

/-- The polls of the rule answer the same, and its commands reach `sh` as the same texts. -/
structure SameBehaviour (config config' : RuleConfigSource)
    (resourceMonitor : Mutex ResourceMonitor) (fullscreen : Mutex FullscreenState)
    (rule : RuleRuntime) : Prop where
  inhibited : (shouldInhibit config resourceMonitor fullscreen rule).inhibited =
    (shouldInhibit config' resourceMonitor fullscreen rule).inhibited
  onTimeout : shellTexts config.onTimeout rule.id = shellTexts config'.onTimeout rule.id
  onResume : shellTexts config.onResume rule.id = shellTexts config'.onResume rule.id

/-! ### The shell -/

theorem shellText_bare (value : BareValue) : shellText value.text = some value.text := by
  rw [shellText,
    Text.trim_eq_self (fun c hc => (value.head c hc).1) fun c hc => (value.last c hc).1]
  apply stripSurroundingQuotes_of_not_surrounds
  intro quote body hsurrounds
  have hhead : quote.char ∈ value.text.toList.head? := by
    rw [show value.text.toList = _ from hsurrounds]
    rfl
  obtain ⟨_, hdouble, hsingle⟩ := value.head _ hhead
  cases quote with
  | double => exact hdouble rfl
  | single => exact hsingle rfl

theorem shellText_quoted (text : String) : shellText (quoted text) = some text := by
  have hsurrounds : Quote.double.Surrounds text.toList (quoted text) := String.toList_ofList
  have hspace : ∀ c, some '"' = some c → Text.isWhitespace c = false := by
    intro c hc
    obtain rfl := Option.some.inj hc
    decide
  have htrim : Text.trim (quoted text) = quoted text := by
    apply Text.trim_eq_self
    · rw [quoted, String.toList_ofList]
      exact hspace
    · rw [quoted, String.toList_ofList, List.getLast?_append]
      exact hspace
  rw [shellText, htrim, stripSurroundingQuotes_of_surrounds hsurrounds, String.ofList_toList]

/-! ### The checks -/

/-- The check that compares with the field. -/
def StringField.ReadBy : StringField → Check → Prop
  | musicProcessName, .music => True
  | keepAliveProcesses _ _, .keepAlive => True
  | _, _ => False

def PlaysAs (finder : PlayerFinder) (name : String) : Prop :=
  ∃ players player, finder.iterPlayers = .ok players ∧ .ok player ∈ players ∧
    player.isRunning = true ∧ player.isPlaying = true ∧
    finder.toLowercase player.identity = finder.toLowercase name

/-- What the check that reads the field finds when `text` is written there. -/
def StringField.Matches (config : RuleConfigSource) (id : String) (source : ResourceMonitor)
    (text : String) : StringField → Prop
  | onTimeout => False
  | onResume => False
  | musicProcessName => config.musicPlaying id = .ok true ∧ PlaysAs source.finder text
  | keepAliveProcesses before after => ∃ target ∈ before ++ text :: after,
      ∃ process ∈ source.sys.processNames, target.toList <:+: process.toList

/-- The field does not count: the poll makes no checks, or one that does not read it inhibits. -/
def StringField.Overruled (config : RuleConfigSource) (resourceMonitor : Mutex ResourceMonitor)
    (fullscreen : Mutex FullscreenState) (id : String) (field : StringField) : Prop :=
  resourceMonitor.poisoned = true ∨ ∃ check : Check, ¬field.ReadBy check ∧
    check.Holds config id (ResourceSource.update resourceMonitor.data)
      (ResourceSource.update resourceMonitor.data) (visible fullscreen)

theorem isAudioPlaying_iff {finder : PlayerFinder} {name : String} :
    isAudioPlaying finder name = true ↔ PlaysAs finder name := by
  unfold isAudioPlaying PlaysAs
  cases finder.iterPlayers with
  | error err => simp
  | ok players =>
      simp only [List.any_eq_true, List.mem_filterMap, Bool.and_eq_true, beq_iff_eq]
      constructor
      · intro hany
        obtain ⟨player, ⟨answer, hmem, hanswer⟩, ⟨hrunning, hname⟩, hplaying⟩ := hany
        cases answer with
        | error err => cases hanswer
        | ok found =>
            obtain rfl := Option.some.inj hanswer
            exact ⟨players, found, rfl, hmem, hrunning, hplaying, hname⟩
      · intro hplays
        obtain ⟨_, player, hplayers, hmem, hrunning, hplaying, hname⟩ := hplays
        obtain rfl := Except.ok.inj hplayers
        exact ⟨player, ⟨.ok player, hmem, rfl⟩, ⟨hrunning, hname⟩, hplaying⟩

theorem checkAnyProcessRunning_iff {source : ResourceMonitor} {targets : List String} :
    source.checkAnyProcessRunning targets = true ↔
      ∃ target ∈ targets, ∃ process ∈ source.sys.processNames,
        target.toList <:+: process.toList := by
  rw [ResourceMonitor.checkAnyProcessRunning]
  cases targets with
  | nil => simp
  | cons target targets =>
      simp only [List.isEmpty_cons, Bool.false_eq_true, if_false, List.any_eq_true, Text.contains,
        decide_eq_true_eq]
      constructor
      · intro hany
        obtain ⟨process, hprocess, found, hfound, hinfix⟩ := hany
        exact ⟨found, hfound, process, hprocess, hinfix⟩
      · intro hany
        obtain ⟨found, hfound, process, hprocess, hinfix⟩ := hany
        exact ⟨process, hprocess, found, hfound, hinfix⟩

theorem afterProcessCheck_resourceMonitor (config : RuleConfigSource) (id : String)
    (source : ResourceMonitor) : afterProcessCheck config id source = source := by
  unfold afterProcessCheck
  split <;> rfl

section

variable {config : RuleConfigSource} {id text : String} {source : ResourceMonitor}
  {states : FullscreenState} {field : StringField} {check : Check}

theorem StringField.holds_write_iff (hread : ¬field.ReadBy check) :
    check.Holds (field.write config id text) id source source states ↔
      check.Holds config id source source states := by
  apply Check.holds_congr
  intro setting hsetting
  subst hsetting
  cases field <;> cases setting <;> first | rfl | exact absurd trivial hread

theorem StringField.holds_write_iff_matches (hread : field.ReadBy check) :
    check.Holds (field.write config id text) id source source states ↔
      field.Matches config id source text := by
  cases field <;> cases check <;> try exact hread.elim
  case musicProcessName.music =>
    simp only [Check.Holds, write, Matches, Function.update_self, Except.ok.injEq,
      Option.some.injEq, exists_eq_left', reduceCtorEq, false_and, or_false]
    exact and_congr_right fun _ => isAudioPlaying_iff
  case keepAliveProcesses.keepAlive before after =>
    simp only [Check.Holds, write, Matches, Function.update_self, Except.ok.injEq,
      exists_eq_left']
    rw [and_iff_right (by simp)]
    exact checkAnyProcessRunning_iff

theorem StringField.exists_readBy (hmatches : field.Matches config id source text) :
    ∃ check, field.ReadBy check := by
  cases field with
  | onTimeout => exact hmatches.elim
  | onResume => exact hmatches.elim
  | musicProcessName => exact ⟨.music, trivial⟩
  | keepAliveProcesses before after => exact ⟨.keepAlive, trivial⟩

theorem StringField.exists_holds_write_iff :
    (∃ check : Check, check.Holds (field.write config id text) id source source states) ↔
      (∃ check : Check, ¬field.ReadBy check ∧ check.Holds config id source source states) ∨
        field.Matches config id source text := by
  constructor
  · intro hsome
    obtain ⟨check, hholds⟩ := hsome
    by_cases hread : field.ReadBy check
    · exact .inr ((holds_write_iff_matches hread).mp hholds)
    · exact .inl ⟨check, hread, (holds_write_iff hread).mp hholds⟩
  · intro hcases
    rcases hcases with ⟨check, hread, hholds⟩ | hmatches
    · exact ⟨check, (holds_write_iff hread).mpr hholds⟩
    · obtain ⟨check, hread⟩ := exists_readBy hmatches
      exact ⟨check, (holds_write_iff_matches hread).mpr hmatches⟩

end

/-! ### Both ways of writing a value -/

theorem StringField.inhibited_eq_iff (config : RuleConfigSource)
    (resourceMonitor : Mutex ResourceMonitor) (fullscreen : Mutex FullscreenState)
    (rule : RuleRuntime) (field : StringField) (text text' : String) :
    (shouldInhibit (field.write config rule.id text) resourceMonitor fullscreen rule).inhibited =
        (shouldInhibit (field.write config rule.id text') resourceMonitor fullscreen
          rule).inhibited ↔
      field.Overruled config resourceMonitor fullscreen rule.id ∨
        (field.Matches config rule.id (ResourceSource.update resourceMonitor.data) text ↔
          field.Matches config rule.id (ResourceSource.update resourceMonitor.data) text') := by
  cases hpoisoned : resourceMonitor.poisoned with
  | true =>
      have hlock := Mutex.lock_of_poisoned hpoisoned
      rw [shouldInhibit_of_poisoned hlock, shouldInhibit_of_poisoned hlock]
      exact iff_of_true rfl (.inl (.inl hpoisoned))
  | false =>
      have hlock := Mutex.lock_of_healthy hpoisoned
      rw [Bool.eq_iff_iff, shouldInhibit_iff_of_lock hlock, shouldInhibit_iff_of_lock hlock]
      simp only [afterProcessCheck_resourceMonitor, exists_holds_write_iff, Overruled, hpoisoned,
        Bool.false_eq_true, false_or]
      by_cases helsewhere : ∃ check : Check, ¬field.ReadBy check ∧
          check.Holds config rule.id (ResourceSource.update resourceMonitor.data)
            (ResourceSource.update resourceMonitor.data) (visible fullscreen)
      · simp only [helsewhere, true_or]
      · simp only [helsewhere, false_or]

theorem shellTexts_update (command : String → Except String (Option String)) (id : String)
    (value : BareValue) :
    shellTexts (Function.update command id (.ok (some value.text))) id =
      shellTexts (Function.update command id (.ok (some (quoted value.text)))) id := by
  simp only [shellTexts, Function.update_self, Except.map, Option.map_some, shellText_bare,
    shellText_quoted]

theorem StringField.shellTexts_write (config : RuleConfigSource) (id : String)
    (field : StringField) (value : BareValue) :
    shellTexts (field.write config id value.text).onTimeout id =
        shellTexts (field.write config id (quoted value.text)).onTimeout id ∧
      shellTexts (field.write config id value.text).onResume id =
        shellTexts (field.write config id (quoted value.text)).onResume id := by
  cases field with
  | onTimeout => exact ⟨shellTexts_update _ _ value, rfl⟩
  | onResume => exact ⟨rfl, shellTexts_update _ _ value⟩
  | musicProcessName => exact ⟨rfl, rfl⟩
  | keepAliveProcesses before after => exact ⟨rfl, rfl⟩

def spotify : BareValue where
  text := "spotify"
  head := by
    intro c hc
    obtain rfl : 's' = c := by simpa using hc
    decide
  last := by
    intro c hc
    obtain rfl : 'y' = c := by simpa using hc
    decide

def asciiLowercase (s : String) : String := String.ofList (s.toList.map Char.toLower)

/-- A system on which nothing but a player of that name is running. -/
def playing (identity : String) : ResourceMonitor where
  cpu := 0
  gpu := 0
  ram := 0
  vram := 0
  gpuMonitor := ⟨⟨[]⟩, ⟨none⟩, ⟨[]⟩⟩
  sys := ⟨unmeasuredCpus, 8589934592, []⟩
  sysfs := ⟨fun _ => .error "No such file or directory (os error 2)", fun _ => false⟩
  finder := ⟨.ok [.ok ⟨true, identity, .ok .playing⟩], asciiLowercase⟩

theorem quotedSpotify_not_sameBehaviour :
    ¬SameBehaviour
      (StringField.musicProcessName.write (FakeConfig.source { musicPlaying := some true }) "lock"
        spotify.text)
      (StringField.musicProcessName.write (FakeConfig.source { musicPlaying := some true }) "lock"
        (quoted spotify.text))
      (.new (playing "Spotify")) (.new .empty) (.new "lock") := by
  intro hsame
  exact absurd hsame.inhibited (by decide +kernel)

/-- **Quoting a value** changes nothing exactly if the check that reads the field is not what
decides the poll, or finds the same with the quotes as without them. A command field has no such
check. -/
theorem sameBehaviour_quoted_iff (config : RuleConfigSource)
    (resourceMonitor : Mutex ResourceMonitor) (fullscreen : Mutex FullscreenState)
    (rule : RuleRuntime) (field : StringField) (value : BareValue) :
    SameBehaviour (field.write config rule.id value.text)
        (field.write config rule.id (quoted value.text)) resourceMonitor fullscreen rule ↔
      field.Overruled config resourceMonitor fullscreen rule.id ∨
        (field.Matches config rule.id (ResourceSource.update resourceMonitor.data) value.text ↔
          field.Matches config rule.id (ResourceSource.update resourceMonitor.data)
            (quoted value.text)) := by
  rw [← StringField.inhibited_eq_iff]
  obtain ⟨htimeout, hresume⟩ := StringField.shellTexts_write config rule.id field value
  constructor
  · intro hsame
    exact hsame.inhibited
  · intro hinhibited
    exact ⟨hinhibited, htimeout, hresume⟩

end Nothypridle
