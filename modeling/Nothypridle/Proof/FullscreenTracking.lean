import Nothypridle.Wayland
import Mathlib.Tactic.Common

/-!
# Tracking the toplevels

The map holds for every handle what its latest `State` said, and nothing for a handle that has been
closed since. So the map after a history of events is a function of the latest update of each handle
alone.
-/

namespace Nothypridle

abbrev ToplevelEvent := ObjectId × ToplevelHandleEvent

def trackToplevels (events : List ToplevelEvent) : Mutex FullscreenState :=
  events.foldl (fun states event => handleToplevelEvent states event.1 event.2) (.new .empty)

/-- The latest event of the handle that is a `State` or a `Closed`. -/
def latestUpdate (id : ObjectId) (events : List ToplevelEvent) : Option ToplevelHandleEvent :=
  ((events.filter fun event => event.1 = id ∧ event.2 ≠ .other).map Prod.snd).getLast?

/-- The word 3 at an offset that is a multiple of four. -/
def HasFullscreenWord (bytes : List UInt8) : Prop :=
  ∃ before after, 4 ∣ before.length ∧ bytes = before ++ [3, 0, 0, 0] ++ after

theorem isFullscreen_iff {bytes : List UInt8} :
    isFullscreen bytes = true ↔ HasFullscreenWord bytes := by
  simp only [isFullscreen, List.contains_iff_mem, List.mem_map, HasFullscreenWord,
    Words.mem_chunksExact_iff (show 0 < 4 by decide)]
  have hthree : ∀ c : List UInt8, c.length = 4 →
      (UInt32.ofNat (Words.ofBytesLE c) = 3 ↔ c = [3, 0, 0, 0]) := by
    intro c hlength
    constructor
    · intro hword
      apply Words.ofBytesLE_inj hlength
      have hlt : Words.ofBytesLE c < 4294967296 := by
        simpa [hlength] using Words.ofBytesLE_lt c
      have hnat := congrArg UInt32.toNat hword
      rw [UInt32.toNat_ofNat', Nat.mod_eq_of_lt hlt] at hnat
      exact hnat
    · intro heq
      subst heq
      rfl
  constructor
  · intro hsome
    obtain ⟨c, ⟨hlength, before, after, hdvd, hbytes⟩, hword⟩ := hsome
    obtain rfl := (hthree c hlength).mp hword
    exact ⟨before, after, hdvd, hbytes⟩
  · intro hsome
    obtain ⟨before, after, hdvd, hbytes⟩ := hsome
    exact ⟨[3, 0, 0, 0], ⟨rfl, before, after, hdvd, hbytes⟩, rfl⟩

/-! ### The map -/

/-- What an update leaves for its handle. -/
def ToplevelHandleEvent.entry : ToplevelHandleEvent → Option Bool
  | state bytes => some (isFullscreen bytes)
  | closed => none
  | other => none

theorem trackToplevels_concat (events : List ToplevelEvent) (id : ObjectId)
    (event : ToplevelHandleEvent) :
    trackToplevels (events ++ [(id, event)]) =
      handleToplevelEvent (trackToplevels events) id event := by
  rw [trackToplevels, List.foldl_append]
  rfl

theorem latestUpdate_concat (events : List ToplevelEvent) (id other : ObjectId)
    (event : ToplevelHandleEvent) :
    latestUpdate id (events ++ [(other, event)]) =
      if other = id ∧ event ≠ .other then some event else latestUpdate id events := by
  by_cases hupdate : other = id ∧ event ≠ .other
  · simp [latestUpdate, hupdate]
  · rw [if_neg hupdate, latestUpdate, latestUpdate, List.filter_append,
      List.filter_cons_of_neg (by simpa using hupdate), List.filter_nil, List.append_nil]

theorem handleToplevelEvent_poisoned (states : Mutex FullscreenState) (id : ObjectId)
    (event : ToplevelHandleEvent) :
    (handleToplevelEvent states id event).poisoned = states.poisoned := by
  cases event with
  | state bytes => simp only [handleToplevelEvent]; split <;> rfl
  | closed => simp only [handleToplevelEvent]; split <;> rfl
  | other => rfl

theorem lookup_handleToplevelEvent {states : Mutex FullscreenState}
    (hhealthy : states.poisoned = false) (id other : ObjectId) (event : ToplevelHandleEvent) :
    (handleToplevelEvent states id event).data.states.lookup other =
      if other = id ∧ event ≠ .other then event.entry else states.data.states.lookup other := by
  have hlock := Mutex.lock_of_healthy hhealthy
  by_cases heq : other = id
  · subst heq
    cases event with
    | state bytes =>
        simp [handleToplevelEvent, hlock, Mutex.release, FullscreenState.set,
          ToplevelHandleEvent.entry]
    | closed =>
        simp [handleToplevelEvent, hlock, Mutex.release, FullscreenState.remove,
          ToplevelHandleEvent.entry]
    | other => simp [handleToplevelEvent]
  · cases event with
    | state bytes =>
        simp [handleToplevelEvent, hlock, Mutex.release, FullscreenState.set, heq,
          AList.lookup_insert_ne heq]
    | closed =>
        simp [handleToplevelEvent, hlock, Mutex.release, FullscreenState.remove, heq,
          AList.lookup_erase_ne heq]
    | other => simp [handleToplevelEvent]

/-- After a history the lock is healthy, and the entry of every handle is that of its latest
update. -/
structure Tracked (events : List ToplevelEvent) (states : Mutex FullscreenState) : Prop where
  healthy : states.poisoned = false
  lookup : ∀ id, states.data.states.lookup id =
    (latestUpdate id events).bind ToplevelHandleEvent.entry

theorem Tracked.concat {events : List ToplevelEvent} {states : Mutex FullscreenState}
    (htracked : Tracked events states) (id : ObjectId) (event : ToplevelHandleEvent) :
    Tracked (events ++ [(id, event)]) (handleToplevelEvent states id event) := by
  refine ⟨(handleToplevelEvent_poisoned states id event).trans htracked.healthy, ?_⟩
  intro other
  rw [lookup_handleToplevelEvent htracked.healthy, htracked.lookup, latestUpdate_concat]
  by_cases hupdate : other = id ∧ event ≠ .other
  · rw [if_pos hupdate, if_pos ⟨hupdate.1.symm, hupdate.2⟩, Option.bind_some]
  · rw [if_neg hupdate, if_neg fun h => hupdate ⟨h.1.symm, h.2⟩]

theorem tracked (events : List ToplevelEvent) : Tracked events (trackToplevels events) := by
  induction events using List.reverseRecOn with
  | nil => exact ⟨rfl, fun id => rfl⟩
  | append_singleton events event ih =>
      obtain ⟨id, event⟩ := event
      rw [trackToplevels_concat]
      exact ih.concat id event

/-! ### The law -/

/-- What is known of the map after a history of events. -/
structure TracksToplevels (events : List ToplevelEvent) : Prop where
  any : (trackToplevels events).data.anyFullscreen = true ↔
    ∃ id bytes, latestUpdate id events = some (.state bytes) ∧ HasFullscreenWord bytes
  trailing : ∀ id bytes tail, 4 ∣ bytes.length → tail.length < 4 →
    trackToplevels (events ++ [(id, .state (bytes ++ tail))]) =
      trackToplevels (events ++ [(id, .state bytes)])
  others : ∀ id other event, other ≠ id →
    (trackToplevels (events ++ [(id, event)])).data.states.lookup other =
      (trackToplevels events).data.states.lookup other
  closed : ∀ id, latestUpdate id events = some .closed →
    (trackToplevels events).data.states.lookup id = none

/-- **Fullscreen tracking is exact**, after any events of any number of handles. -/
theorem tracksToplevels (events : List ToplevelEvent) : TracksToplevels events := by
  have htracked := tracked events
  refine ⟨?_, ?_, ?_, ?_⟩
  · rw [FullscreenState.anyFullscreen_iff]
    simp only [htracked.lookup, Option.bind_eq_some_iff, ← isFullscreen_iff]
    constructor
    · intro hsome
      obtain ⟨id, event, hlatest, hentry⟩ := hsome
      cases event with
      | state bytes => exact ⟨id, bytes, hlatest, Option.some.inj hentry⟩
      | closed => cases hentry
      | other => cases hentry
    · intro hsome
      obtain ⟨id, bytes, hlatest, hfull⟩ := hsome
      exact ⟨id, .state bytes, hlatest, congrArg some hfull⟩
  · intro id bytes tail hdvd htail
    have hsame : isFullscreen (bytes ++ tail) = isFullscreen bytes := by
      rw [isFullscreen, isFullscreen, Words.chunksExact_append_of_lt hdvd htail]
    simp only [trackToplevels_concat, handleToplevelEvent, hsame]
  · intro id other event hne
    rw [trackToplevels_concat, lookup_handleToplevelEvent htracked.healthy,
      if_neg fun h => hne h.1]
  · intro id hlatest
    rw [htracked.lookup, hlatest]
    rfl

end Nothypridle
