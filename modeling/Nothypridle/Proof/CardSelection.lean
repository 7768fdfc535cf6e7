import Nothypridle.Drm
import Nothypridle.Proof.GpuMetrics
import Mathlib.Data.List.Sort

/-!
# The selected cards

One enumeration finds the cards by a test on the whole name, the other one finds them in front of
the first dash of the names of the connectors. The two agree on what a card is called, so a vendor
monitor reads the cards of its vendor that have a connected display, or all of them where none has.
-/

namespace Nothypridle

/-- The digits are ASCII, and there may be none. -/
def IsCardName (name : FileName) : Prop :=
  ∃ digits : String, (∀ c ∈ digits.toList, c.isDigit = true) ∧ name = Text.bytes ("card" ++ digits)

def cards (matchesVendor : VendorPredicate) (drm : Drm) : Set DirEntry :=
  {card | card ∈ drm.entries ∧ IsCardName card.fileName ∧ matchesVendor card = true}

def DirEntry.IsConnectorOf (entry : DirEntry) (card : FileName) : Prop :=
  ∃ connector, entry.fileName = card ++ Text.bytes "-" ++ connector

def DirEntry.IsConnected (entry : DirEntry) : Prop :=
  ∃ status, entry.readToString ["status"] = .ok status ∧ Text.trim status = "connected"

def Drm.HasConnectedDisplay (drm : Drm) (card : FileName) : Prop :=
  ∃ entry ∈ drm.entries, entry.IsConnectorOf card ∧ entry.IsConnected

def connectedCards (matchesVendor : VendorPredicate) (drm : Drm) : Set DirEntry :=
  {card ∈ cards matchesVendor drm | drm.HasConnectedDisplay card.fileName}

/-! ### Names -/

theorem mem_card_append {digits : String} (hdigits : ∀ c ∈ digits.toList, c.isDigit = true)
    {c : Char} (hc : c ∈ ("card" ++ digits).toList) : c.toNat < 128 ∧ c ≠ '-' := by
  rw [String.toList_append, List.mem_append] at hc
  cases hc with
  | inl hcard =>
      have hall : ("card".toList.all fun c => c.toNat < 128 && c != '-') = true := by decide
      simpa using List.all_eq_true.mp hall c hcard
  | inr hdigit =>
      have hrange := hdigits c hdigit
      rw [Char.isDigit, Bool.and_eq_true, decide_eq_true_eq, decide_eq_true_eq] at hrange
      have hlow : 48 ≤ c.toNat := UInt32.le_iff_toNat_le.mp hrange.1
      have hhigh : c.toNat ≤ 57 := UInt32.le_iff_toNat_le.mp hrange.2
      refine ⟨by omega, ?_⟩
      intro heq
      subst heq
      exact absurd hlow (by decide)

theorem decodeLossy_eq_card_iff {name : FileName} {digits : String}
    (hdigits : ∀ c ∈ digits.toList, c.isDigit = true) :
    Text.decodeLossy name = "card" ++ digits ↔ name = Text.bytes ("card" ++ digits) :=
  Text.decodeLossy_eq_iff fun _ hc => (mem_card_append hdigits hc).1

/-- What the first enumeration asks of a name. -/
theorem startsWith_card_iff {name : FileName} :
    (Text.startsWith (Text.decodeLossy name) "card" &&
        ((Text.decodeLossy name).toList.drop "card".length).all Char.isDigit) = true ↔
      IsCardName name := by
  rw [Bool.and_eq_true, Text.startsWith_iff, List.all_eq_true]
  have hdrop : ∀ digits, ("card" ++ digits).toList.drop "card".length = digits.toList := by
    intro digits
    rw [String.toList_append, ← String.length_toList, List.drop_left]
  constructor
  · intro hname
    obtain ⟨⟨digits, hdecode⟩, hdigits⟩ := hname
    rw [hdecode, hdrop] at hdigits
    exact ⟨digits, hdigits, (decodeLossy_eq_card_iff hdigits).mp hdecode⟩
  · intro hname
    obtain ⟨digits, hdigits, hname⟩ := hname
    have hdecode := (decodeLossy_eq_card_iff hdigits).mpr hname
    refine ⟨⟨digits, hdecode⟩, ?_⟩
    rw [hdecode, hdrop]
    exact hdigits

namespace IsCardName

variable {name other : FileName} {entry : DirEntry}

theorem exists_decodeLossy_eq (hname : IsCardName name) :
    ∃ digits, Text.decodeLossy name = "card" ++ digits := by
  obtain ⟨digits, hdigits, hname⟩ := hname
  exact ⟨digits, (decodeLossy_eq_card_iff hdigits).mpr hname⟩

theorem mem_decodeLossy (hname : IsCardName name) {c : Char}
    (hc : c ∈ (Text.decodeLossy name).toList) : c.toNat < 128 ∧ c ≠ '-' := by
  obtain ⟨digits, hdigits, hname⟩ := hname
  rw [(decodeLossy_eq_card_iff hdigits).mpr hname] at hc
  exact mem_card_append hdigits hc

theorem bytes_decodeLossy (hname : IsCardName name) :
    Text.bytes (Text.decodeLossy name) = name :=
  ((Text.decodeLossy_eq_iff fun _ hc => (hname.mem_decodeLossy hc).1).mp rfl).symm

theorem dash_notMem (hname : IsCardName name) : '-' ∉ (Text.decodeLossy name).toList :=
  fun hc => (hname.mem_decodeLossy hc).2 rfl

/-- The connectors of a card, told by their decoded names. -/
theorem isConnectorOf_iff (hname : IsCardName name) :
    entry.IsConnectorOf name ↔
      ∃ rest, (Text.decodeLossy entry.fileName).toList =
        (Text.decodeLossy name).toList ++ '-' :: rest := by
  have hascii : ∀ c ∈ (Text.decodeLossy name ++ "-").toList, c.toNat < 128 := by
    intro c hc
    rw [String.toList_append, List.mem_append] at hc
    cases hc with
    | inl hc => exact (hname.mem_decodeLossy hc).1
    | inr hc =>
        obtain rfl := List.mem_singleton.mp hc
        decide
  have hfront : ∀ rest, (Text.decodeLossy name).toList ++ '-' :: rest =
      (Text.decodeLossy name ++ "-").toList ++ rest := by
    intro rest
    rw [String.toList_append, List.append_assoc]
    rfl
  simp only [hfront, Text.toList_decodeLossy_eq_append_iff hascii, Text.bytes_append,
    hname.bytes_decodeLossy]
  constructor
  · intro hsome
    obtain ⟨connector, hconnector⟩ := hsome
    exact ⟨_, connector, hconnector, rfl⟩
  · intro hsome
    obtain ⟨_, connector, hconnector, _⟩ := hsome
    exact ⟨connector, hconnector⟩

theorem dash_mem_of_isConnectorOf (hname : IsCardName name)
    (hconnector : entry.IsConnectorOf name) : '-' ∈ (Text.decodeLossy entry.fileName).toList := by
  obtain ⟨rest, hrest⟩ := hname.isConnectorOf_iff.mp hconnector
  rw [hrest]
  exact List.mem_append_right _ List.mem_cons_self

/-- What stands before the first dash of a connector is its card. -/
theorem splitFirst_eq_iff (hname : IsCardName name)
    (hdash : '-' ∈ (Text.decodeLossy entry.fileName).toList) :
    Text.splitFirst '-' (Text.decodeLossy entry.fileName) = Text.decodeLossy name ↔
      entry.IsConnectorOf name := by
  rw [Text.splitFirst_eq_iff hdash, hname.isConnectorOf_iff]
  exact and_iff_right hname.dash_notMem

theorem not_isConnectorOf (hother : IsCardName other) (hname : IsCardName entry.fileName) :
    ¬entry.IsConnectorOf other :=
  fun hconnector => hname.dash_notMem (hother.dash_mem_of_isConnectorOf hconnector)

/-- **A connector has one card.** -/
theorem eq_of_isConnectorOf (hname : IsCardName name) (hother : IsCardName other)
    (hconnector : entry.IsConnectorOf name) (hconnector' : entry.IsConnectorOf other) :
    name = other := by
  have hdash := hname.dash_mem_of_isConnectorOf hconnector
  calc
    name = Text.bytes (Text.decodeLossy name) := hname.bytes_decodeLossy.symm
    _ = Text.bytes (Text.splitFirst '-' (Text.decodeLossy entry.fileName)) := by
      rw [(hname.splitFirst_eq_iff hdash).mpr hconnector]
    _ = Text.bytes (Text.decodeLossy other) := by
      rw [(hother.splitFirst_eq_iff hdash).mpr hconnector']
    _ = other := hother.bytes_decodeLossy

end IsCardName

theorem connectedCardName_eq_some {entry : DirEntry} {cardName : String} :
    connectedCardName entry = some cardName ↔
      Text.startsWith (Text.decodeLossy entry.fileName) "card" = true ∧
        '-' ∈ (Text.decodeLossy entry.fileName).toList ∧ entry.IsConnected ∧
          Text.splitFirst '-' (Text.decodeLossy entry.fileName) = cardName := by
  simp only [connectedCardName, DirEntry.IsConnected]
  cases hstart : Text.startsWith (Text.decodeLossy entry.fileName) "card" with
  | false => simp
  | true =>
      by_cases hdash : '-' ∈ (Text.decodeLossy entry.fileName).toList
      · cases hread : entry.readToString ["status"] with
        | error err => simp [hdash]
        | ok status => by_cases hstatus : Text.trim status = "connected" <;> simp [hdash, hstatus]
      · simp [hdash]

/-- **The second enumeration agrees with the first.** -/
theorem connectedCardName_eq_some_iff {entry : DirEntry} {name : FileName}
    (hname : IsCardName name) :
    connectedCardName entry = some (Text.decodeLossy name) ↔
      entry.IsConnectorOf name ∧ entry.IsConnected := by
  rw [connectedCardName_eq_some]
  constructor
  · intro hentry
    obtain ⟨_, hdash, hconnected, hsplit⟩ := hentry
    exact ⟨(hname.splitFirst_eq_iff hdash).mp hsplit, hconnected⟩
  · intro hentry
    obtain ⟨hconnector, hconnected⟩ := hentry
    have hdash := hname.dash_mem_of_isConnectorOf hconnector
    have hstart : Text.startsWith (Text.decodeLossy entry.fileName) "card" = true := by
      obtain ⟨rest, hrest⟩ := hname.isConnectorOf_iff.mp hconnector
      obtain ⟨digits, hdigits⟩ := hname.exists_decodeLossy_eq
      apply Text.startsWith_iff.mpr
      refine ⟨digits ++ String.ofList ('-' :: rest), ?_⟩
      rw [← String.toList_inj, hrest, hdigits]
      simp only [String.toList_append, String.toList_ofList, List.append_assoc]
    exact ⟨hstart, hdash, hconnected, (hname.splitFirst_eq_iff hdash).mpr hconnector⟩

example : connectedCardName
    { fileName := Text.bytes "card10-HDMI-A-1"
      readToString := fun _ => .ok "connected\n"
      readLink := fun _ => .error "" } = some "card10" := by decide +kernel

theorem mem_foldl_insert {α : Type} [DecidableEq α] {a : α} (l : List α) (s : Finset α) :
    a ∈ l.foldl (fun s b => insert b s) s ↔ a ∈ s ∨ a ∈ l := by
  induction l generalizing s with
  | nil => simp
  | cons b l ih =>
      rw [List.foldl_cons, ih, Finset.mem_insert, List.mem_cons, or_assoc, or_left_comm]

theorem mem_getConnectedGpus {drm : Drm} {cardName : String} :
    cardName ∈ getConnectedGpus drm ↔
      ∃ entry ∈ drm.entries, connectedCardName entry = some cardName := by
  rw [getConnectedGpus, Extrema.foldl_elim connectedCardName fun connectedCards cardName =>
    insert cardName connectedCards, mem_foldl_insert]
  simp

theorem mem_getConnectedGpus_iff {drm : Drm} {name : FileName} (hname : IsCardName name) :
    Text.decodeLossy name ∈ getConnectedGpus drm ↔ drm.HasConnectedDisplay name := by
  simp only [mem_getConnectedGpus, connectedCardName_eq_some_iff hname, Drm.HasConnectedDisplay]

/-! ### Paths -/

def Path.names (path : Path) : List FileName := path.components.map Text.bytes

theorem IsCardName.names_path {card : DirEntry} (hname : IsCardName card.fileName) :
    card.path.names = drmDir.names ++ [card.fileName] := by
  rw [DirEntry.path, Path.join, Path.names, List.map_append, List.map_singleton,
    hname.bytes_decodeLossy, Path.names]

theorem IsCardName.fileName_path {card : DirEntry} (hname : IsCardName card.fileName) :
    card.path.fileName = some (Text.decodeLossy card.fileName) := by
  have hdots : Text.decodeLossy card.fileName ≠ ".." := by
    obtain ⟨digits, hdigits⟩ := hname.exists_decodeLossy_eq
    rw [hdigits]
    intro heq
    have hlist := congrArg String.toList heq
    rw [String.toList_append] at hlist
    exact absurd (List.cons.inj hlist).1 (by decide)
  simp [Path.fileName, DirEntry.path, Path.join, hdots]

theorem mem_findGpuPathsByVendor {drm : Drm} {matchesVendor : VendorPredicate} {path : Path} :
    path ∈ findGpuPathsByVendor drm matchesVendor ↔
      path ∈ Set.image DirEntry.path (cards matchesVendor drm) := by
  simp only [findGpuPathsByVendor, List.mem_mergeSort, List.mem_map, List.mem_filter,
    Bool.and_eq_true, Set.mem_image, cards, Set.mem_ofPred_eq, ← startsWith_card_iff]

instance Path.instTotal : Std.Total (α := Path) (· ≤ ·) :=
  ⟨fun a b => le_total a.components b.components⟩

/-- Cards have different names, and a path has the name of its card. -/
theorem nodup_map_path {l : List DirEntry} (hnames : ∀ card ∈ l, IsCardName card.fileName)
    (hnodup : (l.map DirEntry.fileName).Nodup) : (l.map DirEntry.path).Nodup := by
  apply List.Nodup.of_map Path.names
  have hmap : (l.map DirEntry.path).map Path.names =
      (l.map DirEntry.fileName).map fun name => drmDir.names ++ [name] := by
    rw [List.map_map, List.map_map]
    apply List.map_congr_left
    intro card hcard
    exact (hnames card hcard).names_path
  rw [hmap]
  apply hnodup.map
  intro name name' heq
  exact List.singleton_inj.mp (List.append_cancel_left heq)

theorem sortedLT_findGpuPathsByVendor (drm : Drm) (matchesVendor : VendorPredicate) :
    (findGpuPathsByVendor drm matchesVendor).SortedLT := by
  rw [List.sortedLT_iff_nodup_and_sortedLE]
  constructor
  · rw [findGpuPathsByVendor, (List.mergeSort_perm _ _).nodup_iff]
    apply nodup_map_path
    · intro card hcard
      have hfilter := (Bool.and_eq_true _ _).mp (List.mem_filter.mp hcard).2
      exact startsWith_card_iff.mp hfilter.1
    · exact drm.nodup.sublist (List.filter_sublist.map _)
  · exact (List.pairwise_mergeSort' (· ≤ ·) _).sortedLE

/-! ### The selection -/

theorem isConnectedPath_iff {drm : Drm} {card : DirEntry} (hname : IsCardName card.fileName) :
    isConnectedPath (getConnectedGpus drm) card.path = true ↔
      drm.HasConnectedDisplay card.fileName := by
  rw [isConnectedPath, hname.fileName_path]
  simp only [decide_eq_true_eq, mem_getConnectedGpus_iff hname]

/-- The paths of a monitor whose cards are those that the predicate holds of. -/
def vendorPaths (matchesVendor : VendorPredicate) (drm : Drm) : List Path :=
  selectGpuPaths (findGpuPathsByVendor drm matchesVendor) (getConnectedGpus drm)

theorem sortedLT_vendorPaths (matchesVendor : VendorPredicate) (drm : Drm) :
    (vendorPaths matchesVendor drm).SortedLT :=
  ((sortedLT_findGpuPathsByVendor drm matchesVendor).pairwise.sublist
    (Preference.preferring_sublist _ _)).sortedLT

theorem setOf_mem_vendorPaths (matchesVendor : VendorPredicate) (drm : Drm) :
    {path | path ∈ vendorPaths matchesVendor drm} =
      Set.image DirEntry.path
        (Preference.orElse (connectedCards matchesVendor drm) (cards matchesVendor drm)) := by
  have hall : {path | path ∈ findGpuPathsByVendor drm matchesVendor} =
      Set.image DirEntry.path (cards matchesVendor drm) := by
    ext path
    exact mem_findGpuPathsByVendor
  have hconnected : {path | path ∈ findGpuPathsByVendor drm matchesVendor ∧
      isConnectedPath (getConnectedGpus drm) path = true} =
        Set.image DirEntry.path (connectedCards matchesVendor drm) := by
    ext path
    simp only [Set.mem_ofPred_eq, mem_findGpuPathsByVendor, Set.mem_image]
    constructor
    · intro hpath
      obtain ⟨⟨card, hcard, rfl⟩, hconnected⟩ := hpath
      exact ⟨card, ⟨hcard, (isConnectedPath_iff hcard.2.1).mp hconnected⟩, rfl⟩
    · intro hpath
      obtain ⟨card, ⟨hcard, hconnected⟩, rfl⟩ := hpath
      exact ⟨⟨card, hcard, rfl⟩, (isConnectedPath_iff hcard.2.1).mpr hconnected⟩
  rw [vendorPaths, selectGpuPaths, Preference.setOf_mem_preferring, hconnected, hall,
    Preference.image_orElse]

theorem vendorPaths_eq_nil_iff (matchesVendor : VendorPredicate) (drm : Drm) :
    vendorPaths matchesVendor drm = [] ↔ cards matchesVendor drm = ∅ := by
  have hsubset : connectedCards matchesVendor drm ⊆ cards matchesVendor drm := fun _ h => h.1
  calc
    vendorPaths matchesVendor drm = [] ↔ {path | path ∈ vendorPaths matchesVendor drm} = ∅ := by
      rw [List.eq_nil_iff_forall_not_mem, Set.eq_empty_iff_forall_notMem]
      rfl
    _ ↔ Preference.orElse (connectedCards matchesVendor drm) (cards matchesVendor drm) = ∅ := by
      rw [setOf_mem_vendorPaths, Set.image_eq_empty]
    _ ↔ cards matchesVendor drm = ∅ := Preference.orElse_eq_empty_iff hsubset

/-! ### One more connector -/

/-- The entries of `drm'` are `added` and those of `drm`. -/
def Drm.Adds (drm : Drm) (added : DirEntry) (drm' : Drm) : Prop :=
  ∀ entry, entry ∈ drm'.entries ↔ entry = added ∨ entry ∈ drm.entries

namespace Drm.Adds

variable {drm drm' : Drm} {added : DirEntry} {other : FileName} {matchesVendor : VendorPredicate}
  (hadds : drm.Adds added drm')

include hadds

theorem hasConnectedDisplay {name : FileName} (hdisplay : drm.HasConnectedDisplay name) :
    drm'.HasConnectedDisplay name := by
  obtain ⟨entry, hmem, hentry⟩ := hdisplay
  exact ⟨entry, (hadds entry).mpr (Or.inr hmem), hentry⟩

variable (hother : IsCardName other) (hconnector : added.IsConnectorOf other)

include hother hconnector

theorem cards_eq : cards matchesVendor drm' = cards matchesVendor drm := by
  ext card
  simp only [cards, Set.mem_ofPred_eq, hadds card]
  constructor
  · intro hcard
    obtain ⟨hmem | hmem, hname, hmatches⟩ := hcard
    · subst hmem
      exact absurd hconnector (hother.not_isConnectorOf hname)
    · exact ⟨hmem, hname, hmatches⟩
  · intro hcard
    exact ⟨Or.inr hcard.1, hcard.2⟩

theorem findGpuPathsByVendor_eq :
    findGpuPathsByVendor drm' matchesVendor = findGpuPathsByVendor drm matchesVendor := by
  apply (sortedLT_findGpuPathsByVendor drm' matchesVendor).eq_of_mem_iff
    (sortedLT_findGpuPathsByVendor drm matchesVendor)
  intro path
  rw [mem_findGpuPathsByVendor, mem_findGpuPathsByVendor, hadds.cards_eq hother hconnector]

/-- Only the card that the new connector is one of can become connected. -/
theorem hasConnectedDisplay_iff {name : FileName} (hname : IsCardName name) (hne : name ≠ other) :
    drm'.HasConnectedDisplay name ↔ drm.HasConnectedDisplay name := by
  constructor
  · intro hdisplay
    obtain ⟨entry, hmem, hentry, hconnected⟩ := hdisplay
    cases (hadds entry).mp hmem with
    | inl hadded =>
        subst hadded
        exact absurd (hname.eq_of_isConnectorOf hother hentry hconnector) hne
    | inr hmem => exact ⟨entry, hmem, hentry, hconnected⟩
  · exact hadds.hasConnectedDisplay

theorem isConnectedPath_eq {card : DirEntry} (hname : IsCardName card.fileName)
    (hne : card.fileName ≠ other) :
    isConnectedPath (getConnectedGpus drm') card.path =
      isConnectedPath (getConnectedGpus drm) card.path := by
  rw [Bool.eq_iff_iff, isConnectedPath_iff hname, isConnectedPath_iff hname,
    hadds.hasConnectedDisplay_iff hother hconnector hname hne]

theorem mem_vendorPaths {card : DirEntry} (hname : IsCardName card.fileName)
    (hne : card.fileName ≠ other) (hmem : card.path ∈ vendorPaths matchesVendor drm') :
    card.path ∈ vendorPaths matchesVendor drm := by
  rw [vendorPaths, selectGpuPaths, hadds.findGpuPathsByVendor_eq hother hconnector] at hmem
  apply Preference.mem_preferring_of_le _ _ hmem
  · intro path hpath hconnected
    obtain ⟨card', hcard', rfl⟩ := mem_findGpuPathsByVendor.mp hpath
    rw [isConnectedPath_iff hcard'.2.1] at hconnected ⊢
    exact hadds.hasConnectedDisplay hconnected
  · exact (hadds.isConnectedPath_eq hother hconnector hname hne).symm

theorem vendorPaths_eq (hne : ∀ card ∈ cards matchesVendor drm, card.fileName ≠ other) :
    vendorPaths matchesVendor drm' = vendorPaths matchesVendor drm := by
  rw [vendorPaths, vendorPaths, selectGpuPaths, selectGpuPaths,
    hadds.findGpuPathsByVendor_eq hother hconnector]
  apply Preference.preferring_congr
  intro path hpath
  obtain ⟨card, hcard, rfl⟩ := mem_findGpuPathsByVendor.mp hpath
  exact hadds.isConnectedPath_eq hother hconnector hcard.2.1 (hne card hcard)

end Drm.Adds

/-! ### The law -/

/-- What a monitor reads: the connected cards of the vendor, or all its cards where none is
connected. A connector of another card selects no card, and one of another vendor changes
nothing. -/
structure SelectsCards (matchesVendor : VendorPredicate) (gpuPaths : Drm → List Path) : Prop where
  sorted : ∀ drm, (gpuPaths drm).SortedLT
  exactly : ∀ drm, {path | path ∈ gpuPaths drm} =
    Set.image DirEntry.path
      (Preference.orElse (connectedCards matchesVendor drm) (cards matchesVendor drm))
  named : ∀ drm, ∀ card ∈ cards matchesVendor drm,
    card.path.names = drmDir.names ++ [card.fileName]
  empty : ∀ drm, gpuPaths drm = [] ↔ cards matchesVendor drm = ∅
  otherCard : ∀ drm drm' added other, drm.Adds added drm' → IsCardName other →
    added.IsConnectorOf other → ∀ card ∈ cards matchesVendor drm, card.fileName ≠ other →
      card.path ∈ gpuPaths drm' → card.path ∈ gpuPaths drm
  otherVendor : ∀ drm drm' added other, drm.Adds added drm' → IsCardName other →
    added.IsConnectorOf other → (∀ card ∈ cards matchesVendor drm, card.fileName ≠ other) →
      gpuPaths drm' = gpuPaths drm

theorem vendorPaths_selectsCards (matchesVendor : VendorPredicate) :
    SelectsCards matchesVendor (vendorPaths matchesVendor) where
  sorted := sortedLT_vendorPaths matchesVendor
  exactly := setOf_mem_vendorPaths matchesVendor
  named _ _ hcard := hcard.2.1.names_path
  empty := vendorPaths_eq_nil_iff matchesVendor
  otherCard _ _ _ _ hadds hother hconnector _ hcard hne :=
    hadds.mem_vendorPaths hother hconnector hcard.2.1 hne
  otherVendor _ _ _ _ hadds hother hconnector hne := hadds.vendorPaths_eq hother hconnector hne

/-- **Card selection is exact**, for both vendors and every content of the directory. -/
theorem gpuPaths_exact (toLowercase : String → String) :
    SelectsCards (isAmdGpu toLowercase) (fun drm => (AmdGpuMonitor.new toLowercase drm).gpuPaths) ∧
      SelectsCards (isIntelGpu toLowercase)
        (fun drm => (IntelGpuMonitor.new toLowercase drm).gpuPaths) :=
  ⟨vendorPaths_selectsCards (isAmdGpu toLowercase),
    vendorPaths_selectsCards (isIntelGpu toLowercase)⟩

def entryOf (name : String) (file : List String) (text : String) : DirEntry where
  fileName := Text.bytes name
  readToString names :=
    if names = file then .ok text else .error "No such file or directory (os error 2)"
  readLink _ := .error "No such file or directory (os error 2)"

/-- Two AMD cards and one from Intel, of which `card1` has no display. -/
def mixedEntries : List DirEntry :=
  [entryOf "card10" ["device", "vendor"] "0x1002\n",
    entryOf "card1" ["device", "vendor"] "0x1002\n",
    entryOf "card2" ["device", "vendor"] "0x8086\n",
    entryOf "card10-HDMI-A-1" ["status"] "connected\n",
    entryOf "card1-DP-1" ["status"] "disconnected\n",
    entryOf "card2-eDP-1" ["status"] "connected\n"]

def mixedDrm : Drm where
  readDir := .ok (mixedEntries.map .ok)
  distinct := by
    intro entries heq
    cases heq
    decide +kernel

theorem gpuPaths_exact_mixed :
    SelectsCards (isAmdGpu id) (fun drm => (AmdGpuMonitor.new id drm).gpuPaths) ∧
      (AmdGpuMonitor.new id mixedDrm).gpuPaths = [drmDir.join ["card10"]] ∧
      (IntelGpuMonitor.new id mixedDrm).gpuPaths = [drmDir.join ["card2"]] := by
  refine ⟨(gpuPaths_exact id).1, ?_, ?_⟩
  · rw [AmdGpuMonitor.new, findAmdGpuPaths, findGpuPathsByVendor,
      List.mergeSort_eq_insertionSort (· ≤ ·)]
    decide +kernel
  · rw [IntelGpuMonitor.new, findIntelGpuPaths, findGpuPathsByVendor,
      List.mergeSort_eq_insertionSort (· ≤ ·)]
    decide +kernel

/-! ### What a poll sees -/

/-- A vendor is passed over in a poll exactly if it has no card. -/
theorem AmdGpuMonitor.getMetrics_new_eq_none_iff (toLowercase : String → String) (sysfs : Sysfs)
    (drm : Drm) : (AmdGpuMonitor.new toLowercase drm).getMetrics sysfs = none ↔
      cards (isAmdGpu toLowercase) drm = ∅ := by
  rw [getMetrics_eq, vendorMetrics_eq_none_iff, List.map_eq_nil_iff]
  exact vendorPaths_eq_nil_iff (isAmdGpu toLowercase) drm

theorem IntelGpuMonitor.getMetrics_new_eq_none_iff (toLowercase : String → String) (sysfs : Sysfs)
    (drm : Drm) : (IntelGpuMonitor.new toLowercase drm).getMetrics sysfs = none ↔
      cards (isIntelGpu toLowercase) drm = ∅ := by
  rw [getMetrics_eq, vendorMetrics_eq_none_iff, List.map_eq_nil_iff]
  exact vendorPaths_eq_nil_iff (isIntelGpu toLowercase) drm

end Nothypridle
