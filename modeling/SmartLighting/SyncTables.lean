import SmartLighting.Database
import Mathlib.Data.List.Infix
import Mathlib.Data.List.Induction

/-!
# The tables of region synchronizations

A synchronization is recorded by one insertion into `region_sync`, which ignores a repeated
version, and one into `region_zone_power` for each zone, which ignores nothing. The handler
uses no transaction.
-/

namespace SmartLighting

namespace Sqlite

/-! ## A step that fails -/

variable {s : Sqlite} {e : RegionSyncEvent} {p : ℕ}

/-- After a failure at step `p` the event is recorded as a whole or not at all, and later
events are handled as if it had not been there. -/
structure LeavesNoHalf (s : Sqlite) (p : ℕ) (e : RegionSyncEvent) : Prop where
  /-- All rows of the event are inserted, or none of them. -/
  whole : (s.work (some p) (.regionSync e)).tables = s.tables ∨
    (s.work (some p) (.regionSync e)).tables = (s.work none (.regionSync e)).tables
  /-- Whatever follows, and whatever fails in it. -/
  following : ∀ es, ((s.work (some p) (.regionSync e)).workAll es).tables = (s.workAll es).tables

/-- The version of the event is in `region_sync`. -/
def Recorded (t : Tables) (e : RegionSyncEvent) : Prop :=
  ∃ row ∈ t.regionSync.rows, row.key = e.syncRow.key

/-- A version is found exactly when it is recorded. -/
theorem find?_ne_none_iff {t : Tables} :
    t.regionSync.find? e.syncRow.key ≠ none ↔ Recorded t e := by
  rw [Ne, Table.find?_eq_none]
  simp only [not_forall, not_not, Recorded, exists_prop]

/-- The first step of a recorded version changes nothing. -/
theorem recordSync_one_of_recorded {t : Tables} (h : Recorded t e) : t.recordSync e 1 = t := by
  simp only [Tables.recordSync, Table.insertOrIgnore_of_taken (find?_ne_none_iff.mpr h),
    List.take_zero, List.map_nil, List.append_nil]

/-- The first step of a new version changes the tables. -/
theorem rows_recordSync_of_new {t : Tables} (h : ¬Recorded t e) (steps : ℕ) :
    (t.recordSync e (steps + 1)).regionSync.rows = t.regionSync.rows ++ [e.syncRow] := by
  refine Table.rows_insertOrIgnore_of_free ?_
  by_contra hfound
  exact h (find?_ne_none_iff.mp hfound)

/-- The number of zone rows after some steps. -/
theorem length_recordSync (t : Tables) (steps : ℕ) :
    (t.recordSync e steps).regionZonePower.length =
      t.regionZonePower.length + min (steps - 1) e.zonePowerSum.length := by
  cases steps with
  | zero => simp [Tables.recordSync]
  | succ steps => simp [Tables.recordSync]

/-- A failing step leaves a half-recorded synchronization, unless no step before it changed
anything: it is the first one, or the second one of a version that was recorded before. -/
theorem leavesNoHalf_iff (s : Sqlite) (e : RegionSyncEvent) (p : ℕ)
    (hp : p ≤ e.zonePowerSum.length) :
    LeavesNoHalf s p e ↔ p = 0 ∨ p = 1 ∧ Recorded s.tables e := by
  have hfailed : (s.work (some p) (.regionSync e)).tables = s.tables.recordSync e p :=
    tables_work s _
  have hfull : (s.work none (.regionSync e)).tables =
      s.tables.recordSync e (e.zonePowerSum.length + 1) := tables_work s _
  constructor
  · intro h
    have hwhole := h.whole
    rw [hfailed, hfull] at hwhole
    rcases hwhole with hsame | hall
    · have hlength := congrArg (fun t => t.regionZonePower.length) hsame
      rw [length_recordSync] at hlength
      rcases Nat.le_one_iff_eq_zero_or_eq_one.mp (by omega : p ≤ 1) with rfl | rfl
      · exact Or.inl rfl
      · refine Or.inr ⟨rfl, ?_⟩
        by_contra hnew
        have hrows := congrArg (fun t => t.regionSync.rows) hsame
        rw [rows_recordSync_of_new hnew] at hrows
        simp at hrows
    · -- The zone of the failing step is missing.
      have hlength := congrArg (fun t => t.regionZonePower.length) hall
      rw [length_recordSync, length_recordSync] at hlength
      omega
  · intro h
    have hsame : (s.work (some p) (.regionSync e)).tables = s.tables := by
      rw [hfailed]
      rcases h with rfl | ⟨rfl, hrecorded⟩
      · rfl
      · exact recordSync_one_of_recorded hrecorded
    constructor
    · exact Or.inl hsame
    · intro es
      rw [tables_workAll, tables_workAll, hsame]

/-- The synchronization of one zone. -/
def oneZoneSync : RegionSyncEvent := ⟨0, 1, 1, [(1, 500)]⟩

/-- When the first step fails, nothing is recorded. -/
theorem leavesNoHalf_oneZoneSync : LeavesNoHalf start 0 oneZoneSync :=
  (leavesNoHalf_iff start oneZoneSync 0 (by decide)).mpr (Or.inl rfl)

/-- When the second step fails, the version is recorded without its zone. -/
theorem not_leavesNoHalf_oneZoneSync :
    1 ≤ oneZoneSync.zonePowerSum.length ∧ ¬LeavesNoHalf start 1 oneZoneSync := by
  refine ⟨by decide, fun h => ?_⟩
  rcases h.whole with hnone | hall
  · exact absurd (congrArg (fun t => t.regionSync.rows.length) hnone) (by decide)
  · exact absurd (congrArg (fun t => t.regionZonePower.length) hall) (by decide)

/-! ## Repeated versions -/

/-- The tables after synchronizations that are handled without an error. -/
def record (es : List RegionSyncEvent) : Tables :=
  (start.workAll (es.map fun e => (none, .regionSync e))).tables

/-- The key of an event: its region and its version. -/
def SameVersion (e f : RegionSyncEvent) : Prop := e.regionId = f.regionId ∧ e.version = f.version

instance (e f : RegionSyncEvent) : Decidable (SameVersion e f) :=
  inferInstanceAs (Decidable (_ ∧ _))

/-- How often a zone of a version occurs in `region_zone_power`. -/
def zoneCount (t : Tables) (e : RegionSyncEvent) (zone : UInt32) : ℕ :=
  t.regionZonePower.countP fun z =>
    z.regionId = cInt e.regionId ∧ z.version = cInt e.version ∧ z.zoneId = cInt zone

/-- Each version of a region is recorded once. -/
structure RecordsOnce (es : List RegionSyncEvent) : Prop where
  /-- An event whose version is recorded changes no table. -/
  ignored : ∀ before e, before ++ [e] <+: es → Recorded (record before) e →
    record (before ++ [e]) = record before
  /-- A zone row belongs to the one row of its region, version and time. -/
  owned : ∀ before, before <+: es → ∀ z ∈ (record before).regionZonePower,
    ∃! row, row ∈ (record before).regionSync.rows ∧ row.regionId = z.regionId ∧
      row.version = z.version ∧ row.tsMs = z.tsMs
  /-- A zone occurs at most as often as in the first event of the version. -/
  counted : ∀ before, before <+: es → ∀ e first, before.find? (SameVersion e) = some first →
    ∀ zone, zoneCount (record before) e zone ≤ first.zonePowerSum.countP fun zp => zp.1 = zone

theorem key_syncRow_eq {f : RegionSyncEvent} :
    e.syncRow.key = f.syncRow.key ↔ SameVersion e f := by
  simp only [RegionSyncRow.key, RegionSyncEvent.syncRow, Prod.mk.injEq, SameVersion,
    cInt_injective.eq_iff]

/-- One more synchronization. -/
theorem record_append (before : List RegionSyncEvent) (e : RegionSyncEvent) :
    record (before ++ [e]) = (record before).recordSync e (e.zonePowerSum.length + 1) := by
  simp only [record, tables_workAll, List.map_append, List.foldl_append]
  rfl

/-- The row of a version is that of its first event. -/
theorem find?_record (es : List RegionSyncEvent) (e : RegionSyncEvent) :
    (record es).regionSync.find? e.syncRow.key =
      (es.find? (SameVersion e)).map RegionSyncEvent.syncRow := by
  induction es using List.reverseRecOn with
  | nil => rfl
  | append_singleton es f ih =>
    rw [record_append, List.find?_append]
    simp only [Tables.recordSync]
    rw [Table.find?_insertOrIgnore, ih, Option.map_or]
    congr 1
    by_cases h : SameVersion e f
    · simp [key_syncRow_eq, h]
    · simp [key_syncRow_eq, h]

/-- The zone rows of the events follow each other. -/
theorem regionZonePower_record (es : List RegionSyncEvent) :
    (record es).regionZonePower = es.flatMap fun e => e.zonePowerSum.map e.zoneRow := by
  induction es using List.reverseRecOn with
  | nil => rfl
  | append_singleton es e ih =>
    rw [record_append, List.flatMap_append]
    simp only [Tables.recordSync]
    rw [ih, List.take_length]
    simp

/-- A version is recorded exactly when an event had it. -/
theorem recorded_record (es : List RegionSyncEvent) (e : RegionSyncEvent) :
    Recorded (record es) e ↔ ∃ f ∈ es, SameVersion e f := by
  rw [← find?_ne_none_iff, find?_record, Ne, Option.map_eq_none_iff, List.find?_eq_none]
  simp

/-- The events that repeat a version have no zones. -/
def RepeatsEmpty (es : List RegionSyncEvent) : Prop :=
  ∀ before e, before ++ [e] <+: es → (∃ f ∈ before, SameVersion e f) → e.zonePowerSum = []

/-- It is a property of the prefixes. -/
theorem RepeatsEmpty.of_prefix {es before : List RegionSyncEvent} (h : RepeatsEmpty es)
    (hbefore : before <+: es) : RepeatsEmpty before :=
  fun earlier e hearlier => h earlier e (hearlier.trans hbefore)

/-- Then an event with zones is the first of its version. -/
theorem find?_of_zones {es : List RegionSyncEvent} (h : RepeatsEmpty es) {e : RegionSyncEvent}
    (he : e ∈ es) (hzones : e.zonePowerSum ≠ []) : es.find? (SameVersion e) = some e := by
  induction es using List.reverseRecOn with
  | nil => cases he
  | append_singleton es f ih =>
    rw [List.find?_append]
    rcases List.mem_append.mp he with hmem | hlast
    · rw [ih (h.of_prefix (List.prefix_append ..)) hmem, Option.some_or]
    · obtain rfl := List.mem_singleton.mp hlast
      have hnew : es.find? (SameVersion e) = none := by
        rw [List.find?_eq_none]
        intro f hf
        simp only [decide_eq_true_eq]
        intro hsame
        exact hzones (h es e (List.prefix_refl _) ⟨f, hf, hsame⟩)
      rw [hnew, Option.none_or]
      simp [SameVersion]

/-- An event counts for its own version. -/
theorem zoneCount_append (before : List RegionSyncEvent) (e f : RegionSyncEvent) (zone : UInt32) :
    zoneCount (record (before ++ [f])) e zone = zoneCount (record before) e zone +
      if SameVersion e f then f.zonePowerSum.countP fun zp => zp.1 = zone else 0 := by
  simp only [zoneCount, regionZonePower_record, List.flatMap_append, List.flatMap_singleton,
    List.countP_append, List.countP_map]
  congr 1
  split
  · next hsame =>
    refine List.countP_congr fun zp _ => ?_
    simp [RegionSyncEvent.zoneRow, cInt_injective.eq_iff, hsame.1, hsame.2]
  · next hother =>
    refine List.countP_eq_zero.mpr fun zp _ => ?_
    simp only [Function.comp_apply, RegionSyncEvent.zoneRow, cInt_injective.eq_iff,
      decide_eq_true_eq, not_and]
    intro hregion hversion
    exact absurd ⟨hregion.symm, hversion.symm⟩ hother

/-- Then each zone occurs as often as in the first event of its version. -/
theorem zoneCount_record {es : List RegionSyncEvent} (h : RepeatsEmpty es) (e : RegionSyncEvent)
    (zone : UInt32) :
    zoneCount (record es) e zone =
      (es.find? (SameVersion e)).elim 0 fun f => f.zonePowerSum.countP fun zp => zp.1 = zone := by
  induction es using List.reverseRecOn with
  | nil => rfl
  | append_singleton es f ih =>
    rw [zoneCount_append, ih (h.of_prefix (List.prefix_append ..)), List.find?_append]
    by_cases hsame : SameVersion e f
    · cases hfind : es.find? (SameVersion e) with
      | none => simp [hsame]
      | some first =>
        have hmem := List.mem_of_find?_eq_some hfind
        have hversion : SameVersion e first := by simpa using List.find?_some hfind
        have hempty := h es f (List.prefix_refl _)
          ⟨first, hmem, hsame.1.symm.trans hversion.1, hsame.2.symm.trans hversion.2⟩
        simp [hempty]
    · simp [hsame]

/-- Every version is recorded once exactly when each event that repeats a version is empty: the
index on `region_sync` protects no other table. -/
theorem recordsOnce_iff (es : List RegionSyncEvent) :
    RecordsOnce es ↔
      ∀ before e, before ++ [e] <+: es → (∃ f ∈ before, SameVersion e f) → e.zonePowerSum = [] := by
  constructor
  · intro h before e hprefix hrepeated
    have hsame := h.ignored before e hprefix ((recorded_record before e).mpr hrepeated)
    have hlength := congrArg (fun t => t.regionZonePower.length) hsame
    rw [record_append, length_recordSync] at hlength
    exact List.length_eq_zero_iff.mp (by omega)
  · intro h
    constructor
    · intro before e hprefix hrecorded
      have hempty := h before e hprefix ((recorded_record before e).mp hrecorded)
      rw [record_append, hempty]
      exact recordSync_one_of_recorded hrecorded
    · intro before hbefore z hz
      rw [regionZonePower_record] at hz
      obtain ⟨e, he, hz⟩ := List.mem_flatMap.mp hz
      obtain ⟨zp, hzp, rfl⟩ := List.mem_map.mp hz
      have hfirst := find?_of_zones (RepeatsEmpty.of_prefix h hbefore) he (List.ne_nil_of_mem hzp)
      have hfind := find?_record before e
      rw [hfirst, Option.map_some] at hfind
      obtain ⟨hmem, -⟩ := Table.find?_eq_some.mp hfind
      refine ⟨e.syncRow, ⟨hmem, rfl, rfl, rfl⟩, ?_⟩
      rintro row ⟨hrow, hregion, hversion, hts⟩
      exact Table.eq_of_key hrow hmem (Prod.ext hregion hversion)
    · intro before hbefore e first hfind zone
      have hcount := zoneCount_record (RepeatsEmpty.of_prefix h hbefore) e zone
      rw [hfind] at hcount
      exact hcount.le

/-- A region that restarts counts its versions from 1 again. -/
def restartedSyncs : List RegionSyncEvent := [⟨0, 1, 1, [(1, 500)]⟩, ⟨1, 1, 1, [(1, 700)]⟩]

/-- The zone powers of a repeated version are recorded again. -/
theorem not_recordsOnce_restartedSyncs : ¬RecordsOnce restartedSyncs := by
  intro h
  have hrecorded : Recorded (record [⟨0, 1, 1, [(1, 500)]⟩]) ⟨1, 1, 1, [(1, 700)]⟩ :=
    (recorded_record _ _).mpr ⟨_, List.mem_singleton_self _, rfl, rfl⟩
  have hsame := h.ignored _ _ (List.prefix_refl _) hrecorded
  exact absurd (congrArg (fun t => t.regionZonePower.length) hsame) (by decide)

end Sqlite

end SmartLighting
