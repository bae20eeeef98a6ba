import SmartLighting.DeviceMirror
import SmartLighting.SessionScope

/-!
# The devices table as a map

`schema.sql` keeps in `devices` the last known state of each URI. The writer binds
a URI up to its first NUL and a word as an `int`, so the table is the map of the
last events by what was bound. This is the map of the last events themselves as
long as no URI has a NUL and the words of the last events fit an `int`.
-/

namespace SmartLighting

open Transition

/-- The devices table of a new database after these events, none of which fails. -/
def devicesAfter (es : List DeviceUpsertEvent) : Table DeviceRow.uri :=
  (Sqlite.start.workAll (es.map fun e => (none, .deviceUpsert e))).tables.devices

/-- The row has the values of the event, as integers. -/
structure DeviceRow.Records (row : DeviceRow) (e : DeviceUpsertEvent) : Prop where
  zoneId : row.zoneId = e.zoneId.toNat
  regionId : row.regionId = e.regionId.toNat
  fault : row.fault = if e.fault then 1 else 0
  onState : row.onState = e.onState.toNat
  intensity : row.intensity = e.intensity.toNat
  powerMw : row.powerMw = e.powerMw.toNat

/-- The table is the map from the URIs to their last events. -/
structure LastWriteWins (es : List DeviceUpsertEvent) : Prop where
  /-- A URI that occurred has one row. -/
  one : ∀ e ∈ es, ((devicesAfter es).rows.countP fun row => row.uri = e.uri) = 1
  /-- There are no other rows. -/
  only : ∀ row ∈ (devicesAfter es).rows, ∃ e ∈ es, e.uri = row.uri
  /-- A row has the values of the last event with its URI. -/
  last : ∀ row ∈ (devicesAfter es).rows, ∀ e,
    lastWrite DeviceUpsertEvent.uri es row.uri = some e → row.Records e
  /-- Events with different URIs write different rows. -/
  apart : ∀ e ∈ es, ∀ e' ∈ es, e.uri ≠ e'.uri →
    (devicesAfter es).find? e.row.uri ≠ (devicesAfter es).find? e'.row.uri

/-- The words of an event fit an `int`. -/
def DeviceUpsertEvent.Fits (e : DeviceUpsertEvent) : Prop :=
  e.regionId.toNat < 2 ^ 31 ∧ e.zoneId.toNat < 2 ^ 31 ∧ e.powerMw.toNat < 2 ^ 31

variable {es : List DeviceUpsertEvent} {e e' : DeviceUpsertEvent} {row : DeviceRow} {uri : Bytes}

/-! ## What the table holds -/

theorem devicesAfter_eq (es : List DeviceUpsertEvent) :
    devicesAfter es = (es.map DeviceUpsertEvent.row).foldl Table.upsert .empty := by
  rw [devicesAfter, Sqlite.tables_workAll, List.foldl_map, List.foldl_map]
  induction es using List.reverseRecOn with
  | nil => rfl
  | append_singleton es e ih =>
    rw [List.foldl_concat, List.foldl_concat, ← ih]
    rfl

/-- In all cases, the row of a name is that of the last event whose URI was cut to this name. -/
theorem find?_devicesAfter (es : List DeviceUpsertEvent) (uri : Bytes) :
    (devicesAfter es).find? uri =
      (lastWrite (fun e => cText e.uri) es uri).map DeviceUpsertEvent.row := by
  rw [devicesAfter_eq, Table.find?_foldl_upsert, Table.find?_empty, Option.or_none, lastWrite_map]
  rfl

/-- Every row was bound by an event. -/
theorem exists_row_eq (h : row ∈ (devicesAfter es).rows) : ∃ e ∈ es, e.row = row := by
  have hfind := Table.find?_eq_some.mpr ⟨h, rfl⟩
  rw [find?_devicesAfter] at hfind
  obtain ⟨e, hlast, hrow⟩ := Option.map_eq_some_iff.mp hfind
  exact ⟨e, (mem_of_lastWrite hlast).1, hrow⟩

/-- No row has a NUL in its name. -/
theorem zero_notMem_uri_of_row (h : row ∈ (devicesAfter es).rows) : 0 ∉ row.uri := by
  obtain ⟨e, -, rfl⟩ := exists_row_eq h
  exact zero_notMem_cText e.uri

/-- An event has a row, and under this name there is no other. -/
theorem exists_find?_row (h : e ∈ es) : ∃ row, (devicesAfter es).find? e.row.uri = some row := by
  obtain ⟨last, hlast⟩ := exists_lastWrite (fun e => cText e.uri) h
  refine ⟨last.row, ?_⟩
  rw [find?_devicesAfter]
  exact Option.map_eq_some_iff.mpr ⟨last, hlast, rfl⟩

/-- Two events write the same row exactly when their URIs agree up to their first NULs. -/
theorem find?_row_eq_iff (h : e ∈ es) :
    (devicesAfter es).find? e.row.uri = (devicesAfter es).find? e'.row.uri ↔
      cText e.uri = cText e'.uri := by
  constructor
  · intro hsame
    obtain ⟨row, hrow⟩ := exists_find?_row h
    have hrow' := hsame.symm.trans hrow
    exact (Table.find?_eq_some.mp hrow).2.symm.trans (Table.find?_eq_some.mp hrow').2
  · exact congrArg (devicesAfter es).find?

/-- Without NULs the table is found under the URIs themselves. -/
theorem find?_of_notMem (hnames : ∀ e ∈ es, 0 ∉ e.uri) (uri : Bytes) :
    (devicesAfter es).find? uri =
      (lastWrite DeviceUpsertEvent.uri es uri).map DeviceUpsertEvent.row := by
  rw [find?_devicesAfter, lastWrite_congr fun e he => cText_of_notMem (hnames e he)]

/-- The row that an event binds has its values exactly when its words fit. -/
theorem records_row_iff : e.row.Records e ↔ e.Fits := by
  constructor
  · intro h
    exact ⟨(cInt_eq_toNat_iff.mp h.regionId).2, (cInt_eq_toNat_iff.mp h.zoneId).2,
      (cInt_eq_toNat_iff.mp h.powerMw).2⟩
  · rintro ⟨hregion, hzone, hpower⟩
    exact ⟨cInt_eq_toNat_iff.mpr ⟨rfl, hzone⟩, cInt_eq_toNat_iff.mpr ⟨rfl, hregion⟩, rfl, rfl, rfl,
      cInt_eq_toNat_iff.mpr ⟨rfl, hpower⟩⟩

/-! ## When it is the map of the last events -/

/-- The URIs of a faithful table have no NUL: there would be no row for them. -/
theorem LastWriteWins.notMem (h : LastWriteWins es) (he : e ∈ es) : 0 ∉ e.uri := by
  have hone := h.one e he
  have hpos : 0 < (devicesAfter es).rows.countP fun row => row.uri = e.uri := by omega
  obtain ⟨row, hrow, huri⟩ := List.countP_pos_iff.mp hpos
  rw [← of_decide_eq_true huri]
  exact zero_notMem_uri_of_row hrow

/-- The words of the last events of a faithful table fit. -/
theorem LastWriteWins.fits (h : LastWriteWins es)
    (hlast : lastWrite DeviceUpsertEvent.uri es uri = some e) : e.Fits := by
  have hfind := find?_of_notMem (fun _ he => h.notMem he) uri
  rw [hlast, Option.map_some] at hfind
  obtain ⟨hrow, huri⟩ := Table.find?_eq_some.mp hfind
  rw [← huri] at hlast
  exact records_row_iff.mp (h.last e.row hrow e hlast)

/-- Names without NULs and words that fit make a faithful table. -/
theorem lastWriteWins_of_fits (hnames : ∀ e ∈ es, 0 ∉ e.uri)
    (hfits : ∀ uri e, lastWrite DeviceUpsertEvent.uri es uri = some e → e.Fits) :
    LastWriteWins es where
  one e he := by
    obtain ⟨last, hlast⟩ := exists_lastWrite DeviceUpsertEvent.uri he
    rw [Table.countP_key, find?_of_notMem hnames, hlast]
    rfl
  only row hrow := by
    obtain ⟨e, he, rfl⟩ := exists_row_eq hrow
    exact ⟨e, he, (cText_of_notMem (hnames e he)).symm⟩
  last row hrow e hlast := by
    have hfind := Table.find?_eq_some.mpr ⟨hrow, rfl⟩
    rw [find?_of_notMem hnames, hlast, Option.map_some] at hfind
    rw [← Option.some.inj hfind]
    exact records_row_iff.mpr (hfits row.uri e hlast)
  apart e he e' he' hne := by
    rw [Ne, find?_row_eq_iff he, cText_of_notMem (hnames e he), cText_of_notMem (hnames e' he')]
    exact hne

/-- The devices table is the map of the last events exactly when no URI has a NUL in it and the
words of the last event of each URI fit an `int`. -/
theorem lastWriteWins_iff (es : List DeviceUpsertEvent) :
    LastWriteWins es ↔ (∀ e ∈ es, 0 ∉ e.uri) ∧
      ∀ uri e, lastWrite DeviceUpsertEvent.uri es uri = some e → e.Fits := by
  constructor
  · intro h
    exact ⟨fun e he => h.notMem he, fun uri e hlast => h.fits hlast⟩
  · rintro ⟨hnames, hfits⟩
    exact lastWriteWins_of_fits hnames hfits

/-! ## The events of a queue -/

/-- The upsert that an event is. -/
def DbEvent.upsert? : DbEvent → Option DeviceUpsertEvent
  | .deviceUpsert e => some e
  | _ => none

/-- Other events in between do not matter for the table. -/
theorem devices_workAll (es : List DbEvent) :
    (Sqlite.start.workAll (es.map fun e => (none, e))).tables.devices =
      devicesAfter (es.filterMap DbEvent.upsert?) := by
  rw [devicesAfter_eq, Sqlite.tables_workAll, List.foldl_map, List.foldl_map]
  induction es using List.reverseRecOn with
  | nil => rfl
  | append_singleton es e ih =>
    rw [List.foldl_concat, List.filterMap_append, List.foldl_append, ← ih]
    cases e with
    | deviceUpsert e => rfl
    | regionSync e | lampStatus e | fault e | command e => rfl

/-- The table of a region is that of the upserts among its calls. -/
theorem devices_drained (stamp : ℕ → Int64) (calls : List DbCall) :
    (drained stamp calls).devices =
      devicesAfter ((dbEvents stamp calls).filterMap DbEvent.upsert?) :=
  devices_workAll (dbEvents stamp calls)

/-- In every interleaving of the threads around the writer, and as long as no handler has failed,
the table is that of the upserts handled so far. -/
theorem always_devices_eq {ι : Type} [DecidableEq ι] (es : List (DbWriter.Event ι)) :
    Always (monitored DbWriter.step DbWriter.watchDb)
      (fun p => (∀ e ∈ p.2.handled, e.1 = none) →
        p.1.db.tables.devices =
          devicesAfter (p.2.handled.filterMap fun e => DbEvent.upsert? e.2))
      (DbWriter.start .start, .empty) es := by
  refine (DbWriter.always_db_eq .start es).mono fun p hdb hok => ?_
  have hdevices := devices_workAll (p.2.handled.map Prod.snd)
  rw [← DbWriter.handled_eq_map hok, List.filterMap_map] at hdevices
  rw [hdb, hdevices]
  rfl

/-- Two lamps, the second of which has the name of the first before a NUL, register and report. -/
def sharedFrames : List (Bytes × Clock) :=
  [DeviceMessage.register ⟨.luminaire, [97], 1⟩, .register ⟨.luminaire, [97, 0, 98], 1⟩,
    .status ⟨[97], 1, 1, 60, 5000⟩, .status ⟨[97, 0, 98], 1, 0, 0, 0⟩].map
    fun m => (m.body, ⟨1000, 0⟩)

/-- The upserts that a session of region 1 enqueues for these frames. -/
def sharedRow : List DeviceUpsertEvent :=
  (dbEvents (fun _ => 0) (Served.serve 1 (.accept .empty) sharedFrames).db).filterMap
    DbEvent.upsert?

/-- The second lamp has no row of its own, and writes that of the first. -/
theorem not_lastWriteWins_sharedRow : ¬LastWriteWins sharedRow := by
  intro h
  obtain ⟨e, he, huri⟩ : ∃ e ∈ sharedRow, e.uri = [97] := by decide +kernel
  obtain ⟨e', he', huri'⟩ : ∃ e' ∈ sharedRow, e'.uri = [97, 0, 98] := by decide +kernel
  have hne : e.uri ≠ e'.uri := by
    rw [huri, huri']
    decide
  refine h.apart e he e' he' hne ((find?_row_eq_iff he).mpr ?_)
  rw [huri, huri']
  decide

end SmartLighting
