import SmartLighting.Library.Tables
import SmartLighting.CentralServer
import SmartLighting.DeviceSession
import Mathlib.Algebra.Ring.Nat
import Mathlib.Data.List.TakeWhile

/-!
# The database writer

`DbWriter` of `db.cpp` turns each event into rows of `schema.sql`, through statements that
it prepares once and reuses. Any `sqlite3_step` may fail, and then changes nothing; the
rest of the handler is skipped. The columns `id` number the rows of a table in the order
of their insertion and are left out.
-/

namespace SmartLighting

/-! ## The events -/

/-- `struct RegionSyncEvent`. -/
structure RegionSyncEvent where
  tsMs : Int64
  regionId : UInt32
  version : UInt32
  /-- Pairs of a zone and its power sum in milliwatts. -/
  zonePowerSum : List (UInt32 × UInt32)
  deriving DecidableEq

/-- `struct DeviceUpsertEvent`. -/
structure DeviceUpsertEvent where
  tsMs : Int64
  uri : Bytes
  /-- 1 is a luminaire and 2 a sensor. -/
  type : UInt8
  regionId : UInt32
  zoneId : UInt32
  fault : Bool
  onState : UInt8
  intensity : UInt8
  powerMw : UInt32
  deriving DecidableEq

/-- `struct LampStatusEvent`. -/
structure LampStatusEvent where
  tsMs : Int64
  uri : Bytes
  regionId : UInt32
  zoneId : UInt32
  onState : UInt8
  intensity : UInt8
  powerMw : UInt32
  deriving DecidableEq

/-- `struct FaultEvent`. -/
structure FaultEvent where
  tsMs : Int64
  uri : Bytes
  regionId : UInt32
  zoneId : UInt32
  code : UInt8
  text : Bytes
  deriving DecidableEq

/-- `struct CommandEvent`. -/
structure CommandEvent where
  tsMs : Int64
  uri : Bytes
  regionId : UInt32
  cmd : UInt8
  value : UInt8
  source : Bytes
  deriving DecidableEq

/-- `DbWriter::Event`. -/
inductive DbEvent
  | regionSync (e : RegionSyncEvent)
  | deviceUpsert (e : DeviceUpsertEvent)
  | lampStatus (e : LampStatusEvent)
  | fault (e : FaultEvent)
  | command (e : CommandEvent)
  deriving DecidableEq

/-- The event that a call of the region puts into the queue, stamped with the time. -/
def DbCall.event (tsMs : Int64) : DbCall → DbEvent
  | .upsertDevice uri type regionId zoneId isFault on intensity powerMw =>
    .deviceUpsert ⟨tsMs, uri, type, regionId, zoneId, isFault, on, intensity, powerMw⟩
  | .lampStatus uri regionId zoneId on intensity powerMw =>
    .lampStatus ⟨tsMs, uri, regionId, zoneId, on, intensity, powerMw⟩
  | .fault uri regionId zoneId code text =>
    DbEvent.fault ⟨tsMs, uri, regionId, zoneId, code, text⟩

/-! ## The tables -/

/-- A row of `devices`. -/
structure DeviceRow where
  uri : Bytes
  type : ℤ
  regionId : ℤ
  zoneId : ℤ
  lastSeenMs : ℤ
  fault : ℤ
  onState : ℤ
  intensity : ℤ
  powerMw : ℤ
  deriving DecidableEq

/-- A row of `lamp_status`. -/
structure LampStatusRow where
  tsMs : ℤ
  uri : Bytes
  regionId : ℤ
  zoneId : ℤ
  onState : ℤ
  intensity : ℤ
  powerMw : ℤ
  deriving DecidableEq

/-- A row of `faults`. -/
structure FaultRow where
  tsMs : ℤ
  uri : Bytes
  regionId : ℤ
  zoneId : ℤ
  code : ℤ
  text : Bytes
  deriving DecidableEq

/-- A row of `region_sync`. -/
structure RegionSyncRow where
  tsMs : ℤ
  regionId : ℤ
  version : ℤ
  deriving DecidableEq

/-- A row of `region_zone_power`. -/
structure ZonePowerRow where
  tsMs : ℤ
  regionId : ℤ
  version : ℤ
  zoneId : ℤ
  powerSumMw : ℤ
  deriving DecidableEq

/-- A row of `commands`. -/
structure CommandRow where
  tsMs : ℤ
  uri : Bytes
  regionId : ℤ
  cmd : ℤ
  value : ℤ
  source : Bytes
  deriving DecidableEq

/-- The columns of the index `idx_region_sync_r_v`. -/
def RegionSyncRow.key (row : RegionSyncRow) : ℤ × ℤ := (row.regionId, row.version)

/-- The tables that the queue writes. -/
structure Tables where
  /-- The primary key is the name. -/
  devices : Table DeviceRow.uri
  lampStatus : List LampStatusRow
  faults : List FaultRow
  /-- Unique by region and version. -/
  regionSync : Table RegionSyncRow.key
  regionZonePower : List ZonePowerRow
  commands : List CommandRow

/-- The tables that `schema.sql` creates. -/
def Tables.empty : Tables := ⟨.empty, [], [], .empty, [], []⟩

/-! ## Prepared statements -/

/-- A value bound to a parameter. -/
inductive SqlValue
  | int (value : ℤ)
  | text (bytes : Bytes)

/-- The value that `sqlite3_bind_int` gets from a word. -/
def cInt (x : UInt32) : ℤ := x.toInt32.toInt

/-- The value that `sqlite3_bind_int` gets from a byte. -/
def byteInt (x : UInt8) : ℤ := x.toNat

/-- What `sqlite3_bind_text` reads from `c_str()`: the bytes before the first NUL. -/
def cText (s : Bytes) : Bytes := s.takeWhile fun b => b ≠ 0

/-- The words that the statements bind keep their identity. -/
theorem cInt_injective : Function.Injective cInt := by
  intro x y h
  have hword : x.toInt32 = y.toInt32 := Int32.toInt_inj.mp h
  have hbits := congrArg Int32.toBitVec hword
  exact UInt32.toBitVec_inj.mp hbits

/-- The number that is bound for a word is the word where it fits. -/
theorem cInt_eq_toNat_iff {x y : UInt32} : cInt x = y.toNat ↔ y = x ∧ x.toNat < 2 ^ 31 := by
  have hx := x.toNat_lt
  have hy := y.toNat_lt
  have hvalue : cInt x = if 2 * x.toNat < 2 ^ 32 then (x.toNat : ℤ) else x.toNat - 2 ^ 32 :=
    BitVec.toInt_eq_toNat_cond x.toBitVec
  rw [hvalue, ← UInt32.toNat_inj]
  split <;> omega

/-- Different bytes are different numbers. -/
theorem byteInt_eq_toNat_iff {x y : UInt8} : byteInt x = y.toNat ↔ y = x := by
  rw [byteInt, Int.natCast_inj, UInt8.toNat_inj, eq_comm]

/-- A name has no NUL after it was bound. -/
theorem zero_notMem_cText (s : Bytes) : 0 ∉ cText s := by
  intro h
  simpa using List.mem_takeWhile_imp h

/-- A name without a NUL is bound as it is. -/
theorem cText_of_notMem {s : Bytes} (h : 0 ∉ s) : cText s = s := by
  refine List.takeWhile_eq_self_iff.mpr fun b hb => ?_
  simp only [ne_eq, decide_not, Bool.not_eq_true', decide_eq_false_iff_not]
  rintro rfl
  exact h hb

/-- `sqlite3_stmt`. -/
structure Stmt where
  /-- It was stepped and not reset since; then it cannot be bound. -/
  stepped : Bool
  /-- The values bound to its parameters, which are numbered from 1. -/
  params : ℕ → Option SqlValue

namespace Stmt

/-- A statement that was just prepared. -/
def prepared : Stmt := ⟨false, fun _ => none⟩

/-- `sqlite3_reset`. -/
def reset (st : Stmt) : Stmt := { st with stepped := false }

/-- `sqlite3_clear_bindings`. -/
def clearBindings (st : Stmt) : Stmt := { st with params := fun _ => none }

/-- `reset_and_clear`. -/
def resetAndClear (st : Stmt) : Stmt := st.reset.clearBindings

/-- `sqlite3_bind_…`, whose result is ignored. -/
def bind (st : Stmt) (value : SqlValue × ℕ) : Stmt :=
  if st.stepped then st
  else { st with params := Function.update st.params value.2 (some value.1) }

/-- The calls of `sqlite3_bind_…` for all parameters. -/
def bindAll (st : Stmt) (values : List SqlValue) : Stmt := (values.zipIdx 1).foldl bind st

/-- The state after `sqlite3_step`. -/
def step (st : Stmt) : Stmt := { st with stepped := true }

/-- The value of a column that must not be NULL and holds integers. -/
def intAt (st : Stmt) (i : ℕ) : Option ℤ :=
  match st.params i with
  | some (.int value) => some value
  | _ => none

/-- The value of a column that must not be NULL and holds text. -/
def textAt (st : Stmt) (i : ℕ) : Option Bytes :=
  match st.params i with
  | some (.text bytes) => some bytes
  | _ => none

/-- `VALUES` of the statement for `region_sync`. -/
def regionSyncRow (st : Stmt) : Option RegionSyncRow :=
  return ⟨← st.intAt 1, ← st.intAt 2, ← st.intAt 3⟩

/-- `VALUES` of the statement for `region_zone_power`. -/
def zonePowerRow (st : Stmt) : Option ZonePowerRow :=
  return ⟨← st.intAt 1, ← st.intAt 2, ← st.intAt 3, ← st.intAt 4, ← st.intAt 5⟩

/-- `VALUES` of the statement for `devices`. -/
def deviceRow (st : Stmt) : Option DeviceRow :=
  return ⟨← st.textAt 1, ← st.intAt 2, ← st.intAt 3, ← st.intAt 4, ← st.intAt 5, ← st.intAt 6,
    ← st.intAt 7, ← st.intAt 8, ← st.intAt 9⟩

/-- `VALUES` of the statement for `lamp_status`. -/
def lampStatusRow (st : Stmt) : Option LampStatusRow :=
  return ⟨← st.intAt 1, ← st.textAt 2, ← st.intAt 3, ← st.intAt 4, ← st.intAt 5, ← st.intAt 6,
    ← st.intAt 7⟩

/-- `VALUES` of the statement for `faults`. -/
def faultRow (st : Stmt) : Option FaultRow :=
  return ⟨← st.intAt 1, ← st.textAt 2, ← st.intAt 3, ← st.intAt 4, ← st.intAt 5, ← st.textAt 6⟩

/-- `VALUES` of the statement for `commands`. -/
def commandRow (st : Stmt) : Option CommandRow :=
  return ⟨← st.intAt 1, ← st.textAt 2, ← st.intAt 3, ← st.intAt 4, ← st.intAt 5, ← st.textAt 6⟩

end Stmt

/-! ## The handlers -/

/-- The open database with the statements of `prepare_statements`. -/
structure Sqlite where
  tables : Tables
  /-- `st_region_sync_`. -/
  stRegionSync : Stmt
  /-- `st_region_zone_power_`. -/
  stRegionZonePower : Stmt
  /-- `st_device_upsert_`. -/
  stDeviceUpsert : Stmt
  /-- `st_lamp_status_`. -/
  stLampStatus : Stmt
  /-- `st_fault_`. -/
  stFault : Stmt
  /-- `st_command_`. -/
  stCommand : Stmt

namespace Sqlite

/-- A new database after `start`. -/
def start : Sqlite :=
  ⟨.empty, .prepared, .prepared, .prepared, .prepared, .prepared, .prepared⟩

/-- `check_sqlite(sqlite3_step(…))`: the statement inserts its row, or `check_sqlite` throws.
A row with a NULL in it is refused. -/
def check {ρ : Type} (fails : Bool) (row : Option ρ) (insert : Tables → ρ → Tables)
    (s : Sqlite) : Except Sqlite Sqlite :=
  match row, fails with
  | some row, false => .ok { s with tables := insert s.tables row }
  | _, _ => .error s

/-- The first step of `handle(RegionSyncEvent)`. -/
def insertRegionSync (fails : Bool) (e : RegionSyncEvent) (s : Sqlite) : Except Sqlite Sqlite :=
  let st := s.stRegionSync.resetAndClear.bindAll
    [.int e.tsMs.toInt, .int (cInt e.regionId), .int (cInt e.version)]
  check fails st.regionSyncRow
    (fun t row => { t with regionSync := t.regionSync.insertOrIgnore row })
    { s with stRegionSync := st.step }

/-- The body of the loop of `handle(RegionSyncEvent)`. -/
def insertZonePower (fails : Bool) (e : RegionSyncEvent) (zp : UInt32 × UInt32) (s : Sqlite) :
    Except Sqlite Sqlite :=
  let st := s.stRegionZonePower.resetAndClear.bindAll
    [.int e.tsMs.toInt, .int (cInt e.regionId), .int (cInt e.version), .int (cInt zp.1),
      .int (cInt zp.2)]
  check fails st.zonePowerRow
    (fun t row => { t with regionZonePower := t.regionZonePower ++ [row] })
    { s with stRegionZonePower := st.step }

/-- `handle(RegionSyncEvent)`. The steps are counted from 0; the one at `failAt` fails. -/
def handleRegionSync (failAt : Option ℕ) (e : RegionSyncEvent) (s : Sqlite) :
    Except Sqlite Sqlite := do
  let s ← s.insertRegionSync (failAt = some 0) e
  (e.zonePowerSum.zipIdx 1).foldlM
    (fun s zp => s.insertZonePower (failAt = some zp.2) e zp.1) s

/-- `handle(DeviceUpsertEvent)`. -/
def handleDeviceUpsert (fails : Bool) (e : DeviceUpsertEvent) (s : Sqlite) :
    Except Sqlite Sqlite :=
  let st := s.stDeviceUpsert.resetAndClear.bindAll
    [.text (cText e.uri), .int (byteInt e.type), .int (cInt e.regionId), .int (cInt e.zoneId),
      .int e.tsMs.toInt, .int (if e.fault then 1 else 0), .int (byteInt e.onState),
      .int (byteInt e.intensity), .int (cInt e.powerMw)]
  check fails st.deviceRow (fun t row => { t with devices := t.devices.upsert row })
    { s with stDeviceUpsert := st.step }

/-- `handle(LampStatusEvent)`. -/
def handleLampStatus (fails : Bool) (e : LampStatusEvent) (s : Sqlite) : Except Sqlite Sqlite :=
  let st := s.stLampStatus.resetAndClear.bindAll
    [.int e.tsMs.toInt, .text (cText e.uri), .int (cInt e.regionId), .int (cInt e.zoneId),
      .int (byteInt e.onState), .int (byteInt e.intensity), .int (cInt e.powerMw)]
  check fails st.lampStatusRow (fun t row => { t with lampStatus := t.lampStatus ++ [row] })
    { s with stLampStatus := st.step }

/-- `handle(FaultEvent)`. -/
def handleFault (fails : Bool) (e : FaultEvent) (s : Sqlite) : Except Sqlite Sqlite :=
  let st := s.stFault.resetAndClear.bindAll
    [.int e.tsMs.toInt, .text (cText e.uri), .int (cInt e.regionId), .int (cInt e.zoneId),
      .int (byteInt e.code), .text (cText e.text)]
  check fails st.faultRow (fun t row => { t with faults := t.faults ++ [row] })
    { s with stFault := st.step }

/-- `handle(CommandEvent)`. -/
def handleCommand (fails : Bool) (e : CommandEvent) (s : Sqlite) : Except Sqlite Sqlite :=
  let st := s.stCommand.resetAndClear.bindAll
    [.int e.tsMs.toInt, .text (cText e.uri), .int (cInt e.regionId), .int (byteInt e.cmd),
      .int (byteInt e.value), .text (cText e.source)]
  check fails st.commandRow (fun t row => { t with commands := t.commands ++ [row] })
    { s with stCommand := st.step }

/-- `std::visit` in `worker_main`. An exception carries the database as it was left. -/
def handle (failAt : Option ℕ) (s : Sqlite) : DbEvent → Except Sqlite Sqlite
  | .regionSync e => s.handleRegionSync failAt e
  | .deviceUpsert e => s.handleDeviceUpsert (failAt = some 0) e
  | .lampStatus e => s.handleLampStatus (failAt = some 0) e
  | .fault e => s.handleFault (failAt = some 0) e
  | .command e => s.handleCommand (failAt = some 0) e

/-- The `catch` of `worker_main` does nothing. -/
def swallow : Except Sqlite Sqlite → Sqlite
  | .ok s => s
  | .error s => s

/-- The worker handles an event. -/
def work (failAt : Option ℕ) (s : Sqlite) (e : DbEvent) : Sqlite := swallow (s.handle failAt e)

/-- The worker handles events, each with its own failures. -/
def workAll (s : Sqlite) (es : List (Option ℕ × DbEvent)) : Sqlite :=
  es.foldl (fun s e => s.work e.1 e.2) s

end Sqlite

/-! ## What a handler inserts

The rows depend on the event only: after `reset_and_clear` a statement has the values that
are bound to it, whatever happened to it before.
-/

namespace RegionSyncEvent

/-- The row of `region_sync`. -/
def syncRow (e : RegionSyncEvent) : RegionSyncRow :=
  ⟨e.tsMs.toInt, cInt e.regionId, cInt e.version⟩

/-- A row of `region_zone_power`. -/
def zoneRow (e : RegionSyncEvent) (zp : UInt32 × UInt32) : ZonePowerRow :=
  ⟨e.tsMs.toInt, cInt e.regionId, cInt e.version, cInt zp.1, cInt zp.2⟩

end RegionSyncEvent

/-- The row of `devices`. -/
def DeviceUpsertEvent.row (e : DeviceUpsertEvent) : DeviceRow :=
  ⟨cText e.uri, byteInt e.type, cInt e.regionId, cInt e.zoneId, e.tsMs.toInt,
    if e.fault then 1 else 0, byteInt e.onState, byteInt e.intensity, cInt e.powerMw⟩

/-- The row of `lamp_status`. -/
def LampStatusEvent.row (e : LampStatusEvent) : LampStatusRow :=
  ⟨e.tsMs.toInt, cText e.uri, cInt e.regionId, cInt e.zoneId, byteInt e.onState,
    byteInt e.intensity, cInt e.powerMw⟩

/-- The row of `faults`. -/
def FaultEvent.row (e : FaultEvent) : FaultRow :=
  ⟨e.tsMs.toInt, cText e.uri, cInt e.regionId, cInt e.zoneId, byteInt e.code, cText e.text⟩

/-- The row of `commands`. -/
def CommandEvent.row (e : CommandEvent) : CommandRow :=
  ⟨e.tsMs.toInt, cText e.uri, cInt e.regionId, byteInt e.cmd, byteInt e.value, cText e.source⟩

namespace Sqlite

theorem insertRegionSync_ok (e : RegionSyncEvent) (s : Sqlite) :
    ∃ u, s.insertRegionSync false e = .ok u ∧
      u.tables = { s.tables with regionSync := s.tables.regionSync.insertOrIgnore e.syncRow } :=
  ⟨_, rfl, rfl⟩

theorem insertRegionSync_error (e : RegionSyncEvent) (s : Sqlite) :
    ∃ u, s.insertRegionSync true e = .error u ∧ u.tables = s.tables :=
  ⟨_, rfl, rfl⟩

theorem insertZonePower_ok (e : RegionSyncEvent) (zp : UInt32 × UInt32) (s : Sqlite) :
    ∃ u, s.insertZonePower false e zp = .ok u ∧
      u.tables = { s.tables with
        regionZonePower := s.tables.regionZonePower ++ [e.zoneRow zp] } :=
  ⟨_, rfl, rfl⟩

theorem insertZonePower_error (e : RegionSyncEvent) (zp : UInt32 × UInt32) (s : Sqlite) :
    ∃ u, s.insertZonePower true e zp = .error u ∧ u.tables = s.tables :=
  ⟨_, rfl, rfl⟩

end Sqlite

/-! ## What an event means for the tables -/

namespace Tables

/-- The tables after the first steps of `handle(RegionSyncEvent)`. -/
def recordSync (t : Tables) (e : RegionSyncEvent) : ℕ → Tables
  | 0 => t
  | steps + 1 =>
    { t with
      regionSync := t.regionSync.insertOrIgnore e.syncRow
      regionZonePower := t.regionZonePower ++ (e.zonePowerSum.take steps).map e.zoneRow }

/-- The tables after the worker has handled an event. -/
def after (failAt : Option ℕ) (t : Tables) : DbEvent → Tables
  | .regionSync e => t.recordSync e (failAt.getD (e.zonePowerSum.length + 1))
  | .deviceUpsert e =>
    if failAt = some 0 then t else { t with devices := t.devices.upsert e.row }
  | .lampStatus e => if failAt = some 0 then t else { t with lampStatus := t.lampStatus ++ [e.row] }
  | .fault e => if failAt = some 0 then t else { t with faults := t.faults ++ [e.row] }
  | .command e => if failAt = some 0 then t else { t with commands := t.commands ++ [e.row] }

end Tables

namespace Sqlite

variable {failAt : Option ℕ}

/-- The loop over the zones inserts a row in each pass, until a step fails. -/
theorem tables_zoneLoop (e : RegionSyncEvent) (zones : List (UInt32 × UInt32)) (start : ℕ)
    (hstart : ∀ p, failAt = some p → start ≤ p) (s : Sqlite) :
    (swallow ((zones.zipIdx start).foldlM
      (fun s zp => s.insertZonePower (failAt = some zp.2) e zp.1) s)).tables =
      { s.tables with
        regionZonePower := s.tables.regionZonePower ++
          (zones.take (failAt.getD (start + zones.length) - start)).map e.zoneRow } := by
  induction zones generalizing start s with
  | nil => simp [swallow, pure, Except.pure]
  | cons zone zones ih =>
    rw [List.zipIdx_cons, List.foldlM_cons]
    by_cases hfails : failAt = some start
    · obtain ⟨u, hu, htables⟩ := insertZonePower_error e zone s
      simp [hfails, hu, bind, Except.bind, swallow, htables]
    · obtain ⟨u, hu, htables⟩ := insertZonePower_ok e zone s
      have hnext : ∀ p, failAt = some p → start + 1 ≤ p := by
        intro p hp
        have hle := hstart p hp
        have hne : p ≠ start := by
          rintro rfl
          exact hfails hp
        omega
      have hcount : failAt.getD (start + (zone :: zones).length) - start =
          failAt.getD (start + 1 + zones.length) - (start + 1) + 1 := by
        cases hp : failAt with
        | none =>
          simp only [Option.getD_none, List.length_cons]
          omega
        | some p =>
          have hle := hnext p hp
          simp only [Option.getD_some]
          omega
      have hrest := ih (start + 1) hnext u
      rw [hcount, List.take_succ_cons, List.map_cons]
      simp only [hfails, decide_false, hu, bind, Except.bind]
      rw [hrest, htables]
      simp

/-- The handler of a synchronization makes its steps until one fails. -/
theorem tables_handleRegionSync (e : RegionSyncEvent) (s : Sqlite) :
    (swallow (s.handleRegionSync failAt e)).tables =
      s.tables.recordSync e (failAt.getD (e.zonePowerSum.length + 1)) := by
  unfold handleRegionSync
  by_cases hfails : failAt = some 0
  · obtain ⟨u, hu, htables⟩ := insertRegionSync_error e s
    simp [hfails, hu, bind, Except.bind, swallow, htables, Tables.recordSync]
  · obtain ⟨u, hu, htables⟩ := insertRegionSync_ok e s
    have hlater : ∀ p, failAt = some p → 1 ≤ p := by
      rintro p rfl
      exact Nat.pos_of_ne_zero fun h => hfails (h ▸ rfl)
    have hsteps : failAt.getD (e.zonePowerSum.length + 1) =
        failAt.getD (1 + e.zonePowerSum.length) - 1 + 1 := by
      cases hp : failAt with
      | none =>
        simp only [Option.getD_none]
        omega
      | some p =>
        have hpos := hlater p hp
        simp only [Option.getD_some]
        omega
    have hloop := tables_zoneLoop e e.zonePowerSum 1 hlater u
    simp only [hfails, decide_false, hu, bind, Except.bind]
    rw [hloop, htables, hsteps]
    rfl

/-- The worker changes the tables as the event says, whatever its statements were used for. -/
theorem tables_work (s : Sqlite) (e : DbEvent) :
    (s.work failAt e).tables = s.tables.after failAt e := by
  cases e with
  | regionSync e => exact tables_handleRegionSync e s
  | deviceUpsert e | lampStatus e | fault e | command e =>
    -- These handlers have one step.
    by_cases hfails : failAt = some 0 <;> simp only [work, handle, Tables.after, hfails] <;> rfl

/-- The tables after any events are a fold over the events. -/
theorem tables_workAll (s : Sqlite) (es : List (Option ℕ × DbEvent)) :
    (s.workAll es).tables = es.foldl (fun t e => t.after e.1 e.2) s.tables := by
  induction es generalizing s with
  | nil => rfl
  | cons e es ih =>
    change ((s.work e.1 e.2).workAll es).tables = _
    rw [ih, tables_work]
    rfl

end Sqlite

end SmartLighting
