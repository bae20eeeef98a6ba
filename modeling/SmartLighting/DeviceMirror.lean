import SmartLighting.DbQueue
import SmartLighting.RegionSteps

/-!
# The devices table of a region

`schema.sql` keeps the last known state of each device in `devices`. Status reports and
fault markers of sensors update the table; registrations and fault reports of device
sessions change the registry only.
-/

namespace SmartLighting

open Transition

/-! ## The database of a region -/

/-- The events that the calls of a region put into the queue, each stamped with its time. -/
def dbEvents (stamp : ℕ → Int64) (calls : List DbCall) : List DbEvent :=
  calls.zipIdx.map fun c => c.1.event (stamp c.2)

/-- The tables once the queue is drained and no step has failed. -/
def drained (stamp : ℕ → Int64) (calls : List DbCall) : Tables :=
  (Sqlite.start.workAll ((dbEvents stamp calls).map fun e => (none, e))).tables

/-- Whether a call updates `devices`. -/
def DbCall.IsUpsert : DbCall → Prop
  | .upsertDevice .. => True
  | _ => False

section Drained

variable {stamp : ℕ → Int64} {calls new : List DbCall}

/-- One more call is drained. -/
theorem drained_append (call : DbCall) :
    drained stamp (calls ++ [call]) =
      (drained stamp calls).after none (call.event (stamp calls.length)) := by
  simp only [drained, dbEvents, Sqlite.tables_workAll, List.zipIdx_append, List.map_append,
    List.foldl_append]
  simp

/-- An upsert replaces the row of its device. -/
theorem devices_drained_upsert {uri : Bytes} {type on intensity : UInt8} {fault : Bool}
    {regionId zoneId powerMw : UInt32} :
    (drained stamp
      (calls ++ [.upsertDevice uri type regionId zoneId fault on intensity powerMw])).devices =
      (drained stamp calls).devices.upsert (DeviceUpsertEvent.row
        ⟨stamp calls.length, uri, type, regionId, zoneId, fault, on, intensity, powerMw⟩) := by
  rw [drained_append]
  rfl

/-- Calls of another kind leave the table. -/
theorem devices_drained_append (hnew : ∀ call ∈ new, ¬call.IsUpsert) :
    (drained stamp (calls ++ new)).devices = (drained stamp calls).devices := by
  induction new using List.reverseRecOn with
  | nil => rw [List.append_nil]
  | append_singleton new call ih =>
    have hrest := ih fun c hc => hnew c (List.mem_append_left _ hc)
    have hcall := hnew call (List.mem_append_right _ (List.mem_singleton_self call))
    rw [← List.append_assoc, drained_append]
    cases call with
    | upsertDevice uri type regionId zoneId fault on intensity powerMw => exact absurd trivial hcall
    | lampStatus uri regionId zoneId on intensity powerMw => exact hrest
    | fault uri regionId zoneId code text => exact hrest

/-- What the writer's database holds once its queue is drained and no step has failed. -/
theorem tables_of_drained {ι : Type} {w : DbWriter ι} {log : DbWriter.DbLog}
    (hinv : DbWriter.DbInv w log) (hdb : w.db = Sqlite.start.workAll log.handled)
    (hworker : w.worker = .checking ∨ w.worker = .waiting) (hq : w.q = [])
    (hpushed : log.pushed = dbEvents stamp calls) (hok : ∀ e ∈ log.handled, e.1 = none) :
    w.db.tables = drained stamp calls := by
  have hhandled := hinv.handled_of_drained hworker hq
  have hall : log.handled = (dbEvents stamp calls).map fun e => (none, e) := by
    rw [← hpushed, ← hhandled]
    exact DbWriter.handled_eq_map hok
  rw [hdb, hall, drained]

end Drained

namespace Region

variable {cfg : RegionConfig} {r t : Region} {e : Event} {stamp : ℕ → Int64}

/-- The upsert for a device, which names every type but a luminaire a sensor. -/
def upsertOf (cfg : RegionConfig) (uri : Bytes) (st : DeviceState) : DbCall :=
  .upsertDevice uri (if st.type = .luminaire then 1 else 2) cfg.regionId st.zoneId st.fault st.on
    st.intensity st.powerMw

/-- The row that the upsert inserts. -/
def rowOf (cfg : RegionConfig) (tsMs : Int64) (uri : Bytes) (st : DeviceState) : DeviceRow :=
  DeviceUpsertEvent.row ⟨tsMs, uri, if st.type = .luminaire then 1 else 2, cfg.regionId, st.zoneId,
    st.fault, st.on, st.intensity, st.powerMw⟩

/-- The stored state that an event also puts into the database. -/
def reported (r : Region) : Event → Option (Bytes × DeviceState)
  | .frame k body clock =>
    match DeviceMessage.ofBody body with
    | some (.status _) => r.stored (.frame k body clock)
    | _ => none
  | .datagram bytes beyond clock =>
    match parseTelemetry bytes beyond with
    | some tel => if tel.motion = 254 then r.stored (.datagram bytes beyond clock) else none
    | none => none
  | _ => none

/-- The calls of a frame: a status report that is not dropped begins with its upsert. -/
theorem db_handleFrame (cfg : RegionConfig) (clock : Clock) (r : Region) (k : ℕ) (body : Bytes) :
    ∃ rest, (∀ call ∈ rest, ¬call.IsUpsert) ∧
      (handleFrame cfg clock r k body).db = r.db ++
        ((r.reported (.frame k body clock)).map fun p => upsertOf cfg p.1 p.2).toList ++ rest := by
  have hdb : (handleFrame cfg clock r k body).db =
      r.db ++ (((r.sessions k).onMessage cfg.regionId body clock).exec r.reg).1.db := by
    unfold handleFrame
    dsimp only
    split <;> rfl
  rw [hdb, DeviceSession.onMessage_eq]
  simp only [reported, stored, DeviceSession.stored]
  cases hm : DeviceMessage.ofBody body with
  | none => exact ⟨[], by simp, by simp⟩
  | some m =>
    cases m with
    | register req =>
      refine ⟨[], by simp, ?_⟩
      by_cases haccepts : DeviceSession.Accepts req
      · simp [DeviceSession.exec_handleRegister haccepts]
      · simp [DeviceSession.exec_handleRegister_refused haccepts]
    | fault report =>
      refine ⟨[.fault report.uri cfg.regionId report.zoneId report.code report.text], ?_, ?_⟩
      · simp [DbCall.IsUpsert]
      · simp [DeviceSession.exec_handleFault]
    | status report =>
      cases hst : (r.sessions k).statusState report clock (r.reg.get report.uri) with
      | none =>
        refine ⟨[], by simp, ?_⟩
        simp [DeviceSession.handleStatus, hst]
      | some st =>
        have heq := DeviceSession.eq_of_statusState hst
        by_cases htype : st.type = .luminaire
        · refine ⟨[.lampStatus report.uri cfg.regionId report.zoneId report.on report.intensity
            report.powerMw], by simp [DbCall.IsUpsert], ?_⟩
          simp only [DeviceSession.handleStatus, Program.exec_bind, Program.exec_read, hst]
          simp [htype, upsertOf]
          simp [heq]
        · refine ⟨[], by simp, ?_⟩
          simp only [DeviceSession.handleStatus, Program.exec_bind, Program.exec_read, hst]
          simp [htype, upsertOf]
          simp [heq]

/-- The calls of a fault marker begin with its upsert. -/
theorem db_receive_marker (cfg : RegionConfig) (clock : Clock) (r : Region) {bytes beyond : Bytes}
    {tel : Telemetry} (hparse : parseTelemetry bytes beyond = some tel)
    (hmarker : tel.motion = 254) :
    ∃ rest, (∀ call ∈ rest, ¬call.IsUpsert) ∧
      (receive cfg clock r tel).db = r.db ++
        ((r.reported (.datagram bytes beyond clock)).map fun p =>
          upsertOf cfg p.1 p.2).toList ++ rest := by
  have hedge : ¬(tel.motion = 0 ∨ tel.motion = 1) := by
    rw [hmarker]
    decide
  have hstored : r.reported (.datagram bytes beyond clock) =
      some (tel.uri, ⟨.sensor, tel.zoneId, 0, 0, 0, true, clock.nowMs⟩) := by
    simp only [reported, hparse, if_pos hmarker, (Storing.marker clock hparse hmarker).stored_eq]
  refine ⟨[.fault tel.uri cfg.regionId tel.zoneId 1 (ascii "sensor_fault")], ?_, ?_⟩
  · simp [DbCall.IsUpsert]
  · simp only [receive, if_pos hmarker, if_neg hedge, faultMarker, sensorFault, switchTo,
      sendAlarmNow, Registry.get_upsert_self, hstored, Option.map_some, Option.toList_some,
      upsertOf, if_neg DeviceType.sensor_ne_luminaire, List.append_assoc, List.singleton_append]

/-- The events of the law: everything but the timer and telemetry that is no fault marker. -/
def Event.reportsOnly : Event → Bool
  | .tick _ => false
  | .datagram bytes beyond _ => (parseTelemetry bytes beyond).any fun tel => tel.motion = 254
  | _ => true

/-- The devices table of the region. -/
def devices (stamp : ℕ → Int64) (r : Region) : Table DeviceRow.uri := (drained stamp r.db).devices

/-- A step updates the table for the device that it reports, and for no other. -/
theorem devices_step (stamp : ℕ → Int64) (h : step cfg r e = some t) (hreports : e.reportsOnly = true) :
    devices stamp t = (r.reported e).elim (devices stamp r) fun p =>
      (devices stamp r).upsert (rowOf cfg (stamp r.db.length) p.1 p.2) := by
  have hcalls : ∀ (rest : List DbCall) {db : List DbCall}, (∀ call ∈ rest, ¬call.IsUpsert) →
      db = r.db ++ ((r.reported e).map fun p => upsertOf cfg p.1 p.2).toList ++ rest →
      (drained stamp db).devices = (r.reported e).elim (devices stamp r) fun p =>
        (devices stamp r).upsert (rowOf cfg (stamp r.db.length) p.1 p.2) := by
    intro rest db hrest hdb
    rw [hdb, devices_drained_append hrest]
    cases r.reported e with
    | none =>
      simp only [Option.map_none, Option.toList_none, List.append_nil, Option.elim_none, devices]
    | some p => exact devices_drained_upsert
  have hquiet : r.reported e = none → t.db = r.db →
      (drained stamp t.db).devices = (r.reported e).elim (devices stamp r) fun p =>
        (devices stamp r).upsert (rowOf cfg (stamp r.db.length) p.1 p.2) := by
    intro hnone hdb
    refine hcalls [] (by simp) ?_
    simp [hnone, hdb]
  cases e with
  | frame k body clock =>
    simp only [step] at h
    split at h
    · cases h
    · cases h
      obtain ⟨rest, hrest, hdb⟩ := db_handleFrame cfg clock r k body
      exact hcalls _ hrest hdb
  | datagram bytes beyond clock =>
    simp only [step] at h
    split at h
    · next tel hparse =>
      cases h
      have hmarker : tel.motion = 254 := by simpa [Event.reportsOnly, hparse] using hreports
      obtain ⟨rest, hrest, hdb⟩ := db_receive_marker cfg clock r hparse hmarker
      exact hcalls _ hrest hdb
    · next hparse => simp [Event.reportsOnly, hparse] at hreports
  | tick clock => cases hreports
  | posted k =>
    obtain ⟨q, -, rfl⟩ := Option.map_eq_some_iff.mp h
    exact hquiet rfl rfl
  | writeDone k i ok =>
    obtain ⟨s, -, rfl⟩ := Option.map_eq_some_iff.mp h
    refine hquiet rfl ?_
    cases ok with
    | true => rfl
    | false => exact (commandsOnly_onClose k).db
  | close k =>
    simp only [step] at h
    split at h
    · cases h
    · cases h
      exact hquiet rfl (commandsOnly_onClose k).db
  | expire k =>
    simp only [step] at h
    split at h
    · cases h
      exact hquiet rfl rfl
    · cases h

/-! ## The law of the table -/

/-- The row has the values of the entry. -/
structure Agrees (row : DeviceRow) (st : DeviceState) : Prop where
  type : row.type = st.type.code.toNat
  zoneId : row.zoneId = st.zoneId.toNat
  fault : row.fault = if st.fault then 1 else 0
  onState : row.onState = st.on.toNat
  intensity : row.intensity = st.intensity.toNat
  powerMw : row.powerMw = st.powerMw.toNat

/-- Every row agrees with the registry's entry for its name. -/
def Mirrors (stamp : ℕ → Int64) (r : Region) : Prop :=
  ∀ row ∈ (devices stamp r).rows, ∃ st, r.reg.get row.uri = some st ∧ Agrees row st

/-- The name has a row. -/
def HasRow (stamp : ℕ → Int64) (r : Region) (uri : Bytes) : Prop :=
  ∃ row ∈ (devices stamp r).rows, row.uri = uri

/-- The type that an upsert names. -/
def namedType (type : DeviceType) : DeviceType :=
  if type = .luminaire then .luminaire else .sensor

/-- The type and the fault under which a status report is handled, unless it is dropped. -/
def reporter (s : DeviceSession) (report : StatusReport) (got : Option DeviceState) :
    Option (DeviceType × Bool) :=
  match got with
  | some st => some (st.type, st.fault)
  | none =>
    if s.registered = false ∨ s.uri = [] ∨ report.uri ≠ s.uri then none
    else some (s.sessionType, false)

/-- The messages after which the table mirrors the registry. A registration or a fault report
changes the registry only, so there must be no row, or nothing may change. A status report must
come from a device of a known type and hold numbers that fit an `int`; where its name has a NUL
in it, the row goes to the device with the shortened name. A marker's zone must fit an `int`. -/
def KeepsMirror (stamp : ℕ → Int64) (r : Region) : Event → Prop
  | .frame k body _ =>
    match DeviceMessage.ofBody body with
    | some (.register req) => DeviceSession.Accepts req → HasRow stamp r req.uri →
      ∃ old, r.reg.get req.uri = some old ∧ old.type = req.type ∧ old.zoneId = req.zoneId ∧
        old.fault = false ∧ old.on = 0 ∧ old.intensity = 0 ∧ old.powerMw = 0
    | some (.fault report) => HasRow stamp r report.uri →
      ∃ old, r.reg.get report.uri = some old ∧ old.zoneId = report.zoneId ∧ old.fault = true
    | some (.status report) =>
      ∀ type fault, reporter (r.sessions k) report (r.reg.get report.uri) = some (type, fault) →
        report.zoneId.toNat < 2 ^ 31 ∧ report.powerMw.toNat < 2 ^ 31 ∧
        if 0 ∈ report.uri then
          ∃ old, r.reg.get (cText report.uri) = some old ∧ old.type = namedType type ∧
            old.zoneId = report.zoneId ∧ old.fault = fault ∧ old.on = report.on ∧
            old.intensity = report.intensity ∧ old.powerMw = report.powerMw
        else type = .luminaire ∨ type = .sensor
    | none => True
  | .datagram bytes beyond _ => ∀ tel, parseTelemetry bytes beyond = some tel →
    tel.zoneId.toNat < 2 ^ 31
  | _ => True

/-- What holds between two steps: the names of the rows end at their first NUL. -/
structure MirrorInv (stamp : ℕ → Int64) (r : Region) : Prop where
  /-- The law. -/
  mirrors : Mirrors stamp r
  /-- The names. -/
  names : ∀ row ∈ (devices stamp r).rows, 0 ∉ row.uri

/-- A device type is its byte. -/
theorem type_eq_of_code {a b : DeviceType} (h : a.code = b.code) : a = b := by
  cases a
  cases b
  cases h
  rfl

/-- A row agrees with two entries only if they are the same but for their times. -/
theorem agrees_iff {row : DeviceRow} {old st : DeviceState} (h : Agrees row old) :
    Agrees row st ↔ old.type = st.type ∧ old.zoneId = st.zoneId ∧ old.fault = st.fault ∧
      old.on = st.on ∧ old.intensity = st.intensity ∧ old.powerMw = st.powerMw := by
  constructor
  · intro hst
    have htype : old.type.code = st.type.code :=
      UInt8.toNat_inj.mp (Int.natCast_inj.mp (h.type.symm.trans hst.type))
    refine ⟨?_, ?_, ?_, ?_, ?_, ?_⟩
    · exact type_eq_of_code htype
    · exact UInt32.toNat_inj.mp (Int.natCast_inj.mp (h.zoneId.symm.trans hst.zoneId))
    · have hfault := h.fault.symm.trans hst.fault
      revert hfault
      cases old.fault <;> cases st.fault <;> decide
    · exact UInt8.toNat_inj.mp (Int.natCast_inj.mp (h.onState.symm.trans hst.onState))
    · exact UInt8.toNat_inj.mp (Int.natCast_inj.mp (h.intensity.symm.trans hst.intensity))
    · exact UInt32.toNat_inj.mp (Int.natCast_inj.mp (h.powerMw.symm.trans hst.powerMw))
  · rintro ⟨htype, hzone, hfault, hon, hintensity, hpower⟩
    exact ⟨htype ▸ h.type, hzone ▸ h.zoneId, hfault ▸ h.fault, hon ▸ h.onState,
      hintensity ▸ h.intensity, hpower ▸ h.powerMw⟩

/-- The row of an upsert agrees with an entry that has the named type and the same values, if
zone and power fit an `int`. -/
theorem agrees_rowOf_iff {tsMs : Int64} {uri : Bytes} {st old : DeviceState} :
    Agrees (rowOf cfg tsMs uri st) old ↔ old.type = namedType st.type ∧
      (old.zoneId = st.zoneId ∧ st.zoneId.toNat < 2 ^ 31) ∧ old.fault = st.fault ∧
      old.on = st.on ∧ old.intensity = st.intensity ∧
      old.powerMw = st.powerMw ∧ st.powerMw.toNat < 2 ^ 31 := by
  have htype : byteInt (if st.type = .luminaire then 1 else 2) = old.type.code.toNat ↔
      old.type = namedType st.type := by
    rw [byteInt_eq_toNat_iff, namedType]
    split <;> exact ⟨fun h => type_eq_of_code h, fun h => congrArg DeviceType.code h⟩
  have hfault : ((if st.fault then 1 else 0 : ℤ) = if old.fault then 1 else 0) ↔
      old.fault = st.fault := by
    cases old.fault <;> cases st.fault <;> decide
  constructor
  · intro h
    exact ⟨htype.mp h.type, cInt_eq_toNat_iff.mp h.zoneId, hfault.mp h.fault,
      byteInt_eq_toNat_iff.mp h.onState, byteInt_eq_toNat_iff.mp h.intensity,
      cInt_eq_toNat_iff.mp h.powerMw⟩
  · rintro ⟨h1, h2, h3, h4, h5, h6⟩
    exact ⟨htype.mpr h1, cInt_eq_toNat_iff.mpr h2, hfault.mpr h3, byteInt_eq_toNat_iff.mpr h4,
      byteInt_eq_toNat_iff.mpr h5, cInt_eq_toNat_iff.mpr h6⟩

/-- Frames and fault markers are no ticks. -/
theorem Event.not_isTick_of_reportsOnly (hreports : e.reportsOnly = true) : ¬e.IsTick := by
  intro htick
  obtain ⟨clock, rfl⟩ := Event.isTick_iff.mp htick
  cases hreports

/-- A step that stores nothing keeps the mirror. -/
theorem mirrors_of_quiet (h : MirrorInv stamp r) (hstep : step cfg r e = some t)
    (hreports : e.reportsOnly = true) (hstored : r.stored e = none)
    (hreported : r.reported e = none) : Mirrors stamp t := by
  have hget := (stores_step hstep (Event.not_isTick_of_reportsOnly hreports)).get
  have hdevices := devices_step stamp hstep hreports
  rw [hreported, Option.elim_none] at hdevices
  intro row hrow
  rw [hdevices] at hrow
  obtain ⟨old, hold, hagrees⟩ := h.mirrors row hrow
  refine ⟨old, ?_, hagrees⟩
  rw [hget, hstored, hold]

/-- A step that stores a state without reporting it keeps the mirror exactly when the row of the
device, if there is one, agrees with the state. -/
theorem mirrors_iff_of_stored {uri : Bytes} {st : DeviceState} (h : MirrorInv stamp r)
    (hstep : step cfg r e = some t) (hreports : e.reportsOnly = true)
    (hstored : r.stored e = some (uri, st)) (hreported : r.reported e = none) :
    Mirrors stamp t ↔ (HasRow stamp r uri → ∃ old, r.reg.get uri = some old ∧
      old.type = st.type ∧ old.zoneId = st.zoneId ∧ old.fault = st.fault ∧ old.on = st.on ∧
      old.intensity = st.intensity ∧ old.powerMw = st.powerMw) := by
  have hget := (stores_step hstep (Event.not_isTick_of_reportsOnly hreports)).get
  simp only [hstored] at hget
  have hdevices := devices_step stamp hstep hreports
  rw [hreported, Option.elim_none] at hdevices
  unfold Mirrors
  rw [hdevices]
  constructor
  · rintro hmirrors ⟨row, hrow, rfl⟩
    obtain ⟨old, hold, hagrees⟩ := h.mirrors row hrow
    obtain ⟨st', hst', hagrees'⟩ := hmirrors row hrow
    rw [hget, if_pos rfl] at hst'
    cases hst'
    exact ⟨old, hold, (agrees_iff hagrees).mp hagrees'⟩
  · intro hsame row hrow
    obtain ⟨old, hold, hagrees⟩ := h.mirrors row hrow
    by_cases huri : row.uri = uri
    · obtain ⟨old', hold', hfields⟩ := hsame ⟨row, hrow, huri⟩
      rw [← huri, hold] at hold'
      cases hold'
      refine ⟨st, ?_, (agrees_iff hagrees).mpr hfields⟩
      rw [hget, if_pos huri]
    · refine ⟨old, ?_, hagrees⟩
      rw [hget, if_neg huri, hold]

/-- A step that stores a state and reports it keeps the mirror exactly when the row agrees with
the entry for the name that the row gets. -/
theorem mirrors_iff_row {uri : Bytes} {st : DeviceState} {tsMs : Int64}
    (h : MirrorInv stamp r)
    (hget : ∀ v, t.reg.get v = if v = uri then some st else r.reg.get v)
    (hdevices : devices stamp t = (devices stamp r).upsert (rowOf cfg tsMs uri st)) :
    Mirrors stamp t ↔ ∃ old, t.reg.get (cText uri) = some old ∧
      Agrees (rowOf cfg tsMs uri st) old := by
  have hfind : ∀ v, (devices stamp t).find? v =
      if v = cText uri then some (rowOf cfg tsMs uri st) else (devices stamp r).find? v := by
    intro v
    rw [hdevices]
    exact Table.find?_upsert
  constructor
  · intro hmirrors
    have hself := hfind (cText uri)
    rw [if_pos rfl] at hself
    exact hmirrors _ (Table.find?_eq_some.mp hself).1
  · intro hrow row hmem
    have hself := hfind row.uri
    rw [Table.find?_eq_some.mpr ⟨hmem, rfl⟩] at hself
    by_cases huri : row.uri = cText uri
    · rw [if_pos huri] at hself
      cases hself
      exact hrow
    · rw [if_neg huri] at hself
      obtain ⟨hold, -⟩ := Table.find?_eq_some.mp hself.symm
      obtain ⟨old, hget', hagrees⟩ := h.mirrors row hold
      refine ⟨old, ?_, hagrees⟩
      -- A row has no NUL in its name, so it is not that of the stored device.
      have hne : row.uri ≠ uri := by
        intro heq
        refine huri ?_
        rw [← heq, cText_of_notMem (h.names row hold)]
      rw [hget, if_neg hne, hget']

/-- A status report is dropped when nobody reports it; otherwise it stores its values under the
type and the fault of its reporter. -/
theorem statusState_eq (s : DeviceSession) (report : StatusReport) (clock : Clock)
    (got : Option DeviceState) :
    s.statusState report clock got = (reporter s report got).map fun p =>
      ⟨p.1, report.zoneId, report.on, report.intensity, report.powerMw, p.2, clock.nowMs⟩ := by
  unfold DeviceSession.statusState reporter
  cases got with
  | some st => rfl
  | none =>
    dsimp only
    split <;> rfl

/-- An upsert names the type of a lamp or a sensor. -/
theorem eq_namedType_iff {type : DeviceType} :
    type = namedType type ↔ type = .luminaire ∨ type = .sensor := by
  unfold namedType
  split
  · next h => simp [h]
  · next h => simp [h]

/-- The name in a datagram has no NUL. -/
theorem zero_notMem_uri {bytes beyond : Bytes} {tel : Telemetry}
    (hparse : parseTelemetry bytes beyond = some tel) : 0 ∉ tel.uri := by
  unfold parseTelemetry at hparse
  split at hparse
  · cases hparse
  · cases hparse
    intro h
    simpa using List.mem_takeWhile_imp h

/-- A step that stores a state and reports it keeps the mirror exactly when the numbers fit an
`int` and the type is known; where the name has a NUL in it, exactly when the entry of the
shortened name agrees. -/
theorem mirrors_iff_of_reported {uri : Bytes} {st : DeviceState} (h : MirrorInv stamp r)
    (hstep : step cfg r e = some t) (hreports : e.reportsOnly = true)
    (hstored : r.stored e = some (uri, st)) (hreported : r.reported e = some (uri, st)) :
    Mirrors stamp t ↔ st.zoneId.toNat < 2 ^ 31 ∧ st.powerMw.toNat < 2 ^ 31 ∧
      if 0 ∈ uri then
        ∃ old, r.reg.get (cText uri) = some old ∧ old.type = namedType st.type ∧
          old.zoneId = st.zoneId ∧ old.fault = st.fault ∧ old.on = st.on ∧
          old.intensity = st.intensity ∧ old.powerMw = st.powerMw
      else st.type = .luminaire ∨ st.type = .sensor := by
  have hget := (stores_step hstep (Event.not_isTick_of_reportsOnly hreports)).get
  simp only [hstored] at hget
  have hdevices := devices_step stamp hstep hreports
  rw [hreported, Option.elim_some] at hdevices
  rw [mirrors_iff_row h hget hdevices]
  simp only [agrees_rowOf_iff, hget]
  by_cases hnul : 0 ∈ uri
  · have hne : cText uri ≠ uri := fun heq => zero_notMem_cText uri (heq.symm ▸ hnul)
    simp only [if_neg hne, if_pos hnul]
    constructor
    · rintro ⟨old, hold, htype, ⟨hzone, hzoneFits⟩, hfault, hon, hintensity, hpower, hpowerFits⟩
      exact ⟨hzoneFits, hpowerFits, old, hold, htype, hzone, hfault, hon, hintensity, hpower⟩
    · rintro ⟨hzoneFits, hpowerFits, old, hold, htype, hzone, hfault, hon, hintensity, hpower⟩
      exact ⟨old, hold, htype, ⟨hzone, hzoneFits⟩, hfault, hon, hintensity, hpower, hpowerFits⟩
  · simp only [if_pos (cText_of_notMem hnul), if_neg hnul, Option.some.injEq]
    constructor
    · rintro ⟨old, rfl, htype, ⟨-, hzoneFits⟩, -, -, -, -, hpowerFits⟩
      exact ⟨hzoneFits, hpowerFits, eq_namedType_iff.mp htype⟩
    · rintro ⟨hzoneFits, hpowerFits, htype⟩
      exact ⟨_, rfl, eq_namedType_iff.mpr htype, ⟨rfl, hzoneFits⟩, rfl, rfl, rfl, rfl, hpowerFits⟩

/-! ## The messages -/

/-- A frame of a session keeps the mirror exactly when its message allows it. -/
theorem mirrors_iff_frame {k : ℕ} {body : Bytes} {clock : Clock} (h : MirrorInv stamp r)
    (hstep : step cfg r (.frame k body clock) = some t) :
    Mirrors stamp t ↔ KeepsMirror stamp r (.frame k body clock) := by
  simp only [KeepsMirror]
  cases hm : DeviceMessage.ofBody body with
  | none =>
    refine iff_of_true (mirrors_of_quiet h hstep rfl ?_ ?_) trivial
    · simp only [stored, DeviceSession.stored, hm]
    · simp only [reported, hm]
  | some m =>
    cases m with
    | register req =>
      have hreported : r.reported (.frame k body clock) = none := by simp only [reported, hm]
      dsimp only
      by_cases haccepts : DeviceSession.Accepts req
      · have hstored := (Storing.registration (r := r) k clock hm haccepts).stored_eq
        rw [mirrors_iff_of_stored h hstep rfl hstored hreported]
        exact (imp_iff_right haccepts).symm
      · refine iff_of_true (mirrors_of_quiet h hstep rfl ?_ hreported) fun haccepted =>
          absurd haccepted haccepts
        simp only [stored, DeviceSession.stored, hm, if_neg haccepts]
    | fault report =>
      have hreported : r.reported (.frame k body clock) = none := by simp only [reported, hm]
      have hstored := (Storing.fault (r := r) k clock hm).stored_eq
      rw [mirrors_iff_of_stored h hstep rfl hstored hreported]
      refine imp_congr_right fun _ => ?_
      -- The fault and the zone are stored; all else is kept.
      refine exists_congr fun old => and_congr_right fun hold => ?_
      simp only [DeviceSession.faultState, hold, Option.getD_some, true_and, and_true]
    | status report =>
      dsimp only
      have hstate := statusState_eq (r.sessions k) report clock (r.reg.get report.uri)
      have hreported : r.reported (.frame k body clock) = r.stored (.frame k body clock) := by
        simp only [reported, hm]
      cases hreporter : reporter (r.sessions k) report (r.reg.get report.uri) with
      | none =>
        rw [hreporter, Option.map_none] at hstate
        have hstored : r.stored (.frame k body clock) = none := by
          simp only [stored, DeviceSession.stored, hm, hstate, Option.map_none]
        exact iff_of_true (mirrors_of_quiet h hstep rfl hstored (hreported.trans hstored)) (by simp)
      | some p =>
        obtain ⟨type, fault⟩ := p
        rw [hreporter, Option.map_some] at hstate
        have hstored := (Storing.status (r := r) k clock hm hstate).stored_eq
        rw [mirrors_iff_of_reported h hstep rfl hstored (hreported.trans hstored)]
        constructor
        · rintro hkeeps type' fault' heq
          cases heq
          exact hkeeps
        · intro hkeeps
          exact hkeeps type fault rfl

/-- A fault marker keeps the mirror exactly when its zone fits. -/
theorem mirrors_iff_marker {bytes beyond : Bytes} {clock : Clock} (h : MirrorInv stamp r)
    (hstep : step cfg r (.datagram bytes beyond clock) = some t)
    (hreports : (Event.datagram bytes beyond clock).reportsOnly = true) :
    Mirrors stamp t ↔ KeepsMirror stamp r (.datagram bytes beyond clock) := by
  cases hparse : parseTelemetry bytes beyond with
  | none => simp [Event.reportsOnly, hparse] at hreports
  | some tel =>
    have hmarker : tel.motion = 254 := by simpa [Event.reportsOnly, hparse] using hreports
    have hstored := (Storing.marker (r := r) clock hparse hmarker).stored_eq
    have hreported : r.reported (.datagram bytes beyond clock) =
        r.stored (.datagram bytes beyond clock) := by
      simp only [reported, hparse, if_pos hmarker]
    rw [mirrors_iff_of_reported h hstep hreports hstored (hreported.trans hstored)]
    simp only [KeepsMirror, hparse, Option.some.injEq, forall_eq', if_neg (zero_notMem_uri hparse)]
    exact and_iff_left ⟨by decide, Or.inr trivial⟩

/-- A step keeps the mirror exactly when its message allows it. -/
theorem mirrors_iff_keepsMirror (h : MirrorInv stamp r) (hstep : step cfg r e = some t)
    (hreports : e.reportsOnly = true) : Mirrors stamp t ↔ KeepsMirror stamp r e := by
  have hquiet : r.stored e = none → r.reported e = none → Mirrors stamp t :=
    mirrors_of_quiet h hstep hreports
  cases e with
  | frame k body clock => exact mirrors_iff_frame h hstep
  | datagram bytes beyond clock => exact mirrors_iff_marker h hstep hreports
  | tick clock => cases hreports
  | posted k => exact iff_of_true (hquiet rfl rfl) trivial
  | writeDone k i ok => exact iff_of_true (hquiet rfl rfl) trivial
  | close k => exact iff_of_true (hquiet rfl rfl) trivial
  | expire k => exact iff_of_true (hquiet rfl rfl) trivial

/-- Rows keep names without a NUL. -/
theorem MirrorInv.names_step (h : MirrorInv stamp r) (hstep : step cfg r e = some t)
    (hreports : e.reportsOnly = true) : ∀ row ∈ (devices stamp t).rows, 0 ∉ row.uri := by
  intro row hrow
  rw [devices_step stamp hstep hreports] at hrow
  cases hreported : r.reported e with
  | none =>
    rw [hreported, Option.elim_none] at hrow
    exact h.names row hrow
  | some p =>
    rw [hreported, Option.elim_some] at hrow
    have hfind := Table.find?_eq_some.mpr ⟨hrow, rfl⟩
    rw [Table.find?_upsert] at hfind
    split at hfind
    · next hname =>
      rw [hname]
      exact zero_notMem_cText p.1
    · exact h.names row (Table.find?_eq_some.mp hfind).1

/-- A region that has just started has no rows. -/
theorem mirrorInv_start (stamp : ℕ → Int64) : MirrorInv stamp start := by
  have hrows : (devices stamp start).rows = [] := rfl
  constructor
  · intro row hrow
    rw [hrows] at hrow
    cases hrow
  · intro row hrow
    rw [hrows] at hrow
    cases hrow

/-- In every run of frames and fault markers, the devices table mirrors the registry whenever its
queue is drained exactly when every message allows it. -/
theorem always_mirrors_iff (cfg : RegionConfig) (stamp : ℕ → Int64) (es : List Event) :
    Always (restrict (fun _ e => e.reportsOnly = true) (step cfg)) (Mirrors stamp) start es ↔
      EachStep (restrict (fun _ e => e.reportsOnly = true) (step cfg))
        (fun r e _ => KeepsMirror stamp r e) start es := by
  refine always_iff_of_invariant (I := MirrorInv stamp) (C := KeepsMirror stamp) ?_ ?_ ?_ ?_
  · exact fun _ h => h.mirrors
  · intro r e t h hkeeps hstep
    obtain ⟨hreports, hmove⟩ := restrict_eq_some.mp hstep
    exact ⟨(mirrors_iff_keepsMirror h hmove hreports).mpr hkeeps, h.names_step hmove hreports⟩
  · intro r e t h hkeeps hstep hmirrors
    obtain ⟨hreports, hmove⟩ := restrict_eq_some.mp hstep
    exact hkeeps ((mirrors_iff_keepsMirror h hmove hreports).mp hmirrors)
  · exact mirrorInv_start stamp

/-- The clock of the run below. -/
def noon : Clock := ⟨1000, 0⟩

/-- A lamp registers, reports its status and then a fault. -/
def faultAfterStatus : List Event :=
  [.frame 0 (DeviceMessage.register ⟨.luminaire, ascii "lamp", 1⟩).body noon,
    .frame 0 (DeviceMessage.status ⟨ascii "lamp", 1, 1, 60, 5000⟩).body noon,
    .frame 0 (DeviceMessage.fault ⟨ascii "lamp", 1, 7, []⟩).body noon]

/-- The registry knows of the fault, and the table does not. -/
theorem not_always_mirrors_faultAfterStatus :
    ¬Always (restrict (fun _ e => e.reportsOnly = true) (step ⟨1, 15000⟩)) (Mirrors fun _ => 0)
      start faultAfterStatus := by
  intro h
  have hrun : (run (restrict (fun _ e => e.reportsOnly = true) (step ⟨1, 15000⟩)) start
      faultAfterStatus).any fun r =>
        (devices (fun _ => 0) r).rows.any fun row => row.fault = 0 ∧
          (r.reg.get row.uri).any fun st => st.fault = true := by
    decide +kernel
  obtain ⟨r, hr, hrow⟩ := (Option.any_eq_true _ _).mp hrun
  obtain ⟨row, hmem, hfault⟩ := List.any_eq_true.mp hrow
  obtain ⟨hzero, hget⟩ := of_decide_eq_true hfault
  obtain ⟨st, hst, hone⟩ := (Option.any_eq_true _ _).mp hget
  obtain ⟨st', hst', hagrees⟩ := h _ (List.prefix_refl _) r hr row hmem
  rw [hst] at hst'
  cases hst'
  have hagree := hagrees.fault
  rw [hzero, of_decide_eq_true hone] at hagree
  exact absurd hagree (by decide)

end Region

end SmartLighting
