import SmartLighting.CentralStore
import SmartLighting.SendQueue

/-!
# The central server

`CentralSession` of `central_tls_server.hpp` handles the frames of regions and
administrators. All sessions share one store and one database writer. A handler
first looks for a well-formed message, and does nothing where there is none.
-/

namespace SmartLighting

open Reader

/-- A call that queues a database event of the central server. -/
inductive CentralDbCall
  /-- `log_region_sync`. -/
  | regionSync (regionId version : UInt32) (zonePowerSum : List (UInt32 × UInt32))
  /-- `log_alarm`. -/
  | alarm (regionId tsUnix : UInt32) (deviceType : UInt8) (zoneId : UInt32) (code : UInt8)
      (uri text : Bytes)
  deriving DecidableEq

/-! ## The admin snapshot -/

namespace RegionAggregate

/-- The summary that the snapshot shows for a zone: zeros where there is none. -/
def shownSummary (agg : RegionAggregate) (zid : UInt32) : ZoneDeviceSummary :=
  (agg.zoneSummary.lookup zid).getD ⟨zid, 0, 0, 0, 0, 0⟩

/-- The body of the zone loop of `encode_admin_snapshot`. -/
def putZone (agg : RegionAggregate) (out : Bytes) (zone : Σ _ : UInt32, UInt32) : Bytes :=
  let out := putU32 out zone.1
  let out := putU32 out zone.2
  let zs := agg.shownSummary zone.1
  let out := putU16 out zs.lampTotal
  let out := putU16 out zs.lampOn
  let out := putU16 out zs.lampFault
  let out := putU16 out zs.sensorTotal
  putU16 out zs.sensorFault

/-- The body of the region loop of `encode_admin_snapshot`. -/
def putRegion (out : Bytes) (region : Σ _ : UInt32, RegionAggregate) : Bytes :=
  let agg := region.2
  let out := putU32 out region.1
  let out := putU32 out agg.version
  let out := putU16 out agg.zonePowerMw.entries.length.toUInt16
  agg.zonePowerMw.entries.foldl agg.putZone out

end RegionAggregate

/-- The body of the alarm loop of `encode_admin_snapshot`. -/
def AlarmRecord.put (out : Bytes) (a : AlarmRecord) : Except String Bytes := do
  let out := putU32 out a.regionId
  let out := putU32 out a.tsUnix
  let out := putU8 out a.deviceType
  let out := putU32 out a.zoneId
  let out := putU8 out a.code
  let out ← putStr out a.uri
  putStr out a.text

/-- `encode_admin_snapshot`. The maps are visited in the order of their entries. -/
def CentralStore.encodeAdminSnapshot (s : CentralStore) : Except String Bytes :=
  let out := putU16 [] s.regions.entries.length.toUInt16
  let out := s.regions.entries.foldl RegionAggregate.putRegion out
  let out := putU16 out s.alarms.length.toUInt16
  s.alarms.foldlM AlarmRecord.put out

/-! ## The sessions -/

/-- The record that `on_message` copies from an alarm. -/
def AlarmRecord.ofAlarm (up : AlarmUp) : AlarmRecord :=
  ⟨up.regionId, up.tsUnix, up.deviceType, up.zoneId, up.code, up.uri, up.text⟩

/-- The central server between two handlers. Sessions are numbered by their acceptance. -/
structure CentralServer where
  /-- The shared store. -/
  store : CentralStore
  /-- Calls to the database writer. -/
  db : List CentralDbCall
  /-- Calls of `async_send`, with the session that makes each. -/
  sent : List (ℕ × OutMsg)
  deriving DecidableEq

namespace CentralServer

/-- The server when it starts to accept connections. -/
def start : CentralServer := ⟨.empty, [], []⟩

/-- `async_send`. -/
def asyncSend (c : CentralServer) (session : ℕ) (type : MsgType) (payload : Bytes) :
    CentralServer :=
  { c with sent := c.sent ++ [(session, ⟨type, payload⟩)] }

/-- The case `REGION_SYNC_UP` of `on_message`, after decoding. -/
def onRegionSync (c : CentralServer) (session : ℕ) (up : RegionSyncUp) : CentralServer :=
  let c := { c with
    db := c.db ++ [CentralDbCall.regionSync up.regionId up.version up.zonePowerSum] }
  let c := { c with
    store := c.store.upsertRegion up.regionId up.version up.zonePowerSum up.zoneDeviceSummary }
  c.asyncSend session .regionSyncAck (encodeRegionSyncAck ⟨up.regionId, up.version, 1⟩)

/-- The case `ALARM_UP` of `on_message`, after decoding. -/
def onAlarm (c : CentralServer) (session : ℕ) (up : AlarmUp) : CentralServer :=
  let ar := AlarmRecord.ofAlarm up
  let c := { c with store := c.store.pushAlarm ar }
  let c := { c with
    db := c.db ++ [CentralDbCall.alarm ar.regionId ar.tsUnix ar.deviceType ar.zoneId ar.code ar.uri
      ar.text] }
  c.asyncSend session .alarmAck (encodeAlarmAck ⟨up.regionId, up.tsUnix, 1⟩)

/-- The case `ADMIN_SNAPSHOT_REQ` of `on_message`. -/
def onSnapshotReq (c : CentralServer) (session : ℕ) : CentralServer :=
  match c.store.encodeAdminSnapshot with
  | .ok payload => c.asyncSend session .adminSnapshotAck payload
  | .error _ => c

/-- `CentralSession::on_message`: an exception is caught and only printed. -/
def onMessage (c : CentralServer) (session : ℕ) (body : Bytes) : CentralServer :=
  match body with
  | [] => c
  | code :: p =>
    let t : MsgType := ⟨code⟩
    if t = .regionSyncUp then
      match decode decodeRegionSyncUp p with
      | .ok up => c.onRegionSync session up
      | .error _ => c
    else if t = .alarmUp then
      match decode decodeAlarmUp p with
      | .ok up => c.onAlarm session up
      | .error _ => c
    else if t = .adminSnapshotReq then c.onSnapshotReq session
    else c

/-- The server after a sequence of bodies, each with its session. -/
def run (c : CentralServer) (bodies : List (ℕ × Bytes)) : CentralServer :=
  bodies.foldl (fun c body => c.onMessage body.1 body.2) c

end CentralServer

/-! ## Well-formed messages -/

/-- A message that the switch of `on_message` names. -/
inductive CentralMessage
  | sync (up : RegionSyncUp)
  | alarm (up : AlarmUp)
  | snapshotReq
  deriving DecidableEq

namespace CentralMessage

/-- The message in a body, if `on_message` finds one. -/
def ofBody : Bytes → Option CentralMessage
  | [] => none
  | code :: p =>
    let t : MsgType := ⟨code⟩
    if t = .regionSyncUp then (decode decodeRegionSyncUp p).toOption.map .sync
    else if t = .alarmUp then (decode decodeAlarmUp p).toOption.map .alarm
    else if t = .adminSnapshotReq then some .snapshotReq
    else none

/-- The accepted messages in a sequence of bodies, each with its session. -/
def accepted (bodies : List (ℕ × Bytes)) : List (ℕ × CentralMessage) :=
  bodies.filterMap fun body => (ofBody body.2).map fun m => (body.1, m)

/-- The synchronization in a message. -/
def syncOf : CentralMessage → Option RegionSyncUp
  | sync up => some up
  | _ => none

/-- The alarm in a message. -/
def alarmOf : CentralMessage → Option AlarmUp
  | alarm up => some up
  | _ => none

/-- The database event of a message. -/
def dbCall : CentralMessage → Option CentralDbCall
  | sync up => some (.regionSync up.regionId up.version up.zonePowerSum)
  | alarm up =>
    some (.alarm up.regionId up.tsUnix up.deviceType up.zoneId up.code up.uri up.text)
  | snapshotReq => none

/-- The acknowledgement of a message: it echoes the region and the version or time stamp. -/
def ack : CentralMessage → Option OutMsg
  | sync up => some ⟨.regionSyncAck, encodeRegionSyncAck ⟨up.regionId, up.version, 1⟩⟩
  | alarm up => some ⟨.alarmAck, encodeAlarmAck ⟨up.regionId, up.tsUnix, 1⟩⟩
  | snapshotReq => none

/-- The synchronizations of one region. -/
def syncsOf (messages : List (ℕ × CentralMessage)) (id : UInt32) : List RegionSyncUp :=
  (messages.filterMap fun m => m.2.syncOf).filter fun up => up.regionId = id

/-- The alarms. -/
def alarmsOf (messages : List (ℕ × CentralMessage)) : List AlarmUp :=
  messages.filterMap fun m => m.2.alarmOf

/-- Only synchronizations hold one. -/
theorem syncOf_eq_some {m : CentralMessage} {up : RegionSyncUp} :
    m.syncOf = some up ↔ m = .sync up := by
  cases m <;> simp [syncOf]

/-- Only alarms hold one. -/
theorem alarmOf_eq_some {m : CentralMessage} {up : AlarmUp} :
    m.alarmOf = some up ↔ m = .alarm up := by
  cases m <;> simp [alarmOf]

/-- A body that is accepted among others. -/
theorem accepted_mid {body : Bytes} {m : CentralMessage} (hbody : ofBody body = some m)
    (before after : List (ℕ × Bytes)) (session : ℕ) :
    accepted (before ++ (session, body) :: after) =
      accepted before ++ (session, m) :: accepted after := by
  simp only [accepted, List.filterMap_append, List.filterMap_cons, hbody, Option.map_some]

theorem syncsOf_append (before after : List (ℕ × CentralMessage)) (id : UInt32) :
    syncsOf (before ++ after) id = syncsOf before id ++ syncsOf after id := by
  simp only [syncsOf, List.filterMap_append, List.filter_append]

/-- The first synchronization is one of its region. -/
theorem syncsOf_cons (session : ℕ) (up : RegionSyncUp) (after : List (ℕ × CentralMessage))
    (id : UInt32) : syncsOf ((session, .sync up) :: after) id =
      if up.regionId = id then up :: syncsOf after id else syncsOf after id := by
  have hcons : (List.filterMap (fun m => m.2.syncOf) ((session, CentralMessage.sync up) :: after)) =
      up :: after.filterMap fun m => m.2.syncOf := rfl
  rw [syncsOf, hcons, List.filter_cons]
  simp only [decide_eq_true_eq]
  rfl

theorem alarmsOf_append (before after : List (ℕ × CentralMessage)) :
    alarmsOf (before ++ after) = alarmsOf before ++ alarmsOf after :=
  List.filterMap_append

/-- The counts and strings of a message fit 16 bits. -/
def Fits : CentralMessage → Prop
  | sync up => up.zonePowerSum.length ≤ 65535 ∧ up.zoneDeviceSummary.length ≤ 65535
  | alarm up => up.uri.length ≤ 65535 ∧ up.text.length ≤ 65535
  | snapshotReq => True

/-- What the decoders return fits. -/
theorem fits_of_ofBody {body : Bytes} {m : CentralMessage} (h : ofBody body = some m) :
    m.Fits := by
  unfold ofBody at h
  split at h
  · cases h
  · dsimp only at h
    split at h
    · obtain ⟨up, hup, rfl⟩ := Option.map_eq_some_iff.mp h
      exact decodeRegionSyncUp_yields.of_toOption hup
    split at h
    · obtain ⟨up, hup, rfl⟩ := Option.map_eq_some_iff.mp h
      exact decodeAlarmUp_yields.of_toOption hup
    split at h
    · cases h
      trivial
    · cases h

/-- Every accepted message fits. -/
theorem fits_of_mem_accepted {bodies : List (ℕ × Bytes)} {m : ℕ × CentralMessage}
    (h : m ∈ accepted bodies) : m.2.Fits := by
  obtain ⟨body, -, hbody⟩ := List.mem_filterMap.mp h
  obtain ⟨m', hm', rfl⟩ := Option.map_eq_some_iff.mp hbody
  exact fits_of_ofBody hm'

end CentralMessage

namespace CentralServer

open CentralMessage

variable {c : CentralServer} {session : ℕ} {body : Bytes} {messages : List (ℕ × CentralMessage)}

/-- The handler of a message. -/
def handle (c : CentralServer) (session : ℕ) : CentralMessage → CentralServer
  | .sync up => c.onRegionSync session up
  | .alarm up => c.onAlarm session up
  | .snapshotReq => c.onSnapshotReq session

/-- `on_message` handles the message in the body, if there is one. -/
theorem onMessage_eq :
    c.onMessage session body = (ofBody body).elim c fun m => c.handle session m := by
  cases body with
  | nil => rfl
  | cons code p =>
    simp only [onMessage, ofBody]
    split
    · cases decode decodeRegionSyncUp p <;> rfl
    split
    · cases decode decodeAlarmUp p <;> rfl
    split <;> rfl

/-- A body changes the aggregate of a region exactly when it synchronizes the region. -/
theorem lookup_onMessage (c : CentralServer) (session : ℕ) (body : Bytes) (id : UInt32) :
    (c.onMessage session body).store.regions.lookup id =
      match (ofBody body).bind syncOf with
      | some up =>
        if id = up.regionId then some (CentralStore.aggregateOf up)
        else c.store.regions.lookup id
      | none => c.store.regions.lookup id := by
  rw [onMessage_eq]
  cases ofBody body with
  | none => rfl
  | some m =>
    cases m with
    | sync up => exact CentralStore.lookup_upsertRegion c.store up id
    | alarm up =>
      exact congrArg (fun regions => regions.lookup id) CentralStore.regions_pushAlarm
    | snapshotReq =>
      simp only [Option.elim_some, handle, onSnapshotReq]
      split <;> rfl

/-- The server is a fold of its well-formed messages. -/
theorem run_eq_foldl (c : CentralServer) (bodies : List (ℕ × Bytes)) :
    c.run bodies = (accepted bodies).foldl (fun c m => c.handle m.1 m.2) c := by
  induction bodies generalizing c with
  | nil => rfl
  | cons body bodies ih =>
    change (c.onMessage body.1 body.2).run bodies = _
    rw [ih, onMessage_eq]
    simp only [accepted, List.filterMap_cons]
    cases ofBody body.2 <;> rfl

end CentralServer

end SmartLighting
