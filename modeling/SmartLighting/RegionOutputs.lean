import SmartLighting.DeviceMirror
import SmartLighting.SilentDevices
import SmartLighting.ZoneIndex

/-!
# What leaves a region

The alarms and the database calls of each handler, exactly and in their order. The comm-lost
timer raises one alarm for each device that it lists and has not reported yet; a report of a
fault raises one; everything else is silent.
-/

namespace SmartLighting

open StateMachine Transition

namespace Region

variable {cfg : RegionConfig} {r t : Region} {e : Event} {clock : Clock}

/-- The alarm for a fault report of a device of the given type. -/
def deviceAlarm (cfg : RegionConfig) (clock : Clock) (f : FaultReport) (type : DeviceType) :
    AlarmUp where
  regionId := cfg.regionId
  tsUnix := clock.unix
  deviceType := if type = .luminaire then 1 else 2
  zoneId := f.zoneId
  code := f.code
  uri := f.uri
  text := f.text

/-- The alarm for a fault marker. -/
def sensorAlarm (cfg : RegionConfig) (clock : Clock) (tel : Telemetry) : AlarmUp where
  regionId := cfg.regionId
  tsUnix := clock.unix
  deviceType := 2
  zoneId := tel.zoneId
  code := 1
  uri := tel.uri
  text := ascii "sensor_fault"

/-- The devices that an expiry of the timer reports. -/
def reportedLost (cfg : RegionConfig) (clock : Clock) (r : Region) : List Bytes :=
  (r.reg.detectCommLost clock.nowMs cfg.timeoutMs).1.filter fun uri => uri ∉ r.activeLost

/-- The calls of `send_alarm_now` in the handler of an event. -/
def raised (cfg : RegionConfig) (r : Region) : Event → List AlarmUp
  | .frame k body clock =>
    match DeviceMessage.ofBody body with
    | some (.fault report) =>
      [deviceAlarm cfg clock report ((r.sessions k).faultType report (r.reg.get report.uri))]
    | _ => []
  | .datagram bytes beyond clock =>
    match parseTelemetry bytes beyond with
    | some tel => if tel.motion = 254 then [sensorAlarm cfg clock tel] else []
    | none => []
  | .tick clock => (reportedLost cfg clock r).map (commLostAlarm cfg clock r)
  | _ => []

/-- The calls to the database writer for a stored status. -/
def statusCalls (cfg : RegionConfig) (uri : Bytes) (st : DeviceState) : List DbCall :=
  if st.type = .luminaire then
    [upsertOf cfg uri st, .lampStatus uri cfg.regionId st.zoneId st.on st.intensity st.powerMw]
  else [upsertOf cfg uri st]

/-- The calls to the database writer in the handler of an event. -/
def dbCalls (cfg : RegionConfig) (r : Region) : Event → List DbCall
  | .frame k body clock =>
    match DeviceMessage.ofBody body with
    | some (.status report) =>
      match (r.sessions k).statusState report clock (r.reg.get report.uri) with
      | some st => statusCalls cfg report.uri st
      | none => []
    | some (.fault report) =>
      [.fault report.uri cfg.regionId report.zoneId report.code report.text]
    | _ => []
  | .datagram bytes beyond _ =>
    match parseTelemetry bytes beyond with
    | some tel =>
      if tel.motion = 254 then
        [.upsertDevice tel.uri 2 cfg.regionId tel.zoneId true 0 0 0,
          .fault tel.uri cfg.regionId tel.zoneId 1 (ascii "sensor_fault")]
      else []
    | none => []
  | _ => []

/-! ## The alarm loop of a tick -/

/-- The alarm for a device depends only on the registry. -/
theorem commLostAlarm_congr {u : Region} (h : u.reg = r.reg) :
    commLostAlarm cfg clock u = commLostAlarm cfg clock r := by
  funext uri
  simp only [commLostAlarm, h]

/-- Latching faults changes nothing that the alarm for a device says. -/
theorem commLostAlarm_latched (uri : Bytes) :
    commLostAlarm cfg clock { r with
      reg := (r.reg.detectCommLost clock.nowMs cfg.timeoutMs).2 } uri =
        commLostAlarm cfg clock r uri := by
  unfold commLostAlarm
  simp only [Registry.get_detectCommLost]
  cases r.reg.get uri with
  | none => rfl
  | some st =>
    have hkept : (Registry.latch clock.nowMs cfg.timeoutMs st).type = st.type ∧
        (Registry.latch clock.nowMs cfg.timeoutMs st).zoneId = st.zoneId :=
      Registry.latch_type_zoneId
    simp only [Option.map_some, hkept.1, hkept.2]

/-- The loop raises one alarm for each listed device that was not there. -/
theorem alarms_foldl_reportLost (cfg : RegionConfig) (clock : Clock) {lost : List Bytes}
    (hnodup : lost.Nodup) (r : Region) :
    (lost.foldl (reportLost cfg clock) r).alarms =
        r.alarms ++ (lost.filter fun uri => uri ∉ r.activeLost).map (commLostAlarm cfg clock r) ∧
      (lost.foldl (reportLost cfg clock) r).db = r.db := by
  induction lost generalizing r with
  | nil => exact ⟨(List.append_nil _).symm, rfl⟩
  | cons uri lost ih =>
    obtain ⟨hnew, hrest⟩ := List.nodup_cons.mp hnodup
    rw [List.foldl_cons]
    by_cases hlost : uri ∈ r.activeLost
    · have hsame : reportLost cfg clock r uri = r := if_pos hlost
      rw [hsame, List.filter_cons_of_neg (by simpa using hlost)]
      exact ih hrest r
    · obtain ⟨halarms, hdb⟩ := ih hrest (reportLost cfg clock r uri)
      have hreported : reportLost cfg clock r uri =
          ({ r with activeLost := insert uri r.activeLost }.switchTo .faultHandling
            .commLost).sendAlarmNow (commLostAlarm cfg clock r uri) := if_neg hlost
      have hkept : (lost.filter fun v => v ∉ insert uri r.activeLost) =
          lost.filter fun v => v ∉ r.activeLost := by
        refine List.filter_congr fun v hv => ?_
        have hne : v ≠ uri := by
          rintro rfl
          exact hnew hv
        simp [Finset.mem_insert, hne]
      rw [halarms, hdb, List.filter_cons_of_pos (by simpa using hlost), List.map_cons,
        commLostAlarm_congr (r := r) (by rw [hreported]; rfl), hreported]
      refine ⟨?_, rfl⟩
      change (r.alarms ++ [commLostAlarm cfg clock r uri]) ++
        (lost.filter fun v => v ∉ insert uri r.activeLost).map _ = _
      rw [hkept, List.append_assoc, List.singleton_append]

/-- The alarms of a tick, which calls no database. -/
theorem outputs_tick (cfg : RegionConfig) (clock : Clock) (r : Region) :
    (tick cfg clock r).alarms = r.alarms ++ raised cfg r (.tick clock) ∧
      (tick cfg clock r).db = r.db := by
  have hlatched : commLostAlarm cfg clock { r with
      reg := (r.reg.detectCommLost clock.nowMs cfg.timeoutMs).2 } = commLostAlarm cfg clock r :=
    funext fun uri => commLostAlarm_latched uri
  have hnodup : (r.reg.detectCommLost clock.nowMs cfg.timeoutMs).1.Nodup :=
    Registry.nodup_detectCommLost
  have hloop := alarms_foldl_reportLost cfg clock hnodup
    { r with reg := (r.reg.detectCommLost clock.nowMs cfg.timeoutMs).2 }
  rw [hlatched] at hloop
  obtain ⟨halarms, hdb⟩ := hloop
  unfold tick
  dsimp only
  split
  · split
    · exact ⟨halarms, hdb⟩
    · exact ⟨halarms, hdb⟩
  · exact ⟨halarms, hdb⟩

/-! ## Frames and datagrams -/

/-- The calls of a stored status. -/
theorem db_exec_handleStatus {s : DeviceSession} {report : StatusReport} {reg : Registry} :
    ((s.handleStatus cfg.regionId report clock).exec reg).1.db =
      match s.statusState report clock (reg.get report.uri) with
      | some st => statusCalls cfg report.uri st
      | none => [] := by
  rw [DeviceSession.handleStatus, Program.exec_bind, Program.exec_read]
  cases hst : s.statusState report clock (reg.get report.uri) with
  | none => rfl
  | some st =>
    obtain rfl := DeviceSession.eq_of_statusState hst
    rfl

/-- The alarms and the database calls of a frame. -/
theorem outputs_handleFrame (cfg : RegionConfig) (clock : Clock) (r : Region) (k : ℕ)
    (body : Bytes) :
    (handleFrame cfg clock r k body).alarms = r.alarms ++ raised cfg r (.frame k body clock) ∧
      (handleFrame cfg clock r k body).db = r.db ++ dbCalls cfg r (.frame k body clock) := by
  have hfault := DeviceSession.fault_exec_onMessage cfg.regionId (r.sessions k) body clock r.reg
  have hdb : (((r.sessions k).onMessage cfg.regionId body clock).exec r.reg).1.db =
      dbCalls cfg r (.frame k body clock) := by
    rw [DeviceSession.onMessage_eq, dbCalls]
    cases DeviceMessage.ofBody body with
    | none => rfl
    | some m =>
      cases m with
      | register req =>
        by_cases h : DeviceSession.Accepts req
        · simp only [DeviceSession.exec_handleRegister h]
        · simp only [DeviceSession.exec_handleRegister_refused h]
      | status report => exact db_exec_handleStatus
      | fault report => simp only [DeviceSession.exec_handleFault]
  unfold handleFrame raised
  rw [← hdb]
  generalize ((r.sessions k).onMessage cfg.regionId body clock).exec r.reg = result at hfault ⊢
  obtain ⟨out, reg⟩ := result
  dsimp only at hfault ⊢
  rw [hfault]
  cases DeviceMessage.ofBody body with
  | none => exact ⟨(List.append_nil _).symm, rfl⟩
  | some m =>
    cases m with
    | register req => exact ⟨(List.append_nil _).symm, rfl⟩
    | status report => exact ⟨(List.append_nil _).symm, rfl⟩
    | fault report => exact ⟨rfl, rfl⟩

/-- Edge detection calls no database. -/
theorem db_motionEdge (tel : Telemetry) : (r.motionEdge tel).db = r.db := by
  rw [motionEdge_eq]
  split
  · exact (commandsOnly_makeCalls _).db
  · rfl

/-- The alarms and the database calls of a datagram. -/
theorem outputs_receive {bytes beyond : Bytes} {tel : Telemetry}
    (hparse : parseTelemetry bytes beyond = some tel) :
    (receive cfg clock r tel).alarms = r.alarms ++ raised cfg r (.datagram bytes beyond clock) ∧
      (receive cfg clock r tel).db = r.db ++ dbCalls cfg r (.datagram bytes beyond clock) := by
  simp only [raised, dbCalls, hparse]
  by_cases hmarker : tel.motion = 254
  · have hedge : ¬(tel.motion = 0 ∨ tel.motion = 1) := by
      rw [hmarker]
      decide
    unfold receive
    simp only [if_pos hmarker, if_neg hedge, faultMarker, sensorFault, switchTo, sendAlarmNow,
      Registry.get_upsert_self, sensorAlarm, and_self]
  · simp only [if_neg hmarker, List.append_nil]
    unfold receive
    simp only [if_neg hmarker]
    split
    · exact ⟨(motionEdge_records tel).2.2.2, db_motionEdge tel⟩
    · exact ⟨rfl, rfl⟩

/-- A handler that reads no clock only moves sessions. -/
theorem commandsOnly_step (h : step cfg r e = some t) (hquiet : e.nowMs = none) :
    CommandsOnly r t := by
  cases e with
  | frame k body clock => cases hquiet
  | datagram bytes beyond clock => cases hquiet
  | tick clock => cases hquiet
  | posted k =>
    obtain ⟨q, -, rfl⟩ := Option.map_eq_some_iff.mp h
    exact .of_sessions r ..
  | writeDone k i ok =>
    obtain ⟨s, -, rfl⟩ := Option.map_eq_some_iff.mp h
    cases ok with
    | true => exact .of_sessions r ..
    | false =>
      exact CommandsOnly.trans (b := r.setSession k s) (.of_sessions r ..)
        (commandsOnly_onClose k)
  | close k =>
    obtain ⟨-, heq⟩ := Option.ite_none_left_eq_some.mp h
    cases heq
    exact commandsOnly_onClose k
  | expire k =>
    obtain ⟨-, heq⟩ := Option.ite_none_right_eq_some.mp h
    cases heq
    exact .of_sessions r ..

/-- What every handler raises and puts into the database. -/
theorem outputs_step (h : step cfg r e = some t) :
    t.alarms = r.alarms ++ raised cfg r e ∧ t.db = r.db ++ dbCalls cfg r e := by
  have hquiet (hnone : e.nowMs = none) : t.alarms = r.alarms ++ [] ∧ t.db = r.db ++ [] := by
    have hsame := commandsOnly_step h hnone
    rw [List.append_nil, List.append_nil]
    exact ⟨hsame.alarms, hsame.db⟩
  cases e with
  | frame k body clock =>
    obtain ⟨-, heq⟩ := Option.ite_none_left_eq_some.mp h
    cases heq
    exact outputs_handleFrame cfg clock r k body
  | datagram bytes beyond clock =>
    simp only [step] at h
    cases hparse : parseTelemetry bytes beyond with
    | none =>
      rw [hparse] at h
      cases h
      simp only [raised, dbCalls, hparse, List.append_nil, and_self]
    | some tel =>
      rw [hparse] at h
      cases h
      exact outputs_receive hparse
  | tick clock =>
    cases h
    obtain ⟨halarms, hdb⟩ := outputs_tick cfg clock r
    exact ⟨halarms, hdb.trans (List.append_nil _).symm⟩
  | posted k => exact hquiet rfl
  | writeDone k i ok => exact hquiet rfl
  | close k => exact hquiet rfl
  | expire k => exact hquiet rfl

end Region

end SmartLighting
