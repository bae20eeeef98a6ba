import SmartLighting.RegionOutputs
import SmartLighting.SessionMap
import SmartLighting.ZoneLamps

/-!
# A region as a product of devices

The devices of a region share sessions, the timer, the state machine and the zone lists. But what
the region keeps and reports about one of them is the work of a machine of its own, which reads
only the messages under its name and the ticks.
-/

namespace SmartLighting

open StateMachine Transition

/-- The device that a database call is about. -/
def DbCall.uri : DbCall → Bytes
  | .upsertDevice uri .. => uri
  | .lampStatus uri .. => uri
  | .fault uri .. => uri

/-- What a region keeps and reports about one device. -/
structure DeviceView where
  /-- Its entry in the registry. -/
  entry : Option DeviceState
  /-- Whether it is in `active_lost`. -/
  lost : Bool
  /-- Its last motion. -/
  motion : Option UInt8
  /-- The alarms for it. -/
  alarms : List AlarmUp
  /-- The database calls for it. -/
  db : List DbCall

/-- What a device can hear of an event. -/
inductive News
  /-- Its registration was accepted. -/
  | registered (req : RegisterReq) (clock : Clock)
  /-- A status report names it. -/
  | status (report : StatusReport) (clock : Clock)
  /-- A fault report names it. -/
  | fault (report : FaultReport) (clock : Clock)
  /-- Telemetry names it. -/
  | telemetry (tel : Telemetry) (clock : Clock)
  /-- The comm-lost timer expires. -/
  | tick (clock : Clock)

namespace DeviceView

/-- A device that was never heard of. -/
def unknown : DeviceView := ⟨none, false, none, [], []⟩

/-- A status report is stored if the device is known. -/
def hearStatus (cfg : RegionConfig) (w : DeviceView) (report : StatusReport) (clock : Clock) :
    DeviceView :=
  match w.entry with
  | none => w
  | some old =>
    let st := { old with
      zoneId := report.zoneId
      on := report.on
      intensity := report.intensity
      powerMw := report.powerMw
      lastSeenMs := clock.nowMs }
    { w with entry := some st, db := w.db ++ Region.statusCalls cfg report.uri st }

/-- A fault report is stored and reported. An unknown device counts as a luminaire. -/
def hearFault (cfg : RegionConfig) (w : DeviceView) (report : FaultReport) (clock : Clock) :
    DeviceView :=
  let old := w.entry.getD ⟨.luminaire, report.zoneId, 0, 0, 0, false, 0⟩
  { w with
    entry := some { old with zoneId := report.zoneId, fault := true, lastSeenMs := clock.nowMs }
    alarms := w.alarms ++ [Region.deviceAlarm cfg clock report old.type]
    db := w.db ++ [.fault report.uri cfg.regionId report.zoneId report.code report.text] }

/-- Telemetry makes the device a sensor. -/
def hearTelemetry (cfg : RegionConfig) (w : DeviceView) (tel : Telemetry) (clock : Clock) :
    DeviceView :=
  if tel.motion = 254 then
    { w with
      entry := some ⟨.sensor, tel.zoneId, 0, 0, 0, true, clock.nowMs⟩
      alarms := w.alarms ++ [Region.sensorAlarm cfg clock tel]
      db := w.db ++ [.upsertDevice tel.uri 2 cfg.regionId tel.zoneId true 0 0 0,
        .fault tel.uri cfg.regionId tel.zoneId 1 (ascii "sensor_fault")] }
  else
    { w with
      entry := some (telemetryState tel clock.nowMs w.entry)
      motion := if tel.motion = 0 ∨ tel.motion = 1 then some tel.motion else w.motion }

/-- The alarm that reports a known device as lost. -/
def lostAlarm (cfg : RegionConfig) (clock : Clock) (uri : Bytes) (st : DeviceState) : AlarmUp where
  regionId := cfg.regionId
  tsUnix := clock.unix
  deviceType := if st.type = .luminaire then 1 else 2
  zoneId := st.zoneId
  code := 9
  uri := uri
  text := ascii "comm_lost"

/-- A tick latches the fault of a silent device, and reports it unless the tick before did. -/
def hearTick (cfg : RegionConfig) (uri : Bytes) (w : DeviceView) (clock : Clock) : DeviceView :=
  match w.entry with
  | none => { w with lost := false }
  | some st =>
    let listed := decide (Registry.CommLost clock.nowMs cfg.timeoutMs st)
    { w with
      entry := some (Registry.latch clock.nowMs cfg.timeoutMs st)
      lost := listed
      alarms := if listed ∧ w.lost = false then w.alarms ++ [lostAlarm cfg clock uri st]
        else w.alarms }

/-- What the device's machine does with its news. -/
def hear (cfg : RegionConfig) (uri : Bytes) (w : DeviceView) : News → DeviceView
  | .registered req clock => { w with entry := some (DeviceSession.registerState req clock) }
  | .status report clock => w.hearStatus cfg report clock
  | .fault report clock => w.hearFault cfg report clock
  | .telemetry tel clock => w.hearTelemetry cfg tel clock
  | .tick clock => w.hearTick cfg uri clock

end DeviceView

namespace Region

variable {cfg : RegionConfig} {r t : Region} {e : Event} {clock : Clock} {v : Bytes}

/-- What an event says about a device. -/
def Event.news (v : Bytes) : Event → Option News
  | .frame _ body clock =>
    match DeviceMessage.ofBody body with
    | some (.register req) =>
      if DeviceSession.Accepts req ∧ req.uri = v then some (.registered req clock) else none
    | some (.status report) => if report.uri = v then some (.status report clock) else none
    | some (.fault report) => if report.uri = v then some (.fault report clock) else none
    | none => none
  | .datagram bytes beyond clock =>
    match parseTelemetry bytes beyond with
    | some tel => if tel.uri = v then some (.telemetry tel clock) else none
    | none => none
  | .tick clock => some (.tick clock)
  | _ => none

/-- What the region keeps and reports about a device. -/
def view (v : Bytes) (r : Region) : DeviceView where
  entry := r.reg.get v
  lost := decide (v ∈ r.activeLost)
  motion := r.lastMotion.lookup v
  alarms := r.alarms.filter fun a => a.uri = v
  db := r.db.filter fun call => call.uri = v

/-! ## Sessions have no say -/

/-- The device of each session that has a name is in the registry. -/
def Known (r : Region) : Prop :=
  ∀ k, (r.sessions k).uri ≠ [] → (r.reg.get (r.sessions k).uri).isSome

/-- The registry forgets no device. -/
theorem isSome_get_step (h : step cfg r e = some t) (hknown : (r.reg.get v).isSome) :
    (t.reg.get v).isSome := by
  rcases step_cases h with ⟨clock, -, hticks⟩ | ⟨-, hstores⟩
  · rw [hticks.get, Option.isSome_map]
    exact hknown
  · rw [hstores.get]
    split
    · split
      · rfl
      · exact hknown
    · exact hknown

/-- A session takes only the name of a device that is then stored. -/
theorem Known.step (hknown : Known r) (h : Region.step cfg r e = some t) : Known t := by
  have hkept : ∀ {u : Region}, (∀ k, (t.sessions k).uri = (u.sessions k).uri) →
      (∀ k, (u.sessions k).uri = (r.sessions k).uri) → Known t := by
    intro u hsame hsame' k hname
    rw [hsame, hsame'] at hname ⊢
    exact isSome_get_step h (hknown k hname)
  cases routing_of_step h with
  | kept hkeeps hregisters hcloses => exact hkept (fun _ => rfl) hkeeps.uri
  | registered k body clock hlive hregistered =>
    obtain ⟨hother, hself, -⟩ := handleFrame_routes cfg clock r k body
    rw [hregistered] at hself
    intro j hname
    by_cases hj : j = k
    · subst hj
      rw [hself, Option.getD_some]
      obtain ⟨st, hstored⟩ := stored_of_registered (r := r) hregistered
      have hstores : Stores r (.frame j body clock) (handleFrame cfg clock r j body) :=
        stores_handleFrame j body
      rw [hstores.get_stored hstored]
      rfl
    · rw [hother j hj] at hname ⊢
      exact isSome_get_step h (hknown j hname)
  | closed k hkeeps hregisters hcloses =>
    refine hkept (fun j => ?_) hkeeps.uri
    rw [(onClose_routes _ k).1]
  | ended k => exact hkept (fun _ => rfl) fun _ => rfl

theorem known_start : Known start := fun _ hname => absurd rfl hname

/-- So a status report of an unknown device is dropped, whatever session brings it. -/
theorem Known.statusState_none (hknown : Known r) (k : ℕ) {report : StatusReport}
    (hnone : r.reg.get report.uri = none) :
    (r.sessions k).statusState report clock none = none := by
  refine if_pos ?_
  by_contra hown
  simp only [not_or, ne_eq, not_not] at hown
  have hsome := hknown k hown.2.1
  rw [← hown.2.2, hnone] at hsome
  cases hsome

/-- And a fault report of an unknown device counts as one of a luminaire. -/
theorem Known.faultType_eq (hknown : Known r) (k : ℕ) {report : FaultReport} :
    (r.sessions k).faultType report (r.reg.get report.uri) =
      (r.reg.get report.uri).elim .luminaire DeviceState.type := by
  cases hget : r.reg.get report.uri with
  | some st => rfl
  | none =>
    refine if_neg ?_
    rintro ⟨-, hname, hown⟩
    have hsome := hknown k hname
    rw [← hown, hget] at hsome
    cases hsome

/-! ## One step of a device -/

/-- A view whose parts are known. -/
theorem view_eq {w : DeviceView} (hentry : t.reg.get v = w.entry)
    (hlost : v ∈ t.activeLost ↔ w.lost = true) (hmotion : t.lastMotion.lookup v = w.motion)
    (halarms : t.alarms.filter (fun a => a.uri = v) = w.alarms)
    (hdb : t.db.filter (fun call => call.uri = v) = w.db) : t.view v = w := by
  obtain ⟨entry, lost, motion, alarms, db⟩ := w
  have hlost' : decide (v ∈ t.activeLost) = lost := by
    rw [Bool.eq_iff_iff, decide_eq_true_eq]
    exact hlost
  unfold view
  dsimp only at hentry hmotion halarms hdb
  rw [hentry, hlost', hmotion, halarms, hdb]

/-- Of the alarms of a tick, at most one is for the device. -/
theorem filter_reportedLost (cfg : RegionConfig) (clock : Clock) (r : Region) (v : Bytes) :
    (((reportedLost cfg clock r).map (commLostAlarm cfg clock r)).filter fun a => a.uri = v) =
      if NewlyLost cfg clock r v ∧ v ∉ r.activeLost then [commLostAlarm cfg clock r v] else [] := by
  have hnodup : (reportedLost cfg clock r).Nodup := Registry.nodup_detectCommLost.filter _
  have hmem : v ∈ reportedLost cfg clock r ↔ NewlyLost cfg clock r v ∧ v ∉ r.activeLost := by
    rw [reportedLost, List.mem_filter, decide_eq_true_eq]
    rfl
  have huri : ((fun a : AlarmUp => decide (a.uri = v)) ∘ commLostAlarm cfg clock r) =
      fun uri => decide (uri = v) := rfl
  have hone : ((reportedLost cfg clock r).filter fun uri => uri = v) =
      if v ∈ reportedLost cfg clock r then [v] else [] := by
    rw [List.filter_eq, hnodup.count]
    split <;> rfl
  rw [List.filter_map, huri, hone]
  simp only [hmem]
  split <;> rfl

/-- A tick is heard by every device. -/
theorem view_tick (cfg : RegionConfig) (clock : Clock) (r : Region) (v : Bytes) :
    (tick cfg clock r).view v = (r.view v).hearTick cfg v clock := by
  have hticks := ticks_tick cfg clock r
  obtain ⟨halarms, hdb⟩ := outputs_tick cfg clock r
  have halarms' : (tick cfg clock r).alarms.filter (fun a => a.uri = v) =
      r.alarms.filter (fun a => a.uri = v) ++
        if NewlyLost cfg clock r v ∧ v ∉ r.activeLost then [commLostAlarm cfg clock r v]
        else [] := by
    rw [halarms, List.filter_append, raised, filter_reportedLost]
  have hmotion : (tick cfg clock r).lastMotion.lookup v = r.lastMotion.lookup v := by
    rw [lastMotion_tick]
  unfold DeviceView.hearTick
  cases hget : r.reg.get v with
  | none =>
    have hnot : ¬NewlyLost cfg clock r v := by
      rw [newlyLost_iff, hget]
      simp
    simp only [view, hget]
    refine view_eq ?_ ?_ hmotion ?_ (by rw [hdb])
    · rw [hticks.get, hget, Option.map_none]
    · rw [hticks.activeLost]
      exact iff_of_false hnot Bool.false_ne_true
    · rw [halarms', if_neg fun h => hnot h.1, List.append_nil]
  | some st =>
    have hlisted : NewlyLost cfg clock r v ↔
        Registry.CommLost clock.nowMs cfg.timeoutMs st := by
      rw [newlyLost_iff, hget]
      simp
    have halarm : commLostAlarm cfg clock r v = DeviceView.lostAlarm cfg clock v st := by
      unfold commLostAlarm DeviceView.lostAlarm
      simp only [hget]
    simp only [view, hget]
    refine view_eq ?_ ?_ hmotion ?_ (by rw [hdb])
    · rw [hticks.get, hget, Option.map_some]
    · rw [hticks.activeLost, hlisted, decide_eq_true_eq]
    · rw [halarms', halarm]
      simp only [decide_eq_true_eq, decide_eq_false_iff_not, hlisted]
      split
      · rfl
      · exact List.append_nil _

/-- Handlers that only move sessions are heard by no device. -/
theorem view_of_commandsOnly (h : CommandsOnly r t) : t.view v = r.view v := by
  unfold view
  rw [h.reg, h.activeLost, h.lastMotion, h.alarms, h.db]

/-- The view after a frame, from what the frame stores and puts out. -/
private theorem view_of_frame {k : ℕ} {body : Bytes} {w : DeviceView}
    (hentry : (handleFrame cfg clock r k body).reg.get v = w.entry)
    (hlost : (r.view v).lost = w.lost) (hmotion : (r.view v).motion = w.motion)
    (halarms : (r.view v).alarms ++
      (raised cfg r (.frame k body clock)).filter (fun a => a.uri = v) = w.alarms)
    (hdb : (r.view v).db ++
      (dbCalls cfg r (.frame k body clock)).filter (fun call => call.uri = v) = w.db) :
    (handleFrame cfg clock r k body).view v = w := by
  have hstores : Stores r (.frame k body clock) (handleFrame cfg clock r k body) :=
    stores_handleFrame k body
  obtain ⟨halarms', hdb'⟩ := outputs_handleFrame cfg clock r k body
  refine view_eq hentry ?_ ?_ ?_ ?_
  · rw [hstores.activeLost, ← hlost, view, decide_eq_true_eq]
  · rw [lastMotion_handleFrame, ← hmotion, view]
  · rw [halarms', List.filter_append, ← halarms, view]
  · rw [hdb', List.filter_append, ← hdb, view]

/-- A frame that does not name the device is not heard. -/
private theorem view_of_unheard {k : ℕ} {body : Bytes}
    (hstored : ∀ st, r.stored (.frame k body clock) ≠ some (v, st))
    (halarms : ∀ a ∈ raised cfg r (.frame k body clock), a.uri ≠ v)
    (hdb : ∀ call ∈ dbCalls cfg r (.frame k body clock), call.uri ≠ v) :
    (handleFrame cfg clock r k body).view v = r.view v := by
  refine view_of_frame ((stores_handleFrame k body).get_other hstored) rfl rfl ?_ ?_
  · rw [List.filter_eq_nil_iff.mpr fun a ha => by simpa using halarms a ha, List.append_nil]
  · rw [List.filter_eq_nil_iff.mpr fun call hcall => by simpa using hdb call hcall,
      List.append_nil]

/-- A registration is heard by its device. -/
private theorem view_register {k : ℕ} {body : Bytes} {req : RegisterReq}
    (hm : DeviceMessage.ofBody body = some (.register req)) :
    (handleFrame cfg clock r k body).view v =
      if DeviceSession.Accepts req ∧ req.uri = v then
        (r.view v).hear cfg v (.registered req clock)
      else r.view v := by
  split
  · next hheard =>
    obtain ⟨haccepts, rfl⟩ := hheard
    refine view_of_frame ((stores_handleFrame k body).get_stored ?_) rfl rfl ?_ ?_
    · simp only [stored, DeviceSession.stored, hm, if_pos haccepts]
    · simp only [raised, hm, List.filter_nil, List.append_nil]
      rfl
    · simp only [dbCalls, hm, List.filter_nil, List.append_nil]
      rfl
  · next hunheard =>
    refine view_of_unheard (fun st hst => ?_) ?_ ?_
    · simp only [stored, DeviceSession.stored, hm] at hst
      obtain ⟨haccepts, heq⟩ := Option.ite_none_right_eq_some.mp hst
      cases heq
      exact hunheard ⟨haccepts, rfl⟩
    · simp [raised, hm]
    · simp [dbCalls, hm]

/-- The calls for a stored status are about its device. -/
theorem uri_of_mem_statusCalls {uri : Bytes} {st : DeviceState} :
    ∀ call ∈ statusCalls cfg uri st, call.uri = uri := by
  unfold statusCalls
  split <;> simp [upsertOf, DbCall.uri]

/-- A status report is heard by its device. -/
private theorem view_status (hknown : Known r) {k : ℕ} {body : Bytes} {report : StatusReport}
    (hm : DeviceMessage.ofBody body = some (.status report)) :
    (handleFrame cfg clock r k body).view v =
      if report.uri = v then (r.view v).hear cfg v (.status report clock) else r.view v := by
  have hall {st : DeviceState} : (statusCalls cfg report.uri st).filter
      (fun call => call.uri = report.uri) = statusCalls cfg report.uri st :=
    List.filter_eq_self.mpr fun call hcall => decide_eq_true (uri_of_mem_statusCalls call hcall)
  split
  · next hheard =>
    subst hheard
    cases hentry : r.reg.get report.uri with
    | none =>
      have hdropped : (r.view report.uri).hear cfg report.uri (.status report clock) =
          r.view report.uri := by
        simp only [DeviceView.hear, DeviceView.hearStatus, view, hentry]
      rw [hdropped]
      refine view_of_unheard ?_ ?_ ?_
      · simp [stored, DeviceSession.stored, hm, hentry, hknown.statusState_none k hentry]
      · simp [raised, hm]
      · simp [dbCalls, hm, hentry, hknown.statusState_none k hentry]
    | some old =>
      simp only [DeviceView.hear, DeviceView.hearStatus, view, hentry]
      refine view_of_frame ((stores_handleFrame k body).get_stored ?_) rfl rfl ?_ ?_
      · simp only [stored, DeviceSession.stored, hm, hentry, DeviceSession.statusState,
          Option.map_some]
      · simp only [raised, hm, List.filter_nil, List.append_nil]
        rfl
      · simp only [dbCalls, hm, hentry, DeviceSession.statusState, hall]
        rfl
  · next hunheard =>
    refine view_of_unheard (fun st hst => ?_) ?_ ?_
    · simp only [stored, DeviceSession.stored, hm] at hst
      obtain ⟨st', -, heq⟩ := Option.map_eq_some_iff.mp hst
      cases heq
      exact hunheard rfl
    · simp [raised, hm]
    · intro call hcall
      simp only [dbCalls, hm] at hcall
      split at hcall
      · rw [uri_of_mem_statusCalls call hcall]
        exact hunheard
      · cases hcall

/-- A fault report is heard by its device. -/
private theorem view_fault (hknown : Known r) {k : ℕ} {body : Bytes} {report : FaultReport}
    (hm : DeviceMessage.ofBody body = some (.fault report)) :
    (handleFrame cfg clock r k body).view v =
      if report.uri = v then (r.view v).hear cfg v (.fault report clock) else r.view v := by
  have htype : (r.sessions k).faultType report (r.reg.get report.uri) =
      (r.reg.get report.uri).elim .luminaire DeviceState.type := hknown.faultType_eq k
  split
  · next hheard =>
    subst hheard
    have hfilter {type : DeviceType} : [deviceAlarm cfg clock report type].filter
        (fun a => a.uri = report.uri) = [deviceAlarm cfg clock report type] :=
      List.filter_eq_self.mpr fun a ha => decide_eq_true (by rw [List.mem_singleton.mp ha]; rfl)
    refine view_of_frame ((stores_handleFrame k body).get_stored ?_) rfl rfl ?_ ?_
    · simp only [stored, DeviceSession.stored, hm, DeviceSession.faultState, htype]
      cases hentry : r.reg.get report.uri with
      | none => simp only [view, hentry, Option.getD_none, Option.elim_none]
      | some old => simp only [view, hentry, Option.getD_some]
    · simp only [raised, hm, htype, hfilter]
      cases hentry : r.reg.get report.uri with
      | none => simp only [DeviceView.hear, DeviceView.hearFault, view, hentry, Option.getD_none,
          Option.elim_none]
      | some old => simp only [DeviceView.hear, DeviceView.hearFault, view, hentry,
          Option.getD_some, Option.elim_some]
    · simp [dbCalls, hm, DeviceView.hear, DeviceView.hearFault, DbCall.uri]
  · next hunheard =>
    refine view_of_unheard (fun st hst => ?_) ?_ ?_
    · simp only [stored, DeviceSession.stored, hm] at hst
      cases hst
      exact hunheard rfl
    · simp [raised, hm, deviceAlarm, hunheard]
    · simp [dbCalls, hm, DbCall.uri, hunheard]

/-- A frame is heard by the device that it names. -/
theorem view_handleFrame (hknown : Known r) (cfg : RegionConfig) (clock : Clock) (k : ℕ)
    (body : Bytes) (v : Bytes) :
    (handleFrame cfg clock r k body).view v =
      (Event.news v (.frame k body clock)).elim (r.view v) ((r.view v).hear cfg v) := by
  simp only [Event.news]
  cases hm : DeviceMessage.ofBody body with
  | none =>
    refine view_of_unheard ?_ ?_ ?_ <;> simp [stored, DeviceSession.stored, raised, dbCalls, hm]
  | some m =>
    cases m with
    | register req =>
      rw [view_register hm]
      dsimp only
      split <;> rfl
    | status report =>
      rw [view_status hknown hm]
      dsimp only
      split <;> rfl
    | fault report =>
      rw [view_fault hknown hm]
      dsimp only
      split <;> rfl

/-- What a datagram stores. -/
private theorem stored_datagram {bytes beyond : Bytes} {tel : Telemetry}
    (hparse : parseTelemetry bytes beyond = some tel) :
    r.stored (.datagram bytes beyond clock) = some (tel.uri,
      if tel.motion = 254 then ⟨.sensor, tel.zoneId, 0, 0, 0, true, clock.nowMs⟩
      else telemetryState tel clock.nowMs (r.reg.get tel.uri)) := by
  rw [stored, hparse, Option.map_some]

/-- A datagram stores its device, whatever it says. -/
theorem stores_receive {bytes beyond : Bytes} {tel : Telemetry}
    (hparse : parseTelemetry bytes beyond = some tel) :
    Stores r (.datagram bytes beyond clock) (receive cfg clock r tel) := by
  by_cases hmarker : tel.motion = 254
  · exact stores_receive_marker hparse hmarker
  · exact stores_receive_plain hparse hmarker

/-- Telemetry is heard by the sensor that it names. -/
theorem view_receive {bytes beyond : Bytes} {tel : Telemetry}
    (hparse : parseTelemetry bytes beyond = some tel) :
    (receive cfg clock r tel).view v =
      if tel.uri = v then (r.view v).hearTelemetry cfg tel clock else r.view v := by
  have hstores : Stores r (.datagram bytes beyond clock) (receive cfg clock r tel) :=
    stores_receive hparse
  have houtputs : (receive cfg clock r tel).alarms =
        r.alarms ++ raised cfg r (.datagram bytes beyond clock) ∧
      (receive cfg clock r tel).db = r.db ++ dbCalls cfg r (.datagram bytes beyond clock) :=
    outputs_receive hparse
  obtain ⟨halarms, hdb⟩ := houtputs
  have hlost : v ∈ (receive cfg clock r tel).activeLost ↔ (r.view v).lost = true := by
    rw [hstores.activeLost, view, decide_eq_true_eq]
  split
  · next hheard =>
    subst hheard
    have hget := hstores.get_stored (stored_datagram hparse)
    unfold DeviceView.hearTelemetry
    by_cases hmarker : tel.motion = 254
    · have hedge : ¬(tel.motion = 0 ∨ tel.motion = 1) := by
        rw [hmarker]
        decide
      rw [if_pos hmarker] at hget ⊢
      refine view_eq hget hlost ?_ ?_ ?_
      · rw [lastMotion_receive, if_neg hedge]
        rfl
      · rw [halarms, List.filter_append]
        simp [raised, hparse, hmarker, sensorAlarm, view]
      · rw [hdb, List.filter_append]
        simp [dbCalls, hparse, hmarker, DbCall.uri, view]
    · rw [if_neg hmarker] at hget ⊢
      refine view_eq hget hlost ?_ ?_ ?_
      · rw [lastMotion_receive]
        split
        · exact AList.lookup_insert ..
        · rfl
      · rw [halarms, List.filter_append]
        simp [raised, hparse, hmarker, view]
      · rw [hdb, List.filter_append]
        simp [dbCalls, hparse, hmarker, view]
  · next hunheard =>
    have hother : ∀ st, r.stored (.datagram bytes beyond clock) ≠ some (v, st) := by
      rw [stored_datagram hparse]
      intro st heq
      cases heq
      exact hunheard rfl
    refine view_eq (hstores.get_other hother) hlost ?_ ?_ ?_
    · rw [lastMotion_receive]
      split
      · exact AList.lookup_insert_ne (Ne.symm hunheard)
      · rfl
    · rw [halarms, List.filter_append]
      by_cases hmarker : tel.motion = 254
      · simp [raised, hparse, hmarker, sensorAlarm, hunheard, view]
      · simp [raised, hparse, hmarker, view]
    · rw [hdb, List.filter_append]
      by_cases hmarker : tel.motion = 254
      · simp [dbCalls, hparse, hmarker, DbCall.uri, hunheard, view]
      · simp [dbCalls, hparse, hmarker, view]

/-! ## Whole runs -/

/-- In each step a device does what its own machine does with its news. -/
theorem view_step (hknown : Known r) (h : step cfg r e = some t) (v : Bytes) :
    t.view v = (e.news v).elim (r.view v) ((r.view v).hear cfg v) := by
  cases e with
  | frame k body clock =>
    obtain ⟨-, heq⟩ := Option.ite_none_left_eq_some.mp h
    cases heq
    exact view_handleFrame hknown cfg clock k body v
  | datagram bytes beyond clock =>
    simp only [step] at h
    cases hparse : parseTelemetry bytes beyond with
    | none =>
      rw [hparse] at h
      cases h
      simp only [Event.news, hparse, Option.elim_none]
    | some tel =>
      rw [hparse] at h
      cases h
      rw [view_receive hparse]
      simp only [Event.news, hparse]
      split <;> rfl
  | tick clock =>
    cases h
    exact view_tick cfg clock r v
  | posted k => exact view_of_commandsOnly (commandsOnly_step h rfl)
  | writeDone k i ok => exact view_of_commandsOnly (commandsOnly_step h rfl)
  | close k => exact view_of_commandsOnly (commandsOnly_step h rfl)
  | expire k => exact view_of_commandsOnly (commandsOnly_step h rfl)

/-- The news of a device in a run. -/
def newsOf (v : Bytes) (es : List Event) : List News := es.filterMap (Event.news v)

/-- After any run, what the region keeps and reports about a device is what the device's own
machine makes of the messages under its name and of the ticks. -/
theorem view_run (cfg : RegionConfig) (v : Bytes) {es : List Event} {t : Region}
    (hrun : run (step cfg) start es = some t) :
    t.view v = (newsOf v es).foldl (DeviceView.hear cfg v) .unknown := by
  have hkeep : ∀ r e t, Known r → step cfg r e = some t → Known t :=
    fun r e t hknown h => hknown.step h
  exact run_projected hkeep (fun r e t hknown h => view_step hknown h v) known_start hrun

/-- Two lamps register, one reports a fault, and the timer expires. -/
def twoLamps : List Event :=
  [.frame 0 (DeviceMessage.register ⟨.luminaire, ascii "lamp1", 1⟩).body ⟨1000, 1⟩,
    .frame 1 (DeviceMessage.register ⟨.luminaire, ascii "lamp2", 1⟩).body ⟨2000, 2⟩,
    .frame 1 (DeviceMessage.fault ⟨ascii "lamp2", 1, 1, ascii "fault_detected"⟩).body ⟨3000, 3⟩,
    .tick ⟨30000, 30⟩]

/-- The first lamp falls silent, whatever the second reports. -/
theorem view_run_twoLamps :
    ∃ t, run (step ⟨1, 20000⟩) start twoLamps = some t ∧
      t.view (ascii "lamp1") = (newsOf (ascii "lamp1") twoLamps).foldl
        (DeviceView.hear ⟨1, 20000⟩ (ascii "lamp1")) .unknown :=
  ⟨_, rfl, view_run ⟨1, 20000⟩ (ascii "lamp1") rfl⟩

end Region

end SmartLighting
