import SmartLighting.Commands
import SmartLighting.SessionSteps

/-!
# What one handler of the regional server does

Every handler but the timer stores the state of at most one device. Motion
callbacks only issue commands, fault callbacks only raise an alarm and move the
state machine. The timer latches faults and reports them.
-/

namespace SmartLighting

open StateMachine Transition

namespace Region

variable {cfg : RegionConfig} {r t : Region} {e : Event} {clock : Clock} {uri v : Bytes}

/-- The device and the state that the handler of an event stores. The timer
stores nothing in this sense: it only latches faults. -/
def stored (r : Region) : Event → Option (Bytes × DeviceState)
  | .frame k body clock => (r.sessions k).stored body clock r.reg
  | .datagram bytes beyond clock =>
    (parseTelemetry bytes beyond).map fun tel =>
      (tel.uri,
        if tel.motion = 254 then ⟨.sensor, tel.zoneId, 0, 0, 0, true, clock.nowMs⟩
        else telemetryState tel clock.nowMs (r.reg.get tel.uri))
  | _ => none

/-- Whether an event is an expiry of the comm-lost timer. -/
def Event.IsTick : Event → Prop
  | .tick _ => True
  | _ => False

theorem Event.isTick_iff : e.IsTick ↔ ∃ clock, e = .tick clock := by
  cases e <;> simp [Event.IsTick]

/-- The device that an event reports as faulty, and the label of the report. -/
def Event.faultReport : Event → Option (Bytes × ServerLabel)
  | .frame _ body _ =>
    match DeviceMessage.ofBody body with
    | some (.fault report) => some (report.uri, .deviceFault)
    | _ => none
  | .datagram bytes beyond _ =>
    match parseTelemetry bytes beyond with
    | some tel => if tel.motion = 254 then some (tel.uri, .sensorFault) else none
    | none => none
  | _ => none

/-- The device that an event registers. -/
def Event.registered : Event → Option Bytes
  | .frame _ body _ =>
    match DeviceMessage.ofBody body with
    | some (.register req) => if DeviceSession.Accepts req then some req.uri else none
    | _ => none
  | _ => none

/-- The reading of the clock in a handler that reads it. -/
def Event.nowMs : Event → Option UInt64
  | .frame _ _ clock => some clock.nowMs
  | .datagram _ _ clock => some clock.nowMs
  | .tick clock => some clock.nowMs
  | _ => none

/-- The messages that store a state, with the device and the state that each stores. -/
inductive Storing (r : Region) : Event → Bytes → DeviceState → Prop
  /-- An accepted registration. -/
  | registration (k : ℕ) {body : Bytes} (clock : Clock) {req : RegisterReq}
      (hm : DeviceMessage.ofBody body = some (.register req))
      (haccepts : DeviceSession.Accepts req) :
      Storing r (.frame k body clock) req.uri (DeviceSession.registerState req clock)
  /-- A status report that is not dropped. -/
  | status (k : ℕ) {body : Bytes} (clock : Clock) {report : StatusReport} {st : DeviceState}
      (hm : DeviceMessage.ofBody body = some (.status report))
      (hst : (r.sessions k).statusState report clock (r.reg.get report.uri) = some st) :
      Storing r (.frame k body clock) report.uri st
  /-- A fault report. -/
  | fault (k : ℕ) {body : Bytes} (clock : Clock) {report : FaultReport}
      (hm : DeviceMessage.ofBody body = some (.fault report)) :
      Storing r (.frame k body clock) report.uri
        ((r.sessions k).faultState report clock (r.reg.get report.uri))
  /-- A fault marker of a sensor. -/
  | marker {bytes beyond : Bytes} (clock : Clock) {tel : Telemetry}
      (hparse : parseTelemetry bytes beyond = some tel) (hmarker : tel.motion = 254) :
      Storing r (.datagram bytes beyond clock) tel.uri
        ⟨.sensor, tel.zoneId, 0, 0, 0, true, clock.nowMs⟩
  /-- Other telemetry. -/
  | telemetry {bytes beyond : Bytes} (clock : Clock) {tel : Telemetry}
      (hparse : parseTelemetry bytes beyond = some tel) (hplain : tel.motion ≠ 254) :
      Storing r (.datagram bytes beyond clock) tel.uri
        (telemetryState tel clock.nowMs (r.reg.get tel.uri))

/-- Whatever is stored, one of these messages stores it. -/
theorem storing_of_stored {st : DeviceState} (h : r.stored e = some (uri, st)) :
    Storing r e uri st := by
  cases e with
  | frame k body clock =>
    rcases DeviceSession.stored_cases h with ⟨req, hm, haccepts, rfl, rfl⟩ |
      ⟨report, hm, rfl, hst⟩ | ⟨report, hm, rfl, rfl⟩
    · exact .registration k clock hm haccepts
    · exact .status k clock hm hst
    · exact .fault k clock hm
  | datagram bytes beyond clock =>
    obtain ⟨tel, hparse, heq⟩ := Option.map_eq_some_iff.mp h
    by_cases hmarker : tel.motion = 254
    · rw [if_pos hmarker] at heq
      cases heq
      exact .marker clock hparse hmarker
    · rw [if_neg hmarker] at heq
      cases heq
      exact .telemetry clock hparse hmarker
  | tick clock => cases h
  | posted k => cases h
  | writeDone k i ok => cases h
  | close k => cases h
  | expire k => cases h

/-- Each of these messages stores its state. -/
theorem Storing.stored_eq {st : DeviceState} (h : Storing r e uri st) :
    r.stored e = some (uri, st) := by
  cases h with
  | registration k clock hm haccepts =>
    simp only [stored, DeviceSession.stored, hm, if_pos haccepts]
  | status k clock hm hst => simp only [stored, DeviceSession.stored, hm, hst, Option.map_some]
  | fault k clock hm => simp only [stored, DeviceSession.stored, hm]
  | marker clock hparse hmarker => simp only [stored, hparse, Option.map_some, if_pos hmarker]
  | telemetry clock hparse hplain => simp only [stored, hparse, Option.map_some, if_neg hplain]

/-- Whoever stores a state marks the device as heard now. -/
theorem nowMs_of_stored {st : DeviceState} (h : r.stored e = some (uri, st)) :
    e.nowMs = some st.lastSeenMs := by
  cases storing_of_stored h with
  | registration k clock hm haccepts => rfl
  | status k clock hm hst => rw [(DeviceSession.statusState_eq_some hst).1, Event.nowMs]
  | fault k clock hm => rfl
  | marker clock hparse hmarker => rfl
  | telemetry clock hparse hplain => rw [(telemetryState_spec _ clock.nowMs _).2.1, Event.nowMs]

/-- A fault report sets the fault, a registration clears it, and every other
message keeps what was known. -/
theorem fault_of_stored {st : DeviceState} (h : r.stored e = some (uri, st)) :
    st.fault =
      if e.faultReport.map Prod.fst = some uri then true
      else if e.registered = some uri then false
      else (r.reg.get uri).elim false fun old => old.fault := by
  cases storing_of_stored h with
  | registration k clock hm haccepts =>
    simp [Event.faultReport, Event.registered, hm, haccepts, DeviceSession.registerState]
  | status k clock hm hst =>
    rw [(DeviceSession.statusState_eq_some hst).2]
    simp [Event.faultReport, Event.registered, hm]
  | fault k clock hm => simp [Event.faultReport, hm, DeviceSession.faultState]
  | marker clock hparse hmarker => simp [Event.faultReport, hparse, hmarker]
  | telemetry clock hparse hplain =>
    rw [(telemetryState_spec _ clock.nowMs _).2.2]
    simp [Event.faultReport, Event.registered, hparse, hplain]

/-- A fault report stores the state of its device. -/
theorem stored_of_faultReport {label : ServerLabel} (h : e.faultReport = some (uri, label)) :
    ∃ st, r.stored e = some (uri, st) := by
  unfold Event.faultReport at h
  split at h
  · split at h
    · next hm =>
      cases h
      exact ⟨_, (Storing.fault _ _ hm).stored_eq⟩
    · cases h
  · split at h
    · next hparse =>
      obtain ⟨hmarker, heq⟩ := Option.ite_none_right_eq_some.mp h
      cases heq
      exact ⟨_, (Storing.marker _ hparse hmarker).stored_eq⟩
    · cases h
  · cases h

/-- An accepted registration stores the state of its device. -/
theorem stored_of_registered (h : e.registered = some uri) :
    ∃ st, r.stored e = some (uri, st) := by
  unfold Event.registered at h
  split at h
  · split at h
    · next hm =>
      obtain ⟨haccepts, heq⟩ := Option.ite_none_right_eq_some.mp h
      cases heq
      exact ⟨_, (Storing.registration _ _ hm haccepts).stored_eq⟩
    · cases h
  · cases h

/-- What a handler other than the timer does, apart from commands. -/
structure Stores (r : Region) (e : Event) (t : Region) : Prop where
  /-- At most the stored device changes its state. -/
  get : ∀ v, t.reg.get v =
    match r.stored e with
    | some (uri, st) => if v = uri then some st else r.reg.get v
    | none => r.reg.get v
  /-- At most the stored device is added to a zone list. -/
  lamps : ∀ v z, v ∈ t.reg.getLampsInZone z ↔ v ∈ r.reg.getLampsInZone z ∨
    ∃ st, r.stored e = some (v, st) ∧ st.type = .luminaire ∧ st.zoneId ≠ 0 ∧ st.zoneId = z
  /-- The lost devices stay. -/
  activeLost : t.activeLost = r.activeLost
  /-- A fault report asks the state machine for fault handling. -/
  fsm : t.fsm = match e.faultReport with
    | some (_, label) => r.fsm.switchTo .faultHandling label
    | none => r.fsm
  /-- A fault report raises an alarm for its device. -/
  alarms : match e.faultReport with
    | some (uri, _) => ∃ a, a.uri = uri ∧ t.alarms = r.alarms ++ [a]
    | none => t.alarms = r.alarms

/-- The stored state is found afterwards. -/
theorem Stores.get_stored (h : Stores r e t) {st : DeviceState}
    (hstored : r.stored e = some (uri, st)) : t.reg.get uri = some st := by
  rw [h.get, hstored]
  exact if_pos rfl

/-- Devices that are not stored keep their state. -/
theorem Stores.get_other (h : Stores r e t) (hother : ∀ st, r.stored e ≠ some (v, st)) :
    t.reg.get v = r.reg.get v := by
  rw [h.get]
  cases hstored : r.stored e with
  | none => rfl
  | some entry =>
    obtain ⟨uri, st⟩ := entry
    refine if_neg ?_
    rintro rfl
    exact hother st hstored

/-- A handler that reports and stores nothing. -/
theorem Stores.of_unchanged (hstored : r.stored e = none) (hfault : e.faultReport = none)
    (h : CommandsOnly r t) : Stores r e t where
  get v := by rw [hstored, h.reg]
  lamps v z := by simp [hstored, h.reg]
  activeLost := h.activeLost
  fsm := by rw [hfault, h.fsm]
  alarms := by rw [hfault]; exact h.alarms

theorem stores_handleFrame (k : ℕ) (body : Bytes) :
    Stores r (.frame k body clock) (handleFrame cfg clock r k body) := by
  have hget := DeviceSession.get_exec_onMessage cfg.regionId (r.sessions k) body clock r.reg
  have hlamps := DeviceSession.mem_lamps_exec_onMessage cfg.regionId (r.sessions k) body clock r.reg
  have hfault := DeviceSession.fault_exec_onMessage cfg.regionId (r.sessions k) body clock r.reg
  unfold handleFrame
  generalize ((r.sessions k).onMessage cfg.regionId body clock).exec r.reg = result
    at hget hlamps hfault ⊢
  obtain ⟨out, reg⟩ := result
  dsimp only at hget hlamps hfault ⊢
  have hquiet (hnone : Event.faultReport (.frame k body clock) = none) :
      Stores r (.frame k body clock) (afterFrame r k out reg) :=
    ⟨hget, hlamps, rfl, by rw [hnone]; rfl, by rw [hnone]; rfl⟩
  cases hm : DeviceMessage.ofBody body with
  | none =>
    rw [hfault, hm]
    exact hquiet (by simp only [Event.faultReport, hm])
  | some m =>
    cases m with
    | register req =>
      rw [hfault, hm]
      exact hquiet (by simp only [Event.faultReport, hm])
    | status report =>
      rw [hfault, hm]
      exact hquiet (by simp only [Event.faultReport, hm])
    | fault report =>
      rw [hfault, hm]
      have hreport : Event.faultReport (.frame k body clock) = some (report.uri, .deviceFault) := by
        simp only [Event.faultReport, hm]
      exact ⟨hget, hlamps, rfl, by rw [hreport]; rfl, by rw [hreport]; exact ⟨_, rfl, rfl⟩⟩

/-- A fault marker stores the faulty sensor, whatever was stored just before. -/
theorem stores_receive_marker {bytes beyond : Bytes} {tel : Telemetry}
    (hparse : parseTelemetry bytes beyond = some tel) (hmarker : tel.motion = 254) :
    Stores r (.datagram bytes beyond clock) (receive cfg clock r tel) := by
  have hedge : ¬(tel.motion = 0 ∨ tel.motion = 1) := by
    rw [hmarker]
    decide
  have hfault : Event.faultReport (.datagram bytes beyond clock) =
      some (tel.uri, .sensorFault) := by
    simp only [Event.faultReport, hparse, if_pos hmarker]
  have hstored : r.stored (.datagram bytes beyond clock) =
      some (tel.uri, ⟨.sensor, tel.zoneId, 0, 0, 0, true, clock.nowMs⟩) := by
    simp only [stored, hparse, Option.map_some, if_pos hmarker]
  have hsensor : (telemetryState tel clock.nowMs (r.reg.get tel.uri)).type ≠ .luminaire := by
    rw [(telemetryState_spec tel clock.nowMs _).1]
    exact DeviceType.sensor_ne_luminaire
  unfold receive
  simp only [if_pos hmarker, if_neg hedge]
  refine ⟨?_, ?_, ?_, ?_, ?_⟩
  · intro v
    simp only [hstored, faultMarker, sensorFault, switchTo, sendAlarmNow,
      Registry.get_upsert_self, Registry.get_upsert]
    split <;> rfl
  · intro v z
    simp only [hstored, faultMarker, sensorFault, switchTo, sendAlarmNow,
      Registry.get_upsert_self, Registry.mem_upsert, hsensor, false_and, and_false, or_false,
      Option.some.injEq, Prod.mk.injEq]
    constructor
    · rintro (hmem | ⟨-, htype, -⟩)
      · exact Or.inl hmem
      · exact absurd htype DeviceType.sensor_ne_luminaire
    · rintro (hmem | ⟨st, ⟨-, rfl⟩, htype, -⟩)
      · exact Or.inl hmem
      · exact absurd htype DeviceType.sensor_ne_luminaire
  · simp only [faultMarker, sensorFault, switchTo, sendAlarmNow, Registry.get_upsert_self]
  · simp only [hfault, faultMarker, sensorFault, switchTo, sendAlarmNow,
      Registry.get_upsert_self]
  · simp only [hfault, faultMarker, sensorFault, switchTo, sendAlarmNow,
      Registry.get_upsert_self]
    exact ⟨_, rfl, rfl⟩

/-- Other telemetry stores the sensor and may issue commands. -/
theorem stores_receive_plain {bytes beyond : Bytes} {tel : Telemetry}
    (hparse : parseTelemetry bytes beyond = some tel) (hmarker : tel.motion ≠ 254) :
    Stores r (.datagram bytes beyond clock) (receive cfg clock r tel) := by
  have hfault : Event.faultReport (.datagram bytes beyond clock) = none := by
    simp only [Event.faultReport, hparse, if_neg hmarker]
  have hstored : r.stored (.datagram bytes beyond clock) =
      some (tel.uri, telemetryState tel clock.nowMs (r.reg.get tel.uri)) := by
    simp only [stored, hparse, Option.map_some, if_neg hmarker]
  have hreceive : ∃ t, receive cfg clock r tel = t ∧
      t.reg = r.reg.upsert tel.uri (telemetryState tel clock.nowMs (r.reg.get tel.uri)) ∧
      t.fsm = r.fsm ∧ t.activeLost = r.activeLost ∧ t.alarms = r.alarms := by
    refine ⟨_, rfl, ?_⟩
    unfold receive
    simp only [if_neg hmarker]
    split
    · exact motionEdge_records tel
    · exact ⟨rfl, rfl, rfl, rfl⟩
  obtain ⟨t, rfl, hreg, hfsm, hlost, halarms⟩ := hreceive
  refine ⟨?_, ?_, hlost, by rw [hfault]; exact hfsm, by rw [hfault]; exact halarms⟩
  · intro v
    rw [hreg, hstored, Registry.get_upsert]
  · intro v z
    rw [hreg, hstored, Registry.mem_upsert]
    grind

/-- Every handler but the timer stores at most one state. -/
theorem stores_step (h : step cfg r e = some t) (htick : ¬e.IsTick) : Stores r e t := by
  cases e with
  | frame k body clock =>
    simp only [step] at h
    split at h
    · cases h
    · cases h
      exact stores_handleFrame k body
  | datagram bytes beyond clock =>
    simp only [step] at h
    split at h
    · next tel hparse =>
      cases h
      by_cases hmarker : tel.motion = 254
      · exact stores_receive_marker hparse hmarker
      · exact stores_receive_plain hparse hmarker
    · next hparse =>
      cases h
      refine .of_unchanged ?_ ?_ (.refl r) <;> simp only [stored, Event.faultReport, hparse]
      rfl
  | tick clock => exact absurd trivial htick
  | posted k =>
    obtain ⟨q, -, rfl⟩ := Option.map_eq_some_iff.mp h
    exact .of_unchanged rfl rfl (.of_sessions r ..)
  | writeDone k i ok =>
    obtain ⟨s, -, rfl⟩ := Option.map_eq_some_iff.mp h
    refine .of_unchanged rfl rfl ?_
    cases ok with
    | true => exact .of_sessions r ..
    | false =>
      exact CommandsOnly.trans (b := r.setSession k s) (.of_sessions r ..)
        (commandsOnly_onClose k)
  | close k =>
    simp only [step] at h
    split at h
    · cases h
    · cases h
      exact .of_unchanged rfl rfl (commandsOnly_onClose k)
  | expire k =>
    simp only [step] at h
    split at h
    · cases h
      exact .of_unchanged rfl rfl (.of_sessions r ..)
    · cases h

/-- The registry shows a fault of the device. -/
def Faulty (r : Region) (uri : Bytes) : Prop := ∃ st, r.reg.get uri = some st ∧ st.fault = true

theorem faulty_iff : r.Faulty uri ↔ ((r.reg.get uri).elim false fun st => st.fault) = true := by
  unfold Faulty
  cases r.reg.get uri <;> simp

/-- A fault report sets a fault and a registration clears it. -/
theorem Stores.faulty_iff (h : Stores r e t) :
    t.Faulty v ↔ e.faultReport.map Prod.fst = some v ∨
      e.registered ≠ some v ∧ r.Faulty v := by
  by_cases hstored : ∃ st, r.stored e = some (v, st)
  · obtain ⟨st, hstored⟩ := hstored
    have hfault := fault_of_stored hstored
    rw [Region.faulty_iff, Region.faulty_iff, h.get_stored hstored]
    simp only [Option.elim_some, hfault]
    split
    · next hreport => simp only [hreport, true_or]
    split
    · next hreport hregistered => simp [hreport, hregistered]
    · next hreport hregistered => simp [hreport, hregistered]
  · have hother := not_exists.mp hstored
    have hreport : e.faultReport.map Prod.fst ≠ some v := by
      intro hreport
      obtain ⟨⟨u, label⟩, heq, rfl⟩ := Option.map_eq_some_iff.mp hreport
      exact hstored (stored_of_faultReport heq)
    have hregistered : e.registered ≠ some v := fun heq => hstored (stored_of_registered heq)
    simp only [Faulty, h.get_other hother, hreport, hregistered, false_or, ne_eq,
      not_false_eq_true, true_and]

end Region

end SmartLighting
