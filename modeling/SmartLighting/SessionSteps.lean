import SmartLighting.DeviceSession
import SmartLighting.Messages

/-!
# What one frame does to the registry

A body is first decoded to at most one message; each message then stores the
state of at most one device. The lemmas below give, for each handler run alone,
the registry it leaves and the calls it makes.
-/

namespace SmartLighting

open Transition

namespace DeviceSession

variable {regionId : UInt32} {s : DeviceSession} {body : Bytes} {clock : Clock} {reg : Registry}

/-- `on_message` dispatches on the decoded message. -/
theorem onMessage_eq :
    s.onMessage regionId body clock =
      match DeviceMessage.ofBody body with
      | some (.register req) => s.handleRegister req clock
      | some (.status report) => s.handleStatus regionId report clock
      | some (.fault report) => s.handleFault regionId report clock
      | none => return ⟨s, [], none, none⟩ := by
  cases body with
  | nil => rfl
  | cons code p =>
    simp only [onMessage, DeviceMessage.ofBody]
    split
    · cases Reader.decode decodeRegisterReq p <;> rfl
    split
    · cases Reader.decode decodeStatusReport p <;> rfl
    split
    · cases Reader.decode decodeFaultReport p <;> rfl
    · rfl

/-- A registration is accepted when it names a device and a zone. -/
def Accepts (req : RegisterReq) : Prop := req.uri ≠ [] ∧ req.zoneId ≠ 0

instance (req : RegisterReq) : Decidable (Accepts req) := inferInstanceAs (Decidable (_ ∧ _))

/-- The state that an accepted registration stores. -/
def registerState (req : RegisterReq) (clock : Clock) : DeviceState :=
  ⟨req.type, req.zoneId, 0, 0, 0, false, clock.nowMs⟩

/-- A refused registration only sends its answer. -/
theorem exec_handleRegister_refused {req : RegisterReq} (h : ¬Accepts req) :
    (s.handleRegister req clock).exec reg =
      (⟨s.queueSend .registerNack [], [], none, none⟩, reg) := by
  have hrefused : req.uri = [] ∨ req.zoneId = 0 := by
    by_contra hne
    rw [not_or] at hne
    exact h hne
  rw [handleRegister, if_pos hrefused, Program.exec_pure]

/-- The session after an accepted registration. -/
def registeredAs (s : DeviceSession) (req : RegisterReq) (clock : Clock) : DeviceSession :=
  { s with registered := true, sessionType := req.type, uri := req.uri }.queueSend .registerAck
    (encodeRegisterAck ⟨clock.unix⟩)

/-- An accepted registration stores a fresh state and indexes a lamp. -/
theorem exec_handleRegister {req : RegisterReq} (h : Accepts req) :
    (s.handleRegister req clock).exec reg =
      (⟨s.registeredAs req clock, [], none, some req.uri⟩,
        if req.type = .luminaire then
          (reg.upsert req.uri (registerState req clock)).registerLamp req.uri req.zoneId
        else reg.upsert req.uri (registerState req clock)) := by
  have haccepted : ¬(req.uri = [] ∨ req.zoneId = 0) := by
    rw [not_or]
    exact h
  rw [handleRegister, if_neg haccepted]
  by_cases htype : req.type = .luminaire
  · simp [htype, registerState, registeredAs]
  · simp [htype, registerState, registeredAs]

/-- A status report stores its values in the state that was known, or in a fresh one. -/
theorem eq_of_statusState {report : StatusReport} {got : Option DeviceState} {st : DeviceState}
    (h : s.statusState report clock got = some st) :
    st = { got.getD ⟨s.sessionType, report.zoneId, 0, 0, 0, false, 0⟩ with
      zoneId := report.zoneId
      on := report.on
      intensity := report.intensity
      powerMw := report.powerMw
      lastSeenMs := clock.nowMs } := by
  unfold statusState at h
  cases got with
  | some old =>
    cases h
    rfl
  | none =>
    dsimp only at h
    split at h
    · cases h
    · cases h
      rfl

/-- A status report stores a device that was just heard, with the fault that was known. -/
theorem statusState_eq_some {report : StatusReport} {got : Option DeviceState} {st : DeviceState}
    (h : s.statusState report clock got = some st) :
    st.lastSeenMs = clock.nowMs ∧ st.fault = got.elim false fun old => old.fault := by
  obtain rfl := eq_of_statusState h
  cases got with
  | some old => exact ⟨rfl, rfl⟩
  | none => exact ⟨rfl, rfl⟩

/-- A status report stores the state computed from what `get` returned. -/
theorem exec_handleStatus_reg {report : StatusReport} :
    ((s.handleStatus regionId report clock).exec reg).2 =
      match s.statusState report clock (reg.get report.uri) with
      | none => reg
      | some st => reg.upsert report.uri st := by
  rw [handleStatus, Program.exec_bind, Program.exec_read]
  cases s.statusState report clock (reg.get report.uri) <;> simp

/-- A status report leaves the session as it was and raises no fault. -/
theorem exec_handleStatus_out {report : StatusReport} :
    ((s.handleStatus regionId report clock).exec reg).1.session = s ∧
      ((s.handleStatus regionId report clock).exec reg).1.fault = none ∧
      ((s.handleStatus regionId report clock).exec reg).1.bound = none := by
  rw [handleStatus, Program.exec_bind, Program.exec_read]
  cases s.statusState report clock (reg.get report.uri) <;> simp

/-- A fault report latches the fault and calls the fault callback. -/
theorem exec_handleFault {report : FaultReport} :
    (s.handleFault regionId report clock).exec reg =
      (⟨s.queueSend .faultAck [],
        [.fault report.uri regionId report.zoneId report.code report.text],
        some (report, s.faultType report (reg.get report.uri)), none⟩,
      reg.upsert report.uri (s.faultState report clock (reg.get report.uri))) := by
  simp [handleFault]

/-- The device and the state that the message in a body makes its handler store. -/
def stored (s : DeviceSession) (body : Bytes) (clock : Clock) (reg : Registry) :
    Option (Bytes × DeviceState) :=
  match DeviceMessage.ofBody body with
  | some (.register req) => if Accepts req then some (req.uri, registerState req clock) else none
  | some (.status report) =>
    (s.statusState report clock (reg.get report.uri)).map fun st => (report.uri, st)
  | some (.fault report) =>
    some (report.uri, s.faultState report clock (reg.get report.uri))
  | none => none

/-- Whatever is stored, it is an accepted registration, a status report that is not dropped or a
fault report that stores it. -/
theorem stored_cases {uri : Bytes} {st : DeviceState} {body : Bytes}
    (h : s.stored body clock reg = some (uri, st)) :
    (∃ req, DeviceMessage.ofBody body = some (.register req) ∧ Accepts req ∧ uri = req.uri ∧
        st = registerState req clock) ∨
      (∃ report, DeviceMessage.ofBody body = some (.status report) ∧ uri = report.uri ∧
        s.statusState report clock (reg.get report.uri) = some st) ∨
      ∃ report, DeviceMessage.ofBody body = some (.fault report) ∧ uri = report.uri ∧
        st = s.faultState report clock (reg.get report.uri) := by
  unfold stored at h
  split at h
  · next req hm =>
    obtain ⟨haccepts, heq⟩ := Option.ite_none_right_eq_some.mp h
    cases heq
    exact Or.inl ⟨req, hm, haccepts, rfl, rfl⟩
  · next report hm =>
    obtain ⟨st', hst, heq⟩ := Option.map_eq_some_iff.mp h
    cases heq
    exact Or.inr (Or.inl ⟨report, hm, rfl, hst⟩)
  · next report hm =>
    cases h
    exact Or.inr (Or.inr ⟨report, hm, rfl, rfl⟩)
  · cases h

/-- A frame changes the state of at most the device it stores. -/
theorem get_exec_onMessage (regionId : UInt32) (s : DeviceSession) (body : Bytes) (clock : Clock)
    (reg : Registry) (v : Bytes) :
    ((s.onMessage regionId body clock).exec reg).2.get v =
      match s.stored body clock reg with
      | some (uri, st) => if v = uri then some st else reg.get v
      | none => reg.get v := by
  rw [onMessage_eq, stored]
  cases DeviceMessage.ofBody body with
  | none => simp
  | some m =>
    cases m with
    | register req =>
      by_cases h : Accepts req
      · simp only [exec_handleRegister h, if_pos h]
        split <;> simp only [Registry.get_registerLamp, Registry.get_upsert]
      · simp only [exec_handleRegister_refused h, if_neg h]
    | status report =>
      simp only [exec_handleStatus_reg]
      cases s.statusState report clock (reg.get report.uri) with
      | none => rfl
      | some st => simp only [Registry.get_upsert, Option.map_some]
    | fault report => simp only [exec_handleFault, Registry.get_upsert]

/-- A frame adds to the zone lists at most the device it stores, and this only as
a lamp of the zone stored with it. -/
theorem mem_lamps_exec_onMessage (regionId : UInt32) (s : DeviceSession) (body : Bytes)
    (clock : Clock) (reg : Registry) (v : Bytes) (z : UInt32) :
    v ∈ ((s.onMessage regionId body clock).exec reg).2.getLampsInZone z ↔
      v ∈ reg.getLampsInZone z ∨ ∃ st, s.stored body clock reg = some (v, st) ∧
        st.type = .luminaire ∧ st.zoneId ≠ 0 ∧ st.zoneId = z := by
  rw [onMessage_eq, stored]
  cases DeviceMessage.ofBody body with
  | none => simp
  | some m =>
    cases m with
    | register req =>
      by_cases h : Accepts req
      · simp only [exec_handleRegister h, if_pos h, Option.some.injEq, Prod.mk.injEq,
          ← eq_comm (a := v)]
        split
        · next htype =>
          -- `register_lamp` repeats what `upsert` has already done.
          rw [Registry.mem_registerLamp, Registry.mem_upsert]
          have hzone := h.2
          simp only [registerState, htype]
          grind
        · next htype =>
          rw [Registry.mem_upsert]
          simp only [registerState]
          grind
      · simp [exec_handleRegister_refused h, if_neg h]
    | status report =>
      simp only [exec_handleStatus_reg]
      cases s.statusState report clock (reg.get report.uri) with
      | none => simp
      | some st =>
        rw [Registry.mem_upsert]
        grind
    | fault report =>
      simp only [exec_handleFault]
      rw [Registry.mem_upsert]
      grind

/-- The session after a frame, the fault callback it calls and the name it binds. -/
private theorem outcome_exec_onMessage (regionId : UInt32) (s : DeviceSession) (body : Bytes)
    (clock : Clock) (reg : Registry) :
    ((s.onMessage regionId body clock).exec reg).1.session =
        (match DeviceMessage.ofBody body with
        | some (.register req) =>
          if Accepts req then s.registeredAs req clock else s.queueSend .registerNack []
        | some (.fault _) => s.queueSend .faultAck []
        | _ => s) ∧
      ((s.onMessage regionId body clock).exec reg).1.fault =
        (match DeviceMessage.ofBody body with
        | some (.fault report) => some (report, s.faultType report (reg.get report.uri))
        | _ => none) ∧
      ((s.onMessage regionId body clock).exec reg).1.bound =
        (match DeviceMessage.ofBody body with
        | some (.register req) => if Accepts req then some req.uri else none
        | _ => none) := by
  rw [onMessage_eq]
  cases DeviceMessage.ofBody body with
  | none => exact ⟨rfl, rfl, rfl⟩
  | some m =>
    cases m with
    | register req =>
      by_cases h : Accepts req
      · simp only [exec_handleRegister h, if_pos h, and_self]
      · simp only [exec_handleRegister_refused h, if_neg h, and_self]
    | status report => exact exec_handleStatus_out
    | fault report => simp only [exec_handleFault, and_self]

/-- The fault callback is called for a fault report and for no other message. -/
theorem fault_exec_onMessage (regionId : UInt32) (s : DeviceSession) (body : Bytes)
    (clock : Clock) (reg : Registry) :
    ((s.onMessage regionId body clock).exec reg).1.fault =
      match DeviceMessage.ofBody body with
      | some (.fault report) => some (report, s.faultType report (reg.get report.uri))
      | _ => none :=
  (outcome_exec_onMessage regionId s body clock reg).2.1

/-- The session after a frame. -/
theorem session_exec_onMessage (regionId : UInt32) (s : DeviceSession) (body : Bytes)
    (clock : Clock) (reg : Registry) :
    ((s.onMessage regionId body clock).exec reg).1.session =
      match DeviceMessage.ofBody body with
      | some (.register req) =>
        if Accepts req then s.registeredAs req clock else s.queueSend .registerNack []
      | some (.fault _) => s.queueSend .faultAck []
      | _ => s :=
  (outcome_exec_onMessage regionId s body clock reg).1

/-- The name of an accepted registration is bound to the session. -/
theorem bound_exec_onMessage (regionId : UInt32) (s : DeviceSession) (body : Bytes)
    (clock : Clock) (reg : Registry) :
    ((s.onMessage regionId body clock).exec reg).1.bound =
      match DeviceMessage.ofBody body with
      | some (.register req) => if Accepts req then some req.uri else none
      | _ => none :=
  (outcome_exec_onMessage regionId s body clock reg).2.2

/-- A session takes the name that it is bound to, which is not empty. -/
theorem uri_exec_onMessage (regionId : UInt32) (s : DeviceSession) (body : Bytes)
    (clock : Clock) (reg : Registry) :
    ((s.onMessage regionId body clock).exec reg).1.session.uri =
        ((s.onMessage regionId body clock).exec reg).1.bound.getD s.uri ∧
      ((s.onMessage regionId body clock).exec reg).1.bound ≠ some [] := by
  rw [session_exec_onMessage, bound_exec_onMessage]
  cases DeviceMessage.ofBody body with
  | none => simp
  | some m =>
    cases m with
    | register req =>
      by_cases h : Accepts req
      · simp [h, registeredAs, queueSend, h.1]
      · simp [h, queueSend]
    | status report => simp
    | fault report => simp [queueSend]

/-- A session that has a name sends a command under it. -/
theorem sendCmd_of_named {cmd value : UInt8} (h : s.uri ≠ []) :
    s.sendCmd cmd value = (encodeCommand ⟨s.uri, cmd, value⟩).map (s.queueSend .cmd) := by
  rw [sendCmd, if_neg h]
  cases encodeCommand ⟨s.uri, cmd, value⟩ <;> rfl

/-- A session whose name fits a command sends it. -/
theorem sendCmd_of_fits (hnamed : s.uri ≠ []) (hfits : s.uri.length ≤ 65535) (cmd value : UInt8) :
    ∃ payload, encodeCommand ⟨s.uri, cmd, value⟩ = .ok payload ∧
      s.sendCmd cmd value = .ok (s.queueSend .cmd payload) := by
  obtain ⟨payload, hencode⟩ := encodeCommand_of_fits (c := ⟨s.uri, cmd, value⟩) hfits
  refine ⟨payload, hencode, ?_⟩
  rw [sendCmd_of_named hnamed, hencode]
  rfl

/-- A command is sent by a session that was registered. -/
theorem sendCmd_eq_ok {s' : DeviceSession} {cmd value : UInt8} (h : s.sendCmd cmd value = .ok s') :
    s' = s ∨ s.uri ≠ [] ∧ ∃ payload, s' = s.queueSend .cmd payload := by
  by_cases hnamed : s.uri = []
  · rw [sendCmd, if_pos hnamed] at h
    exact Or.inl (Except.ok.inj h).symm
  · rw [sendCmd_of_named hnamed] at h
    cases hpayload : encodeCommand ⟨s.uri, cmd, value⟩ with
    | error e =>
      rw [hpayload] at h
      cases h
    | ok payload =>
      rw [hpayload] at h
      exact Or.inr ⟨hnamed, payload, (Except.ok.inj h).symm⟩

end DeviceSession

end SmartLighting
