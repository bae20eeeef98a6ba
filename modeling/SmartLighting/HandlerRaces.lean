import SmartLighting.SessionSteps

/-!
# Races of a status report and a fault report

The server runs its handlers on several threads, and the registry's mutex is
released between the `get` and the `upsert` of a handler. Two sessions that
report about one device may overlap there, and the handler that writes last then
undoes what the other has written.
-/

namespace SmartLighting

open Transition

/-- The two handlers. -/
inductive Handler
  | status | fault
  deriving DecidableEq

/-- A status report and a fault report about one device, each received by its
own session and handled at its own time. -/
structure Race where
  /-- The region. -/
  regionId : UInt32
  /-- The registry before both handlers. -/
  reg : Registry
  /-- The session that received the status report. -/
  statusSession : DeviceSession
  /-- The status report. -/
  report : StatusReport
  /-- The time at which the status report is handled. -/
  statusClock : Clock
  /-- The session that received the fault report. -/
  faultSession : DeviceSession
  /-- The fault report. -/
  faultReport : FaultReport
  /-- The time at which the fault report is handled. -/
  faultClock : Clock
  /-- The reports are about the same device. -/
  sameUri : faultReport.uri = report.uri

namespace Race

variable {x : Race} {schedule : List Handler} {c : Program.Threads Registry Handler Outcome}

/-- The program of each handler. -/
def program (x : Race) : Handler → Program Registry Outcome
  | .status => x.statusSession.handleStatus x.regionId x.report x.statusClock
  | .fault => x.faultSession.handleFault x.regionId x.faultReport x.faultClock

/-- Both handlers, before their first registry call. -/
def threads (x : Race) : Program.Threads Registry Handler Outcome := ⟨x.reg, x.program⟩

/-- The registry after the two handlers have run one after the other. -/
def inOrder (x : Race) (first second : Handler) : Registry :=
  ((x.program second).exec ((x.program first).exec x.reg).2).2

/-- A registry shows the device as one of the two orders leaves it. -/
def Agrees (x : Race) (reg : Registry) : Prop :=
  reg.get x.report.uri = (x.inOrder .status .fault).get x.report.uri ∨
    reg.get x.report.uri = (x.inOrder .fault .status).get x.report.uri

/-- What the registry shows of the lamp; zeros for an unknown device. -/
def shown (x : Race) : UInt8 × UInt8 × UInt32 :=
  (x.reg.get x.report.uri).elim (0, 0, 0) fun st => (st.on, st.intensity, st.powerMw)

/-- The status report is dropped: the device is unknown and the session is not its own. -/
def Dropped (x : Race) : Prop :=
  x.reg.get x.report.uri = none ∧ (x.statusSession.registered = false ∨
    x.statusSession.uri = [] ∨ x.report.uri ≠ x.statusSession.uri)

/-- The schedules on which nothing is lost. Overlapping handlers are harmless
only where the handler that writes last has nothing to undo. -/
def Harmless (x : Race) (schedule : List Handler) : Prop :=
  ¬Program.Overlaps .status .fault schedule ∨ x.Dropped ∨
    (schedule.getLast? = some .status ∧
      ∃ st, x.reg.get x.report.uri = some st ∧ st.fault = true) ∨
    (schedule.getLast? = some .fault ∧
      x.shown = (x.report.on, x.report.intensity, x.report.powerMw) ∧
      (x.reg.get x.report.uri ≠ none ∨
        x.statusSession.sessionType = x.faultSession.faultType x.faultReport none ∨
        (x.report.zoneId = x.faultReport.zoneId ∧ x.statusClock.nowMs = x.faultClock.nowMs)))

/-- The update of the status handler. -/
def statusUpdate (x : Race) (reg : Registry) : Option (Registry → Registry) :=
  (x.statusSession.statusState x.report x.statusClock (reg.get x.report.uri)).map
    fun st reg => reg.upsert x.report.uri st

/-- The update of the fault handler. -/
def faultUpdate (x : Race) (reg : Registry) : Option (Registry → Registry) :=
  some fun reg' => reg'.upsert x.report.uri
    (x.faultSession.faultState x.faultReport x.faultClock (reg.get x.report.uri))

/-- The status handler is a read-modify-write of the registry. -/
theorem program_status (x : Race) :
    ∃ result, x.program .status = .readModifyWrite x.statusUpdate result := by
  refine ⟨fun reg => ((x.program .status).exec reg).1,
    congrArg (Program.atom id) (funext fun reg => ?_)⟩
  simp only [statusUpdate, program, DeviceSession.handleStatus, Program.exec_bind,
    Program.exec_read, Program.bind_done]
  cases x.statusSession.statusState x.report x.statusClock (reg.get x.report.uri) <;> rfl

/-- The fault handler is a read-modify-write of the registry. -/
theorem program_fault (x : Race) :
    ∃ result, x.program .fault = .readModifyWrite x.faultUpdate result := by
  refine ⟨fun reg => ((x.program .fault).exec reg).1,
    congrArg (Program.atom id) (funext fun reg => ?_)⟩
  simp only [faultUpdate, ← x.sameUri]
  rfl

/-- The registry after both handlers in order, as read-modify-writes. -/
theorem inOrder_eq (x : Race) :
    x.inOrder .status .fault =
        Program.applied x.faultUpdate (Program.applied x.statusUpdate x.reg) ∧
      x.inOrder .fault .status =
        Program.applied x.statusUpdate (Program.applied x.faultUpdate x.reg) := by
  obtain ⟨p, hstatus⟩ := x.program_status
  obtain ⟨q, hfault⟩ := x.program_fault
  simp only [inOrder, hstatus, hfault, Program.exec_readModifyWrite, and_self]

/-- A status report is dropped exactly when its handler has nothing to store. -/
theorem statusUpdate_eq_none : x.statusUpdate x.reg = none ↔ x.Dropped := by
  unfold statusUpdate DeviceSession.statusState Dropped
  cases x.reg.get x.report.uri with
  | none =>
    simp only [Option.map_eq_none_iff, true_and]
    split
    · next hforeign => simp [hforeign]
    · next hown => simp [hown]
  | some st => simp

/-- What both handlers store after they have read the registry. -/
theorem updates_eq_some {u v : Registry → Registry} (hu : x.statusUpdate x.reg = some u)
    (hv : x.faultUpdate x.reg = some v) :
    ∃ st, x.statusSession.statusState x.report x.statusClock (x.reg.get x.report.uri) = some st ∧
      (∀ reg, u reg = reg.upsert x.report.uri st) ∧
      ∀ reg, v reg = reg.upsert x.report.uri
        (x.faultSession.faultState x.faultReport x.faultClock (x.reg.get x.report.uri)) := by
  obtain ⟨st, hst, rfl⟩ := Option.map_eq_some_iff.mp hu
  obtain rfl := Option.some.inj hv
  exact ⟨st, hst, fun reg => rfl, fun reg => rfl⟩

/-- The two states that the orders leave, when the status report is not dropped. -/
theorem agrees_iff {st : DeviceState} {reg : Registry}
    (hst : x.statusSession.statusState x.report x.statusClock (x.reg.get x.report.uri) =
      some st) :
    x.Agrees reg ↔
      reg.get x.report.uri =
        some (x.faultSession.faultState x.faultReport x.faultClock (some st)) ∨
      reg.get x.report.uri = x.statusSession.statusState x.report x.statusClock
        (some (x.faultSession.faultState x.faultReport x.faultClock
          (x.reg.get x.report.uri))) := by
  have hfault : (x.inOrder .status .fault).get x.report.uri =
      some (x.faultSession.faultState x.faultReport x.faultClock (some st)) := by
    rw [x.inOrder_eq.1]
    simp only [Program.applied, statusUpdate, hst, Option.map_some, Option.elim_some, faultUpdate,
      Registry.get_upsert_self]
  have hstatus : (x.inOrder .fault .status).get x.report.uri =
      x.statusSession.statusState x.report x.statusClock
        (some (x.faultSession.faultState x.faultReport x.faultClock
          (x.reg.get x.report.uri))) := by
    rw [x.inOrder_eq.2]
    simp only [Program.applied, faultUpdate, Option.elim_some, statusUpdate,
      Registry.get_upsert_self]
    exact Registry.get_upsert_self
  rw [Agrees, hfault, hstatus]

/-- When the fault handler writes last, it may undo the values of the report. -/
theorem agrees_of_fault_last {u v : Registry → Registry} {reg : Registry}
    (hu : x.statusUpdate x.reg = some u) (hv : x.faultUpdate x.reg = some v)
    (hreg : reg = v (u x.reg)) :
    x.Agrees reg ↔ x.shown = (x.report.on, x.report.intensity, x.report.powerMw) ∧
      (x.reg.get x.report.uri ≠ none ∨
        x.statusSession.sessionType = x.faultSession.faultType x.faultReport none ∨
        (x.report.zoneId = x.faultReport.zoneId ∧
          x.statusClock.nowMs = x.faultClock.nowMs)) := by
  obtain ⟨st, hst, hu', hv'⟩ := updates_eq_some hu hv
  rw [agrees_iff hst, hreg, hv', Registry.get_upsert_self]
  obtain rfl := DeviceSession.eq_of_statusState hst
  unfold shown
  cases x.reg.get x.report.uri with
  | none =>
    simp [DeviceSession.statusState, DeviceSession.faultState, eq_comm]
    tauto
  | some old =>
    simp [DeviceSession.statusState, DeviceSession.faultState]
    tauto

/-- When the status handler writes last, it erases a fault that it has not seen. -/
theorem agrees_of_status_last {u v : Registry → Registry} {reg : Registry}
    (hu : x.statusUpdate x.reg = some u) (hv : x.faultUpdate x.reg = some v)
    (hreg : reg = u (v x.reg)) :
    x.Agrees reg ↔ ∃ st, x.reg.get x.report.uri = some st ∧ st.fault = true := by
  obtain ⟨st, hst, hu', hv'⟩ := updates_eq_some hu hv
  rw [agrees_iff hst, hreg, hu', Registry.get_upsert_self]
  obtain rfl := DeviceSession.eq_of_statusState hst
  cases x.reg.get x.report.uri with
  | none => simp [DeviceSession.statusState, DeviceSession.faultState]
  | some old =>
    simp [DeviceSession.statusState, DeviceSession.faultState]
    tauto

/-- A finished interleaving leaves the device as one of the two orders does
exactly when its schedule is harmless. -/
theorem agrees_iff_harmless (x : Race) (schedule : List Handler)
    (c : Program.Threads Registry Handler Outcome)
    (hrun : run Program.Threads.step x.threads schedule = some c) (hfinished : c.Finished) :
    x.Agrees c.store ↔ x.Harmless schedule := by
  obtain ⟨p, hstatus⟩ := x.program_status
  obtain ⟨q, hfault⟩ := x.program_fault
  have hall : ∀ h : Handler, h = .status ∨ h = .fault := by
    intro h
    cases h with
    | status => exact Or.inl rfl
    | fault => exact Or.inr rfl
  have hne : ∀ st, x.faultUpdate st ≠ none := fun st => nofun
  rcases Program.readModifyWrite_race (by decide) hall hstatus hfault hrun hfinished with
    ⟨hcause, hstore⟩ | ⟨hoverlaps, u, v, hu, hv, hlast⟩
  · refine iff_of_true ?_ ?_
    · unfold Agrees
      rw [x.inOrder_eq.1, x.inOrder_eq.2]
      rcases hstore with hstore | hstore
      · exact Or.inl (by rw [hstore]; rfl)
      · exact Or.inr (by rw [hstore]; rfl)
    · rcases hcause with hserial | hdropped | hnone
      · exact Or.inl hserial
      · exact Or.inr (Or.inl (statusUpdate_eq_none.mp hdropped))
      · exact absurd hnone (hne _)
  · have hkept : ¬x.Dropped := by
      rw [← statusUpdate_eq_none]
      intro hnone
      change x.statusUpdate x.reg = some u at hu
      rw [hnone] at hu
      cases hu
    unfold Harmless
    rcases hlast with ⟨hlast, hstore⟩ | ⟨hlast, hstore⟩
    · rw [agrees_of_status_last hu hv hstore]
      simp [hoverlaps, hkept, hlast]
    · rw [agrees_of_fault_last hu hv hstore]
      simp [hoverlaps, hkept, hlast]

/-- A lamp that was registered over one session reports a fault over it, while a
status report of the same name comes in over another. -/
def lostFault : Race where
  regionId := 1
  reg := Registry.empty.upsert (ascii "lamp") ⟨.luminaire, 1, 0, 0, 0, false, 1000⟩
  statusSession := .fresh
  report := ⟨ascii "lamp", 1, 1, 30, 94000⟩
  statusClock := ⟨2000, 2⟩
  faultSession := { DeviceSession.fresh with registered := true, uri := ascii "lamp" }
  faultReport := ⟨ascii "lamp", 1, 1, ascii "fault_detected"⟩
  faultClock := ⟨2001, 2⟩
  sameUri := rfl

/-- The status handler reads before and writes after the fault handler. -/
def faultBetween : List Handler := [.status, .fault, .fault, .status]

private theorem finished_faultBetween {c : Program.Threads Registry Handler Outcome}
    (hrun : run Program.Threads.step lostFault.threads faultBetween = some c) : c.Finished := by
  obtain rfl := Option.some.inj hrun
  intro i
  cases i with
  | status => exact ⟨_, rfl⟩
  | fault => exact ⟨_, rfl⟩

/-- The law of the exact theorem on a schedule that loses the fault. -/
theorem agrees_iff_harmless_lostFault :
    ∃ c, run Program.Threads.step lostFault.threads faultBetween = some c ∧ c.Finished ∧
      (lostFault.Agrees c.store ↔ lostFault.Harmless faultBetween) :=
  ⟨_, rfl, finished_faultBetween rfl,
    agrees_iff_harmless lostFault faultBetween _ rfl (finished_faultBetween rfl)⟩

/-- The fault between the two calls of the status handler is erased. -/
theorem not_agrees_lostFault :
    ∃ c, run Program.Threads.step lostFault.threads faultBetween = some c ∧ c.Finished ∧
      ¬lostFault.Agrees c.store := by
  refine ⟨_, rfl, finished_faultBetween rfl, ?_⟩
  unfold Agrees
  decide

end Race

end SmartLighting
