import SmartLighting.SessionSteps

/-!
# What a session can change

The handlers of a session take the name of the device from the message. They ask
for a registration only where the registry does not know the device, and a fault
report not even there. So a session that never registered a name can still change
the device of this name, but only by these two kinds of report.
-/

namespace SmartLighting

open DeviceSession Transition

/-- The device of a `devices` row or of a lamp status. -/
def DbCall.row : DbCall → Option Bytes
  | upsertDevice uri .. => some uri
  | lampStatus uri .. => some uri
  | fault .. => none

/-- A session, and all that it has changed outside of itself. -/
structure Served where
  /-- The session's members. -/
  session : DeviceSession
  /-- The device registry. -/
  reg : Registry
  /-- Calls to the database writer. -/
  db : List DbCall
  /-- Calls of the fault callback. -/
  faults : List (FaultReport × DeviceType)

namespace Served

/-- A session was accepted. -/
def accept (reg : Registry) : Served := ⟨.fresh, reg, [], []⟩

/-- A body is handled. -/
def receive (regionId : UInt32) (s : Served) (message : Bytes × Clock) : Served :=
  let (out, reg) := (s.session.onMessage regionId message.1 message.2).exec s.reg
  ⟨out.session, reg, s.db ++ out.db, s.faults ++ out.fault.toList⟩

/-- All bodies are handled. -/
def serve (regionId : UInt32) (s : Served) (messages : List (Bytes × Clock)) : Served :=
  messages.foldl (receive regionId) s

/-- A body registers the name. -/
def Registers (v : Bytes) (body : Bytes) : Prop :=
  ∃ req, DeviceMessage.ofBody body = some (.register req) ∧ Accepts req ∧ req.uri = v

/-- A body reports on the device: a fault report always does, a status report if the device was
known. -/
def Reports (reg : Registry) (v : Bytes) (body : Bytes) : Prop :=
  (∃ report, DeviceMessage.ofBody body = some (.fault report) ∧ report.uri = v) ∨
    (∃ report, DeviceMessage.ofBody body = some (.status report) ∧ report.uri = v) ∧
      (reg.get v).isSome

/-- The device is as it was before. -/
structure Untouched (reg : Registry) (v : Bytes) (t : Served) : Prop where
  /-- Its entry. -/
  get : t.reg.get v = reg.get v
  /-- Its place in the zone lists. -/
  lamps : ∀ z, v ∈ t.reg.getLampsInZone z ↔ v ∈ reg.getLampsInZone z
  /-- No row of it was written. -/
  db : ∀ c ∈ t.db, c.row ≠ some v
  /-- No fault of it was reported. -/
  faults : ∀ f ∈ t.faults, f.1.uri ≠ v

variable {regionId : UInt32} {reg : Registry} {s : Served} {v : Bytes} {body : Bytes}
  {clock : Clock} {messages : List (Bytes × Clock)}

/-- The rows that the handler of a status report writes are those of its device, and there are
some exactly when it stores a state. -/
theorem row_exec_handleStatus (session : DeviceSession) (report : StatusReport) :
    (∃ c ∈ ((session.handleStatus regionId report clock).exec reg).1.db, c.row = some v) ↔
      report.uri = v ∧ (session.statusState report clock (reg.get report.uri)).isSome := by
  rw [handleStatus, Program.exec_bind, Program.exec_read]
  cases session.statusState report clock (reg.get report.uri) with
  | none => simp
  | some st => by_cases htype : st.type = .luminaire <;> simp [htype, DbCall.row]

/-- Rows are written by status reports only. -/
theorem row_exec_onMessage (regionId : UInt32) (session : DeviceSession) :
    (∃ c ∈ ((session.onMessage regionId body clock).exec reg).1.db, c.row = some v) ↔
      ∃ report, DeviceMessage.ofBody body = some (.status report) ∧ report.uri = v ∧
        (session.statusState report clock (reg.get report.uri)).isSome := by
  rw [onMessage_eq]
  cases DeviceMessage.ofBody body with
  | none => simp
  | some m =>
    cases m with
    | register req =>
      by_cases h : Accepts req
      · simp [exec_handleRegister h]
      · simp [exec_handleRegister_refused h]
    | status report => simp [row_exec_handleStatus]
    | fault report => simp [exec_handleFault, DbCall.row]

/-- The session does not have the name. -/
def Foreign (v : Bytes) (session : DeviceSession) : Prop := session.uri ≠ [] → session.uri ≠ v

/-- A body that does not register the name leaves the session without it. -/
theorem foreign_receive (hforeign : Foreign v s.session) (hbody : ¬Registers v body) :
    Foreign v (s.receive regionId (body, clock)).session := by
  have hsession : (s.receive regionId (body, clock)).session = _ :=
    session_exec_onMessage regionId s.session body clock s.reg
  rw [hsession]
  split
  · next req hm =>
    split
    · next haccepts => exact fun _ hsame => hbody ⟨req, hm, haccepts, hsame⟩
    · exact hforeign
  · exact hforeign
  · exact hforeign

/-- A session without the name stores a state of the device only for a report on it. -/
theorem reports_of_stored {st : DeviceState} (hforeign : Foreign v s.session)
    (hbody : ¬Registers v body)
    (h : s.session.stored body clock s.reg = some (v, st)) : Reports s.reg v body := by
  rcases stored_cases h with ⟨req, hm, haccepts, rfl, -⟩ | ⟨report, hm, rfl, hst⟩ |
    ⟨report, hm, rfl, -⟩
  · exact absurd ⟨req, hm, haccepts, rfl⟩ hbody
  · refine Or.inr ⟨⟨report, hm, rfl⟩, ?_⟩
    cases hget : s.reg.get report.uri with
    | some old => rfl
    | none =>
      rw [hget, statusState] at hst
      obtain ⟨hown, -⟩ := Option.ite_none_left_eq_some.mp hst
      simp only [not_or, ne_eq, not_not] at hown
      exact absurd hown.2.2.symm (hforeign hown.2.1)
  · exact Or.inl ⟨report, hm, rfl⟩

/-- A body that neither registers the name nor reports on the device leaves it as it is. -/
theorem Untouched.receive (h : Untouched reg v s) (hforeign : Foreign v s.session)
    (hregisters : ¬Registers v body) (hreports : ¬Reports reg v body) :
    Untouched reg v (s.receive regionId (body, clock)) := by
  have hstill : ¬Reports s.reg v body := by
    unfold Reports at hreports ⊢
    rw [h.get]
    exact hreports
  have hstored : ∀ st, s.session.stored body clock s.reg ≠ some (v, st) := fun st hst =>
    hstill (reports_of_stored hforeign hregisters hst)
  constructor
  · have hget : (s.receive regionId (body, clock)).reg.get v = _ :=
      get_exec_onMessage regionId s.session body clock s.reg v
    rw [hget, ← h.get]
    split
    · next uri st heq =>
      have hne : v ≠ uri := by
        rintro rfl
        exact hstored st heq
      rw [if_neg hne]
    · rfl
  · intro z
    rw [← h.lamps]
    refine (mem_lamps_exec_onMessage regionId s.session body clock s.reg v z).trans ?_
    refine or_iff_left ?_
    rintro ⟨st, heq, -⟩
    exact hstored st heq
  · intro c hc hrow
    rcases List.mem_append.mp hc with hold | hnew
    · exact h.db c hold hrow
    · obtain ⟨report, hm, rfl, hst⟩ := (row_exec_onMessage regionId s.session).mp ⟨c, hnew, hrow⟩
      obtain ⟨st, hst⟩ := Option.isSome_iff_exists.mp hst
      refine hstored st ?_
      simp only [stored, hm, hst, Option.map_some]
  · intro f hf
    rcases List.mem_append.mp hf with hold | hnew
    · exact h.faults f hold
    · have hfault := fault_exec_onMessage regionId s.session body clock s.reg
      rw [Option.mem_toList] at hnew
      rw [hnew] at hfault
      split at hfault
      · next report hm =>
        cases hfault
        exact fun hsame => hreports (Or.inl ⟨report, hm, hsame⟩)
      · cases hfault

/-- Bodies that neither register the name nor report on the device leave it as it is. -/
theorem Untouched.serve (h : Untouched reg v s) (hforeign : Foreign v s.session)
    (hregisters : ∀ m ∈ messages, ¬Registers v m.1) (hreports : ∀ m ∈ messages, ¬Reports reg v m.1) :
    Untouched reg v (s.serve regionId messages) := by
  induction messages generalizing s with
  | nil => exact h
  | cons m messages ih =>
    obtain ⟨body, clock⟩ := m
    obtain ⟨hregisters, hregisters'⟩ := List.forall_mem_cons.mp hregisters
    obtain ⟨hreports, hreports'⟩ := List.forall_mem_cons.mp hreports
    exact ih (h.receive hforeign hregisters hreports) (foreign_receive hforeign hregisters)
      hregisters' hreports'

/-- A session only adds to what it has written and reported, and forgets no device. -/
structure Grows (s t : Served) : Prop where
  /-- Rows stay. -/
  db : s.db ⊆ t.db
  /-- Reported faults stay. -/
  faults : s.faults ⊆ t.faults
  /-- Known devices stay known. -/
  known : ∀ v, (s.reg.get v).isSome → (t.reg.get v).isSome

theorem grows_serve (regionId : UInt32) (s : Served) (messages : List (Bytes × Clock)) :
    Grows s (s.serve regionId messages) := by
  induction messages generalizing s with
  | nil => exact ⟨List.Subset.refl _, List.Subset.refl _, fun _ h => h⟩
  | cons m messages ih =>
    have hrest := ih (s.receive regionId m)
    constructor
    · exact List.Subset.trans (List.subset_append_left ..) hrest.db
    · exact List.Subset.trans (List.subset_append_left ..) hrest.faults
    · intro v hv
      apply hrest.known
      have hget : (s.receive regionId m).reg.get v = _ :=
        get_exec_onMessage regionId s.session m.1 m.2 s.reg v
      rw [hget]
      split
      · split
        · rfl
        · exact hv
      · exact hv

/-- A report on the device shows in the rows or in the reported faults. -/
theorem not_untouched_receive (hknown : (reg.get v).isSome → (s.reg.get v).isSome)
    (hreports : Reports reg v body) :
    (∃ c ∈ (s.receive regionId (body, clock)).db, c.row = some v) ∨
      ∃ f ∈ (s.receive regionId (body, clock)).faults, f.1.uri = v := by
  rcases hreports with ⟨report, hm, rfl⟩ | ⟨⟨report, hm, rfl⟩, hold⟩
  · right
    have hfault := fault_exec_onMessage regionId s.session body clock s.reg
    rw [hm] at hfault
    refine ⟨_, List.mem_append_right _ (Option.mem_toList.mpr hfault), rfl⟩
  · left
    obtain ⟨old, hget⟩ := Option.isSome_iff_exists.mp (hknown hold)
    have hst : (s.session.statusState report clock (s.reg.get report.uri)).isSome := by
      rw [hget]
      rfl
    obtain ⟨c, hc, hrow⟩ :=
      (row_exec_onMessage regionId s.session).mpr ⟨report, hm, rfl, hst⟩
    exact ⟨c, List.mem_append_right _ hc, hrow⟩

/-- Whatever the registry was, a device that the session did not register stays untouched exactly
when no fault report on it is handled, and no status report if the device was known. -/
theorem untouched_serve_iff (regionId : UInt32) (reg : Registry) (v : Bytes)
    (messages : List (Bytes × Clock)) (hregisters : ∀ m ∈ messages, ¬Registers v m.1) :
    Untouched reg v ((accept reg).serve regionId messages) ↔
      ∀ m ∈ messages, ¬Reports reg v m.1 := by
  constructor
  · rintro huntouched ⟨body, clock⟩ hm hreports
    obtain ⟨before, after, rfl⟩ := List.append_of_mem hm
    have hserve : (accept reg).serve regionId (before ++ (body, clock) :: after) =
        (((accept reg).serve regionId before).receive regionId (body, clock)).serve regionId
          after := by
      simp only [serve, List.foldl_append, List.foldl_cons]
    rw [hserve] at huntouched
    have hbefore := grows_serve regionId (accept reg) before
    have hafter := grows_serve regionId
      (((accept reg).serve regionId before).receive regionId (body, clock)) after
    rcases not_untouched_receive (hbefore.known v) hreports with ⟨c, hc, hrow⟩ | ⟨f, hf, hsame⟩
    · exact huntouched.db c (hafter.db hc) hrow
    · exact huntouched.faults f (hafter.faults hf) hsame
  · intro hreports
    refine Untouched.serve ?_ ?_ hregisters hreports
    · constructor
      · rfl
      · exact fun z => Iff.rfl
      · exact List.forall_mem_nil _
      · exact List.forall_mem_nil _
    · intro hne
      exact absurd rfl hne

/-- A lamp in zone 1 that registered on another session. -/
def otherLamp : Registry :=
  Registry.empty.upsert (ascii "lamp") ⟨.luminaire, 1, 1, 60, 6000, false, 1000⟩

/-- A session registers a lamp of its own. -/
def ownLamp : List (Bytes × Clock) :=
  [((DeviceMessage.register ⟨.luminaire, ascii "own", 1⟩).body, ⟨2000, 2⟩)]

/-- The other lamp stays untouched. -/
theorem untouched_serve_iff_ownLamp :
    Untouched otherLamp (ascii "lamp") ((accept otherLamp).serve 7 ownLamp) := by
  have hbody : DeviceMessage.ofBody (DeviceMessage.register ⟨.luminaire, ascii "own", 1⟩).body =
      some (.register ⟨.luminaire, ascii "own", 1⟩) := by decide
  refine (untouched_serve_iff 7 otherLamp (ascii "lamp") ownLamp ?_).mpr ?_
  · intro m hm
    obtain rfl := List.mem_singleton.mp hm
    rintro ⟨req, hreq, -, hsame⟩
    rw [hbody] at hreq
    cases hreq
    exact absurd hsame (by decide)
  · intro m hm
    obtain rfl := List.mem_singleton.mp hm
    rintro (⟨report, hreport, -⟩ | ⟨⟨report, hreport, -⟩, -⟩)
    · rw [hbody] at hreport
      cases hreport
    · rw [hbody] at hreport
      cases hreport

/-- A session that registered nothing reports on the lamp. -/
def strangerReport : List (Bytes × Clock) :=
  [((DeviceMessage.status ⟨ascii "lamp", 2, 0, 0, 0⟩).body, ⟨2000, 2⟩)]

/-- The lamp then shows what the session reported. -/
theorem not_untouched_strangerReport :
    (∀ m ∈ strangerReport, ¬Registers (ascii "lamp") m.1) ∧
      ¬Untouched otherLamp (ascii "lamp") ((accept otherLamp).serve 7 strangerReport) := by
  have hbody : DeviceMessage.ofBody (DeviceMessage.status ⟨ascii "lamp", 2, 0, 0, 0⟩).body =
      some (.status ⟨ascii "lamp", 2, 0, 0, 0⟩) := by decide
  constructor
  · intro m hm
    obtain rfl := List.mem_singleton.mp hm
    rintro ⟨req, hreq, -⟩
    rw [hbody] at hreq
    cases hreq
  · intro huntouched
    exact absurd huntouched.get (by decide)

end Served

end SmartLighting
