import SmartLighting.AdminCli
import SmartLighting.Framing
import SmartLighting.RegionSteps

/-!
# The way of a device fault

A fault report passes through the session that receives it, the fault callback of
the region, the frame of an alarm, the central store and the snapshot. Its strings
are decoded from 16-bit lengths at the first step, so they fit every later one.
-/

namespace SmartLighting

open CentralServer CentralMessage

/-- The device of a report counts as a lamp: the registry says so, or else the session that
registered it; a device that neither of them knows counts as a lamp. -/
def Region.CountsAsLamp (r : Region) (k : ℕ) (report : FaultReport) : Prop :=
  match r.reg.get report.uri with
  | some st => st.type = .luminaire
  | none =>
    (r.sessions k).registered = true → (r.sessions k).uri ≠ [] →
      report.uri = (r.sessions k).uri → (r.sessions k).sessionType = .luminaire

variable {cfg : RegionConfig} {clock : Clock} {r : Region} {k : ℕ} {body : Bytes}
  {report : FaultReport} {a : AlarmUp}

/-- What the alarm of a fault report says. -/
structure AlarmFor (cfg : RegionConfig) (clock : Clock) (r : Region) (k : ℕ)
    (report : FaultReport) (a : AlarmUp) : Prop where
  /-- The region. -/
  regionId : a.regionId = cfg.regionId
  /-- The time. -/
  tsUnix : a.tsUnix = clock.unix
  /-- Type 1 stands for a lamp. -/
  deviceType : a.deviceType = 1 ↔ r.CountsAsLamp k report
  /-- The zone of the report. -/
  zoneId : a.zoneId = report.zoneId
  /-- The code of the report. -/
  code : a.code = report.code
  /-- The name in the report, byte for byte. -/
  uri : a.uri = report.uri
  /-- The text of the report, byte for byte. -/
  text : a.text = report.text

/-- The type that the handler resolves. -/
theorem faultType_eq_luminaire_iff :
    (r.sessions k).faultType report (r.reg.get report.uri) = .luminaire ↔
      r.CountsAsLamp k report := by
  unfold DeviceSession.faultType Region.CountsAsLamp
  cases r.reg.get report.uri with
  | some st => rfl
  | none =>
    dsimp only
    split
    · next hown =>
      constructor
      · intro htype _ _ _
        exact htype
      · intro h
        exact h hown.1 hown.2.1 hown.2.2
    · next hown =>
      refine iff_of_true rfl fun hregistered huri hsame => ?_
      exact absurd ⟨hregistered, huri, hsame⟩ hown

/-- A fault report raises one alarm, which says what the report says. -/
theorem alarms_handleFrame (cfg : RegionConfig) (clock : Clock) (r : Region) (k : ℕ)
    (hbody : DeviceMessage.ofBody body = some (.fault report)) :
    ∃ a, (Region.handleFrame cfg clock r k body).alarms = r.alarms ++ [a] ∧
      AlarmFor cfg clock r k report a := by
  have hfault := DeviceSession.fault_exec_onMessage cfg.regionId (r.sessions k) body clock r.reg
  rw [hbody] at hfault
  unfold Region.handleFrame
  generalize ((r.sessions k).onMessage cfg.regionId body clock).exec r.reg = result at hfault ⊢
  obtain ⟨out, reg⟩ := result
  dsimp only at hfault ⊢
  rw [hfault]
  refine ⟨_, rfl, rfl, rfl, ?_, rfl, rfl, rfl, rfl⟩
  rw [← faultType_eq_luminaire_iff]
  dsimp only
  split
  · next htype => exact iff_of_true rfl htype
  · next htype => exact iff_of_false (by decide) htype

/-- An alarm whose strings fit is sent in a frame that the central server accepts, and is
found in it. -/
theorem readFrame_alarm (h : a.uri.length ≤ 65535 ∧ a.text.length ≤ 65535) :
    ∃ payload, encodeAlarmUp a = .ok payload ∧
      (1 ≤ 1 + payload.length ∧ 1 + payload.length ≤ 1024 * 1024) ∧
      (∀ rest, readFrame (frame .alarmUp payload ++ rest) =
        some (MsgType.alarmUp.code :: payload, rest)) ∧
      CentralMessage.ofBody (MsgType.alarmUp.code :: payload) = some (.alarm a) := by
  obtain ⟨payload, hpayload⟩ : ∃ payload, encodeAlarmUp a = .ok payload :=
    ⟨_, encodeAlarmUp_eq_ok.mpr ⟨h.1, h.2, rfl⟩⟩
  have hlength : payload.length = 18 + a.uri.length + a.text.length := by
    obtain ⟨-, -, rfl⟩ := encodeAlarmUp_eq_ok.mp hpayload
    simp only [List.length_append, length_u32Bytes, length_strBytes, List.length_singleton]
    omega
  have hother : MsgType.alarmUp ≠ .regionSyncUp := by decide
  refine ⟨payload, hpayload, by omega, fun rest => readFrame_frame (by omega), ?_⟩
  simp only [CentralMessage.ofBody, if_neg hother, if_true,
    (decodeAlarmUp_exact hpayload).decode_eq]
  rfl

/-- An alarm stays in the store while fewer than `maxAlarms` others follow it. -/
theorem mem_alarms_run (before after : List (ℕ × Bytes)) (session : ℕ)
    (hbody : CentralMessage.ofBody body = some (.alarm a))
    (hafter : (alarmsOf (accepted after)).length < maxAlarms) :
    AlarmRecord.ofAlarm a ∈
      (start.run (before ++ (session, body) :: after)).store.alarms := by
  have halarms : alarmsOf (accepted (before ++ (session, body) :: after)) =
      alarmsOf (accepted before) ++ a :: alarmsOf (accepted after) := by
    rw [accepted_mid hbody, alarmsOf_append]
    rfl
  have hle : (alarmsOf (accepted before) ++ a :: alarmsOf (accepted after)).length - maxAlarms ≤
      ((alarmsOf (accepted before)).map AlarmRecord.ofAlarm).length := by
    rw [List.length_append, List.length_cons, List.length_map]
    omega
  rw [(folded_accepted _).alarms, halarms, List.map_append, List.map_cons,
    List.drop_append_of_le_length hle]
  exact List.mem_append_right _ List.mem_cons_self

/-- The line of an alarm that reached the administrator. -/
def alarmUpLine (a : AlarmUp) : SnapshotLine :=
  .alarm a.regionId a.tsUnix a.deviceType a.zoneId a.code a.uri a.text

/-- The alarm in the body stays in the store while it is among the last `maxAlarms`. As long,
every snapshot of fewer than 65536 regions shows it, in whatever order the maps are iterated. -/
def ShownWhileRecent (body : Bytes) (a : AlarmUp) : Prop :=
  ∀ before after session, (alarmsOf (accepted after)).length < maxAlarms →
    ∀ s, (start.run (before ++ (session, body) :: after)).store.Same s →
      AlarmRecord.ofAlarm a ∈ s.alarms ∧ (s.regions.entries.length < 65536 →
        ∃ payload lines, s.encodeAdminSnapshot = .ok payload ∧
          snapshotLoop.exec payload [] = (.ok (), [], lines) ∧ alarmUpLine a ∈ lines)

theorem shownWhileRecent (hbody : CentralMessage.ofBody body = some (.alarm a)) :
    ShownWhileRecent body a := by
  intro before after session hafter s hsame
  have hbounded := hsame.bounded (bounded_run _)
  have hmem := mem_alarms_run before after session hbody hafter
  rw [← hsame.alarms] at hmem
  refine ⟨hmem, fun hcount => ⟨snapshotBytes s, storeLines s,
    encodeAdminSnapshot_eq hbounded.strings, (snapshotLoop_prints hbounded hcount).exec_eq, ?_⟩⟩
  have hline : alarmUpLine a ∈ s.alarms.map alarmLine := List.mem_map_of_mem hmem
  exact List.mem_cons_of_mem _ (List.mem_append_right _ (List.mem_cons_of_mem _ hline))

/-- For every accepted fault report, registry and session the fault callback raises an alarm
that is encoded, accepted, stored and shown to the administrator unchanged. -/
theorem fault_shown (cfg : RegionConfig) (clock : Clock) (r : Region) (k : ℕ) {body : Bytes}
    {report : FaultReport} (hbody : DeviceMessage.ofBody body = some (.fault report)) :
    ∃ a payload, (Region.handleFrame cfg clock r k body).alarms = r.alarms ++ [a] ∧
      AlarmFor cfg clock r k report a ∧ encodeAlarmUp a = .ok payload ∧
      (1 ≤ 1 + payload.length ∧ 1 + payload.length ≤ 1024 * 1024) ∧
      (∀ rest, readFrame (frame .alarmUp payload ++ rest) =
        some (MsgType.alarmUp.code :: payload, rest)) ∧
      ShownWhileRecent (MsgType.alarmUp.code :: payload) a := by
  obtain ⟨a, halarms, hfor⟩ := alarms_handleFrame cfg clock r k hbody
  have hfits : report.uri.length ≤ 65535 ∧ report.text.length ≤ 65535 :=
    DeviceMessage.fits_of_ofBody hbody
  rw [← hfor.uri, ← hfor.text] at hfits
  obtain ⟨payload, hpayload, hlength, hread, hfound⟩ := readFrame_alarm hfits
  exact ⟨a, payload, halarms, hfor, hpayload, hlength, hread, shownWhileRecent hfound⟩

/-- A lamp that nobody knows reports a fault. -/
theorem fault_shown_unknownLamp :
    ∃ a payload, (Region.handleFrame ⟨7, 20000⟩ ⟨1000, 94000⟩ .start 0
        (DeviceMessage.fault ⟨ascii "lamp", 3, 1, ascii "fault_detected"⟩).body).alarms = [] ++ [a] ∧
      AlarmFor ⟨7, 20000⟩ ⟨1000, 94000⟩ .start 0 ⟨ascii "lamp", 3, 1, ascii "fault_detected"⟩ a ∧
      encodeAlarmUp a = .ok payload ∧
      (1 ≤ 1 + payload.length ∧ 1 + payload.length ≤ 1024 * 1024) ∧
      (∀ rest, readFrame (frame .alarmUp payload ++ rest) =
        some (MsgType.alarmUp.code :: payload, rest)) ∧
      ShownWhileRecent (MsgType.alarmUp.code :: payload) a :=
  fault_shown ⟨7, 20000⟩ ⟨1000, 94000⟩ .start 0 (by decide)

end SmartLighting
