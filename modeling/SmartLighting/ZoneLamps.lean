import SmartLighting.SessionMap

/-!
# Commands to the lamps of a zone

A motion edge in a zone queues the same commands on the session of every lamp that the
index lists for the zone, and nothing on any other session.
-/

namespace SmartLighting

open Transition

namespace Region

variable {cfg : RegionConfig} {r t : Region} {clock : Clock} {u : Bytes} {k : ℕ}

/-- A name leads to a session that exists, and no other name does. -/
structure Leads (r : Region) (u : Bytes) (k : ℕ) : Prop where
  /-- The name is one. -/
  named : u ≠ []
  /-- The session exists. -/
  live : k ∉ r.expired
  /-- It has the name. -/
  uri : (r.sessions k).uri = u
  /-- It is entered under the name only. -/
  entry : ∀ v, r.sessionMap.lookup v = some k ↔ v = u

/-- Names lead where they led as long as the routes are kept. -/
theorem Leads.of_keepsRoutes (h : Leads r u k) (hkeeps : KeepsRoutes r t) : Leads t u k := by
  constructor
  · exact h.named
  · rw [hkeeps.expired]
    exact h.live
  · rw [hkeeps.uri, h.uri]
  · intro v
    rw [hkeeps.entry v k h.live, h.entry v]

/-- The motion that a region has for a name, which is 0 where it has none. -/
def motionFor (r : Region) (uri : Bytes) : UInt8 := (r.lastMotion.lookup uri).getD 0

/-- The frames that a session has sent. -/
def sentBy (r : Region) (k : ℕ) : List OutMsg := (r.sessions k).queue.sent

/-- The frame of a command. -/
def commandFrame (uri : Bytes) (cmd value : UInt8) : OutMsg :=
  ⟨.cmd, (encodeCommand ⟨uri, cmd, value⟩).toOption.getD []⟩

/-- The frame of a command whose name fits. -/
theorem commandFrame_eq (hfits : u.length ≤ 65535) (cmd value : UInt8) :
    ∃ payload, encodeCommand ⟨u, cmd, value⟩ = .ok payload ∧
      commandFrame u cmd value = ⟨.cmd, payload⟩ := by
  obtain ⟨payload, hencode⟩ := encodeCommand_of_fits (c := ⟨u, cmd, value⟩) hfits
  refine ⟨payload, hencode, ?_⟩
  rw [commandFrame, hencode]
  rfl

/-- A command is queued on the session to which its name leads. -/
theorem sentBy_sendCmdToUri (h : Leads r u k) (hfits : u.length ≤ 65535) (v : Bytes)
    (cmd value : UInt8) :
    (r.sendCmdToUri v cmd value).sentBy k =
      r.sentBy k ++ if v = u then [commandFrame u cmd value] else [] := by
  obtain ⟨payload, hencode, hframe⟩ := commandFrame_eq hfits cmd value
  unfold sendCmdToUri
  dsimp only
  by_cases hv : v = u
  · have hnamed : (r.sessions k).uri ≠ [] := h.uri ▸ h.named
    simp only [(h.entry v).mpr hv, if_neg h.live, DeviceSession.sendCmd_of_named hnamed, h.uri,
      hencode, if_pos hv, hframe]
    exact sent_setSession_queueSend ..
  · rw [if_neg hv, List.append_nil]
    cases hlookup : r.sessionMap.lookup v with
    | none => rfl
    | some j =>
      have hj : k ≠ j := by
        rintro rfl
        exact hv ((h.entry v).mp hlookup)
      dsimp only
      split
      · rfl
      split
      · rw [sentBy, sessions_setSession_of_ne hj]
        rfl
      · rfl

/-- Of a list of calls, those for its name are queued on a session. -/
theorem sentBy_makeCalls (calls : List CmdCall) (h : Leads r u k) (hfits : u.length ≤ 65535) :
    (r.makeCalls calls).sentBy k = r.sentBy k ++
      calls.flatMap fun c => if c.uri = u then [commandFrame u c.cmd c.value] else [] := by
  induction calls generalizing r with
  | nil => exact (List.append_nil _).symm
  | cons c calls ih =>
    rw [makeCalls, List.foldl_cons]
    refine (ih (h.of_keepsRoutes (.sendCmdToUri r c.uri c.cmd c.value))).trans ?_
    rw [sentBy_sendCmdToUri h hfits, List.append_assoc, List.flatMap_cons]

/-- The frames for one lamp at an edge. -/
def edgeFrames (u : Bytes) (prev motion : UInt8) : List OutMsg :=
  (edgeCommands prev motion).map fun c => commandFrame u c.1 c.2

/-- The calls of an edge queue its frames for each lamp. -/
theorem flatMap_edgeCalls (lamps : List Bytes) (u : Bytes) (prev motion : UInt8) :
    ((edgeCalls lamps prev motion).flatMap fun c =>
        if c.uri = u then [commandFrame u c.cmd c.value] else []) =
      lamps.flatMap fun v => if v = u then edgeFrames u prev motion else [] := by
  rw [edgeCalls, List.flatMap_assoc]
  refine congrArg (fun f => lamps.flatMap f) (funext fun v => ?_)
  rw [List.flatMap_map]
  by_cases hv : v = u
  · simp only [if_pos hv]
    exact List.map_eq_flatMap.symm
  · simp only [if_neg hv]
    exact List.flatMap_eq_nil_iff.mpr fun _ _ => rfl

/-- The edge detection queues the commands of its edge, if there is one. -/
theorem sentBy_motionEdge (hnormal : r.fsm.state = .normalOperation) (h : Leads r u k)
    (hfits : u.length ≤ 65535) (tel : Telemetry) :
    (r.motionEdge tel).sentBy k = r.sentBy k ++
      (r.reg.getLampsInZone tel.zoneId).flatMap fun v =>
        if v = u then edgeFrames u ((r.lastMotion.lookup tel.uri).getD 0) tel.motion else [] := by
  rw [motionEdge_eq, if_pos hnormal, ← flatMap_edgeCalls]
  exact sentBy_makeCalls _ h hfits

/-- The edge detection remembers the motion. -/
theorem lastMotion_motionEdge (tel : Telemetry) :
    (r.motionEdge tel).lastMotion = r.lastMotion.insert tel.uri tel.motion := by
  rw [motionEdge_eq]

/-- A sensor is not indexed. -/
theorem getLampsInZone_upsert_sensor (reg : Registry) (tel : Telemetry) (nowMs : UInt64)
    (zone : UInt32) :
    (reg.upsert tel.uri (telemetryState tel nowMs (reg.get tel.uri))).getLampsInZone zone =
      reg.getLampsInZone zone := by
  have hsensor : (telemetryState tel nowMs (reg.get tel.uri)).type ≠ .luminaire := by
    rw [(telemetryState_spec tel nowMs _).1]
    exact DeviceType.sensor_ne_luminaire
  unfold Registry.upsert
  rw [if_neg fun h => hsensor h.1]
  rfl

/-- Telemetry with a motion byte of 0 or 1 is stored and goes through the edge detection. -/
theorem receive_of_motion {tel : Telemetry} (hmotion : tel.motion = 0 ∨ tel.motion = 1) :
    receive cfg clock r tel = { r with
      reg := r.reg.upsert tel.uri (telemetryState tel clock.nowMs (r.reg.get tel.uri))
      }.motionEdge tel := by
  have hmarker : tel.motion ≠ 254 := by
    rcases hmotion with h | h <;> rw [h] <;> decide
  simp only [receive, if_neg hmarker, if_pos hmotion]

/-- Other telemetry changes no session and remembers no motion. -/
theorem receive_of_other {tel : Telemetry} (hmotion : ¬(tel.motion = 0 ∨ tel.motion = 1)) :
    (receive cfg clock r tel).sessions = r.sessions ∧
      (receive cfg clock r tel).lastMotion = r.lastMotion := by
  simp only [receive, if_neg hmotion]
  split
  · unfold faultMarker
    dsimp only
    split <;> exact ⟨rfl, rfl⟩
  · exact ⟨rfl, rfl⟩

/-- Telemetry queues the commands of its edge on the sessions of the lamps of its zone. -/
theorem sentBy_receive (cfg : RegionConfig) (clock : Clock)
    (hnormal : r.fsm.state = .normalOperation) (h : Leads r u k) (hfits : u.length ≤ 65535)
    (tel : Telemetry) :
    (receive cfg clock r tel).sentBy k = r.sentBy k ++
      (r.reg.getLampsInZone tel.zoneId).flatMap fun v =>
        if v = u then edgeFrames u ((r.lastMotion.lookup tel.uri).getD 0) tel.motion else [] := by
  by_cases hmotion : tel.motion = 0 ∨ tel.motion = 1
  · have hstored : Leads { r with
        reg := r.reg.upsert tel.uri (telemetryState tel clock.nowMs (r.reg.get tel.uri)) } u k :=
      h.of_keepsRoutes (.of_eq rfl rfl rfl rfl)
    have hedge := sentBy_motionEdge (by exact hnormal) hstored hfits tel
    rw [getLampsInZone_upsert_sensor] at hedge
    rw [receive_of_motion hmotion, hedge]
    rfl
  · have hnone : edgeFrames u ((r.lastMotion.lookup tel.uri).getD 0) tel.motion = [] := by
      rw [not_or] at hmotion
      rw [edgeFrames, edgeCommands, if_neg fun h => hmotion.2 h.2, if_neg fun h => hmotion.1 h.2,
        List.map_nil]
    rw [hnone, sentBy, (receive_of_other hmotion).1]
    simp only [ite_self]
    rw [List.flatMap_eq_nil_iff.mpr fun _ _ => rfl, List.append_nil]
    rfl

/-- Telemetry with a motion byte of 0 or 1 is remembered. -/
theorem lastMotion_receive (tel : Telemetry) :
    (receive cfg clock r tel).lastMotion =
      if tel.motion = 0 ∨ tel.motion = 1 then r.lastMotion.insert tel.uri tel.motion
      else r.lastMotion := by
  by_cases hmotion : tel.motion = 0 ∨ tel.motion = 1
  · rw [receive_of_motion hmotion, lastMotion_motionEdge, if_pos hmotion]
  · rw [(receive_of_other hmotion).2, if_neg hmotion]

/-- A frame of a session remembers no motion. -/
theorem lastMotion_handleFrame (cfg : RegionConfig) (clock : Clock) (r : Region) (k : ℕ)
    (body : Bytes) : (handleFrame cfg clock r k body).lastMotion = r.lastMotion := by
  unfold handleFrame
  dsimp only
  split <;> rfl

/-- A frame replaces its session by the one that its program leaves. -/
theorem sessions_handleFrame (cfg : RegionConfig) (clock : Clock) (r : Region) (k : ℕ)
    (body : Bytes) :
    (handleFrame cfg clock r k body).sessions = Function.update r.sessions k
      (((r.sessions k).onMessage cfg.regionId body clock).exec r.reg).1.session := by
  unfold handleFrame
  dsimp only
  split <;> rfl

/-- A status report changes no session. -/
theorem sessions_handleFrame_status (cfg : RegionConfig) (clock : Clock) (r : Region) (k : ℕ)
    {body : Bytes} {report : StatusReport}
    (hbody : DeviceMessage.ofBody body = some (.status report)) :
    (handleFrame cfg clock r k body).sessions = r.sessions := by
  have hsession := DeviceSession.session_exec_onMessage cfg.regionId (r.sessions k) body clock r.reg
  rw [hbody] at hsession
  dsimp only at hsession
  rw [sessions_handleFrame, hsession, Function.update_eq_self]

/-! ## The zone of a lamp -/

/-- The index lists the lamp for one zone. -/
structure Placed (r : Region) (u : Bytes) (zone : UInt32) : Prop where
  /-- It is listed for its zone. -/
  listed : u ∈ r.reg.getLampsInZone zone
  /-- It is listed for no other. -/
  elsewhere : ∀ z, z ≠ zone → u ∉ r.reg.getLampsInZone z

/-- A lamp stays in its zone as long as it is stored there. -/
theorem Placed.of_stores {e : Event} {zone : UInt32} (h : Placed r u zone) (hstores : Stores r e t)
    (hzone : ∀ st, r.stored e = some (u, st) → st.type = .luminaire → st.zoneId = zone) :
    Placed t u zone := by
  constructor
  · exact (hstores.lamps u zone).mpr (Or.inl h.listed)
  · intro z hz hmem
    rcases (hstores.lamps u z).mp hmem with hold | ⟨st, hstored, htype, -, hst⟩
    · exact h.elsewhere z hz hold
    · exact hz (hst.symm.trans (hzone st hstored htype))

/-- A status report stores its zone. -/
theorem zoneId_of_stored_status {body : Bytes} {report : StatusReport} {st : DeviceState}
    {v : Bytes} (hbody : DeviceMessage.ofBody body = some (.status report))
    (h : r.stored (.frame k body clock) = some (v, st)) : st.zoneId = report.zoneId := by
  simp only [stored, DeviceSession.stored, hbody] at h
  obtain ⟨st', hst, heq⟩ := Option.map_eq_some_iff.mp h
  cases heq
  rw [DeviceSession.eq_of_statusState hst]

/-- Telemetry stores no lamp. -/
theorem type_of_stored_datagram {bytes beyond : Bytes} {st : DeviceState} {v : Bytes}
    (h : r.stored (.datagram bytes beyond clock) = some (v, st)) : st.type ≠ .luminaire := by
  obtain ⟨tel, -, heq⟩ := Option.map_eq_some_iff.mp h
  cases heq
  split
  · exact DeviceType.sensor_ne_luminaire
  · rw [(telemetryState_spec tel clock.nowMs _).1]
    exact DeviceType.sensor_ne_luminaire

end Region

end SmartLighting
