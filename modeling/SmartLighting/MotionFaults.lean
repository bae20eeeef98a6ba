import SmartLighting.RegionTicks
import SmartLighting.Sensor
import SmartLighting.ZoneLamps

/-!
# Motion during fault handling

While the server handles a fault, the motion callbacks return without a command, but the edge
detection goes on. A recovery commands nothing, so that it leaves a lamp as the last motion
before the fault left it.
-/

namespace SmartLighting

open StateMachine Transition

namespace Region

variable {cfg : RegionConfig} {r t : Region} {clock : Clock} {e : Event} {u v : Bytes}
  {z : UInt32} {k : ℕ} {shown motion : UInt8}

/-- Telemetry of one sensor with a motion of 0 or 1, a fault report or marker, an expiry of the
comm-lost timer, or the sending of a frame. -/
def Event.isMotionOrFault (v : Bytes) (z : UInt32) : Event → Bool
  | .frame k body clock => (Event.faultReport (.frame k body clock)).isSome
  | .datagram bytes beyond _ => (parseTelemetry bytes beyond).any fun tel =>
    tel.motion = 254 ∨ (tel.motion = 0 ∨ tel.motion = 1) ∧ tel.uri = v ∧ tel.zoneId = z
  | .tick _ => true
  | .posted _ => true
  | .writeDone _ _ ok => ok
  | .close _ => false
  | .expire _ => false

/-- The commands for a session. -/
def commandsOn (r : Region) (k : ℕ) : List OutMsg := (r.sentBy k).filter fun m => m.type = .cmd

/-- The last commands of a list are those for a motion: SWITCH_ON and SET_INTENSITY if it is 1,
SWITCH_OFF or none at all otherwise. -/
def LastCallsFor (u : Bytes) (motion : UInt8) (commands : List OutMsg) : Prop :=
  if motion = 1 then [commandFrame u 1 0, commandFrame u 3 60] <:+ commands
  else commands = [] ∨ [commandFrame u 2 0] <:+ commands

/-- In normal operation, the last commands for a lamp are those for the motion of the sensor. -/
def ShowsMotion (u v : Bytes) (k : ℕ) (r : Region) : Prop :=
  r.fsm.state = .normalOperation → LastCallsFor u (r.motionFor v) (r.commandsOn k)

/-- The motion of the sensor when the server was in normal operation last. -/
def watchMotion (v : Bytes) (shown : UInt8) (_ : Region) (_ : Event) (t : Region) : UInt8 :=
  if t.fsm.state = .normalOperation then t.motionFor v else shown

/-- When a tick recovers, the motion is what it was when the fault handling began. -/
def RecoversMotion (cfg : RegionConfig) (v : Bytes) (r : Region) (shown : UInt8) (e : Event) :
    Prop :=
  match e with
  | .tick clock => r.fsm.state = .faultHandling → (∀ w, ¬NewlyLost cfg clock r w) →
    r.motionFor v = shown
  | _ => True

/-- The lamp is registered in the zone and has had no command; the sensor has not been heard. -/
structure Uncommanded (u v : Bytes) (z : UInt32) (k : ℕ) (r : Region) : Prop where
  /-- The server has been started. -/
  operating : r.fsm.state = .normalOperation ∨ r.fsm.state = .faultHandling
  /-- The lamp is listed for the zone. -/
  listed : u ∈ r.reg.getLampsInZone z
  /-- Its name leads to its session. -/
  leads : Leads r u k
  /-- Its name came from a frame. -/
  fits : u.length ≤ 65535
  /-- The session has no command. -/
  commands : r.commandsOn k = []
  /-- The sensor has not been heard. -/
  unheard : r.lastMotion.lookup v = none

/-- What holds between two handlers: the last commands are those for the motion that was there
when the server was in normal operation last. -/
structure Shows (u v : Bytes) (z : UInt32) (k : ℕ) (r : Region) (shown : UInt8) : Prop where
  /-- The server has been started. -/
  operating : r.fsm.state = .normalOperation ∨ r.fsm.state = .faultHandling
  /-- The lamp is listed for the zone. -/
  listed : u ∈ r.reg.getLampsInZone z
  /-- Its name leads to its session. -/
  leads : Leads r u k
  /-- The sensor has a motion of 0 or 1. -/
  binary : r.motionFor v = 0 ∨ r.motionFor v = 1
  /-- It had one before. -/
  before : shown = 0 ∨ shown = 1
  /-- In normal operation it is the same. -/
  same : r.fsm.state = .normalOperation → shown = r.motionFor v
  /-- The last commands are those for it. -/
  calls : LastCallsFor u shown (r.commandsOn k)

/-! ## The last commands -/

/-- The frame of a command holds the command. -/
theorem cmd_eq_of_commandFrame_eq (hfits : u.length ≤ 65535) {cmd value cmd' value' : UInt8}
    (h : commandFrame u cmd value = commandFrame u cmd' value') : cmd = cmd' := by
  obtain ⟨payload, hencode, hframe⟩ := commandFrame_eq hfits cmd value
  obtain ⟨payload', hencode', hframe'⟩ := commandFrame_eq hfits cmd' value'
  rw [hframe, hframe', OutMsg.mk.injEq] at h
  have hdecode := (decodeCommand_exact hencode).decode_eq
  rw [h.2, (decodeCommand_exact hencode').decode_eq, Except.ok.injEq, Command.mk.injEq] at hdecode
  exact hdecode.2.1.symm

/-- Commands that end with a list end with its last command. -/
theorem getLast?_of_suffix {m : OutMsg} (front : List OutMsg) {commands : List OutMsg}
    (h : front ++ [m] <:+ commands) : commands.getLast? = some m := by
  obtain ⟨old, rfl⟩ := h
  rw [← List.append_assoc, List.getLast?_concat]

/-- The last commands are not those for two motions. -/
theorem LastCallsFor.unique (hfits : u.length ≤ 65535) {commands : List OutMsg}
    {motion motion' : UInt8} (hmotion : motion = 0 ∨ motion = 1)
    (hmotion' : motion' = 0 ∨ motion' = 1) (h : LastCallsFor u motion commands)
    (h' : LastCallsFor u motion' commands) : motion = motion' := by
  have hdiffer : LastCallsFor u 1 commands → ¬LastCallsFor u 0 commands := by
    intro hon hoff
    have hlast := getLast?_of_suffix [commandFrame u 1 0] hon
    rcases hoff with hnone | hoff
    · rw [hnone] at hlast
      cases hlast
    · rw [getLast?_of_suffix [] hoff, Option.some.injEq] at hlast
      exact absurd (cmd_eq_of_commandFrame_eq hfits hlast) (by decide)
  rcases hmotion with rfl | rfl <;> rcases hmotion' with rfl | rfl
  · rfl
  · exact absurd h (hdiffer h')
  · exact absurd h' (hdiffer h)
  · rfl

/-- The frames for a listed lamp end a list of frames for lamps. -/
theorem suffix_flatMap {frames : List OutMsg} {lamps : List Bytes} (hu : u ∈ lamps) :
    frames <:+ lamps.flatMap fun w => if w = u then frames else [] := by
  induction lamps with
  | nil => cases hu
  | cons w lamps ih =>
    rw [List.flatMap_cons]
    by_cases hrest : u ∈ lamps
    · exact (ih hrest).trans (List.suffix_append ..)
    · have hw : w = u := ((List.mem_cons.mp hu).resolve_right hrest).symm
      have hnone : (lamps.flatMap fun w => if w = u then frames else []) = [] := by
        refine List.flatMap_eq_nil_iff.mpr fun x hx => if_neg ?_
        rintro rfl
        exact hrest hx
      rw [hnone, List.append_nil, if_pos hw]

/-- After the commands of an edge, the last commands are those for its motion. -/
theorem LastCallsFor.edge {prev : UInt8} {commands : List OutMsg} {lamps : List Bytes}
    (h : LastCallsFor u prev commands) (hprev : prev = 0 ∨ prev = 1)
    (hmotion : motion = 0 ∨ motion = 1) (hu : u ∈ lamps) :
    LastCallsFor u motion (commands ++
      lamps.flatMap fun w => if w = u then edgeFrames u prev motion else []) := by
  have hstill : edgeFrames u prev motion = [] → motion = prev →
      LastCallsFor u motion (commands ++
        lamps.flatMap fun w => if w = u then edgeFrames u prev motion else []) := by
    intro hnone hsame
    simp only [hnone, ite_self]
    rwa [List.flatMap_eq_nil_iff.mpr fun _ _ => rfl, List.append_nil, hsame]
  have hends : edgeFrames u prev motion <:+ commands ++
      lamps.flatMap fun w => if w = u then edgeFrames u prev motion else [] :=
    (suffix_flatMap hu).trans (List.suffix_append ..)
  rcases hprev with rfl | rfl <;> rcases hmotion with rfl | rfl
  · exact hstill rfl rfl
  · exact hends
  · exact Or.inr hends
  · exact hstill rfl rfl

/-! ## Handlers -/

/-- A handler that leaves the commands and the motion of the sensor. -/
structure LeavesMotion (u : Bytes) (z : UInt32) (k : ℕ) (r t : Region) : Prop where
  /-- Names lead where they led. -/
  routes : KeepsRoutes r t
  /-- The session has the same commands. -/
  commands : t.commandsOn k = r.commandsOn k
  /-- No motion is remembered. -/
  lastMotion : t.lastMotion = r.lastMotion
  /-- The lamp stays listed. -/
  listed : u ∈ r.reg.getLampsInZone z → u ∈ t.reg.getLampsInZone z

/-- The ways in which such an event can change the server. -/
inductive MotionStep (cfg : RegionConfig) (u v : Bytes) (z : UInt32) (k : ℕ) (r : Region) :
    Event → Region → Prop
  /-- The sensor reports its motion. -/
  | telemetry {bytes beyond : Bytes} {clock : Clock} {tel : Telemetry}
      (hmotion : tel.motion = 0 ∨ tel.motion = 1) (huri : tel.uri = v) (hzone : tel.zoneId = z) :
      MotionStep cfg u v z k r (.datagram bytes beyond clock) (receive cfg clock r tel)
  /-- A fault is reported, or a frame is sent. -/
  | other {e : Event} {t : Region} (htick : ¬e.IsTick) (hleaves : LeavesMotion u z k r t)
      (hfsm : t.fsm = r.fsm ∨ ∃ label, t.fsm = r.fsm.switchTo .faultHandling label) :
      MotionStep cfg u v z k r e t
  /-- The comm-lost timer expires. -/
  | tick {clock : Clock} {t : Region} (hleaves : LeavesMotion u z k r t)
      (hticks : Ticks cfg clock r t) : MotionStep cfg u v z k r (.tick clock) t

/-- Stored devices leave the lamp listed. -/
theorem Stores.listed (h : Stores r e t) (hlisted : u ∈ r.reg.getLampsInZone z) :
    u ∈ t.reg.getLampsInZone z := (h.lamps u z).mpr (Or.inl hlisted)

/-- A fault report asks for fault handling, and nothing else does. -/
theorem Stores.fsm_eq (h : Stores r e t) :
    t.fsm = r.fsm ∨ ∃ label, t.fsm = r.fsm.switchTo .faultHandling label := by
  have hfsm := h.fsm
  cases hreport : e.faultReport with
  | none =>
    rw [hreport] at hfsm
    exact Or.inl hfsm
  | some report =>
    rw [hreport] at hfsm
    exact Or.inr ⟨report.2, hfsm⟩

/-- A session that sends the frames it had still has its commands. -/
theorem commandsOn_setSession {j : ℕ} {q : SendQueue} (hsent : q.sent = (r.sessions j).queue.sent) :
    (r.setSession j { r.sessions j with queue := q }).commandsOn k = r.commandsOn k := by
  unfold commandsOn sentBy
  rw [sessions_setSession]
  split
  · next hj => rw [hj, hsent]
  · rfl

/-- The acknowledgement of a fault report is no command. -/
theorem commandsOn_faultReport {j : ℕ} {body : Bytes}
    (h : (Event.faultReport (.frame j body clock)).isSome) :
    (handleFrame cfg clock r j body).commandsOn k = r.commandsOn k := by
  have hsession := DeviceSession.session_exec_onMessage cfg.regionId (r.sessions j) body clock r.reg
  have hreport : ∃ f, DeviceMessage.ofBody body = some (.fault f) := by
    simp only [Event.faultReport] at h
    split at h
    · next f hf => exact ⟨f, hf⟩
    · cases h
  obtain ⟨f, hf⟩ := hreport
  rw [hf] at hsession
  dsimp only at hsession
  unfold commandsOn sentBy
  rw [sessions_handleFrame, hsession]
  by_cases hj : k = j
  · rw [hj, Function.update_self, DeviceSession.queueSend, SendQueue.sent_post, List.filter_append]
    exact List.append_nil _
  · rw [Function.update_of_ne hj]

/-- A fault report commands nothing and remembers no motion. -/
theorem motionStep_faultReport {j : ℕ} {body : Bytes}
    (hreport : (Event.faultReport (.frame j body clock)).isSome)
    (hstep : step cfg r (.frame j body clock) = some t) :
    MotionStep cfg u v z k r (.frame j body clock) t := by
  have hstores := stores_step hstep id
  obtain ⟨-, hstep⟩ := Option.ite_none_left_eq_some.mp hstep
  cases hstep
  have hnone : Event.registered (.frame j body clock) = none := by
    simp only [Event.faultReport] at hreport
    split at hreport
    · next f hf => simp only [Event.registered, hf]
    · cases hreport
  exact .other id ⟨keepsRoutes_handleFrame hnone, commandsOn_faultReport hreport,
    lastMotion_handleFrame cfg clock r j body, hstores.listed⟩ hstores.fsm_eq

/-- A fault marker commands nothing and remembers no motion. -/
theorem motionStep_marker {bytes beyond : Bytes} {tel : Telemetry}
    (hparse : parseTelemetry bytes beyond = some tel) (hmarker : tel.motion = 254) :
    MotionStep cfg u v z k r (.datagram bytes beyond clock) (receive cfg clock r tel) := by
  have hstep : step cfg r (.datagram bytes beyond clock) = some (receive cfg clock r tel) := by
    simp only [step, hparse]
  have hstores := stores_step hstep id
  have hother : ¬(tel.motion = 0 ∨ tel.motion = 1) := by
    rw [hmarker]
    decide
  have hsame : (receive cfg clock r tel).sessions = r.sessions ∧
      (receive cfg clock r tel).lastMotion = r.lastMotion := receive_of_other hother
  refine .other id ⟨.receive r tel, ?_, hsame.2, hstores.listed⟩ hstores.fsm_eq
  rw [commandsOn, sentBy, hsame.1]
  rfl

/-- A tick commands nothing and remembers no motion. -/
theorem motionStep_tick : MotionStep cfg u v z k r (.tick clock) (tick cfg clock r) := by
  have hticks := ticks_tick cfg clock r
  refine .tick ⟨.tick r, ?_, lastMotion_tick, ?_⟩ hticks
  · rw [commandsOn, sentBy, sessions_tick]
    rfl
  · rw [hticks.lamps]
    exact id

/-- Every such step changes the server in one of these ways. -/
theorem motionStep_of_step (hevent : e.isMotionOrFault v z = true)
    (hstep : step cfg r e = some t) : MotionStep cfg u v z k r e t := by
  cases e with
  | frame j body clock => exact motionStep_faultReport hevent hstep
  | datagram bytes beyond clock =>
    cases hparse : parseTelemetry bytes beyond with
    | none => simp [Event.isMotionOrFault, hparse] at hevent
    | some tel =>
      have htel : tel.motion = 254 ∨
          (tel.motion = 0 ∨ tel.motion = 1) ∧ tel.uri = v ∧ tel.zoneId = z := by
        simpa [Event.isMotionOrFault, hparse] using hevent
      simp only [step, hparse] at hstep
      cases hstep
      rcases htel with hmarker | ⟨hmotion, huri, hzone⟩
      · exact motionStep_marker hparse hmarker
      · exact .telemetry hmotion huri hzone
  | tick clock =>
    cases hstep
    exact motionStep_tick
  | posted j =>
    obtain ⟨q, hq, rfl⟩ := Option.map_eq_some_iff.mp hstep
    exact .other id ⟨.setSession rfl, commandsOn_setSession (SendQueue.sent_runPosted hq), rfl, id⟩
      (Or.inl rfl)
  | writeDone j i ok =>
    obtain rfl : ok = true := hevent
    obtain ⟨s, hs, rfl⟩ := Option.map_eq_some_iff.mp hstep
    obtain ⟨q, hq, rfl⟩ := Option.map_eq_some_iff.mp hs
    exact .other id ⟨.setSession rfl, commandsOn_setSession
      (SendQueue.sent_doWrite.trans (SendQueue.sent_complete hq)), rfl, id⟩ (Or.inl rfl)
  | close j => cases hevent
  | expire j => cases hevent

/-! ## The law -/

/-- A request for fault handling is carried out or leaves it. -/
theorem switchTo_faultHandling_state {fsm : ServerFsm}
    (h : fsm.state = .normalOperation ∨ fsm.state = .faultHandling) (label : ServerLabel) :
    (fsm.switchTo .faultHandling label).state = .faultHandling := by
  rcases h with hnormal | hfault
  · have hallowed : (fsm.state, ServerState.faultHandling) ∈ ServerFsm.transitions := by
      rw [hnormal]
      decide
    rw [ServerFsm.switchTo_of_allowed hallowed]
    rfl
  · have hrefused : (fsm.state, ServerState.faultHandling) ∉ ServerFsm.transitions := by
      rw [hfault]
      decide
    rw [ServerFsm.switchTo_of_refused hrefused, hfault]

/-- The server goes on, commands nothing and remembers no motion. -/
theorem Shows.leaves (h : Shows u v z k r shown) (hleaves : LeavesMotion u z k r t)
    (hoperating : t.fsm.state = .normalOperation ∨ t.fsm.state = .faultHandling)
    (hsame : t.fsm.state = .normalOperation → r.motionFor v = shown) :
    Shows u v z k t (watchMotion v shown r e t) := by
  have hmotion : t.motionFor v = r.motionFor v := by
    rw [motionFor, hleaves.lastMotion]
    rfl
  have hwatch : watchMotion v shown r e t = shown := by
    unfold watchMotion
    split
    · next hnormal => rw [hmotion, hsame hnormal]
    · rfl
  rw [hwatch]
  constructor
  · exact hoperating
  · exact hleaves.listed h.listed
  · exact h.leads.of_keepsRoutes hleaves.routes
  · rw [hmotion]
    exact h.binary
  · exact h.before
  · intro hnormal
    rw [hmotion, hsame hnormal]
  · rw [hleaves.commands]
    exact h.calls

/-- In normal operation, the commands of an edge are sent. -/
theorem commandsOn_receive (hnormal : r.fsm.state = .normalOperation) (h : Leads r u k)
    (hfits : u.length ≤ 65535) (tel : Telemetry) :
    (receive cfg clock r tel).commandsOn k = r.commandsOn k ++
      (r.reg.getLampsInZone tel.zoneId).flatMap fun w =>
        if w = u then edgeFrames u (r.motionFor tel.uri) tel.motion else [] := by
  rw [commandsOn, sentBy_receive cfg clock hnormal h hfits, List.filter_append]
  refine congrArg (r.commandsOn k ++ ·) (List.filter_eq_self.mpr fun m hm => ?_)
  obtain ⟨w, -, hframe⟩ := List.mem_flatMap.mp hm
  split at hframe
  · obtain ⟨c, -, rfl⟩ := List.mem_map.mp hframe
    rfl
  · cases hframe

/-- During fault handling no command is sent. -/
theorem commandsOn_receive_of_fault (hfault : r.fsm.state ≠ .normalOperation) {tel : Telemetry}
    (hmotion : tel.motion = 0 ∨ tel.motion = 1) :
    (receive cfg clock r tel).commandsOn k = r.commandsOn k := by
  rw [receive_of_motion hmotion, motionEdge_eq]
  dsimp only
  rw [if_neg hfault]
  rfl

/-- The sensor reports its motion. -/
theorem Shows.telemetry {tel : Telemetry} (h : Shows u v z k r shown) (hfits : u.length ≤ 65535)
    (hmotion : tel.motion = 0 ∨ tel.motion = 1) (huri : tel.uri = v) (hzone : tel.zoneId = z) :
    Shows u v z k (receive cfg clock r tel)
      (watchMotion v shown r e (receive cfg clock r tel)) := by
  have hfsm : (receive cfg clock r tel).fsm = r.fsm := by
    rw [receive_of_motion hmotion]
    exact (motionEdge_records tel).2.1
  have hlamps : (receive cfg clock r tel).reg.getLampsInZone z = r.reg.getLampsInZone z := by
    rw [receive_of_motion hmotion, (motionEdge_records tel).1]
    exact getLampsInZone_upsert_sensor r.reg tel clock.nowMs z
  have hknown : (receive cfg clock r tel).motionFor v = tel.motion := by
    rw [motionFor, lastMotion_receive, if_pos hmotion, AssocMap.lookup_insert_eq, if_pos huri.symm,
      Option.getD_some]
  have hleads : Leads (receive cfg clock r tel) u k := h.leads.of_keepsRoutes (.receive r tel)
  rcases h.operating with hnormal | hfault
  · have hwatch : watchMotion v shown r e (receive cfg clock r tel) = tel.motion := by
      rw [watchMotion, hfsm, if_pos hnormal, hknown]
    rw [hwatch]
    refine ⟨Or.inl (hfsm ▸ hnormal), hlamps ▸ h.listed, hleads, hknown ▸ hmotion, hmotion,
      fun _ => hknown.symm, ?_⟩
    rw [commandsOn_receive hnormal h.leads hfits, huri, hzone]
    exact (h.same hnormal ▸ h.calls).edge h.binary hmotion h.listed
  · have hnot : r.fsm.state ≠ .normalOperation := by
      rw [hfault]
      decide
    have hwatch : watchMotion v shown r e (receive cfg clock r tel) = shown := by
      rw [watchMotion, hfsm, if_neg hnot]
    rw [hwatch]
    refine ⟨Or.inr (hfsm ▸ hfault), hlamps ▸ h.listed, hleads, hknown ▸ hmotion, h.before,
      fun hnormal => absurd (hfsm ▸ hnormal) hnot, ?_⟩
    rw [commandsOn_receive_of_fault hnot hmotion]
    exact h.calls

/-- A tick that finds no lost device leaves normal operation. -/
theorem Ticks.recovered (h : Ticks cfg clock r t)
    (hoperating : r.fsm.state = .normalOperation ∨ r.fsm.state = .faultHandling)
    (hnone : ∀ w, ¬NewlyLost cfg clock r w) : t.fsm.state = .normalOperation := by
  rw [h.recovers hnone]
  rcases hoperating with hnormal | hfault
  · have hnot : r.fsm.state ≠ .faultHandling := by
      rw [hnormal]
      decide
    rw [if_neg hnot, hnormal]
  · have hallowed : (r.fsm.state, ServerState.normalOperation) ∈ ServerFsm.transitions := by
      rw [hfault]
      decide
    rw [if_pos hfault, ServerFsm.switchTo_of_allowed hallowed]
    rfl

/-- A tick that finds a lost device leaves what it finds, or fault handling. -/
theorem Ticks.lost (h : Ticks cfg clock r t)
    (hoperating : r.fsm.state = .normalOperation ∨ r.fsm.state = .faultHandling)
    (hlost : ∃ w, NewlyLost cfg clock r w) :
    t.fsm = r.fsm ∨ t.fsm.state = .faultHandling := by
  refine (h.remains hlost).imp_right fun hfsm => ?_
  rw [hfsm]
  exact switchTo_faultHandling_state hoperating .commLost

/-- The comm-lost timer expires, and recovers the motion if it recovers. -/
theorem Shows.tick (h : Shows u v z k r shown) (hleaves : LeavesMotion u z k r t)
    (hticks : Ticks cfg clock r t) (hrecovers : RecoversMotion cfg v r shown (.tick clock)) :
    Shows u v z k t (watchMotion v shown r (.tick clock) t) := by
  by_cases hlost : ∃ w, NewlyLost cfg clock r w
  · rcases hticks.lost h.operating hlost with hfsm | hfault
    · exact h.leaves hleaves (hfsm ▸ h.operating) fun hnormal => (h.same (hfsm ▸ hnormal)).symm
    · refine h.leaves hleaves (Or.inr hfault) fun hnormal => ?_
      rw [hfault] at hnormal
      cases hnormal
  · refine h.leaves hleaves (Or.inl (hticks.recovered h.operating (not_exists.mp hlost))) ?_
    intro _
    rcases h.operating with hnormal | hfault
    · exact (h.same hnormal).symm
    · exact hrecovers hfault (not_exists.mp hlost)

/-- A step that recovers the motion, if it recovers, keeps the invariant. -/
theorem Shows.step (h : Shows u v z k r shown) (hfits : u.length ≤ 65535)
    (hstep : MotionStep cfg u v z k r e t) (hrecovers : RecoversMotion cfg v r shown e) :
    Shows u v z k t (watchMotion v shown r e t) := by
  cases hstep with
  | telemetry hmotion huri hzone => exact h.telemetry hfits hmotion huri hzone
  | other htick hleaves hfsm =>
    rcases hfsm with hfsm | ⟨label, hfsm⟩
    · exact h.leaves hleaves (hfsm ▸ h.operating) fun hnormal => (h.same (hfsm ▸ hnormal)).symm
    · have hfault : t.fsm.state = .faultHandling := by
        rw [hfsm]
        exact switchTo_faultHandling_state h.operating label
      refine h.leaves hleaves (Or.inr hfault) fun hnormal => ?_
      rw [hfault] at hnormal
      cases hnormal
  | tick hleaves hticks => exact h.tick hleaves hticks hrecovers

/-- A step that recovers another motion leaves the lamp with the commands for the motion before
the fault. -/
theorem Shows.not_showsMotion (h : Shows u v z k r shown) (hfits : u.length ≤ 65535)
    (hstep : MotionStep cfg u v z k r e t) (hrecovers : ¬RecoversMotion cfg v r shown e) :
    ¬ShowsMotion u v k t := by
  cases hstep with
  | telemetry => exact absurd trivial hrecovers
  | @other e t htick hleaves hfsm =>
    refine absurd ?_ hrecovers
    cases e with
    | tick clock => exact absurd trivial htick
    | _ => trivial
  | tick hleaves hticks =>
    simp only [RecoversMotion, Classical.not_imp] at hrecovers
    obtain ⟨hfault, hnone, hdiffer⟩ := hrecovers
    intro hshows
    have hmotion : t.motionFor v = r.motionFor v := by
      rw [motionFor, hleaves.lastMotion]
      rfl
    have hcalls := hshows (hticks.recovered h.operating hnone)
    rw [hmotion, hleaves.commands] at hcalls
    exact hdiffer (hcalls.unique hfits h.binary h.before h.calls)

/-- A lamp without commands shows that the sensor has not been heard. -/
theorem Uncommanded.shows (h : Uncommanded u v z k r) : Shows u v z k r 0 := by
  have hmotion : r.motionFor v = 0 := by
    rw [motionFor, h.unheard, Option.getD_none]
  refine ⟨h.operating, h.listed, h.leads, Or.inl hmotion, Or.inl rfl, fun _ => hmotion.symm, ?_⟩
  exact Or.inl h.commands

/-- In every run of telemetry of a sensor, faults and ticks, the last commands for a lamp of its
zone are those for its last motion whenever the server is in normal operation, exactly when every
recovery finds the motion that the fault handling began with. -/
theorem always_showsMotion_iff (cfg : RegionConfig) (hready : Uncommanded u v z k r)
    (es : List Event) :
    Always (monitored (restrict (fun _ e => e.isMotionOrFault v z = true) (step cfg))
        (watchMotion v)) (fun p => ShowsMotion u v k p.1) (r, 0) es ↔
      EachStep (monitored (restrict (fun _ e => e.isMotionOrFault v z = true) (step cfg))
        (watchMotion v)) (fun p e _ => RecoversMotion cfg v p.1 p.2 e) (r, 0) es := by
  refine always_monitored_iff (J := Shows u v z k) (L := fun r _ => ShowsMotion u v k r)
    (C := RecoversMotion cfg v) ?_ ?_ ?_ hready.shows
  · intro r shown h hnormal
    rw [← h.same hnormal]
    exact h.calls
  · intro r shown e t h hrecovers hstep
    obtain ⟨hevent, hmove⟩ := restrict_eq_some.mp hstep
    exact h.step hready.fits (motionStep_of_step hevent hmove) hrecovers
  · intro r shown e t h hrecovers hstep
    obtain ⟨hevent, hmove⟩ := restrict_eq_some.mp hstep
    exact h.not_showsMotion hready.fits (motionStep_of_step hevent hmove) hrecovers

/-! ## A motion that ends during a fault -/

/-- The lamp registers, and the session sends its REGISTER_ACK. -/
def lampArrives : List Event :=
  [.frame 0 (DeviceMessage.register ⟨.luminaire, ascii "lamp", 1⟩).body ⟨1000, 1⟩, .posted 0,
    .writeDone 0 0 true]

/-- The region when the lamp is there. -/
def lampThere : Region := (run (step ⟨7, 5000⟩) start lampArrives).getD start

/-- The lamp has had no command. -/
theorem uncommanded_lampThere : Uncommanded (ascii "lamp") (ascii "sensor") 1 0 lampThere := by
  have hmap : lampThere.sessionMap = (∅ : AssocMap Bytes ℕ).insert (ascii "lamp") 0 := rfl
  constructor
  · decide +kernel
  · decide +kernel
  · constructor
    · decide +kernel
    · decide +kernel
    · decide +kernel
    · intro w
      rw [hmap, AssocMap.lookup_insert_eq]
      split
      · next hw => exact iff_of_true rfl hw
      · next hw => exact iff_of_false (by simp) hw
  · decide
  · decide +kernel
  · decide +kernel

/-- A datagram of the sensor. -/
def sensorReports (motion : UInt8) (clock : Clock) : Event :=
  .datagram (telemetryPacket (ascii "sensor") 1 200 motion 235) [] clock

/-- A motion that begins and ends in normal operation. -/
def pulse : List Event := [sensorReports 1 ⟨1500, 1⟩, sensorReports 0 ⟨1600, 1⟩]

/-- A motion that begins before a fault report of another device and ends before the recovery. -/
def pulseOverFault : List Event :=
  [sensorReports 1 ⟨1500, 1⟩,
    .frame 1 (DeviceMessage.fault ⟨ascii "other", 2, 1, []⟩).body ⟨1600, 1⟩,
    sensorReports 0 ⟨1700, 1⟩]

/-- A pulse in normal operation is shown. -/
theorem always_showsMotion_pulse :
    Always (monitored (restrict (fun _ e => e.isMotionOrFault (ascii "sensor") 1 = true)
        (step ⟨7, 5000⟩)) (watchMotion (ascii "sensor")))
      (fun p => ShowsMotion (ascii "lamp") (ascii "sensor") 0 p.1) (lampThere, 0) pulse := by
  refine (always_showsMotion_iff ⟨7, 5000⟩ uncommanded_lampThere pulse).mpr ?_
  exact eachStep_cons.mpr fun _ _ =>
    ⟨trivial, eachStep_cons.mpr fun _ _ => ⟨trivial, eachStep_nil⟩⟩

/-- After the recovery the lamp is still on. -/
theorem not_always_showsMotion_pulseOverFault :
    ¬Always (monitored (restrict (fun _ e => e.isMotionOrFault (ascii "sensor") 1 = true)
        (step ⟨7, 5000⟩)) (watchMotion (ascii "sensor")))
      (fun p => ShowsMotion (ascii "lamp") (ascii "sensor") 0 p.1) (lampThere, 0)
      (pulseOverFault ++ [.tick ⟨1800, 1⟩]) := by
  intro h
  have hrun : (run (monitored (restrict (fun _ e => e.isMotionOrFault (ascii "sensor") 1 = true)
      (step ⟨7, 5000⟩)) (watchMotion (ascii "sensor"))) (lampThere, 0)
      (pulseOverFault ++ [.tick ⟨1800, 1⟩])).any fun p =>
        p.1.fsm.state = .normalOperation ∧ p.1.motionFor (ascii "sensor") = 0 ∧
          (p.1.commandsOn 0).getLast? = some (commandFrame (ascii "lamp") 3 60) := by
    decide +kernel
  obtain ⟨p, hp, hbad⟩ := (Option.any_eq_true _ _).mp hrun
  obtain ⟨hnormal, hmotion, hlast⟩ := of_decide_eq_true hbad
  have hshows := h _ (List.prefix_refl _) p hp hnormal
  rw [hmotion] at hshows
  rcases hshows with hnone | hoff
  · rw [hnone] at hlast
    cases hlast
  · rw [getLast?_of_suffix [] hoff, Option.some.injEq] at hlast
    exact absurd (cmd_eq_of_commandFrame_eq (by decide) hlast) (by decide)

end Region

end SmartLighting
