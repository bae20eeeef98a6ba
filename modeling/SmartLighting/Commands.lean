import SmartLighting.Region

/-!
# Commands and what they leave alone

Motion callbacks call `send_cmd_to_uri` for the lamps of one zone. Sending a
command touches sessions and the session map, but neither the registry nor the
fault bookkeeping.
-/

namespace SmartLighting

open StateMachine Transition

namespace Region

variable {cfg : RegionConfig} {r t : Region} {e : Event} {clock : Clock} {uri : Bytes}
  {lamps : List Bytes}

/-- All that issuing commands leaves unchanged. -/
structure CommandsOnly (r t : Region) : Prop where
  /-- The registry. -/
  reg : t.reg = r.reg
  /-- The state machine. -/
  fsm : t.fsm = r.fsm
  /-- The lost devices. -/
  activeLost : t.activeLost = r.activeLost
  /-- The last motion of each sensor. -/
  lastMotion : t.lastMotion = r.lastMotion
  /-- The alarms. -/
  alarms : t.alarms = r.alarms
  /-- The database events. -/
  db : t.db = r.db

/-- Sessions, their map and the record of commands may change. -/
theorem CommandsOnly.of_sessions (r : Region) (sessions : ℕ → DeviceSession)
    (closed expired : Finset ℕ) (sessionMap : AssocMap Bytes ℕ) (cmds : List CmdCall) :
    CommandsOnly r { r with
      sessions := sessions
      closed := closed
      expired := expired
      sessionMap := sessionMap
      cmds := cmds } :=
  ⟨rfl, rfl, rfl, rfl, rfl, rfl⟩

theorem CommandsOnly.refl (r : Region) : CommandsOnly r r := .of_sessions r ..

theorem CommandsOnly.trans {a b c : Region} (hab : CommandsOnly a b) (hbc : CommandsOnly b c) :
    CommandsOnly a c :=
  ⟨hbc.reg.trans hab.reg, hbc.fsm.trans hab.fsm, hbc.activeLost.trans hab.activeLost,
    hbc.lastMotion.trans hab.lastMotion, hbc.alarms.trans hab.alarms, hbc.db.trans hab.db⟩

/-- A loop whose body only issues commands only issues commands. -/
theorem CommandsOnly.foldl {α : Type} {f : Region → α → Region}
    (hf : ∀ r a, CommandsOnly r (f r a)) (l : List α) (r : Region) :
    CommandsOnly r (l.foldl f r) := by
  induction l generalizing r with
  | nil => exact .refl r
  | cons a l ih => exact (hf r a).trans (ih (f r a))

theorem commandsOnly_sendCmdToUri (cmd value : UInt8) :
    CommandsOnly r (r.sendCmdToUri uri cmd value) := by
  unfold sendCmdToUri
  dsimp only
  split
  · exact .of_sessions r ..
  split
  · exact .of_sessions r ..
  split <;> exact .of_sessions r ..

/-- The call is recorded whether or not it reaches a session. -/
theorem cmds_sendCmdToUri (cmd value : UInt8) :
    (r.sendCmdToUri uri cmd value).cmds = r.cmds ++ [⟨uri, cmd, value⟩] := by
  unfold sendCmdToUri
  dsimp only
  split
  · rfl
  split
  · rfl
  split <;> rfl

/-- The calls of `send_cmd_to_uri` are made one after the other. -/
def makeCalls (r : Region) (calls : List CmdCall) : Region :=
  calls.foldl (fun r call => r.sendCmdToUri call.uri call.cmd call.value) r

theorem commandsOnly_makeCalls (calls : List CmdCall) : CommandsOnly r (r.makeCalls calls) := by
  unfold makeCalls
  exact .foldl (fun r call => commandsOnly_sendCmdToUri call.cmd call.value) calls r

/-- Every call is recorded. -/
theorem cmds_makeCalls (calls : List CmdCall) : (r.makeCalls calls).cmds = r.cmds ++ calls := by
  induction calls generalizing r with
  | nil => exact (List.append_nil _).symm
  | cons call calls ih =>
    rw [makeCalls, List.foldl_cons]
    refine ih.trans ?_
    rw [cmds_sendCmdToUri, List.append_assoc, List.singleton_append]

/-- The commands and arguments for one lamp at an edge. -/
def edgeCommands (prev motion : UInt8) : List (UInt8 × UInt8) :=
  if prev = 0 ∧ motion = 1 then [(1, 0), (3, 60)]
  else if prev = 1 ∧ motion = 0 then [(2, 0)]
  else []

/-- The calls at an edge: all commands for one lamp after the other. -/
def edgeCalls (lamps : List Bytes) (prev motion : UInt8) : List CmdCall :=
  lamps.flatMap fun uri => (edgeCommands prev motion).map fun c => ⟨uri, c.1, c.2⟩

/-- Without commands there are no calls. -/
theorem edgeCalls_eq_nil {prev motion : UInt8} (h : edgeCommands prev motion = []) :
    edgeCalls lamps prev motion = [] := by
  rw [edgeCalls, h]
  exact List.flatMap_eq_nil_iff.mpr fun _ _ => rfl

theorem motionOn_eq (r : Region) (zone : UInt32) :
    r.motionOn zone = if r.fsm.state = .normalOperation then
      r.makeCalls (edgeCalls (r.reg.getLampsInZone zone) 0 1) else r := by
  rw [motionOn, ite_not, makeCalls, edgeCalls, List.foldl_flatMap]
  rfl

theorem motionOff_eq (r : Region) (zone : UInt32) :
    r.motionOff zone = if r.fsm.state = .normalOperation then
      r.makeCalls (edgeCalls (r.reg.getLampsInZone zone) 1 0) else r := by
  rw [motionOff, ite_not, makeCalls, edgeCalls, List.foldl_flatMap]
  rfl

/-- What the edge detection does: in normal operation it makes the calls of the edge, if there is
one, and in any case it remembers the motion. -/
theorem motionEdge_eq (r : Region) (tel : Telemetry) :
    r.motionEdge tel =
      { (if r.fsm.state = .normalOperation then
          r.makeCalls (edgeCalls (r.reg.getLampsInZone tel.zoneId)
            ((r.lastMotion.lookup tel.uri).getD 0) tel.motion)
        else r) with
        lastMotion := r.lastMotion.insert tel.uri tel.motion } := by
  have hlast : ∀ calls,
      (if r.fsm.state = .normalOperation then r.makeCalls calls else r).lastMotion =
        r.lastMotion := by
    intro calls
    split
    · exact (commandsOnly_makeCalls calls).lastMotion
    · rfl
  unfold motionEdge
  dsimp only
  generalize (r.lastMotion.lookup tel.uri).getD 0 = prev
  by_cases hon : prev = 0 ∧ tel.motion = 1
  · have hoff : ¬(prev = 1 ∧ tel.motion = 0) := by
      rw [hon.1]
      exact fun h => absurd h.1 (by decide)
    rw [if_neg hoff, if_pos hon, motionOn_eq, hlast, hon.1, hon.2]
  · rw [if_neg hon]
    by_cases hoff : prev = 1 ∧ tel.motion = 0
    · rw [if_pos hoff, motionOff_eq, hlast, hoff.1, hoff.2]
    · have hnone : edgeCalls (r.reg.getLampsInZone tel.zoneId) prev tel.motion = [] := by
        refine edgeCalls_eq_nil ?_
        rw [edgeCommands, if_neg hon, if_neg hoff]
      have hquiet : (if r.fsm.state = .normalOperation then r.makeCalls [] else r) = r := ite_self r
      rw [if_neg hoff, hnone, hquiet]

/-- Edge detection changes, apart from commands, only the last motion. -/
theorem motionEdge_records (tel : Telemetry) :
    (r.motionEdge tel).reg = r.reg ∧ (r.motionEdge tel).fsm = r.fsm ∧
      (r.motionEdge tel).activeLost = r.activeLost ∧ (r.motionEdge tel).alarms = r.alarms := by
  rw [motionEdge_eq]
  split
  · have hcalls := commandsOnly_makeCalls (r := r) (edgeCalls (r.reg.getLampsInZone tel.zoneId)
      ((r.lastMotion.lookup tel.uri).getD 0) tel.motion)
    exact ⟨hcalls.reg, hcalls.fsm, hcalls.activeLost, hcalls.alarms⟩
  · exact ⟨rfl, rfl, rfl, rfl⟩

theorem commandsOnly_onClose (k : ℕ) : CommandsOnly r (r.onClose k) := by
  unfold onClose
  dsimp only
  split
  · exact .of_sessions r ..
  split
  · exact .of_sessions r ..
  split <;> exact .of_sessions r ..

/-! ## The lamps that are commanded -/

/-- All commands issued on the way from `r` to `t` go to the listed lamps. -/
def Issues (lamps : List Bytes) (r t : Region) : Prop :=
  ∃ new, t.cmds = r.cmds ++ new ∧ ∀ c ∈ new, c.uri ∈ lamps

/-- Where no command was recorded, none was issued. -/
theorem Issues.of_eq (h : t.cmds = r.cmds) : Issues lamps r t :=
  ⟨[], by rw [h, List.append_nil], by simp⟩

/-- The calls of an edge go to its lamps. -/
theorem uri_of_mem_edgeCalls {prev motion : UInt8} {c : CmdCall}
    (h : c ∈ edgeCalls lamps prev motion) : c.uri ∈ lamps := by
  obtain ⟨uri, huri, hc⟩ := List.mem_flatMap.mp h
  obtain ⟨command, -, rfl⟩ := List.mem_map.mp hc
  exact huri

theorem issues_motionEdge (tel : Telemetry) :
    Issues (r.reg.getLampsInZone tel.zoneId) r (r.motionEdge tel) := by
  rw [motionEdge_eq]
  split
  · exact ⟨_, cmds_makeCalls _, fun c hc => uri_of_mem_edgeCalls hc⟩
  · exact .of_eq rfl

/-- The zone in which an event may be a motion edge. -/
def Event.motionZone : Event → Option UInt32
  | .datagram bytes beyond _ => (parseTelemetry bytes beyond).map fun tel => tel.zoneId
  | _ => none

theorem cmds_faultMarker (tel : Telemetry) : (faultMarker cfg clock r tel).cmds = r.cmds := by
  unfold faultMarker
  dsimp only
  split <;> rfl

theorem cmds_onClose (k : ℕ) : (r.onClose k).cmds = r.cmds := by
  unfold onClose
  dsimp only
  split
  · rfl
  split
  · rfl
  split <;> rfl

theorem cmds_handleFrame (k : ℕ) (body : Bytes) :
    (handleFrame cfg clock r k body).cmds = r.cmds := by
  unfold handleFrame
  dsimp only
  split <;> rfl

theorem cmds_tick : (tick cfg clock r).cmds = r.cmds := by
  have hloop : ∀ (lost : List Bytes) (r : Region),
      (lost.foldl (reportLost cfg clock) r).cmds = r.cmds := by
    intro lost
    induction lost with
    | nil => exact fun r => rfl
    | cons uri lost ih =>
      intro r
      rw [List.foldl_cons, ih]
      unfold reportLost
      split <;> rfl
  unfold tick
  dsimp only
  split
  · split <;> exact hloop _ _
  · exact hloop _ _

/-- Telemetry commands lamps of its zone, as the index stands after its handler. -/
theorem issues_receive (tel : Telemetry) :
    Issues ((receive cfg clock r tel).reg.getLampsInZone tel.zoneId) r
      (receive cfg clock r tel) := by
  unfold receive
  dsimp only
  by_cases hedge : tel.motion = 0 ∨ tel.motion = 1
  · have hmarker : tel.motion ≠ 254 := by
      rcases hedge with h | h <;> rw [h] <;> decide
    rw [if_pos hedge, if_neg hmarker, (motionEdge_records tel).1]
    exact issues_motionEdge tel
  · rw [if_neg hedge]
    refine .of_eq ?_
    split
    · exact cmds_faultMarker tel
    · rfl

/-- A handler commands only lamps that the index lists for the zone of a motion edge. -/
theorem issues_step (h : step cfg r e = some t) :
    Issues (e.motionZone.elim [] t.reg.getLampsInZone) r t := by
  cases e with
  | frame k body clock =>
    simp only [step] at h
    split at h
    · cases h
    · cases h
      exact .of_eq (cmds_handleFrame k body)
  | datagram bytes beyond clock =>
    simp only [step] at h
    split at h
    · next tel hparse =>
      cases h
      simp only [Event.motionZone, hparse]
      exact issues_receive tel
    · cases h
      exact .of_eq rfl
  | tick clock =>
    cases h
    exact .of_eq cmds_tick
  | posted k =>
    obtain ⟨q, -, rfl⟩ := Option.map_eq_some_iff.mp h
    exact .of_eq rfl
  | writeDone k i ok =>
    obtain ⟨s, -, rfl⟩ := Option.map_eq_some_iff.mp h
    cases ok with
    | true => exact .of_eq rfl
    | false => exact .of_eq (cmds_onClose k)
  | close k =>
    simp only [step] at h
    split at h
    · cases h
    · cases h
      exact .of_eq (cmds_onClose k)
  | expire k =>
    simp only [step] at h
    split at h
    · cases h
      exact .of_eq rfl
    · cases h

end Region

end SmartLighting
