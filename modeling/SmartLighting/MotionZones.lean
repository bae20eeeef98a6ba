import SmartLighting.Sensor
import SmartLighting.ZoneLamps

/-!
# Motion of several sensors in a zone

The telemetry server remembers the last motion of each sensor, but commands all lamps of a
zone. When one sensor stops to see motion, the lamps are switched off, whatever the other
sensors of the zone see.
-/

namespace SmartLighting

open Transition

namespace Region

variable {cfg : RegionConfig} {r t : Region} {clock : Clock} {e : Event}
  {zoneOf : Bytes → UInt32}

/-- Telemetry with a motion of 0 or 1 from a sensor that stays in its zone. -/
def Event.isMotionIn (zoneOf : Bytes → UInt32) : Event → Bool
  | .datagram bytes beyond _ => (parseTelemetry bytes beyond).any fun tel =>
    (tel.motion = 0 ∨ tel.motion = 1) ∧ tel.zoneId = zoneOf tel.uri
  | _ => false

/-- The calls made between two states. -/
def newCmds (r t : Region) : List CmdCall := t.cmds.drop r.cmds.length

/-- When a datagram makes the server issue SWITCH_OFF, afterwards no sensor of its zone has a
motion. -/
def SparesMotion (zoneOf : Bytes → UInt32) (r : Region) (e : Event) (t : Region) : Prop :=
  match e with
  | .datagram bytes beyond _ => ∀ tel, parseTelemetry bytes beyond = some tel →
    (∃ c ∈ newCmds r t, c.cmd = 2) →
    ∀ v, zoneOf v = tel.zoneId → t.lastMotion.lookup v ≠ some 1
  | _ => True

/-- When the motion of a sensor ends in a zone with lamps, no other sensor of the zone has one. -/
def EndsLast (zoneOf : Bytes → UInt32) (r : Region) (e : Event) : Prop :=
  match e with
  | .datagram bytes beyond _ => ∀ tel, parseTelemetry bytes beyond = some tel →
    tel.motion = 0 → r.lastMotion.lookup tel.uri = some 1 →
    r.reg.getLampsInZone tel.zoneId ≠ [] →
    ∀ v, v ≠ tel.uri → zoneOf v = tel.zoneId → r.lastMotion.lookup v ≠ some 1
  | _ => True

/-- In normal operation telemetry makes the calls of its edge. -/
theorem newCmds_receive {tel : Telemetry} (hnormal : r.fsm.state = .normalOperation)
    (hmotion : tel.motion = 0 ∨ tel.motion = 1) :
    newCmds r (receive cfg clock r tel) = edgeCalls (r.reg.getLampsInZone tel.zoneId)
      ((r.lastMotion.lookup tel.uri).getD 0) tel.motion := by
  have hlamps := getLampsInZone_upsert_sensor r.reg tel clock.nowMs tel.zoneId
  rw [newCmds, receive_of_motion hmotion, motionEdge_eq]
  dsimp only
  rw [if_pos hnormal, cmds_makeCalls, hlamps]
  exact List.drop_left

/-- Only the calls of a falling edge switch lamps off. -/
theorem exists_switchOff_iff {lamps : List Bytes} {prev motion : UInt8} :
    (∃ c ∈ edgeCalls lamps prev motion, c.cmd = 2) ↔ prev = 1 ∧ motion = 0 ∧ lamps ≠ [] := by
  unfold edgeCalls edgeCommands
  by_cases hrise : prev = 0 ∧ motion = 1
  · rw [if_pos hrise, hrise.1, hrise.2]
    refine iff_of_false ?_ (by simp)
    rintro ⟨c, hc, hoff⟩
    obtain ⟨uri, -, hc⟩ := List.mem_flatMap.mp hc
    simp only [List.map_cons, List.map_nil, List.mem_cons, List.not_mem_nil, or_false] at hc
    rcases hc with rfl | rfl <;> exact absurd hoff (by simp)
  · rw [if_neg hrise]
    by_cases hfall : prev = 1 ∧ motion = 0
    · rw [if_pos hfall]
      simp only [hfall, true_and]
      constructor
      · rintro ⟨c, hc, -⟩ rfl
        cases hc
      · intro hne
        obtain ⟨uri, huri⟩ := List.exists_mem_of_ne_nil _ hne
        exact ⟨⟨uri, 2, 0⟩, List.mem_flatMap.mpr ⟨uri, huri, List.mem_singleton_self _⟩, rfl⟩
    · rw [if_neg hfall]
      refine iff_of_false ?_ fun h => hfall ⟨h.1, h.2.1⟩
      rintro ⟨c, hc, -⟩
      obtain ⟨uri, -, hc⟩ := List.mem_flatMap.mp hc
      cases hc

/-- The server stays in normal operation. -/
theorem normal_step_motion (hnormal : r.fsm.state = .normalOperation)
    (hmotion : e.isMotionIn zoneOf = true) (hstep : step cfg r e = some t) :
    t.fsm.state = .normalOperation := by
  cases e with
  | datagram bytes beyond clock =>
    simp only [step] at hstep
    split at hstep
    · next tel hparse =>
      cases hstep
      have htel : (tel.motion = 0 ∨ tel.motion = 1) ∧ tel.zoneId = zoneOf tel.uri := by
        simpa [Event.isMotionIn, hparse] using hmotion
      rw [receive_of_motion htel.1, (motionEdge_records tel).2.1]
      exact hnormal
    · cases hstep
      exact hnormal
  | frame | tick | posted | writeDone | close | expire => cases hmotion

/-- A step spares every other motion exactly when it ends the last one of its zone. -/
theorem sparesMotion_iff (hnormal : r.fsm.state = .normalOperation)
    (hmotion : e.isMotionIn zoneOf = true) (hstep : step cfg r e = some t) :
    SparesMotion zoneOf r e t ↔ EndsLast zoneOf r e := by
  cases e with
  | datagram bytes beyond clock =>
    cases hparse : parseTelemetry bytes beyond with
    | none => simp [Event.isMotionIn, hparse] at hmotion
    | some tel =>
      have htel : (tel.motion = 0 ∨ tel.motion = 1) ∧ tel.zoneId = zoneOf tel.uri := by
        simpa [Event.isMotionIn, hparse] using hmotion
      simp only [step, hparse] at hstep
      cases hstep
      have hprev : (r.lastMotion.lookup tel.uri).getD 0 = 1 ↔
          r.lastMotion.lookup tel.uri = some 1 := by
        cases r.lastMotion.lookup tel.uri <;> simp
      have hlookup : ∀ v, (receive cfg clock r tel).lastMotion.lookup v =
          if v = tel.uri then some tel.motion else r.lastMotion.lookup v := by
        intro v
        rw [lastMotion_receive, if_pos htel.1, AssocMap.lookup_insert_eq]
      simp only [SparesMotion, EndsLast, hparse, Option.some.injEq, forall_eq',
        newCmds_receive hnormal htel.1, exists_switchOff_iff, hprev, hlookup]
      constructor
      · intro h hzero hone hlamps v hv hzone
        have hother := h ⟨hone, hzero, hlamps⟩ v hzone
        rwa [if_neg hv] at hother
      · rintro h ⟨hone, hzero, hlamps⟩ v hzone
        split
        · rw [hzero]
          decide
        · next hv => exact h hzero hone hlamps v hv hzone
  | frame | tick | posted | writeDone | close | expire => cases hmotion

/-- In every run of telemetry in normal operation, no SWITCH_OFF is issued while a sensor of the
zone has a motion exactly when motions of one zone, where it has lamps, end one after another. -/
theorem eachStep_sparesMotion_iff (cfg : RegionConfig) (zoneOf : Bytes → UInt32) (es : List Event)
    (hnormal : r.fsm.state = .normalOperation) :
    EachStep (restrict (fun _ e => e.isMotionIn zoneOf = true) (step cfg))
        (SparesMotion zoneOf) r es ↔
      EachStep (restrict (fun _ e => e.isMotionIn zoneOf = true) (step cfg))
        (fun r e _ => EndsLast zoneOf r e) r es := by
  refine eachStep_iff_of_invariant (I := fun r => r.fsm.state = .normalOperation) ?_ ?_ hnormal
  · intro r e t hnormal _ hstep
    obtain ⟨hmotion, hmove⟩ := restrict_eq_some.mp hstep
    exact normal_step_motion hnormal hmotion hmove
  · intro r e t hnormal hstep
    obtain ⟨hmotion, hmove⟩ := restrict_eq_some.mp hstep
    exact sparesMotion_iff hnormal hmotion hmove

/-- A region with a lamp in zone 1. -/
def oneLamp : Region := { start with reg := Registry.empty.registerLamp (ascii "lamp") 1 }

/-- A datagram of a sensor in zone 1. -/
def motionIn1 (uri : Bytes) (motion : UInt8) : Event :=
  .datagram (telemetryPacket uri 1 200 motion 235) [] ⟨0, 0⟩

/-- The motion of a single sensor rises and falls. The lamp is switched off, and no other sensor
has a motion. -/
theorem eachStep_sparesMotion_oneLamp :
    EachStep (restrict (fun _ e => e.isMotionIn (fun _ => 1) = true) (step ⟨1, 15000⟩))
        (SparesMotion fun _ => 1) oneLamp [motionIn1 (ascii "a") 1, motionIn1 (ascii "a") 0] ∧
      (run (step ⟨1, 15000⟩) oneLamp [motionIn1 (ascii "a") 1, motionIn1 (ascii "a") 0]).any
        (fun r => r.cmds.any fun c => c.cmd = 2) = true := by
  refine ⟨(eachStep_sparesMotion_iff ⟨1, 15000⟩ (fun _ => 1) _ (by decide)).mpr ?_,
    by decide +kernel⟩
  refine eachStep_cons.mpr fun t ht => ⟨?_, eachStep_cons.mpr fun _ _ => ⟨?_, eachStep_nil⟩⟩
  · intro tel hparse hzero
    rw [parseTelemetry_packet (by decide)] at hparse
    cases hparse
    exact absurd hzero (by decide)
  · -- Only the sensor itself is remembered when its motion ends.
    intro tel hparse _ _ _ v hv _
    obtain ⟨-, hstep⟩ := restrict_eq_some.mp ht
    have htext : 0 ∉ ascii "a" := by decide
    simp only [motionIn1, step, parseTelemetry_packet htext] at hstep
    rw [parseTelemetry_packet htext] at hparse
    cases hparse
    cases hstep
    have hempty : oneLamp.lastMotion.lookup v = none := rfl
    rw [lastMotion_receive, if_pos (by decide), AssocMap.lookup_insert_eq, if_neg hv, hempty]
    decide

/-- The motions that two sensors see overlap; that of the first one is about to end. -/
def overlap : List Event := [motionIn1 (ascii "a") 1, motionIn1 (ascii "b") 1]

/-- The lamp is switched off while the second sensor has a motion. -/
theorem not_eachStep_sparesMotion_overlap :
    ¬EachStep (restrict (fun _ e => e.isMotionIn (fun _ => 1) = true) (step ⟨1, 15000⟩))
      (SparesMotion fun _ => 1) oneLamp (overlap ++ [motionIn1 (ascii "a") 0]) := by
  intro h
  have hrun : (run (restrict (fun _ e => e.isMotionIn (fun _ => 1) = true) (step ⟨1, 15000⟩))
      oneLamp overlap).any fun r =>
        (restrict (fun _ e => e.isMotionIn (fun _ => 1) = true) (step ⟨1, 15000⟩) r
          (motionIn1 (ascii "a") 0)).any fun t =>
            ((newCmds r t).any fun c => c.cmd = 2) ∧ t.lastMotion.lookup (ascii "b") = some 1 := by
    decide +kernel
  obtain ⟨r, hr, hstep⟩ := (Option.any_eq_true _ _).mp hrun
  obtain ⟨t, ht, hbad⟩ := (Option.any_eq_true _ _).mp hstep
  obtain ⟨hoff, hmotion⟩ := of_decide_eq_true hbad
  obtain ⟨c, hc, hcmd⟩ := List.any_eq_true.mp hoff
  have hspares := h overlap _ (List.prefix_refl _) r t hr ht
  exact hspares _ (parseTelemetry_packet (by decide) []) ⟨c, hc, of_decide_eq_true hcmd⟩
    (ascii "b") rfl hmotion

end Region

end SmartLighting
