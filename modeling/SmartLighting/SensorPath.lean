import SmartLighting.Sensor
import SmartLighting.ZoneLamps

/-!
# From a sensor to its region

Each datagram of a sensor is delivered to the telemetry server of its region, in order. The
region keeps the motion of the last report; a sensor that is not active forgets a change of
motion without having reported it.
-/

namespace SmartLighting

open Transition

/-- A sensor and its region. -/
structure SensorPath where
  /-- The sensor. -/
  sensor : Sensor
  /-- The region. -/
  region : Region

namespace SensorPath

open Region (motionFor)

/-- Both have just started. -/
def start : SensorPath := ⟨.start, .start⟩

/-- What can happen on the path. -/
inductive Event
  /-- `tick_timer` expires; the region reads its clock, and some memory beyond the datagram. -/
  | tick (draw : Fin 1000) (beyond : Bytes) (clock : Clock)
  /-- `ack_demo` expires. -/
  | ackDemo
  /-- `fault_reset_timer` expires. -/
  | faultReset

/-- The region receives datagrams. -/
def deliver (rcfg : RegionConfig) (beyond : Bytes) (clock : Clock) (r : Region)
    (datagrams : List Bytes) : Option Region :=
  datagrams.foldlM (fun r bytes => Region.step rcfg r (.datagram bytes beyond clock)) r

/-- A handler of the sensor runs, and the region receives what it sends. -/
def step (cfg : SensorConfig) (rcfg : RegionConfig) (s : SensorPath) : Event → Option SensorPath
  | .tick draw beyond clock =>
    let sensor := s.sensor.tick cfg draw
    (deliver rcfg beyond clock s.region (sensor.sent.drop s.sensor.sent.length)).map fun region =>
      ⟨sensor, region⟩
  | .ackDemo =>
    if s.sensor.ackWaits then some { s with sensor := s.sensor.ackDemo } else none
  | .faultReset =>
    if s.sensor.resetWaits then some { s with sensor := s.sensor.faultReset } else none

/-! ## The law of the path -/

/-- The sensor is active at the end of a tick. -/
def EndsActive (cfg : SensorConfig) (s : SensorPath) (draw : Fin 1000) : Prop :=
  s.sensor.state = .active ∧ ¬Sensor.Strikes cfg draw

instance (cfg : SensorConfig) (s : SensorPath) (draw : Fin 1000) :
    Decidable (EndsActive cfg s draw) :=
  inferInstanceAs (Decidable (_ ∧ _))

/-- Whether the sensor has missed an odd number of changes since its last report: those at ticks
at whose end it was not active. -/
def watchMissed (cfg : SensorConfig) (missed : Bool) (s : SensorPath) (e : Event)
    (_ : SensorPath) : Bool :=
  match e with
  | .tick draw _ _ =>
    if EndsActive cfg s draw then
      if s.sensor.measure.ReportDue cfg then false else missed
    else missed != decide (s.sensor.measure.motion ≠ s.sensor.prevMotion)
  | _ => missed

/-- After a tick at whose end the sensor is active, the region has its motion. -/
def Agrees (cfg : SensorConfig) (e : Event) (t : SensorPath) : Prop :=
  match e with
  | .tick .. => t.sensor.state = .active → motionFor t.region cfg.uri = t.sensor.motion
  | _ => True

/-- A name that fits the datagram: a report is due, or no change was missed. A longer name: there
is no motion. -/
def Informed (cfg : SensorConfig) (s : SensorPath) (missed : Bool) (e : Event) : Prop :=
  match e with
  | .tick draw _ _ => EndsActive cfg s draw →
    if cfg.uri.length ≤ 47 then s.sensor.measure.ReportDue cfg ∨ missed = false
    else s.sensor.secondsElapsed % 7 ≠ 0
  | _ => True

/-- What holds between two steps. -/
structure PathInv (cfg : SensorConfig) (s : SensorPath) (missed : Bool) : Prop where
  /-- The remembered motion is one. -/
  motion : s.sensor.prevMotion = 0 ∨ s.sensor.prevMotion = 1
  /-- The region has it, unless a change was missed. -/
  known : motionFor s.region (cfg.uri.take 47) =
    if missed then 1 - s.sensor.prevMotion else s.sensor.prevMotion
  /-- A name that does not fit the datagram is not known. -/
  cut : 47 < cfg.uri.length → s.region.lastMotion.lookup cfg.uri = none

variable {cfg : SensorConfig} {rcfg : RegionConfig} {s t : SensorPath} {e : Event} {missed : Bool}

/-- The measured motion is 0 or 1. -/
theorem motion_measure (s : Sensor) :
    s.measure.motion = if s.secondsElapsed % 7 = 0 then 1 else 0 := rfl

/-- The measured motion is a motion. -/
theorem motion_measure_cases (s : Sensor) : s.measure.motion = 0 ∨ s.measure.motion = 1 := by
  rw [motion_measure]
  split
  · exact Or.inr rfl
  · exact Or.inl rfl

/-- A change of motion makes a report due. -/
theorem motion_eq_of_not_due {s : Sensor} (hprev : s.prevMotion = 0 ∨ s.prevMotion = 1)
    (h : ¬s.measure.ReportDue cfg) : s.measure.motion = s.prevMotion := by
  rcases hprev with hprev | hprev <;> rcases motion_measure_cases s with hmotion | hmotion
  · rw [hmotion, hprev]
  · exact absurd (Or.inl ⟨hprev, hmotion⟩) h
  · exact absurd (Or.inr (Or.inl ⟨hprev, hmotion⟩)) h
  · rw [hmotion, hprev]

/-- A delivered packet is received under the name that it can hold. -/
theorem deliver_packet {uri : Bytes} (htext : 0 ∉ uri) (zone : UInt32) (lux : UInt16)
    (motion : UInt8) (tempX10 : Int16) (beyond : Bytes) (clock : Clock) (r : Region) :
    deliver rcfg beyond clock r [telemetryPacket uri zone lux motion tempX10] =
      some (Region.receive rcfg clock r ⟨uri.take 47, zone, lux, motion, tempX10⟩) := by
  simp only [deliver, List.foldlM_cons, List.foldlM_nil, Region.step, parseTelemetry_packet htext]
  rfl

/-- What a tick leaves on the path. -/
structure PathTick (cfg : SensorConfig) (s : SensorPath) (draw : Fin 1000) (t : SensorPath) :
    Prop where
  /-- What it leaves of the sensor. -/
  sensor : Sensor.Ticks cfg s.sensor draw t.sensor
  /-- A report is remembered under the name that the datagram holds. -/
  lastMotion : t.region.lastMotion =
    if EndsActive cfg s draw ∧ s.sensor.measure.ReportDue cfg then
      s.region.lastMotion.insert (cfg.uri.take 47) s.sensor.measure.motion
    else s.region.lastMotion

/-- Every tick does this. -/
theorem pathTick_of_step {draw : Fin 1000} {beyond : Bytes} {clock : Clock}
    (h : step cfg rcfg s (.tick draw beyond clock) = some t) : PathTick cfg s draw t := by
  have hticks := Sensor.ticks_tick cfg s.sensor draw
  obtain ⟨region, hdeliver, rfl⟩ := Option.map_eq_some_iff.mp h
  refine ⟨hticks, ?_⟩
  rw [hticks.sent, List.drop_left] at hdeliver
  unfold Sensor.packets at hdeliver
  unfold EndsActive
  by_cases hactive : s.sensor.state = .active
  · by_cases hstrikes : Sensor.Strikes cfg draw
    · rw [if_neg (not_not.mpr hactive), if_pos hstrikes, deliver_packet cfg.text] at hdeliver
      cases hdeliver
      rw [if_neg fun hends => hends.1.2 hstrikes]
      have hmarker : ¬((254 : UInt8) = 0 ∨ (254 : UInt8) = 1) := by decide
      exact (Region.receive_of_other hmarker).2
    · by_cases hdue : s.sensor.measure.ReportDue cfg
      · rw [if_neg (not_not.mpr hactive), if_neg hstrikes, if_pos hdue,
          deliver_packet cfg.text] at hdeliver
        cases hdeliver
        rw [if_pos ⟨⟨hactive, hstrikes⟩, hdue⟩, Region.lastMotion_receive]
        exact if_pos (motion_measure_cases s.sensor)
      · rw [if_neg (not_not.mpr hactive), if_neg hstrikes, if_neg hdue] at hdeliver
        cases hdeliver
        rw [if_neg fun hends => hdue hends.2]
  · rw [if_pos hactive] at hdeliver
    cases hdeliver
    rw [if_neg fun hends => hactive hends.1.1]

/-- A tick ends active exactly where its draw spares an active sensor. -/
theorem state_eq_active_iff {draw : Fin 1000} (h : PathTick cfg s draw t) :
    t.sensor.state = .active ↔ EndsActive cfg s draw := by
  rw [h.sensor.state, EndsActive]
  by_cases hactive : s.sensor.state = .active
  · by_cases hstrikes : Sensor.Strikes cfg draw <;> simp [hactive, hstrikes]
  · simp [hactive]

/-- The motion that the region has under a name after a tick. -/
theorem motionFor_tick {draw : Fin 1000} (h : PathTick cfg s draw t) (uri : Bytes) :
    motionFor t.region uri =
      if (EndsActive cfg s draw ∧ s.sensor.measure.ReportDue cfg) ∧ uri = cfg.uri.take 47 then
        s.sensor.measure.motion
      else motionFor s.region uri := by
  unfold motionFor
  rw [h.lastMotion]
  by_cases hdue : EndsActive cfg s draw ∧ s.sensor.measure.ReportDue cfg
  · rw [if_pos hdue, AssocMap.lookup_insert_eq]
    by_cases huri : uri = cfg.uri.take 47 <;> simp [hdue, huri]
  · rw [if_neg hdue, if_neg fun hboth => hdue hboth.1]

/-- A change inverts a motion. -/
theorem inverted_motion {prev motion : UInt8} (hprev : prev = 0 ∨ prev = 1)
    (hmotion : motion = 0 ∨ motion = 1) (missed : Bool) :
    (if missed then 1 - prev else prev) =
      if missed != decide (motion ≠ prev) then 1 - motion else motion := by
  rcases hprev with rfl | rfl <;> rcases hmotion with rfl | rfl <;> cases missed <;> decide

/-- A motion is the remembered one exactly when no change was missed. -/
theorem inverted_eq_iff {prev : UInt8} (hprev : prev = 0 ∨ prev = 1) (missed : Bool) :
    (if missed then 1 - prev else prev) = prev ↔ missed = false := by
  rcases hprev with rfl | rfl <;> cases missed <;> decide

/-- A long name is not the one that the datagrams carry. -/
theorem ne_take_of_long {uri : Bytes} (hlong : 47 < uri.length) : uri ≠ uri.take 47 := by
  intro heq
  have hlength := congrArg List.length heq
  rw [List.length_take] at hlength
  omega

/-- Every step keeps the invariant. -/
theorem PathInv.step (h : PathInv cfg s missed) (hstep : step cfg rcfg s e = some t) :
    PathInv cfg t (watchMissed cfg missed s e t) := by
  cases e with
  | tick draw beyond clock =>
    have htick := pathTick_of_step hstep
    have hmotion := motion_measure_cases s.sensor
    constructor
    · rw [htick.sensor.prevMotion]
      exact hmotion
    · simp only [htick.sensor.prevMotion, motionFor_tick htick, watchMissed, and_true]
      by_cases hactive : EndsActive cfg s draw
      · by_cases hdue : s.sensor.measure.ReportDue cfg
        · simp [hactive, hdue]
        · have hsame := motion_eq_of_not_due h.motion hdue
          simp only [hactive, hdue, and_false, if_false, if_true, hsame, h.known]
      · simp only [hactive, false_and, if_false, h.known]
        exact inverted_motion h.motion hmotion missed
    · intro hlong
      rw [htick.lastMotion]
      split
      · rw [AList.lookup_insert_ne (ne_take_of_long hlong), h.cut hlong]
      · exact h.cut hlong
  | ackDemo =>
    obtain ⟨-, hstep⟩ := Option.ite_none_right_eq_some.mp hstep
    cases hstep
    have hsame := s.sensor.prevMotion_ackDemo
    exact ⟨hsame ▸ h.motion, hsame ▸ h.known, h.cut⟩
  | faultReset =>
    obtain ⟨-, hstep⟩ := Option.ite_none_right_eq_some.mp hstep
    cases hstep
    have hsame := s.sensor.prevMotion_faultReset
    exact ⟨hsame ▸ h.motion, hsame ▸ h.known, h.cut⟩

/-- A tick leaves the region informed exactly when its condition holds. -/
theorem agrees_iff_informed (h : PathInv cfg s missed) (hstep : step cfg rcfg s e = some t) :
    Agrees cfg e t ↔ Informed cfg s missed e := by
  cases e with
  | ackDemo | faultReset => exact Iff.rfl
  | tick draw beyond clock =>
    have htick := pathTick_of_step hstep
    simp only [Agrees, Informed, state_eq_active_iff htick]
    refine imp_congr_right fun hactive => ?_
    rw [motionFor_tick htick, htick.sensor.motion]
    by_cases hfits : cfg.uri.length ≤ 47
    · rw [if_pos hfits]
      have hname := List.take_of_length_le hfits
      by_cases hdue : s.sensor.measure.ReportDue cfg
      · simp [hactive, hdue, hname]
      · have hknown := h.known
        rw [hname] at hknown
        simp only [hdue, and_false, false_and, if_false, false_or, hknown,
          motion_eq_of_not_due h.motion hdue]
        exact inverted_eq_iff h.motion missed
    · rw [if_neg hfits]
      have hname := ne_take_of_long (Nat.lt_of_not_le hfits)
      have hnone : motionFor s.region cfg.uri = 0 := by
        rw [motionFor, h.cut (by omega), Option.getD_none]
      rw [if_neg fun hboth => hname hboth.2, hnone, motion_measure]
      split
      · next hmotion => simp [hmotion]
      · next hmotion => simp [hmotion]

/-- In every run of the tick loop the region agrees with the active sensor after each tick exactly
when each of these ticks reports, or no change was missed since the last report. -/
theorem eachStep_agrees_iff (cfg : SensorConfig) (rcfg : RegionConfig) (es : List Event) :
    EachStep (monitored (step cfg rcfg) (watchMissed cfg)) (fun _ e q => Agrees cfg e q.1)
        (start, false) es ↔
      EachStep (monitored (step cfg rcfg) (watchMissed cfg))
        (fun p e _ => Informed cfg p.1 p.2 e) (start, false) es := by
  refine eachStep_monitored_iff (J := PathInv cfg) (L := fun _ _ e t _ => Agrees cfg e t)
    (C := Informed cfg) ?_ ?_ ?_
  · intro s missed e t h _ hstep
    exact h.step hstep
  · intro s missed e t h hstep
    exact agrees_iff_informed h hstep
  · exact ⟨Or.inl rfl, rfl, fun _ => rfl⟩

/-- A sensor without a heartbeat, whose thresholds are never reached. -/
def quietSensor : SensorConfig where
  uri := ascii "s"
  text := by decide
  zone := 1
  luxThreshold := 1000
  tempThresholdX10 := 1000
  heartbeatS := 0
  faultProbPerMille := 999
  faultResetAfterS := 1

/-- The sensor reports a motion, is struck when the motion ends, and is reset. -/
def struckAtFall : List Event :=
  [.ackDemo, .tick (Fin.last 999) [] ⟨0, 0⟩, .tick ⟨0, Nat.succ_pos 999⟩ [] ⟨0, 0⟩, .faultReset]

/-- After the next tick the sensor is active without motion, and the region still has one. -/
theorem not_eachStep_agrees_struckAtFall :
    ¬EachStep (monitored (step quietSensor ⟨1, 15000⟩) (watchMissed quietSensor))
      (fun _ e q => Agrees quietSensor e q.1) (start, false)
      (struckAtFall ++ [.tick (Fin.last 999) [] ⟨0, 0⟩]) := by
  intro h
  have hrun : (run (monitored (step quietSensor ⟨1, 15000⟩) (watchMissed quietSensor))
      (start, false) struckAtFall).any fun p =>
        (monitored (step quietSensor ⟨1, 15000⟩) (watchMissed quietSensor) p
          (.tick (Fin.last 999) [] ⟨0, 0⟩)).any fun q =>
            q.1.sensor.state = .active ∧
              motionFor q.1.region quietSensor.uri ≠ q.1.sensor.motion := by
    decide +kernel
  obtain ⟨p, hp, hstep⟩ := (Option.any_eq_true _ _).mp hrun
  obtain ⟨q, hq, hbad⟩ := (Option.any_eq_true _ _).mp hstep
  obtain ⟨hactive, hmotion⟩ := of_decide_eq_true hbad
  exact hmotion (h struckAtFall _ (List.prefix_refl _) p q hp hq hactive)

end SensorPath

end SmartLighting
