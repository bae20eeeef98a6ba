import SmartLighting.DeviceViews
import SmartLighting.LampSpeech
import SmartLighting.SensorRuns

/-!
# A region and all its devices

The lamps and the sensors of a region run beside it. Their frames and datagrams reach the region in
any order and through any session, once, several times or never; and the lamps receive any frames
whatever. What the region keeps and reports is then about these devices, and says what they are.
-/

namespace SmartLighting

open StateMachine Transition

/-- The devices of a region and their settings. -/
structure Deployment (ι κ : Type) where
  /-- The lamps. -/
  lamp : ι → LampConfig
  /-- The sensors. -/
  sensor : κ → SensorConfig
  /-- The region. -/
  region : RegionConfig
  /-- No lamp has the name of a sensor, as far as a datagram holds it. -/
  apart : ∀ i j, (lamp i).uri ≠ (sensor j).uri.take 47

/-- The power that a lamp reports with its status. -/
def PowerLaw (on intensity : UInt8) (powerMw : UInt32) : Prop :=
  on = 0 ∧ powerMw = 0 ∨ on = 1 ∧ powerMw = 70000 + 800 * intensity.toUInt32

/-- The state of a lamp of these settings. -/
structure IsLampState (cfg : LampConfig) (st : DeviceState) : Prop where
  /-- It is a luminaire. -/
  type : st.type = .luminaire
  /-- It is in its zone. -/
  zone : st.zoneId = cfg.zone
  /-- It consumes what it should. -/
  power : PowerLaw st.on st.intensity st.powerMw

/-- The state of a sensor of these settings. -/
structure IsSensorState (cfg : SensorConfig) (st : DeviceState) : Prop where
  /-- It is a sensor. -/
  type : st.type = .sensor
  /-- It is in its zone. -/
  zone : st.zoneId = cfg.zone
  /-- It consumes nothing. -/
  power : st.on = 0 ∧ st.intensity = 0 ∧ st.powerMw = 0

namespace Deployment

variable {ι κ : Type} {d : Deployment ι κ}

/-- An entry is that of a device of the deployment. -/
def Describes (d : Deployment ι κ) (uri : Bytes) (st : DeviceState) : Prop :=
  (∃ i, uri = (d.lamp i).uri ∧ IsLampState (d.lamp i) st) ∨
    ∃ j, uri = (d.sensor j).uri.take 47 ∧ IsSensorState (d.sensor j) st

/-- An alarm reports the simulated fault of a device, or its loss. -/
def Reports (d : Deployment ι κ) (a : AlarmUp) : Prop :=
  a.regionId = d.region.regionId ∧
    ((∃ i, a.uri = (d.lamp i).uri ∧ a.deviceType = 1 ∧ a.zoneId = (d.lamp i).zone ∧
        (a.code = 1 ∧ a.text = ascii "fault_detected" ∨ a.code = 9 ∧ a.text = ascii "comm_lost")) ∨
      ∃ j, a.uri = (d.sensor j).uri.take 47 ∧ a.deviceType = 2 ∧ a.zoneId = (d.sensor j).zone ∧
        (a.code = 1 ∧ a.text = ascii "sensor_fault" ∨ a.code = 9 ∧ a.text = ascii "comm_lost"))

/-- A database call writes the status of a device, or its fault. -/
def Writes (d : Deployment ι κ) (call : DbCall) : Prop :=
  (∃ uri st, d.Describes uri st ∧ call ∈ Region.statusCalls d.region uri st) ∨
    ∃ a, d.Reports a ∧ a.code = 1 ∧ call = .fault a.uri a.regionId a.zoneId a.code a.text

/-- A command goes to a lamp in the zone of a sensor. -/
def Commands (d : Deployment ι κ) (c : CmdCall) : Prop :=
  ∃ i j, c.uri = (d.lamp i).uri ∧ (d.lamp i).zone = (d.sensor j).zone

/-- What holds of the region of a deployment. -/
structure Honest (d : Deployment ι κ) (r : Region) : Prop where
  /-- The sessions have the names of known devices. -/
  known : Region.Known r
  /-- The registry describes the devices. -/
  entries : ∀ uri st, r.reg.get uri = some st → d.Describes uri st
  /-- The zone lists hold the lamps of the zones. -/
  zones : ∀ uri z, uri ∈ r.reg.getLampsInZone z →
    ∃ i, uri = (d.lamp i).uri ∧ z = (d.lamp i).zone
  /-- The alarms report the devices. -/
  alarms : ∀ a ∈ r.alarms, d.Reports a
  /-- The database calls write them. -/
  db : ∀ call ∈ r.db, d.Writes call
  /-- The commands go to them. -/
  cmds : ∀ c ∈ r.cmds, d.Commands c

/-- An event of the region whose message comes from a device. -/
def Sends (d : Deployment ι κ) : Region.Event → Prop
  | .frame _ body _ =>
    ∃ i msg, Lamp.Says (d.lamp i) msg ∧ DeviceMessage.ofBody body = some msg
  | .datagram bytes beyond _ =>
    ∃ j lux motion tempX10, (motion = 0 ∨ motion = 1 ∨ motion = 254) ∧
      parseTelemetry bytes beyond =
        some ⟨(d.sensor j).uri.take 47, (d.sensor j).zone, lux, motion, tempX10⟩
  | _ => True

/-! ## The entries -/

/-- Under the name of a lamp there is a lamp. -/
theorem Describes.isLamp {i : ι} {st : DeviceState} (h : d.Describes (d.lamp i).uri st) :
    st.type = .luminaire ∧ PowerLaw st.on st.intensity st.powerMw := by
  rcases h with ⟨i', -, hst⟩ | ⟨j, huri, -⟩
  · exact ⟨hst.type, hst.power⟩
  · exact absurd huri (d.apart i j)

/-- Under the name of a sensor there is a sensor. -/
theorem Describes.isSensor {j : κ} {st : DeviceState}
    (h : d.Describes ((d.sensor j).uri.take 47) st) :
    st.type = .sensor ∧ st.on = 0 ∧ st.intensity = 0 ∧ st.powerMw = 0 := by
  rcases h with ⟨i, huri, -⟩ | ⟨j', -, hst⟩
  · exact absurd huri.symm (d.apart i j)
  · exact ⟨hst.type, hst.power⟩

/-- The status of a lamp obeys the law of its power. -/
theorem powerLaw_statusReport (cfg : LampConfig) (l : Lamp) :
    PowerLaw (l.statusReport cfg).on (l.statusReport cfg).intensity
      (l.statusReport cfg).powerMw := by
  unfold Lamp.statusReport PowerLaw
  by_cases hon : l.state = .on
  · exact Or.inr ⟨if_pos hon, by simp [hon]⟩
  · exact Or.inl ⟨if_neg hon, by simp [hon]⟩

variable {r t : Region} {e : Region.Event} {uri : Bytes} {st : DeviceState}

/-- A lamp's message stores its lamp. -/
private theorem Honest.stored_frame (h : d.Honest r) {k : ℕ} {body : Bytes} {clock : Clock} {i : ι}
    {msg : DeviceMessage} (hsaid : Lamp.Says (d.lamp i) msg)
    (hm : DeviceMessage.ofBody body = some msg)
    (hstored : r.stored (.frame k body clock) = some (uri, st)) : d.Describes uri st := by
  have hold : ∀ old, r.reg.get (d.lamp i).uri = some old →
      old.type = .luminaire ∧ PowerLaw old.on old.intensity old.powerMw := fun old hget =>
    (h.entries _ old hget).isLamp
  simp only [Region.stored, DeviceSession.stored, hm] at hstored
  refine Or.inl ⟨i, ?_⟩
  cases hsaid with
  | register =>
    obtain ⟨-, heq⟩ := Option.ite_none_right_eq_some.mp hstored
    cases heq
    exact ⟨rfl, rfl, rfl, Or.inl ⟨rfl, rfl⟩⟩
  | status l =>
    obtain ⟨st', hst, heq⟩ := Option.map_eq_some_iff.mp hstored
    cases heq
    have huri : (l.statusReport (d.lamp i)).uri = (d.lamp i).uri := rfl
    rw [huri] at hst
    cases hget : r.reg.get (d.lamp i).uri with
    | none =>
      rw [hget, h.known.statusState_none k (by rw [huri, hget])] at hst
      cases hst
    | some old =>
      rw [hget] at hst
      obtain rfl := DeviceSession.eq_of_statusState hst
      exact ⟨rfl, (hold old hget).1, rfl, powerLaw_statusReport (d.lamp i) l⟩
  | fault =>
    cases hstored
    refine ⟨rfl, ?_, rfl, ?_⟩
    · simp only [DeviceSession.faultState]
      rw [h.known.faultType_eq k]
      have huri : (Lamp.faultMessage (d.lamp i)).uri = (d.lamp i).uri := rfl
      rw [huri]
      cases hget : r.reg.get (d.lamp i).uri with
      | none => rfl
      | some old => exact (hold old hget).1
    · have huri : (Lamp.faultMessage (d.lamp i)).uri = (d.lamp i).uri := rfl
      simp only [DeviceSession.faultState]
      rw [huri]
      cases hget : r.reg.get (d.lamp i).uri with
      | none => exact Or.inl ⟨rfl, rfl⟩
      | some old => exact (hold old hget).2

/-- A sensor's datagram stores its sensor. -/
private theorem Honest.stored_datagram (h : d.Honest r) {bytes beyond : Bytes} {clock : Clock}
    {j : κ} {lux : UInt16} {motion : UInt8} {tempX10 : Int16}
    (hparse : parseTelemetry bytes beyond =
      some ⟨(d.sensor j).uri.take 47, (d.sensor j).zone, lux, motion, tempX10⟩)
    (hstored : r.stored (.datagram bytes beyond clock) = some (uri, st)) :
    d.Describes uri st := by
  simp only [Region.stored, hparse, Option.map_some, Option.some.injEq, Prod.mk.injEq] at hstored
  obtain ⟨rfl, rfl⟩ := hstored
  refine Or.inr ⟨j, rfl, ?_⟩
  split
  · exact ⟨rfl, rfl, rfl, rfl, rfl⟩
  · cases hget : r.reg.get ((d.sensor j).uri.take 47) with
    | none => exact ⟨rfl, rfl, rfl, rfl, rfl⟩
    | some old => exact ⟨rfl, rfl, (h.entries _ old hget).isSensor.2⟩

/-- Whatever a device sends, its state is stored. -/
theorem Honest.stored (h : d.Honest r) (hsends : d.Sends e)
    (hstored : r.stored e = some (uri, st)) : d.Describes uri st := by
  cases e with
  | frame k body clock =>
    obtain ⟨i, msg, hsaid, hm⟩ := hsends
    exact h.stored_frame hsaid hm hstored
  | datagram bytes beyond clock =>
    obtain ⟨j, lux, motion, tempX10, -, hparse⟩ := hsends
    exact h.stored_datagram hparse hstored
  | tick clock => cases hstored
  | posted k => cases hstored
  | writeDone k i ok => cases hstored
  | close k => cases hstored
  | expire k => cases hstored

/-- A latched fault leaves the description. -/
theorem Describes.latch (h : d.Describes uri st) (now timeoutMs : UInt64) :
    d.Describes uri (Registry.latch now timeoutMs st) := by
  unfold Registry.latch
  split
  · rcases h with ⟨i, huri, hst⟩ | ⟨j, huri, hst⟩
    · exact Or.inl ⟨i, huri, hst.type, hst.zone, hst.power⟩
    · exact Or.inr ⟨j, huri, hst.type, hst.zone, hst.power⟩
  · exact h

/-- A described lamp is a lamp of the deployment. -/
theorem Describes.lamp (h : d.Describes uri st) (htype : st.type = .luminaire) :
    ∃ i, uri = (d.lamp i).uri ∧ IsLampState (d.lamp i) st := by
  rcases h with hlamp | ⟨j, -, hst⟩
  · exact hlamp
  · rw [hst.type] at htype
    exact absurd htype DeviceType.sensor_ne_luminaire

/-- The registry after a step describes the devices. -/
private theorem Honest.entries_step (h : d.Honest r) (hsends : d.Sends e)
    (hstep : Region.step d.region r e = some t) (hget : t.reg.get uri = some st) :
    d.Describes uri st := by
  rcases Region.step_cases hstep with ⟨clock, -, hticks⟩ | ⟨-, hstores⟩
  · rw [hticks.get] at hget
    obtain ⟨old, hold, rfl⟩ := Option.map_eq_some_iff.mp hget
    exact (h.entries uri old hold).latch ..
  · by_cases hstored : ∃ st', r.stored e = some (uri, st')
    · obtain ⟨st', hst'⟩ := hstored
      rw [hstores.get_stored hst'] at hget
      cases hget
      exact h.stored hsends hst'
    · rw [hstores.get_other (not_exists.mp hstored)] at hget
      exact h.entries uri st hget

/-- The zone lists after a step hold the lamps of the zones. -/
private theorem Honest.zones_step (h : d.Honest r) (hsends : d.Sends e)
    (hstep : Region.step d.region r e = some t) {z : UInt32}
    (hmem : uri ∈ t.reg.getLampsInZone z) : ∃ i, uri = (d.lamp i).uri ∧ z = (d.lamp i).zone := by
  rcases Region.step_cases hstep with ⟨clock, -, hticks⟩ | ⟨-, hstores⟩
  · rw [hticks.lamps] at hmem
    exact h.zones uri z hmem
  · rcases (hstores.lamps uri z).mp hmem with hold | ⟨st, hstored, htype, -, hzone⟩
    · exact h.zones uri z hold
    · obtain ⟨i, huri, hst⟩ := (h.stored hsends hstored).lamp htype
      exact ⟨i, huri, by rw [← hzone, hst.zone]⟩

/-! ## The outputs -/

/-- The alarm for the fault of a lamp. -/
private theorem Honest.reports_deviceAlarm (h : d.Honest r) (i : ι) (clock : Clock) (k : ℕ) :
    d.Reports (Region.deviceAlarm d.region clock (Lamp.faultMessage (d.lamp i))
      ((r.sessions k).faultType (Lamp.faultMessage (d.lamp i))
        (r.reg.get (Lamp.faultMessage (d.lamp i)).uri))) := by
  have htype : (r.sessions k).faultType (Lamp.faultMessage (d.lamp i))
      (r.reg.get (Lamp.faultMessage (d.lamp i)).uri) = .luminaire := by
    rw [h.known.faultType_eq k]
    have huri : (Lamp.faultMessage (d.lamp i)).uri = (d.lamp i).uri := rfl
    rw [huri]
    cases hget : r.reg.get (d.lamp i).uri with
    | none => rfl
    | some old => exact (h.entries _ old hget).isLamp.1
  rw [htype]
  exact ⟨rfl, Or.inl ⟨i, rfl, rfl, rfl, Or.inl ⟨rfl, rfl⟩⟩⟩

/-- The alarm for the fault of a sensor. -/
private theorem reports_sensorAlarm (j : κ) (clock : Clock) (lux : UInt16) (motion : UInt8)
    (tempX10 : Int16) :
    d.Reports (Region.sensorAlarm d.region clock
      ⟨(d.sensor j).uri.take 47, (d.sensor j).zone, lux, motion, tempX10⟩) :=
  ⟨rfl, Or.inr ⟨j, rfl, rfl, rfl, Or.inl ⟨rfl, rfl⟩⟩⟩

/-- The alarm for a lost device. -/
private theorem Describes.reports_commLostAlarm (h : d.Describes uri st)
    (hget : r.reg.get uri = some st) (clock : Clock) :
    d.Reports (Region.commLostAlarm d.region clock r uri) := by
  have htype : (Region.commLostAlarm d.region clock r uri).deviceType =
      if st.type = .luminaire then 1 else 2 := by
    simp only [Region.commLostAlarm, hget]
  have hzone : (Region.commLostAlarm d.region clock r uri).zoneId = st.zoneId := by
    simp only [Region.commLostAlarm, hget]
  refine ⟨rfl, ?_⟩
  rw [htype, hzone]
  rcases h with ⟨i, huri, hst⟩ | ⟨j, huri, hst⟩
  · exact Or.inl ⟨i, huri, if_pos hst.type, hst.zone, Or.inr ⟨rfl, rfl⟩⟩
  · refine Or.inr ⟨j, huri, if_neg ?_, hst.zone, Or.inr ⟨rfl, rfl⟩⟩
    rw [hst.type]
    exact DeviceType.sensor_ne_luminaire

/-- The alarms of a handler report the devices. -/
private theorem Honest.reports_raised (h : d.Honest r) (hsends : d.Sends e) :
    ∀ a ∈ Region.raised d.region r e, d.Reports a := by
  cases e with
  | frame k body clock =>
    obtain ⟨i, msg, hsaid, hm⟩ := hsends
    intro a ha
    simp only [Region.raised, hm] at ha
    cases hsaid with
    | register => exact absurd ha List.not_mem_nil
    | status l => exact absurd ha List.not_mem_nil
    | fault =>
      rw [List.mem_singleton.mp ha]
      exact h.reports_deviceAlarm i clock k
  | datagram bytes beyond clock =>
    obtain ⟨j, lux, motion, tempX10, -, hparse⟩ := hsends
    intro a ha
    simp only [Region.raised, hparse] at ha
    split at ha
    · rw [List.mem_singleton.mp ha]
      exact reports_sensorAlarm j clock lux motion tempX10
    · exact absurd ha List.not_mem_nil
  | tick clock =>
    intro a ha
    obtain ⟨uri, huri, rfl⟩ := List.mem_map.mp ha
    have hlost : Region.NewlyLost d.region clock r uri := (List.mem_filter.mp huri).1
    obtain ⟨st, hget, -⟩ := Region.newlyLost_iff.mp hlost
    exact (h.entries uri st hget).reports_commLostAlarm hget clock
  | posted k => exact fun a ha => absurd ha List.not_mem_nil
  | writeDone k i ok => exact fun a ha => absurd ha List.not_mem_nil
  | close k => exact fun a ha => absurd ha List.not_mem_nil
  | expire k => exact fun a ha => absurd ha List.not_mem_nil

/-- The database calls of a handler write the devices. -/
private theorem Honest.writes_dbCalls (h : d.Honest r) (hsends : d.Sends e) :
    ∀ call ∈ Region.dbCalls d.region r e, d.Writes call := by
  cases e with
  | frame k body clock =>
    obtain ⟨i, msg, hsaid, hm⟩ := hsends
    intro call hcall
    simp only [Region.dbCalls, hm] at hcall
    cases hsaid with
    | register => exact absurd hcall List.not_mem_nil
    | status l =>
      dsimp only at hcall
      split at hcall
      · next st hst =>
        have hstored : r.stored (.frame k body clock) =
            some ((l.statusReport (d.lamp i)).uri, st) := by
          simp only [Region.stored, DeviceSession.stored, hm, hst, Option.map_some]
        exact Or.inl ⟨_, st, h.stored_frame (.status l) hm hstored, hcall⟩
      · exact absurd hcall List.not_mem_nil
    | fault =>
      rw [List.mem_singleton.mp hcall]
      exact Or.inr ⟨_, h.reports_deviceAlarm i clock k, rfl, rfl⟩
  | datagram bytes beyond clock =>
    obtain ⟨j, lux, motion, tempX10, -, hparse⟩ := hsends
    intro call hcall
    simp only [Region.dbCalls, hparse] at hcall
    split at hcall
    · next hmarker =>
      rcases List.mem_cons.mp hcall with rfl | hcall
      · have hstored : r.stored (.datagram bytes beyond clock) =
            some ((d.sensor j).uri.take 47,
              ⟨.sensor, (d.sensor j).zone, 0, 0, 0, true, clock.nowMs⟩) := by
          simp only [Region.stored, hparse, Option.map_some, if_pos hmarker]
        refine Or.inl ⟨_, _, h.stored_datagram hparse hstored, ?_⟩
        rw [Region.statusCalls, if_neg DeviceType.sensor_ne_luminaire]
        exact List.mem_singleton.mpr rfl
      · rw [List.mem_singleton.mp hcall]
        exact Or.inr ⟨_, reports_sensorAlarm j clock lux motion tempX10, rfl, rfl⟩
    · exact absurd hcall List.not_mem_nil
  | tick clock => exact fun call hcall => absurd hcall List.not_mem_nil
  | posted k => exact fun call hcall => absurd hcall List.not_mem_nil
  | writeDone k i ok => exact fun call hcall => absurd hcall List.not_mem_nil
  | close k => exact fun call hcall => absurd hcall List.not_mem_nil
  | expire k => exact fun call hcall => absurd hcall List.not_mem_nil

/-- The commands of a handler go to the lamps in the zone of a sensor. -/
private theorem Honest.cmds_step (h : d.Honest r) (hsends : d.Sends e)
    (hstep : Region.step d.region r e = some t) : ∀ c ∈ t.cmds, d.Commands c := by
  obtain ⟨new, hcmds, hnew⟩ := Region.issues_step hstep
  rw [hcmds]
  intro c hc
  rcases List.mem_append.mp hc with hold | hissued
  · exact h.cmds c hold
  · have hmem := hnew c hissued
    cases e with
    | datagram bytes beyond clock =>
      have hsends' := hsends
      obtain ⟨j, lux, motion, tempX10, -, hparse⟩ := hsends'
      simp only [Region.Event.motionZone, hparse, Option.map_some, Option.elim_some] at hmem
      obtain ⟨i, huri, hzone⟩ := h.zones_step hsends hstep hmem
      exact ⟨i, j, huri, hzone.symm⟩
    | frame k body clock => exact absurd hmem List.not_mem_nil
    | tick clock => exact absurd hmem List.not_mem_nil
    | posted k => exact absurd hmem List.not_mem_nil
    | writeDone k i ok => exact absurd hmem List.not_mem_nil
    | close k => exact absurd hmem List.not_mem_nil
    | expire k => exact absurd hmem List.not_mem_nil

/-- **Step lemma.** A handler whose message comes from a device keeps the region honest. -/
theorem Honest.step (h : d.Honest r) (hsends : d.Sends e)
    (hstep : Region.step d.region r e = some t) : d.Honest t := by
  obtain ⟨halarms, hdb⟩ := Region.outputs_step hstep
  refine ⟨h.known.step hstep, fun uri st hget => h.entries_step hsends hstep hget,
    fun uri z hmem => h.zones_step hsends hstep hmem, ?_, ?_, h.cmds_step hsends hstep⟩
  · rw [halarms, List.forall_mem_append]
    exact ⟨h.alarms, h.reports_raised hsends⟩
  · rw [hdb, List.forall_mem_append]
    exact ⟨h.db, h.writes_dbCalls hsends⟩

theorem honest_start (d : Deployment ι κ) : d.Honest .start where
  known := Region.known_start
  entries _ st hget := (Option.some_ne_none st hget.symm).elim
  zones _ _ hmem := absurd hmem List.not_mem_nil
  alarms _ ha := absurd ha List.not_mem_nil
  db _ hcall := absurd hcall List.not_mem_nil
  cmds _ hc := absurd hc List.not_mem_nil

end Deployment

/-! ## The fleet -/

/-- The devices of a deployment and their region, as they run. -/
structure Fleet (ι κ : Type) where
  /-- The lamps. -/
  lamps : ι → Lamp
  /-- The sensors. -/
  sensors : κ → Sensor
  /-- The region. -/
  region : Region

namespace Fleet

variable {ι κ : Type} {d : Deployment ι κ} {f g : Fleet ι κ}

/-- What can happen. -/
inductive Event (ι κ : Type)
  /-- A handler of a lamp, whatever frame it may have read. -/
  | lamp (i : ι) (e : Lamp.Event)
  /-- A handler of a sensor. -/
  | sensor (j : κ) (e : Sensor.Event)
  /-- A frame that a lamp has written reaches a session. -/
  | frame (i : ι) (n session : ℕ) (clock : Clock)
  /-- A datagram that a sensor has sent reaches the telemetry server. -/
  | datagram (j : κ) (n : ℕ) (beyond : Bytes) (clock : Clock)
  /-- The comm-lost timer of the region expires. -/
  | tick (clock : Clock)
  /-- A posted send of a session runs. -/
  | posted (session : ℕ)
  /-- A write of a session completes. -/
  | writeDone (session i : ℕ) (ok : Bool)
  /-- A session closes. -/
  | close (session : ℕ)
  /-- The last reference to a closed session is dropped. -/
  | expire (session : ℕ)

/-- All processes have just started. -/
def start (d : Deployment ι κ) : Fleet ι κ where
  lamps i := .start (d.lamp i)
  sensors _ := .start
  region := .start

/-- The event of the region, if the frame or the datagram exists. -/
def regionEvent (f : Fleet ι κ) : Event ι κ → Option Region.Event
  | .lamp .. => none
  | .sensor .. => none
  | .frame i n session clock =>
    (f.lamps i).queue.written[n]?.map fun frame => .frame session frame.body clock
  | .datagram j n beyond clock =>
    (f.sensors j).sent[n]?.map fun bytes => .datagram bytes beyond clock
  | .tick clock => some (.tick clock)
  | .posted session => some (.posted session)
  | .writeDone session i ok => some (.writeDone session i ok)
  | .close session => some (.close session)
  | .expire session => some (.expire session)

/-- One handler of one process. -/
def step [DecidableEq ι] [DecidableEq κ] (d : Deployment ι κ) (f : Fleet ι κ) :
    Event ι κ → Option (Fleet ι κ)
  | .lamp i e =>
    (Lamp.step (d.lamp i) (f.lamps i) e).map fun l =>
      { f with lamps := Function.update f.lamps i l }
  | .sensor j e =>
    (Sensor.step (d.sensor j) (f.sensors j) e).map fun s =>
      { f with sensors := Function.update f.sensors j s }
  | e => (f.regionEvent e).bind fun e =>
    (Region.step d.region f.region e).map fun r => { f with region := r }

/-- What holds between two handlers. -/
structure Inv (d : Deployment ι κ) (f : Fleet ι κ) : Prop where
  /-- The lamps say nothing but what they should. -/
  lamps : ∀ i, Lamp.Truthful (d.lamp i) (f.lamps i)
  /-- Nor do the sensors. -/
  sensors : ∀ j, Sensor.Lawful (d.sensor j) (f.sensors j)
  /-- The region is honest. -/
  region : d.Honest f.region

/-- Every message that reaches the region comes from a device. -/
theorem Inv.sends (h : Inv d f) {e : Event ι κ} {e' : Region.Event}
    (hevent : f.regionEvent e = some e') : d.Sends e' := by
  cases e with
  | lamp i e => cases hevent
  | sensor j e => cases hevent
  | frame i n session clock =>
    obtain ⟨frame, hframe, rfl⟩ := Option.map_eq_some_iff.mp hevent
    obtain ⟨msg, hsaid, hm⟩ := ((h.lamps i).written hframe).ofBody
    exact ⟨i, msg, hsaid, hm⟩
  | datagram j n beyond clock =>
    obtain ⟨bytes, hbytes, rfl⟩ := Option.map_eq_some_iff.mp hevent
    rcases (h.sensors j).sent bytes (List.mem_of_getElem? hbytes) with
      rfl | ⟨lux, motion, tempX10, hmotion, rfl⟩
    · exact ⟨j, 0, 254, 0, Or.inr (Or.inr rfl), parseTelemetry_packet (d.sensor j).text beyond⟩
    · refine ⟨j, lux, motion, tempX10, ?_, parseTelemetry_packet (d.sensor j).text beyond⟩
      rcases hmotion with hmotion | hmotion
      · exact Or.inl hmotion
      · exact Or.inr (Or.inl hmotion)
  | tick clock =>
    cases hevent
    trivial
  | posted session =>
    cases hevent
    trivial
  | writeDone session i ok =>
    cases hevent
    trivial
  | close session =>
    cases hevent
    trivial
  | expire session =>
    cases hevent
    trivial

theorem inv_start (d : Deployment ι κ) : Inv d (start d) :=
  ⟨fun i => Lamp.truthful_start (d.lamp i), fun j => Sensor.lawful_start (d.sensor j),
    d.honest_start⟩

variable [DecidableEq ι] [DecidableEq κ]

/-- **Step lemma.** Every handler keeps the invariant. -/
theorem Inv.step (h : Inv d f) {e : Event ι κ} (hstep : step d f e = some g) : Inv d g := by
  have hregion (hevent : ((f.regionEvent e).bind fun e =>
      (Region.step d.region f.region e).map fun r => { f with region := r }) = some g) :
      Inv d g := by
    obtain ⟨e', he', hmap⟩ := Option.bind_eq_some_iff.mp hevent
    obtain ⟨r, hr, rfl⟩ := Option.map_eq_some_iff.mp hmap
    exact ⟨h.lamps, h.sensors, h.region.step (h.sends he') hr⟩
  cases e with
  | lamp i e =>
    obtain ⟨l, hl, rfl⟩ := Option.map_eq_some_iff.mp hstep
    refine ⟨fun i' => ?_, h.sensors, h.region⟩
    dsimp only
    by_cases hi : i' = i
    · subst hi
      rw [Function.update_self]
      exact (h.lamps i').step hl
    · rw [Function.update_of_ne hi]
      exact h.lamps i'
  | sensor j e =>
    obtain ⟨s, hs, rfl⟩ := Option.map_eq_some_iff.mp hstep
    refine ⟨h.lamps, fun j' => ?_, h.region⟩
    dsimp only
    by_cases hj : j' = j
    · subst hj
      rw [Function.update_self]
      exact (h.sensors j').step hs
    · rw [Function.update_of_ne hj]
      exact h.sensors j'
  | frame i n session clock => exact hregion hstep
  | datagram j n beyond clock => exact hregion hstep
  | tick clock => exact hregion hstep
  | posted session => exact hregion hstep
  | writeDone session i ok => exact hregion hstep
  | close session => exact hregion hstep
  | expire session => exact hregion hstep

/-- In every run of a deployment, whatever the network does with the messages and whatever frames
the lamps receive: the registry, the zone lists, the alarms, the database calls and the commands of
the region are about its devices, and say of each what it is. -/
theorem always_honest (d : Deployment ι κ) (es : List (Event ι κ)) :
    Always (step d) (fun f => d.Honest f.region) (start d) es :=
  (Always.of_invariant (fun _ _ _ h hstep => Inv.step h hstep) (inv_start d)).mono
    fun _ h => h.region

end Fleet

end SmartLighting
