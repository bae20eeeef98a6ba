import SmartLighting.DeviceViews
import SmartLighting.SensorPath
import SmartLighting.SensorRuns

/-!
# A sensor under the comm-lost timer

The ticks of a sensor and of the comm-lost timer are timers of two processes. Where they keep time
and the datagrams arrive, the timer never reports the sensor as lost, whatever the other devices of
the region do: a sensor that works reports at least once in seven ticks, and one that is in FAULT
has said so.
-/

namespace SmartLighting

open Transition

/-- A sensor, its region, and the time of the sensor's last tick. -/
structure SensorWatch where
  /-- The sensor and the region. -/
  path : SensorPath
  /-- The region's clock at the last tick of the sensor. -/
  lastTick : ℕ

namespace SensorWatch

/-- The sensor starts at the given time. -/
def start (now : ℕ) : SensorWatch := ⟨.start, now⟩

/-- What can happen. -/
inductive Event
  /-- A handler of the sensor, whose datagrams arrive. -/
  | sensor (e : SensorPath.Event)
  /-- A handler of the region. -/
  | region (e : Region.Event)

/-- The name under which the region knows the sensor. -/
def name (cfg : SensorConfig) : Bytes := cfg.uri.take 47

/-- A clock shows at most one period more than at the last tick of the sensor. -/
def Timely (period : ℕ) (w : SensorWatch) (clock : Clock) : Prop :=
  w.lastTick ≤ clock.nowMs.toNat ∧ clock.nowMs.toNat ≤ w.lastTick + period

instance (period : ℕ) (w : SensorWatch) (clock : Clock) : Decidable (w.Timely period clock) :=
  inferInstanceAs (Decidable (_ ∧ _))

/-- The time at which an event leaves the sensor's last tick. -/
def tickedAt (w : SensorWatch) : SensorPath.Event → ℕ
  | .tick _ _ clock => clock.nowMs.toNat
  | _ => w.lastTick

/-- The timers keep time, and nobody else uses the sensor's name. -/
def Allowed (cfg : SensorConfig) (period : ℕ) (w : SensorWatch) : Event → Prop
  | .sensor (.tick _ _ clock) => w.Timely period clock
  | .sensor _ => True
  | .region (.tick clock) => w.Timely period clock
  | .region e => (e.news (name cfg)).isNone = true

instance (cfg : SensorConfig) (period : ℕ) (w : SensorWatch) (e : Event) :
    Decidable (Allowed cfg period w e) := by
  unfold Allowed
  split <;> infer_instance

/-- One handler of either process. -/
def handle (cfg : SensorConfig) (rcfg : RegionConfig) (w : SensorWatch) :
    Event → Option SensorWatch
  | .sensor e => (w.path.step cfg rcfg e).map fun path => ⟨path, w.tickedAt e⟩
  | .region e =>
    (w.path.region.step rcfg e).map fun region => { w with path := { w.path with region } }

/-- One handler, where the timers keep time. -/
def step (cfg : SensorConfig) (rcfg : RegionConfig) (period : ℕ) :
    SensorWatch → Event → Option SensorWatch :=
  restrict (Allowed cfg period) (handle cfg rcfg)

/-! ## The sensor as the region views it -/

variable {cfg : SensorConfig} {rcfg : RegionConfig} {period : ℕ} {w w' : SensorWatch}
  {quiet : ℕ} {clock : Clock}

/-- The alarms that report a device as lost are among those of its view. -/
theorem commLostAlarms_eq (v : Bytes) (r : Region) :
    r.commLostAlarms v =
      (r.view v).alarms.countP fun a => a.code = 9 ∧ a.text = ascii "comm_lost" := by
  unfold Region.commLostAlarms Region.view
  rw [List.countP_filter]
  refine List.countP_congr fun a _ => ?_
  simp only [Bool.decide_and, Bool.and_eq_true, decide_eq_true_eq]
  tauto

/-- An entry without a fault is that of an active sensor, and is at most as old as its quiet
ticks. -/
def Fresh (period : ℕ) (quiet : ℕ) (w : SensorWatch) (st : DeviceState) : Prop :=
  st.fault = false → w.path.sensor.state = .active ∧ st.lastSeenMs.toNat ≤ w.lastTick ∧
    w.lastTick ≤ st.lastSeenMs.toNat + quiet * period

/-- The device was never reported as lost. -/
structure NotLost (view : DeviceView) : Prop where
  /-- It is not in `active_lost`. -/
  lost : view.lost = false
  /-- It raised no alarm of this kind. -/
  alarms : (view.alarms.countP fun a => a.code = 9 ∧ a.text = ascii "comm_lost") = 0

/-- What holds between two handlers. -/
structure Inv (cfg : SensorConfig) (period : ℕ) (w : SensorWatch) (quiet : ℕ) : Prop where
  /-- The quiet ticks follow the rhythm of the motion. -/
  rhythm : Sensor.Rhythm w.path.sensor quiet
  /-- The region knows the devices of its sessions. -/
  known : Region.Known w.path.region
  /-- The entry of the sensor is fresh. -/
  fresh : ∀ st, w.path.region.reg.get (name cfg) = some st → Fresh period quiet w st
  /-- The sensor was never reported as lost. -/
  view : NotLost (w.path.region.view (name cfg))

/-- A tick of the timer does not list a device whose entry is fresh. -/
theorem not_commLost_of_fresh {st : DeviceState} (hfresh : Fresh period quiet w st)
    (hquiet : quiet ≤ 5) (htimeout : 6 * period ≤ rcfg.timeoutMs.toNat)
    (htime : w.Timely period clock) :
    ¬Registry.CommLost clock.nowMs rcfg.timeoutMs st := by
  rw [Registry.commLost_iff, not_or]
  have hbound : st.fault = false → st.lastSeenMs.toNat ≤ clock.nowMs.toNat ∧
      clock.nowMs.toNat ≤ st.lastSeenMs.toNat + rcfg.timeoutMs.toNat := by
    intro hfault
    obtain ⟨-, hseen, hlast⟩ := hfresh hfault
    obtain ⟨hfrom, hto⟩ := htime
    have hticks : quiet * period ≤ 5 * period := Nat.mul_le_mul_right _ hquiet
    omega
  constructor
  · rintro ⟨hfault, -, hsilent⟩
    have h := hbound hfault
    omega
  · rintro ⟨hfault, hlater, -⟩
    have h := hbound hfault
    omega

/-- So the timer does not report it. -/
theorem NotLost.hearTick {view : DeviceView} (h : NotLost view)
    (hspared : ∀ st, view.entry = some st → ¬Registry.CommLost clock.nowMs rcfg.timeoutMs st)
    (v : Bytes) :
    NotLost (view.hearTick rcfg v clock) ∧ (view.hearTick rcfg v clock).entry = view.entry := by
  unfold DeviceView.hearTick
  cases hentry : view.entry with
  | none => exact ⟨⟨rfl, h.alarms⟩, rfl⟩
  | some st =>
    have hnot := hspared st hentry
    simp only [hnot, decide_false, Bool.false_eq_true, false_and, if_false]
    exact ⟨⟨rfl, h.alarms⟩, by rw [Registry.latch, if_neg hnot]⟩

/-- Telemetry does not report its sensor as lost. -/
theorem NotLost.hearTelemetry {view : DeviceView} (h : NotLost view) (tel : Telemetry) :
    NotLost (view.hearTelemetry rcfg tel clock) := by
  unfold DeviceView.hearTelemetry
  split
  · refine ⟨h.lost, ?_⟩
    dsimp only
    rw [List.countP_append, h.alarms]
    have hcode : ¬((1 : UInt8) = 9) := by decide
    simp [Region.sensorAlarm, hcode]
  · exact ⟨h.lost, h.alarms⟩

/-! ## The steps -/

/-- The quiet ticks of the sensor after an event. -/
def watchQuiet (cfg : SensorConfig) (quiet : ℕ) (w : SensorWatch) (e : Event) (_ : SensorWatch) :
    ℕ :=
  match e with
  | .sensor (.tick draw _ _) =>
    Sensor.watchQuiet cfg quiet w.path.sensor (.tick draw) w.path.sensor
  | _ => quiet

/-- What the region receives of a tick of the sensor. -/
private theorem region_tick {draw : Fin 1000} {beyond : Bytes} {path : SensorPath}
    (h : SensorPath.step cfg rcfg w.path (.tick draw beyond clock) = some path) :
    path.sensor = w.path.sensor.tick cfg draw ∧
      (Sensor.packets cfg w.path.sensor draw = [] ∧ path.region = w.path.region ∨
        ∃ lux motion tempX10,
          Sensor.packets cfg w.path.sensor draw =
            [telemetryPacket cfg.uri cfg.zone lux motion tempX10] ∧
          Region.step rcfg w.path.region
            (.datagram (telemetryPacket cfg.uri cfg.zone lux motion tempX10) beyond clock) =
              some path.region ∧
          path.region = Region.receive rcfg clock w.path.region
            ⟨name cfg, cfg.zone, lux, motion, tempX10⟩) := by
  obtain ⟨region, hdeliver, rfl⟩ := Option.map_eq_some_iff.mp h
  refine ⟨rfl, ?_⟩
  rw [(Sensor.ticks_tick cfg w.path.sensor draw).sent, List.drop_left] at hdeliver
  have hshape : Sensor.packets cfg w.path.sensor draw = [] ∨ ∃ lux motion tempX10,
      Sensor.packets cfg w.path.sensor draw =
        [telemetryPacket cfg.uri cfg.zone lux motion tempX10] := by
    unfold Sensor.packets
    split
    · exact Or.inl rfl
    split
    · exact Or.inr ⟨_, _, _, rfl⟩
    split
    · exact Or.inr ⟨_, _, _, rfl⟩
    · exact Or.inl rfl
  rcases hshape with hnone | ⟨lux, motion, tempX10, hone⟩
  · rw [hnone] at hdeliver
    cases hdeliver
    exact Or.inl ⟨hnone, rfl⟩
  · rw [hone] at hdeliver
    refine Or.inr ⟨lux, motion, tempX10, hone, ?_, ?_⟩
    · simpa [SensorPath.deliver] using hdeliver
    · rw [SensorPath.deliver_packet cfg.text] at hdeliver
      exact (Option.some.inj hdeliver).symm

/-- A tick of the sensor keeps the invariant. -/
private theorem Inv.tick (h : Inv cfg period w quiet) {draw : Fin 1000} {beyond : Bytes}
    {path : SensorPath} (htime : w.Timely period clock)
    (hstep : SensorPath.step cfg rcfg w.path (.tick draw beyond clock) = some path) :
    Inv cfg period ⟨path, clock.nowMs.toNat⟩
      (Sensor.watchQuiet cfg quiet w.path.sensor (.tick draw) w.path.sensor) := by
  obtain ⟨hsensor, hregion⟩ := region_tick hstep
  have hticks := Sensor.ticks_tick cfg w.path.sensor draw
  have hrhythm : Sensor.Rhythm path.sensor
      (Sensor.watchQuiet cfg quiet w.path.sensor (.tick draw) w.path.sensor) := by
    rw [hsensor]
    exact h.rhythm.step (e := .tick draw) (t := w.path.sensor.tick cfg draw) rfl
  have hstays : w.path.sensor.state = .active → ¬Sensor.Strikes cfg draw →
      path.sensor.state = .active := by
    intro hactive hspared
    rw [hsensor, hticks.state, if_neg fun hboth => hspared hboth.2, hactive]
  rcases hregion with ⟨hquiet, hsame⟩ | ⟨lux, motion, tempX10, hsent, hdatagram, hreceive⟩
  · refine ⟨hrhythm, hsame ▸ h.known, ?_, hsame ▸ h.view⟩
    intro st hget hfault
    rw [hsame] at hget
    obtain ⟨hactive, hseen, hlast⟩ := h.fresh st hget hfault
    have hspared : ¬Sensor.Strikes cfg draw := by
      intro hstrikes
      rw [Sensor.packets, if_neg (not_not.mpr hactive), if_pos hstrikes] at hquiet
      cases hquiet
    have hcount : Sensor.watchQuiet cfg quiet w.path.sensor (.tick draw) w.path.sensor =
        quiet + 1 := if_pos ⟨hactive, hquiet⟩
    obtain ⟨hfrom, hto⟩ := htime
    refine ⟨hstays hactive hspared, hseen.trans hfrom, ?_⟩
    rw [hcount, Nat.add_mul, Nat.one_mul]
    dsimp only
    omega
  · have hparse : parseTelemetry (telemetryPacket cfg.uri cfg.zone lux motion tempX10) beyond =
        some ⟨name cfg, cfg.zone, lux, motion, tempX10⟩ := parseTelemetry_packet cfg.text beyond
    have hview : path.region.view (name cfg) =
        (w.path.region.view (name cfg)).hearTelemetry rcfg
          ⟨name cfg, cfg.zone, lux, motion, tempX10⟩ clock := by
      rw [hreceive, Region.view_receive hparse, if_pos rfl]
    refine ⟨hrhythm, h.known.step hdatagram, ?_, hview ▸ h.view.hearTelemetry _⟩
    intro st hget hfault
    have hentry : (path.region.view (name cfg)).entry = some st := hget
    rw [hview, DeviceView.hearTelemetry] at hentry
    split at hentry
    · cases hentry
      cases hfault
    · next hplain =>
      have hst : telemetryState ⟨name cfg, cfg.zone, lux, motion, tempX10⟩ clock.nowMs
          (w.path.region.view (name cfg)).entry = st := Option.some.inj hentry
      have hseen : st.lastSeenMs = clock.nowMs := by
        rw [← hst]
        exact (telemetryState_spec _ clock.nowMs _).2.1
      have hactive : w.path.sensor.state = .active := by
        by_contra hnot
        rw [Sensor.packets, if_pos hnot] at hsent
        cases hsent
      have hspared : ¬Sensor.Strikes cfg draw := by
        intro hstrikes
        rw [Sensor.packets, if_neg (not_not.mpr hactive), if_pos hstrikes] at hsent
        have hmarker := congrArg Sensor.isMarker (List.cons.inj hsent).1
        rw [Sensor.isMarker_packet, Sensor.isMarker_packet, decide_eq_false hplain] at hmarker
        cases hmarker
      rw [hseen]
      exact ⟨hstays hactive hspared, le_rfl, Nat.le_add_right _ _⟩

/-- Handlers of the sensor other than the tick send nothing, and an active sensor stays active. -/
private theorem Inv.wait (h : Inv cfg period w quiet) {sensor : Sensor} {e : Sensor.Event}
    (hevent : e = .ackDemo ∨ e = .faultReset)
    (hstep : Sensor.step cfg w.path.sensor e = some sensor)
    (hactive : w.path.sensor.state = .active → sensor.state = .active) :
    Inv cfg period { w with path := { w.path with sensor } } quiet := by
  have hrhythm : Sensor.Rhythm sensor quiet := by
    rcases hevent with rfl | rfl
    · exact h.rhythm.step hstep
    · exact h.rhythm.step hstep
  refine ⟨hrhythm, h.known, fun st hget hfault => ?_, h.view⟩
  obtain ⟨hstate, hseen, hlast⟩ := h.fresh st hget hfault
  exact ⟨hactive hstate, hseen, hlast⟩

/-- The acknowledgement and the reset leave an active sensor active. -/
private theorem active_wait {s : Sensor} (hactive : s.state = .active) :
    s.ackDemo.state = .active ∧ s.faultReset.state = .active := by
  have hack : s.ackDemo = { s with ackWaits := false } :=
    if_neg (by change s.state ≠ .registering; rw [hactive]; decide)
  have hreset : s.faultReset = { s with resetWaits := false } :=
    if_neg (by change s.state ≠ .fault; rw [hactive]; decide)
  rw [hack, hreset]
  exact ⟨hactive, hactive⟩

/-- A handler of the region keeps the invariant. -/
private theorem Inv.region (h : Inv cfg period w quiet) {e : Region.Event} {r : Region}
    (htimeout : 6 * period ≤ rcfg.timeoutMs.toNat)
    (hallowed : Allowed cfg period w (.region e))
    (hstep : w.path.region.step rcfg e = some r) :
    Inv cfg period { w with path := { w.path with region := r } } quiet := by
  have hview := Region.view_step h.known hstep (name cfg)
  have hkept (hnot : NotLost (r.view (name cfg)))
      (hentry : (r.view (name cfg)).entry = (w.path.region.view (name cfg)).entry) :
      Inv cfg period { w with path := { w.path with region := r } } quiet := by
    refine ⟨h.rhythm, h.known.step hstep, fun st hget => ?_, hnot⟩
    exact h.fresh st (hentry.symm.trans hget)
  have hquiet (hnone : (e.news (name cfg)).isNone = true) :
      Inv cfg period { w with path := { w.path with region := r } } quiet := by
    rw [Option.isNone_iff_eq_none.mp hnone, Option.elim_none] at hview
    exact hkept (hview ▸ h.view) (by rw [hview])
  cases e with
  | tick clock =>
    have hspared : ∀ st, (w.path.region.view (name cfg)).entry = some st →
        ¬Registry.CommLost clock.nowMs rcfg.timeoutMs st := fun st hget =>
      not_commLost_of_fresh (h.fresh st hget) h.rhythm.quiet_le_five htimeout hallowed
    obtain ⟨hnot, hentry⟩ := h.view.hearTick hspared (name cfg)
    have hheard : r.view (name cfg) =
        (w.path.region.view (name cfg)).hearTick rcfg (name cfg) clock := hview
    exact hkept (hheard ▸ hnot) (by rw [hheard, hentry])
  | frame k body clock => exact hquiet hallowed
  | datagram bytes beyond clock => exact hquiet hallowed
  | posted k => exact hquiet hallowed
  | writeDone k i ok => exact hquiet hallowed
  | close k => exact hquiet hallowed
  | expire k => exact hquiet hallowed

/-- **Step lemma.** Every handler keeps the invariant. -/
theorem Inv.step (htimeout : 6 * period ≤ rcfg.timeoutMs.toNat) (h : Inv cfg period w quiet)
    {e : Event} (hstep : step cfg rcfg period w e = some w') :
    Inv cfg period w' (watchQuiet cfg quiet w e w') := by
  obtain ⟨hallowed, hhandle⟩ := restrict_eq_some.mp hstep
  cases e with
  | region e =>
    obtain ⟨r, hr, rfl⟩ := Option.map_eq_some_iff.mp hhandle
    exact h.region htimeout hallowed hr
  | sensor e =>
    obtain ⟨path, hpath, rfl⟩ := Option.map_eq_some_iff.mp hhandle
    cases e with
    | tick draw beyond clock => exact h.tick hallowed hpath
    | ackDemo =>
      obtain ⟨hwaits, heq⟩ := Option.ite_none_right_eq_some.mp hpath
      cases heq
      exact h.wait (Or.inl rfl) (if_pos hwaits) fun hactive => (active_wait hactive).1
    | faultReset =>
      obtain ⟨hwaits, heq⟩ := Option.ite_none_right_eq_some.mp hpath
      cases heq
      exact h.wait (Or.inr rfl) (if_pos hwaits) fun hactive => (active_wait hactive).2

theorem inv_start (cfg : SensorConfig) (period now : ℕ) : Inv cfg period (start now) 0 :=
  ⟨Sensor.rhythm_start, Region.known_start, fun _ hget => (Option.some_ne_none _ hget.symm).elim,
    ⟨rfl, rfl⟩⟩

/-- Where the timers keep time and six periods fit into the timeout, a sensor whose datagrams
arrive is never reported as lost, in any run of the region with any other devices. -/
theorem always_notLost (cfg : SensorConfig) (rcfg : RegionConfig) (period now : ℕ)
    (htimeout : 6 * period ≤ rcfg.timeoutMs.toNat) (es : List Event) :
    Always (step cfg rcfg period)
      (fun w => name cfg ∉ w.path.region.activeLost ∧
        w.path.region.commLostAlarms (name cfg) = 0) (start now) es := by
  have hinv : Always (monitored (step cfg rcfg period) (watchQuiet cfg))
      (fun p => Inv cfg period p.1 p.2) (start now, 0) es :=
    .of_monitored (fun w quiet e w' h hstep => h.step htimeout hstep) (inv_start cfg period now)
  intro before hbefore w hrun
  obtain ⟨quiet, hquiet⟩ := run_monitored (watchQuiet cfg) 0 hrun
  have hview := (hinv before hbefore (w, quiet) hquiet).view
  refine ⟨of_decide_eq_false hview.lost, ?_⟩
  rw [commLostAlarms_eq]
  exact hview.alarms

/-- Ticks that are at most two seconds apart, and a timeout of fifteen. -/
theorem always_notLost_quietSensor :
    Always (step SensorPath.quietSensor ⟨1, 15000⟩ 2000)
      (fun w => name SensorPath.quietSensor ∉ w.path.region.activeLost ∧
        w.path.region.commLostAlarms (name SensorPath.quietSensor) = 0) (start 1000)
      [.sensor .ackDemo, .sensor (.tick (Fin.last 999) [] ⟨2000, 2⟩), .region (.tick ⟨3000, 3⟩)] :=
  always_notLost SensorPath.quietSensor ⟨1, 15000⟩ 2000 1000 (by decide) _

end SensorWatch

end SmartLighting
