import SmartLighting.LampLight
import SmartLighting.ZoneLamps

/-!
# A street with one sensor

The lamps of a street form a zone. Its sensor sends telemetry, the region commands the lamps
at every motion edge, and the lamps obey. Once a lamp has read all its commands, its light is
what the last motion calls for.
-/

namespace SmartLighting

open Transition

/-- A zone with its sensor and its lamps. -/
structure StreetPlan (κ : Type) where
  /-- The region. -/
  cfg : RegionConfig
  /-- The zone. -/
  zone : UInt32
  /-- The sensor of the zone. -/
  sensor : Bytes
  /-- The lamps. -/
  lamp : κ → LampConfig
  /-- The session of each lamp. -/
  session : κ → ℕ
  /-- The lamps belong to the zone. -/
  inZone : ∀ i, (lamp i).zone = zone
  /-- They do not simulate faults. -/
  quiet : ∀ i, (lamp i).faultProbPerMille ≤ 0

/-- The region and the lamps between two handlers. -/
structure Street (κ : Type) where
  /-- The region. -/
  region : Region
  /-- The lamps. -/
  lamps : κ → Lamp
  /-- How many frames of each lamp its session has read. -/
  heard : κ → ℕ
  /-- How many frames of its session each lamp has read. -/
  read : κ → ℕ

namespace Street

variable {κ : Type} {p : StreetPlan κ} {s t : Street κ} {i : κ}

/-- What can happen while all connections stay up. -/
inductive Event (κ : Type)
  /-- The telemetry socket receives a datagram. -/
  | datagram (bytes beyond : Bytes) (clock : Clock)
  /-- A posted send of a session runs. -/
  | posted (session : ℕ)
  /-- A write of a session completes. -/
  | written (session i : ℕ)
  /-- The session of a lamp reads the next frame. -/
  | report (i : κ) (clock : Clock)
  /-- A posted send of a lamp runs. -/
  | lampPosted (i : κ)
  /-- A write of a lamp completes. -/
  | lampWritten (i : κ) (n : ℕ)
  /-- A lamp reads the next frame. -/
  | lampFrame (i : κ) (draw : Fin 1000)
  /-- A heartbeat wait of a lamp completes. -/
  | heartbeat (i : κ) (cancelled : Bool)

section Steps

variable [DecidableEq κ]

/-- The region handles an event. -/
def regionStep (p : StreetPlan κ) (s : Street κ) (e : Region.Event) : Option (Street κ) :=
  (Region.step p.cfg s.region e).map fun r => { s with region := r }

/-- A lamp handles an event. -/
def lampStep (p : StreetPlan κ) (s : Street κ) (i : κ) (e : Lamp.Event) : Option (Street κ) :=
  (Lamp.step (p.lamp i) (s.lamps i) e).map fun l =>
    { s with lamps := Function.update s.lamps i l }

/-- One handler of the region or of a lamp. -/
def step (p : StreetPlan κ) (s : Street κ) : Event κ → Option (Street κ)
  | .datagram bytes beyond clock => s.regionStep p (.datagram bytes beyond clock)
  | .posted k => s.regionStep p (.posted k)
  | .written k n => s.regionStep p (.writeDone k n true)
  | .report i clock =>
    match (s.lamps i).queue.written[s.heard i]? with
    | none => none
    | some m =>
      { s with heard := Function.update s.heard i (s.heard i + 1) }.regionStep p
        (.frame (p.session i) m.body clock)
  | .lampPosted i => s.lampStep p i .posted
  | .lampWritten i n => s.lampStep p i (.writeDone n true)
  | .lampFrame i draw =>
    match (s.region.sessions (p.session i)).queue.written[s.read i]? with
    | none => none
    | some m =>
      { s with read := Function.update s.read i (s.read i + 1) }.lampStep p i (.frame m.body draw)
  | .heartbeat i cancelled => s.lampStep p i (.heartbeatTimer cancelled)

end Steps

/-- The sensor reports its zone and no fault, and other sensors report other zones. -/
def Admitted (p : StreetPlan κ) : Event κ → Prop
  | .datagram bytes beyond _ => ∀ tel, parseTelemetry bytes beyond = some tel →
    tel.uri = p.sensor ∧ tel.zoneId = p.zone ∧ tel.motion ≠ 254 ∨
      tel.uri ≠ p.sensor ∧ tel.zoneId ≠ p.zone
  | _ => True

/-- The motion byte that an event takes from the sensor, if it is 0 or 1. -/
def motionOf (p : StreetPlan κ) : Event κ → Option UInt8
  | .datagram bytes beyond _ => (parseTelemetry bytes beyond).bind fun tel =>
    if tel.uri = p.sensor ∧ (tel.motion = 0 ∨ tel.motion = 1) then some tel.motion else none
  | _ => none

/-- The frames of its session that a lamp has not read. -/
def unread (p : StreetPlan κ) (s : Street κ) (i : κ) : List OutMsg :=
  (s.region.sentBy (p.session i)).drop (s.read i)

/-- The lamps are registered in the zone, off and idle; the sensor has not been heard. -/
structure Prepared (p : StreetPlan κ) (s : Street κ) : Prop where
  /-- The sensor has not been heard. -/
  unheard : s.region.lastMotion.lookup p.sensor = none
  /-- The lamps are registered in the zone and in no other. -/
  placed : ∀ i, s.region.Placed (p.lamp i).uri p.zone
  /-- Their names lead to their sessions. -/
  leads : ∀ i, s.region.Leads (p.lamp i).uri (p.session i)
  /-- Every lamp was started. -/
  started : ∀ i, ∃ history,
    run (Lamp.step (p.lamp i)) (Lamp.start (p.lamp i)) history = some (s.lamps i)
  /-- No lamp has ended. -/
  alive : ∀ i, (s.lamps i).stopped = false
  /-- Every lamp is off. -/
  off : ∀ i, (s.lamps i).state = .off ∧ (s.lamps i).intensity = 0
  /-- Every lamp has read its frames, its REGISTER_ACK among them. -/
  read : ∀ i, s.read i = (s.region.sentBy (p.session i)).length
  /-- Of a lamp only status reports are under way. -/
  reports : ∀ i, ∀ m ∈ (s.lamps i).queue.sent.drop (s.heard i), Lamp.Reports (p.lamp i) m

/-- The light that the last motion calls for. -/
def goal (last : Option UInt8) : Light := if last = some 1 then ⟨true, 60⟩ else .dark

/-! ## One motion edge -/

/-- Frames that settle a light in one state settle it there however often they are read. -/
theorem foldl_flatMap_of_mem {frames : List OutMsg} {u : Bytes} {x y : Light}
    (hx : frames.foldl Light.read x = y) (hy : frames.foldl Light.read y = y) {lamps : List Bytes}
    (hu : u ∈ lamps) :
    (lamps.flatMap fun v => if v = u then frames else []).foldl Light.read x = y := by
  have hstays : ∀ lamps : List Bytes,
      (lamps.flatMap fun v => if v = u then frames else []).foldl Light.read y = y := by
    intro lamps
    induction lamps with
    | nil => rfl
    | cons v lamps ih =>
      rw [List.flatMap_cons, List.foldl_append]
      split
      · rw [hy, ih]
      · exact ih
  induction lamps with
  | nil => cases hu
  | cons v lamps ih =>
    rw [List.flatMap_cons, List.foldl_append]
    by_cases hv : v = u
    · rw [if_pos hv, hx]
      exact hstays lamps
    · rw [if_neg hv]
      exact ih ((List.mem_cons.mp hu).resolve_left (Ne.symm hv))

/-- The frame of a command is read as the command. -/
theorem read_commandFrame {u : Bytes} (hfits : u.length ≤ 65535) (x : Light) (cmd value : UInt8) :
    x.read (Region.commandFrame u cmd value) = x.obey ⟨u, cmd, value⟩ := by
  obtain ⟨payload, hencode, hframe⟩ := Region.commandFrame_eq hfits cmd value
  have hcommand : Lamp.commandOf (Region.commandFrame u cmd value).body =
      some ⟨u, cmd, value⟩ := by
    have htype : Lamp.frameType (⟨.cmd, payload⟩ : OutMsg).body = some .cmd := rfl
    rw [hframe, Lamp.commandOf, if_pos htype]
    exact congrArg Except.toOption (decodeCommand_exact hencode).decode_eq
  rw [Light.read, hcommand, Option.elim_some]

/-- The frames of an edge are read as its commands. -/
theorem foldl_edgeFrames_eq {u : Bytes} (hfits : u.length ≤ 65535) (prev motion : UInt8)
    (x : Light) :
    (Region.edgeFrames u prev motion).foldl Light.read x =
      (Region.edgeCommands prev motion).foldl (fun x c => x.obey ⟨u, c.1, c.2⟩) x := by
  rw [Region.edgeFrames, List.foldl_map]
  simp only [read_commandFrame hfits]

/-- A motion byte that the region remembers of a sensor, if it remembers one. -/
def Remembered (last : Option UInt8) : Prop := last = none ∨ last = some 0 ∨ last = some 1

/-- The last motion after one more motion byte. -/
def remember (last : Option UInt8) (motion : UInt8) : Option UInt8 :=
  if motion = 0 ∨ motion = 1 then some motion else last

/-- The commands of an edge lead from what the motion before it calls for to what the motion
after it calls for, and leave the light there. -/
theorem foldl_edgeFrames {u : Bytes} (hfits : u.length ≤ 65535) {last : Option UInt8}
    (hlast : Remembered last) (motion : UInt8) :
    (Region.edgeFrames u (last.getD 0) motion).foldl Light.read (goal last) =
        goal (remember last motion) ∧
      (Region.edgeFrames u (last.getD 0) motion).foldl Light.read (goal (remember last motion)) =
        goal (remember last motion) := by
  simp only [foldl_edgeFrames_eq hfits]
  by_cases hon : motion = 1
  · subst hon
    rcases hlast with rfl | rfl | rfl <;> exact ⟨rfl, rfl⟩
  by_cases hoff : motion = 0
  · subst hoff
    rcases hlast with rfl | rfl | rfl <;> exact ⟨rfl, rfl⟩
  · have hnone : Region.edgeCommands (last.getD 0) motion = [] := by
      rw [Region.edgeCommands, if_neg fun h => hon h.2, if_neg fun h => hoff h.2]
    have hsame : remember last motion = last := if_neg (not_or.mpr ⟨hoff, hon⟩)
    rw [hnone, hsame]
    exact ⟨rfl, rfl⟩

/-! ## The invariant -/

/-- What holds of a lamp between two handlers: the commands that it has not read lead its light
to what the last motion calls for. -/
structure Follows (p : StreetPlan κ) (s : Street κ) (i : κ) : Prop where
  /-- It is registered in the zone. -/
  placed : s.region.Placed (p.lamp i).uri p.zone
  /-- Its name leads to its session. -/
  leads : s.region.Leads (p.lamp i).uri (p.session i)
  /-- It obeys commands. -/
  serving : Lamp.Serving (p.lamp i) (s.lamps i)
  /-- It has not read more than was sent. -/
  within : s.read i ≤ (s.region.sentBy (p.session i)).length
  /-- It has only commands to read. -/
  commands : ∀ m ∈ s.unread p i, m.type = .cmd
  /-- They lead to what the last motion calls for. -/
  settles : (s.unread p i).foldl Light.read (s.lamps i).light =
    goal (s.region.lastMotion.lookup p.sensor)
  /-- It sends only status reports. -/
  reports : ∀ m ∈ (s.lamps i).queue.sent.drop (s.heard i), Lamp.Reports (p.lamp i) m

/-- The region goes on; the session of the lamp sends some more commands. -/
theorem Follows.region {r : Region} (h : Follows p s i) (new : List OutMsg)
    (hkeeps : Region.KeepsRoutes s.region r) (hplaced : r.Placed (p.lamp i).uri p.zone)
    (hsent : r.sentBy (p.session i) = s.region.sentBy (p.session i) ++ new)
    (hnew : ∀ m ∈ new, m.type = .cmd)
    (hgoal : new.foldl Light.read (goal (s.region.lastMotion.lookup p.sensor)) =
      goal (r.lastMotion.lookup p.sensor)) :
    Follows p { s with region := r } i := by
  have hunread : unread p { s with region := r } i = s.unread p i ++ new := by
    unfold unread
    rw [hsent, List.drop_append_of_le_length h.within]
  constructor
  · exact hplaced
  · exact h.leads.of_keepsRoutes hkeeps
  · exact h.serving
  · have hwithin := h.within
    rw [hsent, List.length_append]
    dsimp only
    omega
  · intro m hm
    rw [hunread] at hm
    exact (List.mem_append.mp hm).elim (h.commands m) (hnew m)
  · rw [hunread, List.foldl_append, h.settles, hgoal]
  · exact h.reports

/-- The region goes on and sends the lamp nothing. -/
theorem Follows.region_quiet {r : Region} (h : Follows p s i)
    (hkeeps : Region.KeepsRoutes s.region r) (hplaced : r.Placed (p.lamp i).uri p.zone)
    (hsent : r.sentBy (p.session i) = s.region.sentBy (p.session i))
    (hlast : r.lastMotion.lookup p.sensor = s.region.lastMotion.lookup p.sensor) :
    Follows p { s with region := r } i := by
  refine h.region [] hkeeps hplaced ?_ (List.forall_mem_nil _) ?_
  · rw [hsent, List.append_nil]
  · rw [hlast, List.foldl_nil]

/-- What the region remembers of the sensor after telemetry. -/
theorem lookup_receive {clock : Clock} (r : Region) (tel : Telemetry) :
    (Region.receive p.cfg clock r tel).lastMotion.lookup p.sensor =
      if tel.uri = p.sensor then remember (r.lastMotion.lookup p.sensor) tel.motion
      else r.lastMotion.lookup p.sensor := by
  rw [Region.lastMotion_receive, remember]
  by_cases hmotion : tel.motion = 0 ∨ tel.motion = 1
  · rw [if_pos hmotion, if_pos hmotion, AssocMap.lookup_insert_eq]
    simp only [eq_comm]
  · rw [if_neg hmotion, if_neg hmotion, ite_self]

/-- A datagram is received. -/
theorem Follows.datagram {bytes beyond : Bytes} {clock : Clock} {r : Region} (h : Follows p s i)
    (hnormal : s.region.fsm.state = .normalOperation)
    (hlast : Remembered (s.region.lastMotion.lookup p.sensor))
    (hadmitted : Admitted p (.datagram bytes beyond clock))
    (hstep : Region.step p.cfg s.region (.datagram bytes beyond clock) = some r) :
    Follows p { s with region := r } i := by
  have hplaced : r.Placed (p.lamp i).uri p.zone :=
    h.placed.of_stores (Region.stores_step hstep id) fun st hstored htype =>
      absurd htype (Region.type_of_stored_datagram hstored)
  simp only [Region.step] at hstep
  split at hstep
  · next tel htel =>
    cases hstep
    have hfits := h.serving.ready.fits
    have hsent := Region.sentBy_receive p.cfg clock hnormal h.leads hfits tel
    have hkeeps : Region.KeepsRoutes s.region (Region.receive p.cfg clock s.region tel) :=
      .receive s.region tel
    rcases hadmitted tel htel with ⟨huri, hzone, -⟩ | ⟨huri, hzone⟩
    · refine h.region _ hkeeps hplaced hsent ?_ ?_
      · intro m hm
        obtain ⟨v, -, hframe⟩ := List.mem_flatMap.mp hm
        split at hframe
        · obtain ⟨c, -, rfl⟩ := List.mem_map.mp hframe
          rfl
        · cases hframe
      · rw [lookup_receive, if_pos huri, huri, hzone]
        obtain ⟨hedge, hstays⟩ := foldl_edgeFrames hfits hlast tel.motion
        exact foldl_flatMap_of_mem hedge hstays h.placed.listed
    · refine h.region_quiet hkeeps hplaced ?_ ?_
      · rw [hsent, List.flatMap_eq_nil_iff.mpr ?_, List.append_nil]
        intro v hv
        refine if_neg ?_
        rintro rfl
        exact h.placed.elsewhere tel.zoneId hzone hv
      · rw [lookup_receive, if_neg huri]
  · cases hstep
    exact h

/-- A posted send runs, or a write completes. -/
theorem Follows.queue {k : ℕ} {q : SendQueue} (h : Follows p s i)
    (hsent : q.sent = (s.region.sessions k).queue.sent) :
    Follows p { s with
      region := s.region.setSession k { s.region.sessions k with queue := q } } i := by
  refine h.region_quiet (.setSession rfl) ⟨h.placed.listed, h.placed.elsewhere⟩ ?_ rfl
  unfold Region.sentBy
  rw [Region.sessions_setSession]
  split
  · next hk => rw [hk, hsent]
  · rfl

/-- The session of a lamp reads a report of that lamp. -/
theorem Follows.report {m : OutMsg} {j : κ} {clock : Clock} {r : Region} (h : Follows p s i)
    (hreports : Lamp.Reports (p.lamp j) m)
    (hstep : Region.step p.cfg s.region (.frame (p.session j) m.body clock) = some r) :
    Follows p { s with region := r } i := by
  obtain ⟨report, hbody, hzone⟩ := hreports
  have hplaced : r.Placed (p.lamp i).uri p.zone :=
    h.placed.of_stores (Region.stores_step hstep id) fun st hstored _ => by
      rw [Region.zoneId_of_stored_status hbody hstored, hzone, p.inZone]
  have hregistered : Region.Event.registered (.frame (p.session j) m.body clock) = none := by
    simp only [Region.Event.registered, hbody]
  have hsessions := Region.sessions_handleFrame_status p.cfg clock s.region (p.session j) hbody
  simp only [Region.step] at hstep
  split at hstep
  · cases hstep
  · cases hstep
    refine h.region_quiet (Region.keepsRoutes_handleFrame hregistered) hplaced ?_ ?_
    · rw [Region.sentBy, hsessions]
      rfl
    · rw [Region.lastMotion_handleFrame]

/-- A lamp goes on. -/
theorem Follows.lamp {l : Lamp} (h : Follows p s i) (hregion : t.region = s.region)
    (hlamp : t.lamps i = l) (hheard : t.heard i = s.heard i)
    (hserves : Lamp.Serves (p.lamp i) (s.lamps i) l)
    (hwithin : t.read i ≤ (s.region.sentBy (p.session i)).length)
    (hcommands : ∀ m ∈ t.unread p i, m.type = .cmd)
    (hsettles : (t.unread p i).foldl Light.read l.light =
      goal (s.region.lastMotion.lookup p.sensor)) : Follows p t i := by
  subst hlamp
  obtain ⟨hserving, frames, hsent, hframes⟩ := hserves
  constructor
  · rw [hregion]
    exact h.placed
  · rw [hregion]
    exact h.leads
  · exact hserving
  · rw [hregion]
    exact hwithin
  · exact hcommands
  · rw [hregion]
    exact hsettles
  · intro m hm
    rw [hsent, hheard] at hm
    exact (SendQueue.mem_unread_append hm).elim (h.reports m) (hframes m)

/-- A lamp goes on without reading a frame. -/
theorem Follows.lamp_quiet {l : Lamp} (h : Follows p s i) (hregion : t.region = s.region)
    (hlamp : t.lamps i = l) (hheard : t.heard i = s.heard i) (hread : t.read i = s.read i)
    (hserves : Lamp.Serves (p.lamp i) (s.lamps i) l) (hlight : l.light = (s.lamps i).light) :
    Follows p t i := by
  have hunread : t.unread p i = s.unread p i := by
    rw [unread, unread, hregion, hread]
  refine h.lamp hregion hlamp hheard hserves ?_ ?_ ?_
  · rw [hread]
    exact h.within
  · rw [hunread]
    exact h.commands
  · rw [hunread, hlight]
    exact h.settles

/-- Other lamps go on. -/
theorem Follows.of_same (h : Follows p s i) (hregion : t.region = s.region)
    (hlamp : t.lamps i = s.lamps i) (hheard : t.heard i = s.heard i)
    (hread : t.read i = s.read i) : Follows p t i :=
  h.lamp_quiet hregion hlamp hheard hread (.refl h.serving) rfl

/-- The next frame of its session is the first that the lamp has not read. -/
theorem unread_eq {m : OutMsg}
    (hm : (s.region.sessions (p.session i)).queue.written[s.read i]? = some m) :
    s.unread p i = m :: (s.region.sentBy (p.session i)).drop (s.read i + 1) :=
  SendQueue.sent_of_written hm

/-- The lamp reads a frame. -/
theorem Follows.frame {m : OutMsg} {draw : Fin 1000} {l : Lamp} (h : Follows p s i)
    (hm : (s.region.sessions (p.session i)).queue.written[s.read i]? = some m)
    (hstep : Lamp.step (p.lamp i) (s.lamps i) (.frame m.body draw) = some l)
    (hregion : t.region = s.region) (hlamp : t.lamps i = l) (hheard : t.heard i = s.heard i)
    (hread : t.read i = s.read i + 1) : Follows p t i := by
  have hunread := unread_eq hm
  have hcommands := h.commands
  have hsettles := h.settles
  rw [hunread] at hcommands hsettles
  obtain ⟨hserves, hlight⟩ := Lamp.serves_frame h.serving (p.quiet i)
    (hcommands m (List.mem_cons_self ..)) hstep
  have hrest : t.unread p i = (s.region.sentBy (p.session i)).drop (s.read i + 1) := by
    rw [unread, hregion, hread]
  refine h.lamp hregion hlamp hheard hserves ?_ ?_ ?_
  · obtain ⟨hlt, -⟩ := List.getElem?_eq_some_iff.mp hm
    rw [hread, Region.sentBy, SendQueue.sent, List.length_append]
    omega
  · rw [hrest]
    exact fun m' hm' => hcommands m' (List.mem_cons_of_mem _ hm')
  · rw [hrest, hlight]
    exact hsettles

/-- A street that is prepared follows the motion. -/
theorem follows_of_prepared (h : Prepared p s) (i : κ) : Follows p s i := by
  obtain ⟨history, hhistory⟩ := h.started i
  obtain ⟨hoff, hdark⟩ := h.off i
  have hunread : s.unread p i = [] := by
    rw [unread, h.read i, List.drop_length]
  constructor
  · exact h.placed i
  · exact h.leads i
  · exact Lamp.serving_of_run (p.quiet i) hhistory (h.alive i) (Or.inr hoff)
  · exact (h.read i).le
  · rw [hunread]
    exact List.forall_mem_nil _
  · rw [hunread, h.unheard, List.foldl_nil, Lamp.light, hoff, hdark]
    rfl
  · exact h.reports i

/-- A motion byte that is taken is 0 or 1. -/
theorem remembered_motionOf (p : StreetPlan κ) (e : Event κ) : Remembered (motionOf p e) := by
  cases e with
  | datagram bytes beyond clock =>
    simp only [motionOf]
    cases parseTelemetry bytes beyond with
    | none => exact Or.inl rfl
    | some tel =>
      rw [Option.bind_some]
      split
      · next h =>
        rcases h.2 with hmotion | hmotion
        · exact Or.inr (Or.inl (congrArg some hmotion))
        · exact Or.inr (Or.inr (congrArg some hmotion))
      · exact Or.inl rfl
  | _ => exact Or.inl rfl

/-! ## Whole runs -/

variable [DecidableEq κ] {e : Event κ} {es : List (Event κ)}

/-- Every step keeps the invariant of every lamp. -/
theorem follows_step (hnormal : s.region.fsm.state = .normalOperation)
    (hlast : Remembered (s.region.lastMotion.lookup p.sensor))
    (hadmitted : Admitted p e) (hinv : ∀ i, Follows p s i) (h : step p s e = some t) (i : κ) :
    Follows p t i := by
  -- A lamp that goes on without reading a frame leaves the others alone.
  have hlampStep : ∀ {j : κ} {e : Lamp.Event},
      (∀ {l}, Lamp.step (p.lamp j) (s.lamps j) e = some l →
        Lamp.Serves (p.lamp j) (s.lamps j) l ∧ l.light = (s.lamps j).light) →
      s.lampStep p j e = some t → Follows p t i := by
    intro j e hquiet h
    obtain ⟨l, hl, rfl⟩ := Option.map_eq_some_iff.mp h
    obtain ⟨hserves, hlight⟩ := hquiet hl
    by_cases hj : i = j
    · subst hj
      exact (hinv i).lamp_quiet rfl (Function.update_self ..) rfl rfl hserves hlight
    · exact (hinv i).of_same rfl (Function.update_of_ne hj ..) rfl rfl
  cases e with
  | datagram bytes beyond clock =>
    obtain ⟨r, hr, rfl⟩ := Option.map_eq_some_iff.mp h
    exact (hinv i).datagram hnormal hlast hadmitted hr
  | posted k =>
    obtain ⟨r, hr, rfl⟩ := Option.map_eq_some_iff.mp h
    obtain ⟨q, hq, rfl⟩ := Option.map_eq_some_iff.mp hr
    exact (hinv i).queue (SendQueue.sent_runPosted hq)
  | written k n =>
    obtain ⟨r, hr, rfl⟩ := Option.map_eq_some_iff.mp h
    obtain ⟨u, hu, rfl⟩ := Option.map_eq_some_iff.mp hr
    obtain ⟨q, hq, rfl⟩ := Option.map_eq_some_iff.mp hu
    exact (hinv i).queue (SendQueue.sent_doWrite.trans (SendQueue.sent_complete hq))
  | report j clock =>
    simp only [step] at h
    split at h
    · cases h
    · next m hm =>
      obtain ⟨r, hr, rfl⟩ := Option.map_eq_some_iff.mp h
      have hdrop := SendQueue.sent_of_written hm
      have hreports := (hinv j).reports m (hdrop ▸ List.mem_cons_self ..)
      refine Follows.report (s := { s with
        heard := Function.update s.heard j (s.heard j + 1) }) ?_ hreports hr
      have hold := hinv i
      refine ⟨hold.placed, hold.leads, hold.serving, hold.within, hold.commands, hold.settles, ?_⟩
      intro m' hm'
      dsimp only at hm'
      by_cases hj : i = j
      · subst hj
        rw [Function.update_self] at hm'
        exact hold.reports m' (hdrop ▸ List.mem_cons_of_mem _ hm')
      · rw [Function.update_of_ne hj] at hm'
        exact hold.reports m' hm'
  | lampPosted j => exact hlampStep (Lamp.serves_posted (hinv j).serving) h
  | lampWritten j n => exact hlampStep (Lamp.serves_writeDone (hinv j).serving) h
  | lampFrame j draw =>
    simp only [step] at h
    split at h
    · cases h
    · next m hm =>
      obtain ⟨l, hl, rfl⟩ := Option.map_eq_some_iff.mp h
      by_cases hj : i = j
      · subst hj
        exact (hinv i).frame hm hl rfl (Function.update_self ..) rfl (Function.update_self ..)
      · exact (hinv i).of_same rfl (Function.update_of_ne hj ..) rfl (Function.update_of_ne hj ..)
  | heartbeat j cancelled => exact hlampStep (Lamp.serves_heartbeat (hinv j).serving) h

/-- The region remembers the motion bytes of the sensor. -/
theorem lookup_step (h : step p s e = some t) :
    t.region.lastMotion.lookup p.sensor =
      (motionOf p e).or (s.region.lastMotion.lookup p.sensor) := by
  cases e with
  | datagram bytes beyond clock =>
    obtain ⟨r, hr, rfl⟩ := Option.map_eq_some_iff.mp h
    simp only [Region.step] at hr
    split at hr
    · next tel htel =>
      cases hr
      simp only [motionOf, htel, Option.bind_some, lookup_receive, remember]
      by_cases huri : tel.uri = p.sensor
      · by_cases hmotion : tel.motion = 0 ∨ tel.motion = 1
        · rw [if_pos huri, if_pos hmotion, if_pos ⟨huri, hmotion⟩, Option.some_or]
        · rw [if_pos huri, if_neg hmotion, if_neg fun h => hmotion h.2, Option.none_or]
      · rw [if_neg huri, if_neg fun h => huri h.1, Option.none_or]
    · next htel =>
      cases hr
      simp only [motionOf, htel, Option.bind_none, Option.none_or]
  | posted k =>
    obtain ⟨r, hr, rfl⟩ := Option.map_eq_some_iff.mp h
    obtain ⟨q, -, rfl⟩ := Option.map_eq_some_iff.mp hr
    rfl
  | written k n =>
    obtain ⟨r, hr, rfl⟩ := Option.map_eq_some_iff.mp h
    obtain ⟨q, -, rfl⟩ := Option.map_eq_some_iff.mp hr
    rfl
  | report i clock =>
    simp only [step] at h
    split at h
    · cases h
    · obtain ⟨r, hr, rfl⟩ := Option.map_eq_some_iff.mp h
      simp only [Region.step] at hr
      split at hr
      · cases hr
      · cases hr
        exact congrArg (AList.lookup p.sensor) (Region.lastMotion_handleFrame ..)
  | lampPosted i =>
    obtain ⟨l, -, rfl⟩ := Option.map_eq_some_iff.mp h
    rfl
  | lampWritten i n =>
    obtain ⟨l, -, rfl⟩ := Option.map_eq_some_iff.mp h
    rfl
  | lampFrame i draw =>
    simp only [step] at h
    split at h
    · cases h
    · obtain ⟨l, -, rfl⟩ := Option.map_eq_some_iff.mp h
      rfl
  | heartbeat i cancelled =>
    obtain ⟨l, -, rfl⟩ := Option.map_eq_some_iff.mp h
    rfl

/-- The region remembers no other motion bytes of the sensor. -/
theorem remembered_step (hlast : Remembered (s.region.lastMotion.lookup p.sensor))
    (h : step p s e = some t) : Remembered (t.region.lastMotion.lookup p.sensor) := by
  have hmotion := remembered_motionOf p e
  rw [lookup_step h]
  cases hnow : motionOf p e with
  | none => rwa [Option.none_or]
  | some motion =>
    rw [hnow] at hmotion
    rwa [Option.some_or]

/-- After a run, the region remembers the last motion byte of the sensor. -/
theorem lookup_run (h : run (step p) s es = some t) :
    t.region.lastMotion.lookup p.sensor =
      (es.filterMap (motionOf p)).getLast?.or (s.region.lastMotion.lookup p.sensor) := by
  induction es generalizing s with
  | nil =>
    cases h
    rfl
  | cons e es ih =>
    obtain ⟨u, hu, hrun⟩ := Option.bind_eq_some_iff.mp h
    rw [ih hrun, lookup_step hu]
    cases hmotion : motionOf p e with
    | none => rw [Option.none_or, List.filterMap_cons_none hmotion]
    | some motion =>
      rw [Option.some_or, List.filterMap_cons_some hmotion, List.getLast?_cons]
      cases (es.filterMap (motionOf p)).getLast? <;> rfl

/-- While the region stays in normal operation, every lamp that has read all its commands is on
with intensity 60 if the last motion byte of the sensor was 1, and off with intensity 0 if it was
0 or there was none. -/
theorem light_of_run (p : StreetPlan κ) {s t : Street κ} {es : List (Event κ)}
    (hprepared : Prepared p s)
    (hnormal : Always (step p) (fun s => s.region.fsm.state = .normalOperation) s es)
    (hadmitted : ∀ e ∈ es, Admitted p e) (hrun : run (step p) s es = some t) (i : κ)
    (hdelivered : t.read i = (t.region.sentBy (p.session i)).length) :
    if (es.filterMap (motionOf p)).getLast? = some 1 then
      (t.lamps i).state = .on ∧ (t.lamps i).intensity = 60
    else (t.lamps i).state = .off ∧ (t.lamps i).intensity = 0 := by
  have hinv : (∀ i, Follows p t i) ∧ Remembered (t.region.lastMotion.lookup p.sensor) := by
    refine run_of_always (I := fun s => (∀ i, Follows p s i) ∧
      Remembered (s.region.lastMotion.lookup p.sensor)) ?_ hnormal hadmitted
      ⟨follows_of_prepared hprepared, Or.inl hprepared.unheard⟩ hrun
    rintro s e t hstate hadmits ⟨hfollows, hlast⟩ hstep
    exact ⟨follows_step hstate hlast hadmits hfollows hstep, remembered_step hlast hstep⟩
  have hfollows := hinv.1 i
  have hsettled := hfollows.settles
  rw [unread, hdelivered, List.drop_length, List.foldl_nil, lookup_run hrun, hprepared.unheard,
    Option.or_none, goal, Lamp.light] at hsettled
  split
  · next hon =>
    rw [if_pos hon, Light.mk.injEq, decide_eq_true_eq] at hsettled
    exact hsettled
  · next hoff =>
    rw [if_neg hoff, Light.dark, Light.mk.injEq, decide_eq_false_iff_not] at hsettled
    exact ⟨hfollows.serving.state.resolve_left hsettled.1, hsettled.2⟩

/-! ## One lamp -/

/-- A street with one lamp. -/
def shortPlan : StreetPlan Unit where
  cfg := ⟨7, 5000⟩
  zone := 1
  sensor := ascii "sensor"
  lamp _ := ⟨ascii "lamp", 1, 0, 0, 0, 0⟩
  session _ := 0
  inZone _ := rfl
  quiet _ := by decide

/-- The region registers the lamp. -/
def lampRegistered : Region :=
  ((run (Region.step shortPlan.cfg) Region.start
    [.frame 0 (DeviceMessage.register ⟨.luminaire, ascii "lamp", 1⟩).body ⟨1000, 1⟩, .posted 0,
      .writeDone 0 0 true])).getD Region.start

/-- The street after the registration. -/
def shortStreet : Street Unit where
  region := lampRegistered
  lamps _ := (run (Lamp.step (shortPlan.lamp ())) (Lamp.start (shortPlan.lamp ()))
    Lamp.registration).getD (Lamp.start (shortPlan.lamp ()))
  heard _ := 1
  read _ := 1

/-- The sensor has seen a motion in zone 1. -/
def motionDatagram : Bytes :=
  ascii "sensor" ++ List.replicate 42 0 ++ [0, 0, 0, 1, 0, 0, 1, 0, 0]

/-- The lamp reads both commands for the motion. The draws do not matter. -/
def motionSeen : List (Event Unit) :=
  [.datagram motionDatagram [] ⟨2000, 2⟩, .posted 0, .posted 0, .lampFrame () (Fin.last 999),
    .written 0 0, .lampFrame () (Fin.last 999)]

/-- The street is prepared. -/
theorem prepared_shortStreet : Prepared shortPlan shortStreet := by
  have hreg : shortStreet.region.reg = ((Registry.empty.upsert (ascii "lamp")
      ⟨.luminaire, 1, 0, 0, 0, false, 1000⟩).registerLamp (ascii "lamp") 1) := rfl
  have hmap : shortStreet.region.sessionMap =
      (∅ : AssocMap Bytes ℕ).insert (ascii "lamp") 0 := rfl
  constructor
  · decide +kernel
  · rintro ⟨⟩
    constructor
    · decide +kernel
    · intro z hz hmem
      rw [hreg, Registry.mem_registerLamp, Registry.mem_upsert] at hmem
      rcases hmem with (hempty | ⟨-, -, -, hzone⟩) | ⟨-, hzone⟩
      · cases hempty
      · exact hz hzone.symm
      · exact hz hzone
  · rintro ⟨⟩
    constructor
    · decide +kernel
    · decide +kernel
    · decide +kernel
    · intro v
      rw [hmap, AssocMap.lookup_insert_eq]
      split
      · next hv => exact iff_of_true rfl hv
      · next hv => exact iff_of_false (by simp) hv
  · exact fun i => ⟨Lamp.registration, rfl⟩
  · rintro ⟨⟩
    decide +kernel
  · rintro ⟨⟩
    decide +kernel
  · rintro ⟨⟩
    decide +kernel
  · rintro ⟨⟩ m hm
    have hstatus : (shortStreet.lamps ()).queue.sent.drop (shortStreet.heard ()) =
        [(shortStreet.lamps ()).statusFrame (shortPlan.lamp ())] := by decide +kernel
    rw [hstatus] at hm
    obtain rfl := List.mem_singleton.mp hm
    have hserving : Lamp.Ready (shortPlan.lamp ()) (shortStreet.lamps ()) :=
      ⟨by decide +kernel, by decide +kernel⟩
    exact Lamp.reports_statusFrame hserving _

/-- The lamp is then on with intensity 60. -/
theorem light_of_run_shortStreet :
    ∃ t, run (step shortPlan) shortStreet motionSeen = some t ∧
      (t.lamps ()).state = .on ∧ (t.lamps ()).intensity = 60 := by
  have hread : (run (step shortPlan) shortStreet motionSeen).map
      (fun t => decide (t.read () = (t.region.sentBy 0).length)) = some true := by decide +kernel
  have hmotion : (motionSeen.filterMap (motionOf shortPlan)).getLast? = some 1 := by
    decide +kernel
  obtain ⟨t, hrun, hdelivered⟩ := Option.map_eq_some_iff.mp hread
  have hnormal : Always (step shortPlan) (fun s => s.region.fsm.state = .normalOperation)
      shortStreet motionSeen := by decide +kernel
  have hadmitted : ∀ e ∈ motionSeen, Admitted shortPlan e := by
    refine List.forall_mem_cons.mpr ⟨fun tel htel => Or.inl ?_, ?_⟩
    · have hparse : (parseTelemetry motionDatagram []).map
          (fun tel => (tel.uri, tel.zoneId, tel.motion)) = some (ascii "sensor", 1, 1) := by
        decide +kernel
      rw [htel, Option.map_some, Option.some.injEq, Prod.mk.injEq, Prod.mk.injEq] at hparse
      obtain ⟨huri, hzone, hseen⟩ := hparse
      exact ⟨huri, hzone, by rw [hseen]; decide⟩
    · simp [Admitted]
  have hlight := light_of_run shortPlan prepared_shortStreet hnormal hadmitted hrun ()
    (of_decide_eq_true hdelivered)
  rw [if_pos hmotion] at hlight
  exact ⟨t, hrun, hlight⟩

end Street

end SmartLighting
