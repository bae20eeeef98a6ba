import SmartLighting.SessionMap

/-!
# A registration among motion callbacks

`handle_register` enters its session in `sessions_` before it posts the REGISTER_ACK.
Motion callbacks run on other threads and may find the session in between. Here every
access under a lock and every post is a step of its own.
-/

namespace SmartLighting

open Transition

/-- A registration that its session received and accepts. -/
structure Registration where
  /-- The session. -/
  session : ℕ
  /-- The frame. -/
  body : Bytes
  /-- The clocks while it is handled. -/
  clock : Clock
  /-- The request in the frame. -/
  req : RegisterReq
  /-- The request was decoded. -/
  received : DeviceMessage.ofBody body = some (.register req)
  /-- It names a device and a zone. -/
  accepts : DeviceSession.Accepts req

/-- What `handle_register` does next, once it has accepted its request. -/
inductive RegisterPc
  /-- It assigns the members of the session. -/
  | assign
  /-- `upsert`. -/
  | upsert
  /-- `register_lamp`, for a lamp. -/
  | registerLamp
  /-- It enters the session in `sessions_`. -/
  | bind
  /-- It posts the REGISTER_ACK. -/
  | ack
  /-- It has returned. -/
  | done
  deriving DecidableEq

/-- What a motion callback does next. -/
inductive MotionPc
  /-- It looks at the state of the server. -/
  | called (on : Bool) (zone : UInt32)
  /-- `get_lamps_in_zone`. -/
  | listing (on : Bool) (zone : UInt32)
  /-- The first of these calls of `send_cmd_to_uri` looks up its name. -/
  | sending (calls : List CmdCall)
  /-- `send_cmd_to_uri` has found a session and calls its `send_cmd`. -/
  | found (session : ℕ) (call : CmdCall) (rest : List CmdCall)

namespace MotionPc

/-- The calls of `send_cmd_to_uri` for one lamp. -/
def calls (on : Bool) (uri : Bytes) : List CmdCall :=
  if on then [⟨uri, 1, 0⟩, ⟨uri, 3, 60⟩] else [⟨uri, 2, 0⟩]

/-- `send_cmd` of a session that was found. -/
def sendCmd (r : Region) (k : ℕ) (call : CmdCall) : Region :=
  match (r.sessions k).sendCmd call.cmd call.value with
  | .ok s => r.setSession k s
  | .error _ => r

/-- The next step of a motion callback. -/
def step (r : Region) : MotionPc → Option (Region × MotionPc)
  | .called on zone =>
    some (r, if r.fsm.state ≠ .normalOperation then .sending [] else .listing on zone)
  | .listing on zone => some (r, .sending ((r.reg.getLampsInZone zone).flatMap (calls on)))
  | .sending [] => none
  | .sending (call :: rest) =>
    let r := { r with cmds := r.cmds ++ [call] }
    match r.sessionMap.lookup call.uri with
    | none => some (r, .sending rest)
    | some k =>
      if k ∈ r.expired then
        some ({ r with sessionMap := r.sessionMap.erase call.uri }, .sending rest)
      else some (r, .found k call rest)
  | .found k call rest => some (sendCmd r k call, .sending rest)

end MotionPc

namespace Registration

/-- The next step of `handle_register`. -/
def step (g : Registration) (r : Region) : RegisterPc → Option (Region × RegisterPc)
  | .assign =>
    let s := r.sessions g.session
    some (r.setSession g.session
      { s with registered := true, sessionType := g.req.type, uri := g.req.uri }, .upsert)
  | .upsert =>
    let st : DeviceState := ⟨g.req.type, g.req.zoneId, 0, 0, 0, false, g.clock.nowMs⟩
    some ({ r with reg := r.reg.upsert g.req.uri st }, .registerLamp)
  | .registerLamp =>
    some (if g.req.type = .luminaire then
      { r with reg := r.reg.registerLamp g.req.uri g.req.zoneId } else r, .bind)
  | .bind =>
    some ({ r with sessionMap :=
      r.sessionMap.insert (r.sessions g.session).uri g.session }, .ack)
  | .ack =>
    some (r.setSession g.session ((r.sessions g.session).queueSend .registerAck
      (encodeRegisterAck ⟨g.clock.unix⟩)), .done)
  | .done => none

end Registration

/-- A region in which a session handles a registration while threads run motion callbacks. -/
structure Arrival (ι : Type) where
  /-- The region. -/
  region : Region
  /-- The handler of the registration. -/
  register : RegisterPc
  /-- The callback on each thread. -/
  motion : ι → MotionPc

namespace Arrival

variable {ι : Type} {cfg : RegionConfig} {g : Registration} {a b : Arrival ι}

/-- The registration and the callbacks are called. -/
def start (r : Region) (callbacks : ι → Bool × UInt32) : Arrival ι :=
  ⟨r, .assign, fun i => .called (callbacks i).1 (callbacks i).2⟩

/-- What can happen. -/
inductive Event (ι : Type)
  /-- The handler of the registration goes on. -/
  | register
  /-- A callback goes on. -/
  | motion (i : ι)
  /-- A posted send of a session runs. -/
  | posted (session : ℕ)
  /-- A write of a session completes. -/
  | writeDone (session i : ℕ) (ok : Bool)

/-- One step of one thread. -/
def step [DecidableEq ι] (cfg : RegionConfig) (g : Registration) (a : Arrival ι) :
    Event ι → Option (Arrival ι)
  | .register => (g.step a.region a.register).map fun next =>
    { a with region := next.1, register := next.2 }
  | .motion i => ((a.motion i).step a.region).map fun next =>
    { a with region := next.1, motion := Function.update a.motion i next.2 }
  | .posted k => (Region.step cfg a.region (.posted k)).map fun r => { a with region := r }
  | .writeDone k i ok =>
    (Region.step cfg a.region (.writeDone k i ok)).map fun r => { a with region := r }

section Alone

/-! ## Threads that run alone -/

variable [DecidableEq ι]

/-- The steps of the registration, run without interruption, are its handler. -/
theorem run_register (cfg : RegionConfig) (g : Registration) (r : Region) (motion : ι → MotionPc) :
    run (step cfg g) ⟨r, .assign, motion⟩ (List.replicate 5 .register) =
      some ⟨Region.handleFrame cfg g.clock r g.session g.body, .done, motion⟩ := by
  have hexec : ((r.sessions g.session).handleRegister g.req g.clock).exec r.reg = _ :=
    DeviceSession.exec_handleRegister g.accepts
  have hframe : Region.handleFrame cfg g.clock r g.session g.body =
      { r.setSession g.session ((r.sessions g.session).registeredAs g.req g.clock) with
        reg := if g.req.type = .luminaire then
          (r.reg.upsert g.req.uri (DeviceSession.registerState g.req g.clock)).registerLamp
            g.req.uri g.req.zoneId
          else r.reg.upsert g.req.uri (DeviceSession.registerState g.req g.clock)
        sessionMap := r.sessionMap.insert g.req.uri g.session } := by
    unfold Region.handleFrame
    rw [DeviceSession.onMessage_eq, g.received]
    simp only [hexec, Region.afterFrame, List.append_nil]
    rfl
  rw [hframe]
  by_cases htype : g.req.type = .luminaire
  · simp [run, step, Registration.step, Region.setSession, htype, DeviceSession.registeredAs,
      DeviceSession.registerState]
  · simp [run, step, Registration.step, Region.setSession, htype, DeviceSession.registeredAs,
      DeviceSession.registerState]

/-- Where `send_cmd_to_uri` finds a session, it calls its `send_cmd`. -/
theorem sendCmdToUri_found {r : Region} {k : ℕ} {call : CmdCall}
    (hlookup : r.sessionMap.lookup call.uri = some k) (hlive : k ∉ r.expired) :
    r.sendCmdToUri call.uri call.cmd call.value =
      MotionPc.sendCmd { r with cmds := r.cmds ++ [call] } k call := by
  cases hsend : (r.sessions k).sendCmd call.cmd call.value with
  | ok s => simp only [Region.sendCmdToUri, MotionPc.sendCmd, hlookup, if_neg hlive, hsend]
  | error message => simp only [Region.sendCmdToUri, MotionPc.sendCmd, hlookup, if_neg hlive, hsend]

/-- One call of `send_cmd_to_uri`, run without interruption. -/
theorem run_call (cfg : RegionConfig) (g : Registration) {i : ι} {call : CmdCall}
    {rest : List CmdCall} (h : a.motion i = .sending (call :: rest)) :
    ∃ n, run (step cfg g) a (List.replicate n (.motion i)) =
      some { a with
        region := a.region.sendCmdToUri call.uri call.cmd call.value
        motion := Function.update a.motion i (.sending rest) } := by
  cases hlookup : a.region.sessionMap.lookup call.uri with
  | none =>
    refine ⟨1, ?_⟩
    simp only [List.replicate_one, run, step, h, MotionPc.step, Region.sendCmdToUri, hlookup,
      Option.map_some, Option.bind_some]
  | some k =>
    by_cases hexpired : k ∈ a.region.expired
    · refine ⟨1, ?_⟩
      simp only [List.replicate_one, run, step, h, MotionPc.step, Region.sendCmdToUri, hlookup,
        if_pos hexpired, Option.map_some, Option.bind_some]
    · refine ⟨2, ?_⟩
      simp only [List.replicate_succ, List.replicate_zero, run, step, h, MotionPc.step, hlookup,
        if_neg hexpired, Option.map_some, Option.bind_some, Function.update_self,
        Function.update_idem, sendCmdToUri_found hlookup hexpired]

/-- The calls that are left, run without interruption. -/
theorem run_calls (cfg : RegionConfig) (g : Registration) {i : ι} (calls : List CmdCall)
    (a : Arrival ι) (h : a.motion i = .sending calls) :
    ∃ n, run (step cfg g) a (List.replicate n (.motion i)) =
      some { a with
        region := a.region.makeCalls calls
        motion := Function.update a.motion i (.sending []) } := by
  induction calls generalizing a with
  | nil =>
    refine ⟨0, ?_⟩
    rw [← h, Function.update_eq_self]
    rfl
  | cons call rest ih =>
    obtain ⟨n, hcall⟩ := run_call cfg g h
    obtain ⟨m, hrest⟩ := ih { a with
      region := a.region.sendCmdToUri call.uri call.cmd call.value
      motion := Function.update a.motion i (.sending rest) } (Function.update_self ..)
    refine ⟨n + m, ?_⟩
    rw [List.replicate_add, run_append, hcall, Option.bind_some, hrest]
    simp only [Function.update_idem, Region.makeCalls, List.foldl_cons]

/-- A callback, run without interruption, is the handler of its motion edge. -/
theorem run_motion (cfg : RegionConfig) (g : Registration) {i : ι} {on : Bool} {zone : UInt32}
    (h : a.motion i = .called on zone) :
    ∃ n, run (step cfg g) a (List.replicate n (.motion i)) =
      some { a with
        region := if on then a.region.motionOn zone else a.region.motionOff zone
        motion := Function.update a.motion i (.sending []) } := by
  have hcallback : (if on then a.region.motionOn zone else a.region.motionOff zone) =
      if a.region.fsm.state = .normalOperation then
        a.region.makeCalls ((a.region.reg.getLampsInZone zone).flatMap (MotionPc.calls on))
      else a.region := by
    cases on with
    | true => exact a.region.motionOn_eq zone
    | false => exact a.region.motionOff_eq zone
  rw [hcallback, ← ite_not]
  by_cases hstate : a.region.fsm.state ≠ .normalOperation
  · refine ⟨1, ?_⟩
    simp only [List.replicate_one, run, step, h, MotionPc.step, if_pos hstate, Option.map_some,
      Option.bind_some]
  · obtain ⟨n, hcalls⟩ := run_calls cfg g
      ((a.region.reg.getLampsInZone zone).flatMap (MotionPc.calls on))
      { a with
        motion := Function.update a.motion i
          (.sending ((a.region.reg.getLampsInZone zone).flatMap (MotionPc.calls on))) }
      (Function.update_self ..)
    refine ⟨2 + n, ?_⟩
    rw [List.replicate_add, run_append]
    simp only [List.replicate_succ, List.replicate_zero, run, step, h, MotionPc.step,
      if_neg hstate, Option.map_some, Option.bind_some, Function.update_self,
      Function.update_idem]
    rw [hcalls]
    simp only [Function.update_idem]

end Alone

/-! ## The first frame of the session -/

/-- The first frame that the session sends after `before` is a REGISTER_ACK. -/
def AckFirst (g : Registration) (before : List OutMsg) (a : Arrival ι) : Prop :=
  ∃ new, (a.region.sessions g.session).queue.sent = before ++ new ∧
    ∀ m, new.head? = some m → m.type = .registerAck

/-- No callback that has found the session goes on while `handle_register` stands between the
entry in `sessions_` and the post of the REGISTER_ACK. -/
def KeepsOut (g : Registration) (a : Arrival ι) : Event ι → Prop
  | .motion i => ∀ call rest, a.motion i = .found g.session call rest → a.register ≠ .ack
  | _ => True

/-- A session keeps its name and its frames, and is not entered anew. -/
structure Undisturbed (k : ℕ) (r t : Region) : Prop where
  /-- The session still exists. -/
  live : k ∉ r.expired → k ∉ t.expired
  /-- Its name. -/
  uri : (t.sessions k).uri = (r.sessions k).uri
  /-- Its frames. -/
  sent : (t.sessions k).queue.sent = (r.sessions k).queue.sent
  /-- Its entries. -/
  entry : k ∉ t.expired → ∀ u, t.sessionMap.lookup u = some k → r.sessionMap.lookup u = some k

namespace Undisturbed

variable {k : ℕ} {r t : Region}

/-- Where the sessions and their map are the same, every session is undisturbed. -/
theorem of_eq (hsessions : t.sessions = r.sessions) (hexpired : t.expired = r.expired)
    (hmap : t.sessionMap = r.sessionMap) : Undisturbed k r t := by
  constructor
  · rw [hexpired]
    exact id
  · rw [hsessions]
  · rw [hsessions]
  · rw [hmap]
    exact fun _ u hlookup => hlookup

/-- Another session may change. -/
theorem setSession {j : ℕ} (hj : j ≠ k) (s : DeviceSession) :
    Undisturbed k r (r.setSession j s) := by
  have hsame := Region.sessions_setSession_of_ne hj.symm r s
  constructor
  · exact id
  · rw [hsame]
  · rw [hsame]
  · exact fun _ u hlookup => hlookup

/-- A command may go to another session. -/
theorem sendCmd {j : ℕ} (hj : j ≠ k) (call : CmdCall) :
    Undisturbed k r (MotionPc.sendCmd r j call) := by
  unfold MotionPc.sendCmd
  split
  · exact setSession hj _
  · exact of_eq rfl rfl rfl

/-- An entry may be erased. -/
theorem erase {uri : Bytes} {calls : List CmdCall} :
    Undisturbed k r { r with cmds := calls, sessionMap := r.sessionMap.erase uri } := by
  constructor
  · exact id
  · rfl
  · rfl
  · intro _ u hlookup
    by_cases hu : u = uri
    · rw [hu, AList.lookup_erase] at hlookup
      cases hlookup
    · rwa [AList.lookup_erase_ne hu] at hlookup

/-- The queue of a session moves frames only. -/
theorem of_queue {j : ℕ} {q : SendQueue} (h : q.sent = (r.sessions j).queue.sent) :
    Undisturbed k r (r.setSession j { r.sessions j with queue := q }) := by
  by_cases hj : j = k
  · subst hj
    have hself := Region.sessions_setSession_self r j { r.sessions j with queue := q }
    constructor
    · exact id
    · rw [hself]
    · rw [hself, h]
    · exact fun _ u hlookup => hlookup
  · exact setSession hj _

/-- A session that closes disturbs no session. -/
theorem onClose (j : ℕ) : Undisturbed k r (r.onClose j) := by
  obtain ⟨hsessions, -, hexpired⟩ := Region.onClose_routes r j
  constructor
  · rw [hexpired]
    exact id
  · rw [hsessions]
  · rw [hsessions]
  · intro hlive u hlookup
    rw [hexpired] at hlive
    exact ((Region.lookup_onClose hlive).mp hlookup).1

theorem trans {a b c : Region} (hab : Undisturbed k a b) (hbc : Undisturbed k b c)
    (hlive : k ∉ a.expired) : Undisturbed k a c := by
  constructor
  · exact fun h => hbc.live (hab.live h)
  · rw [hbc.uri, hab.uri]
  · rw [hbc.sent, hab.sent]
  · exact fun hc u hlookup => hab.entry (hab.live hlive) u (hbc.entry hc u hlookup)

/-- A posted send runs. -/
theorem posted {j : ℕ} (h : Region.step cfg r (.posted j) = some t) : Undisturbed k r t := by
  obtain ⟨q, hq, rfl⟩ := Option.map_eq_some_iff.mp h
  exact of_queue (SendQueue.sent_runPosted hq)

/-- A write completes. -/
theorem writeDone {j i : ℕ} {ok : Bool} (hlive : k ∉ r.expired)
    (h : Region.step cfg r (.writeDone j i ok) = some t) : Undisturbed k r t := by
  obtain ⟨s, hs, rfl⟩ := Option.map_eq_some_iff.mp h
  obtain ⟨q, hq, rfl⟩ := Option.map_eq_some_iff.mp hs
  have hsent := SendQueue.sent_complete hq
  cases ok with
  | true => exact of_queue (SendQueue.sent_doWrite.trans hsent)
  | false => exact (of_queue hsent).trans (onClose j) hlive

end Undisturbed

/-- The invariant: until the session is entered, no callback finds it; until the REGISTER_ACK
is posted, it sends nothing. -/
structure Inv (g : Registration) (before : List OutMsg) (r : Region) (pc : RegisterPc)
    (motion : ι → MotionPc) : Prop where
  /-- The session exists. -/
  live : g.session ∉ r.expired
  /-- Its name, once it is assigned. -/
  named : pc ≠ .assign → (r.sessions g.session).uri = g.req.uri
  /-- Before it is entered. -/
  hidden : pc ≠ .ack → pc ≠ .done →
    (∀ u, r.sessionMap.lookup u ≠ some g.session) ∧
      ∀ i call rest, motion i ≠ .found g.session call rest
  /-- Before the post. -/
  waiting : pc ≠ .done → (r.sessions g.session).queue.sent = before
  /-- After the post. -/
  acked : pc = .done → ∃ m more,
    (r.sessions g.session).queue.sent = before ++ m :: more ∧ m.type = .registerAck

namespace Inv

variable {before : List OutMsg} {r t : Region} {pc : RegisterPc} {motion : ι → MotionPc}

/-- The law holds where the invariant does. -/
theorem ackFirst (hinv : Inv g before r pc motion) : AckFirst g before ⟨r, pc, motion⟩ := by
  by_cases hdone : pc = .done
  · obtain ⟨m, more, hsent, hack⟩ := hinv.acked hdone
    refine ⟨m :: more, hsent, fun n hn => ?_⟩
    cases hn
    exact hack
  · refine ⟨[], ?_, fun n hn => by cases hn⟩
    rw [List.append_nil]
    exact hinv.waiting hdone

/-- Steps that leave the session alone keep the invariant. -/
theorem undisturbed {motion' : ι → MotionPc} (hinv : Inv g before r pc motion)
    (h : Undisturbed g.session r t)
    (hmotion : ∀ i call rest, motion' i = .found g.session call rest →
      motion i = .found g.session call rest ∨ ∃ u, r.sessionMap.lookup u = some g.session) :
    Inv g before t pc motion' := by
  constructor
  · exact h.live hinv.live
  · intro hpc
    rw [h.uri]
    exact hinv.named hpc
  · intro hack hdone
    obtain ⟨hmap, hfound⟩ := hinv.hidden hack hdone
    constructor
    · exact fun u hlookup => hmap u (h.entry (h.live hinv.live) u hlookup)
    · intro i call rest heq
      rcases hmotion i call rest heq with hold | ⟨u, hlookup⟩
      · exact hfound i call rest hold
      · exact hmap u hlookup
  · intro hdone
    rw [h.sent]
    exact hinv.waiting hdone
  · intro hdone
    rw [h.sent]
    exact hinv.acked hdone

/-- The handler has stored the device, but not yet entered the session. -/
theorem stored {pc' : RegisterPc} (hinv : Inv g before r pc motion)
    (h : Undisturbed g.session r t) (hpc : pc ≠ .assign ∧ pc ≠ .ack ∧ pc ≠ .done)
    (hpc' : pc' ≠ .done) : Inv g before t pc' motion := by
  obtain ⟨hassign, hack, hdone⟩ := hpc
  have hinv := hinv.undisturbed h fun i call rest heq => Or.inl heq
  constructor
  · exact hinv.live
  · exact fun _ => hinv.named hassign
  · exact fun _ _ => hinv.hidden hack hdone
  · exact fun _ => hinv.waiting hdone
  · exact fun hdone' => absurd hdone' hpc'

/-- The handler of the registration goes on. -/
theorem register {next : Region × RegisterPc} (hinv : Inv g before r pc motion)
    (h : g.step r pc = some next) : Inv g before next.1 next.2 motion := by
  cases pc with
  | assign =>
    cases h
    have hhidden := hinv.hidden (by decide) (by decide)
    have hwaiting := hinv.waiting (by decide)
    constructor
    · exact hinv.live
    · intro _
      rw [Region.sessions_setSession_self]
    · exact fun _ _ => hhidden
    · intro _
      rw [Region.sessions_setSession_self]
      exact hwaiting
    · intro hdone
      cases hdone
  | upsert =>
    cases h
    exact hinv.stored (.of_eq rfl rfl rfl) (by decide) (by decide : RegisterPc.registerLamp ≠ .done)
  | registerLamp =>
    cases h
    have hindexed : Undisturbed g.session r (if g.req.type = .luminaire then
        { r with reg := r.reg.registerLamp g.req.uri g.req.zoneId } else r) := by
      split
      · exact .of_eq rfl rfl rfl
      · exact .of_eq rfl rfl rfl
    exact hinv.stored hindexed (by decide) (by decide : RegisterPc.bind ≠ .done)
  | bind =>
    cases h
    have hnamed := hinv.named (by decide)
    have hwaiting := hinv.waiting (by decide)
    exact ⟨hinv.live, fun _ => hnamed, fun hack => absurd rfl hack, fun _ => hwaiting,
      fun hdone => by cases hdone⟩
  | ack =>
    cases h
    have hnamed := hinv.named (by decide)
    have hwaiting := hinv.waiting (by decide)
    constructor
    · exact hinv.live
    · intro _
      rw [Region.sessions_setSession_self]
      exact hnamed
    · exact fun _ hdone => absurd rfl hdone
    · exact fun hdone => absurd rfl hdone
    · intro _
      refine ⟨⟨.registerAck, encodeRegisterAck ⟨g.clock.unix⟩⟩, [], ?_, rfl⟩
      rw [Region.sent_setSession_queueSend, hwaiting]
  | done => cases h

/-- A callback finds the session only where it is entered. -/
theorem found_update [DecidableEq ι] {k : ℕ} {i : ι} {now : MotionPc}
    (hnow : ∀ call rest, now = .found k call rest → ∃ u, r.sessionMap.lookup u = some k) (j : ι)
    (call : CmdCall) (rest : List CmdCall)
    (h : Function.update motion i now j = .found k call rest) :
    motion j = .found k call rest ∨ ∃ u, r.sessionMap.lookup u = some k := by
  by_cases hj : j = i
  · rw [hj, Function.update_self] at h
    exact Or.inr (hnow call rest h)
  · rw [Function.update_of_ne hj] at h
    exact Or.inl h

/-- Once the session has its name, a command to it is queued. -/
theorem sendCmd_eq (hinv : Inv g before r pc motion) (hpc : pc ≠ .assign) (call : CmdCall) :
    ∃ payload, MotionPc.sendCmd r g.session call =
      r.setSession g.session ((r.sessions g.session).queueSend .cmd payload) := by
  have huri := hinv.named hpc
  have hnamed : (r.sessions g.session).uri ≠ [] := huri ▸ g.accepts.1
  have hfits : (r.sessions g.session).uri.length ≤ 65535 :=
    huri ▸ DeviceMessage.fits_of_ofBody g.received
  obtain ⟨payload, -, hsend⟩ := DeviceSession.sendCmd_of_fits hnamed hfits call.cmd call.value
  refine ⟨payload, ?_⟩
  rw [MotionPc.sendCmd, hsend]

/-- After the REGISTER_ACK, a command to the session is one more frame. -/
theorem send (hinv : Inv g before r .done motion) (call : CmdCall) :
    Inv g before (MotionPc.sendCmd r g.session call) .done motion := by
  obtain ⟨payload, hsend⟩ := hinv.sendCmd_eq (by decide) call
  rw [hsend]
  constructor
  · exact hinv.live
  · intro hpc
    rw [Region.sessions_setSession_self]
    exact hinv.named hpc
  · exact fun _ hdone => absurd rfl hdone
  · exact fun hdone => absurd rfl hdone
  · intro hdone
    obtain ⟨m, more, hsent, hack⟩ := hinv.acked hdone
    refine ⟨m, more ++ [⟨.cmd, payload⟩], ?_, hack⟩
    rw [Region.sent_setSession_queueSend, hsent, List.append_assoc, List.cons_append]

/-- A callback goes on. -/
theorem callback [DecidableEq ι] {i : ι} {next : Region × MotionPc}
    (hinv : Inv g before r pc motion) (hout : KeepsOut g ⟨r, pc, motion⟩ (.motion i))
    (h : (motion i).step r = some next) :
    Inv g before next.1 pc (Function.update motion i next.2) := by
  have hsame : ∀ calls, Undisturbed g.session r { r with cmds := calls } :=
    fun calls => .of_eq rfl rfl rfl
  cases hnow : motion i with
  | called on zone =>
    rw [hnow] at h
    cases h
    refine hinv.undisturbed (.of_eq rfl rfl rfl) (found_update fun call rest heq => ?_)
    split at heq <;> cases heq
  | listing on zone =>
    rw [hnow] at h
    cases h
    exact hinv.undisturbed (.of_eq rfl rfl rfl) (found_update fun call rest heq => by cases heq)
  | sending calls =>
    rw [hnow] at h
    cases calls with
    | nil => cases h
    | cons call rest =>
      simp only [MotionPc.step] at h
      split at h
      · cases h
        exact hinv.undisturbed (hsame _) (found_update fun call rest heq => by cases heq)
      · next k hlookup =>
        split at h
        · cases h
          exact hinv.undisturbed .erase (found_update fun call rest heq => by cases heq)
        · cases h
          refine hinv.undisturbed (hsame _) (found_update fun call' rest' heq => ?_)
          cases heq
          exact ⟨call.uri, hlookup⟩
  | found k call rest =>
    rw [hnow] at h
    cases h
    have hidle : ∀ {t : Region}, Inv g before t pc motion →
        Inv g before t pc (Function.update motion i (.sending rest)) := fun hinv =>
      hinv.undisturbed (.of_eq rfl rfl rfl) (found_update fun call rest heq => by cases heq)
    by_cases hk : k = g.session
    · subst hk
      -- The callback has found the session, so the registration has passed its `bind`.
      have hdone : pc = .done := by
        by_contra hdone
        exact (hinv.hidden (hout call rest hnow) hdone).2 i call rest hnow
      subst hdone
      exact hidle (hinv.send call)
    · exact hidle (hinv.undisturbed (.sendCmd hk call) fun j call rest heq => Or.inl heq)

/-- A callback that goes on too early sends the first frame. -/
theorem not_ackFirst [DecidableEq ι] {i : ι} {next : Region × MotionPc}
    (hinv : Inv g before r pc motion) (hout : ¬KeepsOut g ⟨r, pc, motion⟩ (.motion i))
    (h : (motion i).step r = some next) :
    ¬AckFirst g before ⟨next.1, pc, Function.update motion i next.2⟩ := by
  simp only [KeepsOut, not_forall, not_not] at hout
  obtain ⟨call, rest, hnow, hack⟩ := hout
  rw [hnow] at h
  cases h
  subst hack
  obtain ⟨payload, hsend⟩ := hinv.sendCmd_eq (by decide) call
  have hwaiting := hinv.waiting (by decide)
  rintro ⟨new, hsent, hfirst⟩
  have hself : ((MotionPc.sendCmd r g.session call).sessions g.session).queue.sent =
      before ++ [⟨.cmd, payload⟩] := by
    rw [hsend, Region.sent_setSession_queueSend, hwaiting]
  have hnew : new = [⟨.cmd, payload⟩] :=
    (List.append_cancel_left (hself.symm.trans hsent)).symm
  have htype := hfirst ⟨.cmd, payload⟩ (by rw [hnew]; rfl)
  exact absurd htype (by decide : MsgType.cmd ≠ .registerAck)

end Inv

/-- Before the registration nothing is known of the session. -/
theorem inv_start {es : List Region.Event} {r : Region}
    (hrun : run (Region.step cfg) Region.start es = some r)
    (hfirst : ∀ e ∈ es, ∀ u, e.registers ≠ some (u, g.session)) (hlive : g.session ∉ r.expired)
    (callbacks : ι → Bool × UInt32) :
    Inv g (r.sessions g.session).queue.sent r .assign (start r callbacks).motion := by
  constructor
  · exact hlive
  · exact fun hpc => absurd rfl hpc
  · intro _ _
    exact ⟨Region.not_entered_of_run hrun hfirst hlive, fun i call rest heq => by cases heq⟩
  · exact fun _ => rfl
  · intro hdone
    cases hdone

variable [DecidableEq ι]

/-- In every interleaving of a first registration with motion callbacks, the REGISTER_ACK is the
first frame exactly when no callback that has found the session goes on between its entry in
`sessions_` and the post of the REGISTER_ACK. -/
theorem always_ackFirst_iff (cfg : RegionConfig) (g : Registration) {es : List Region.Event}
    {r : Region} (hrun : run (Region.step cfg) Region.start es = some r)
    (hfirst : ∀ e ∈ es, ∀ u, e.registers ≠ some (u, g.session)) (hlive : g.session ∉ r.expired)
    (callbacks : ι → Bool × UInt32) (steps : List (Event ι)) :
    Always (step cfg g) (AckFirst g (r.sessions g.session).queue.sent) (start r callbacks) steps ↔
      EachStep (step cfg g) (fun a e _ => KeepsOut g a e) (start r callbacks) steps := by
  refine always_iff_of_invariant
    (I := fun a => Inv g (r.sessions g.session).queue.sent a.region a.register a.motion)
    (fun a hinv => hinv.ackFirst) ?_ ?_ (inv_start hrun hfirst hlive callbacks)
  · intro a e b hinv hout h
    cases e with
    | register =>
      obtain ⟨next, hnext, rfl⟩ := Option.map_eq_some_iff.mp h
      exact hinv.register hnext
    | motion i =>
      obtain ⟨next, hnext, rfl⟩ := Option.map_eq_some_iff.mp h
      exact hinv.callback hout hnext
    | posted k =>
      obtain ⟨t, ht, rfl⟩ := Option.map_eq_some_iff.mp h
      exact hinv.undisturbed (.posted ht) fun j call rest heq => Or.inl heq
    | writeDone k i ok =>
      obtain ⟨t, ht, rfl⟩ := Option.map_eq_some_iff.mp h
      exact hinv.undisturbed (.writeDone hinv.live ht) fun j call rest heq => Or.inl heq
  · intro a e b hinv hout h
    cases e with
    | motion i =>
      obtain ⟨next, hnext, rfl⟩ := Option.map_eq_some_iff.mp h
      exact hinv.not_ackFirst hout hnext
    | _ => exact absurd True.intro hout

/-- A lamp of zone 1 registers on the first session. -/
def lampArrives : Registration where
  session := 0
  body := (DeviceMessage.register ⟨.luminaire, ascii "lamp", 1⟩).body
  clock := ⟨1000, 1⟩
  req := ⟨.luminaire, ascii "lamp", 1⟩
  received := by decide
  accepts := by decide

/-- Motion in zone 1 is noticed after the lamp is entered, and its command is posted first. -/
def earlyMotion : List (Event Unit) :=
  List.replicate 4 .register ++ List.replicate 4 (.motion ()) ++ [.register]

/-- The exact law on this interleaving. -/
theorem always_ackFirst_iff_earlyMotion :
    Always (step ⟨7, 5000⟩ lampArrives) (AckFirst lampArrives [])
        (start Region.start fun _ => (true, 1)) earlyMotion ↔
      EachStep (step ⟨7, 5000⟩ lampArrives) (fun a e _ => KeepsOut lampArrives a e)
        (start Region.start fun _ => (true, 1)) earlyMotion :=
  always_ackFirst_iff ⟨7, 5000⟩ lampArrives
    (rfl : run (Region.step ⟨7, 5000⟩) Region.start [] = some Region.start)
    (List.forall_mem_nil _) (by decide) (fun _ => (true, 1)) earlyMotion

/-- The command comes before the REGISTER_ACK. -/
theorem not_always_ackFirst_earlyMotion :
    ¬Always (step ⟨7, 5000⟩ lampArrives) (AckFirst lampArrives [])
      (start Region.start fun _ => (true, 1)) earlyMotion := by
  intro h
  have hfirst : ((run (step ⟨7, 5000⟩ lampArrives) (start Region.start fun _ => (true, 1))
      earlyMotion).bind fun a => (a.region.sessions 0).queue.sent.head?).map OutMsg.type =
        some .cmd := by decide +kernel
  obtain ⟨m, hm, hcmd⟩ := Option.map_eq_some_iff.mp hfirst
  obtain ⟨a, hrun, hhead⟩ := Option.bind_eq_some_iff.mp hm
  obtain ⟨new, hsent, hack⟩ := h earlyMotion (List.prefix_refl _) a hrun
  rw [List.nil_append] at hsent
  have htype := hack m (hsent ▸ hhead)
  rw [hcmd] at htype
  exact absurd htype (by decide)

end Arrival

end SmartLighting
