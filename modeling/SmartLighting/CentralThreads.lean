import SmartLighting.AdminCli
import SmartLighting.Database
import SmartLighting.Library.Runs

/-!
# The threads of the central server

The handlers of different sessions run on several threads and lock the store for one access at a
time. In between other sessions have theirs: a synchronization is logged before it is stored, an
alarm is stored before it is logged, and a snapshot reads the regions before the alarms. Every run
still leaves the store that the same messages leave one after the other, in an order that no session
can tell from its own; and each session gets the answers to its messages, in their order, each at
the place of its own message.
-/

namespace SmartLighting

open Transition CentralServer CentralMessage

/-- A row of `alarm`. -/
structure AlarmRow where
  regionId : ℤ
  tsUnix : ℤ
  deviceType : ℤ
  zoneId : ℤ
  code : ℤ
  uri : Bytes
  text : Bytes
  deriving DecidableEq

/-- The row that `log_alarm` inserts for an alarm. -/
def AlarmUp.row (up : AlarmUp) : AlarmRow :=
  ⟨cInt up.regionId, cInt up.tsUnix, byteInt up.deviceType, cInt up.zoneId, byteInt up.code,
    cText up.uri, cText up.text⟩

/-- What the handler of a session does next. -/
inductive CentralPc
  /-- It waits for a body. -/
  | idle
  /-- `upsert_region`. -/
  | upsertRegion (up : RegionSyncUp)
  /-- `async_send` of the REGION_SYNC_ACK. -/
  | ackSync (up : RegionSyncUp)
  /-- `log_alarm`. -/
  | logAlarm (up : AlarmUp)
  /-- `async_send` of the ALARM_ACK. -/
  | ackAlarm (up : AlarmUp)
  /-- `alarms_snapshot`, after `snapshot` has returned these regions. -/
  | alarmsSnapshot (regions : AssocMap UInt32 RegionAggregate)
  /-- `async_send` of the snapshot. -/
  | sendSnapshot (snap : CentralStore)
  deriving DecidableEq

/-- The central server while several of its handlers run. -/
structure CentralThreads where
  /-- The shared store. -/
  store : CentralStore
  /-- The events that `log_region_sync` has queued. -/
  db : List CentralDbCall
  /-- The table `alarm`. -/
  alarm : List AlarmRow
  /-- Calls of `async_send`, with the session that makes each. -/
  sent : List (ℕ × OutMsg)
  /-- The handler of each session. -/
  pc : ℕ → CentralPc

namespace CentralThreads

/-- The server when it starts to accept connections. -/
def start : CentralThreads := ⟨.empty, [], [], [], fun _ => .idle⟩

/-- The handler of a session goes on. -/
def goto (c : CentralThreads) (k : ℕ) (pc : CentralPc) : CentralThreads :=
  { c with pc := Function.update c.pc k pc }

/-- `async_send`, which ends a handler. -/
def asyncSend (c : CentralThreads) (k : ℕ) (type : MsgType) (payload : Bytes) : CentralThreads :=
  let c : CentralThreads := { c with sent := c.sent ++ [(k, ⟨type, payload⟩)] }
  c.goto k .idle

/-- `on_message` up to its first access, for a message that it has found. -/
def onMessage (c : CentralThreads) (k : ℕ) : CentralMessage → CentralThreads
  | .sync up =>
    let c : CentralThreads :=
      { c with db := c.db ++ [.regionSync up.regionId up.version up.zonePowerSum] }
    c.goto k (.upsertRegion up)
  | .alarm up =>
    let c : CentralThreads := { c with store := c.store.pushAlarm (.ofAlarm up) }
    c.goto k (.logAlarm up)
  | .snapshotReq => c.goto k (.alarmsSnapshot c.store.regions)

/-- The next access of a handler. The statement of `log_alarm` may fail, which is ignored. -/
def next (c : CentralThreads) (k : ℕ) (fails : Bool) : CentralPc → Option CentralThreads
  | .idle => none
  | .upsertRegion up =>
    let c : CentralThreads := { c with
      store := c.store.upsertRegion up.regionId up.version up.zonePowerSum up.zoneDeviceSummary }
    some (c.goto k (.ackSync up))
  | .ackSync up =>
    some (c.asyncSend k .regionSyncAck (encodeRegionSyncAck ⟨up.regionId, up.version, 1⟩))
  | .logAlarm up =>
    let c : CentralThreads := { c with
      alarm := if fails then c.alarm else c.alarm ++ [up.row] }
    some (c.goto k (.ackAlarm up))
  | .ackAlarm up => some (c.asyncSend k .alarmAck (encodeAlarmAck ⟨up.regionId, up.tsUnix, 1⟩))
  | .alarmsSnapshot regions => some (c.goto k (.sendSnapshot ⟨regions, c.store.alarms⟩))
  | .sendSnapshot snap =>
    match snap.encodeAdminSnapshot with
    | .ok payload => some (c.asyncSend k .adminSnapshotAck payload)
    | .error _ => some (c.goto k .idle)

/-- What can happen. -/
inductive Event
  /-- A session receives a body. -/
  | body (k : ℕ) (body : Bytes)
  /-- The handler of a session makes its next access. -/
  | next (k : ℕ) (fails : Bool)

/-- One access. A session reads its next body when its handler has returned. -/
def step (c : CentralThreads) : Event → Option CentralThreads
  | .body k body => if c.pc k = .idle then some ((ofBody body).elim c (c.onMessage k)) else none
  | .next k fails => c.next k fails (c.pc k)

/-! ## What a session does in a step -/

/-- What one access of a handler adds. -/
structure Effect where
  /-- The messages that were found. -/
  received : List CentralMessage
  /-- The messages that were carried out in the store. -/
  stored : List CentralMessage
  /-- The alarms that were logged, and whether the statement failed. -/
  tried : List (AlarmUp × Bool)
  /-- The frames that were sent. -/
  sent : List OutMsg
  /-- What the handler does next. -/
  pc : CentralPc

/-- An access that only moves the handler on. -/
def Effect.move (pc : CentralPc) : Effect := ⟨[], [], [], [], pc⟩

/-- The accesses of a handler. A synchronization is carried out by its second access, any other
message by its first. -/
inductive Acts (store : CentralStore) : CentralPc → Effect → Prop
  | ignored : Acts store .idle (.move .idle)
  | sync {up : RegionSyncUp} (hfits : Fits (.sync up)) :
    Acts store .idle ⟨[.sync up], [], [], [], .upsertRegion up⟩
  | alarm {up : AlarmUp} (hfits : Fits (.alarm up)) :
    Acts store .idle ⟨[.alarm up], [.alarm up], [], [], .logAlarm up⟩
  | snapshotReq :
    Acts store .idle ⟨[.snapshotReq], [.snapshotReq], [], [], .alarmsSnapshot store.regions⟩
  | upsertRegion (up : RegionSyncUp) :
    Acts store (.upsertRegion up) ⟨[], [.sync up], [], [], .ackSync up⟩
  | ackSync {up : RegionSyncUp} {reply : OutMsg} (hack : ack (.sync up) = some reply) :
    Acts store (.ackSync up) ⟨[], [], [], [reply], .idle⟩
  | logAlarm (up : AlarmUp) (fails : Bool) :
    Acts store (.logAlarm up) ⟨[], [], [(up, fails)], [], .ackAlarm up⟩
  | ackAlarm {up : AlarmUp} {reply : OutMsg} (hack : ack (.alarm up) = some reply) :
    Acts store (.ackAlarm up) ⟨[], [], [], [reply], .idle⟩
  | alarmsSnapshot (regions : AssocMap UInt32 RegionAggregate) :
    Acts store (.alarmsSnapshot regions) (.move (.sendSnapshot ⟨regions, store.alarms⟩))
  | sendSnapshot {snap : CentralStore} {payload : Bytes}
    (hpayload : snap.encodeAdminSnapshot = .ok payload) :
    Acts store (.sendSnapshot snap) ⟨[], [], [], [⟨.adminSnapshotAck, payload⟩], .idle⟩
  | failed {snap : CentralStore} {error : String}
    (herror : snap.encodeAdminSnapshot = .error error) :
    Acts store (.sendSnapshot snap) (.move .idle)

/-- The store after a message. -/
def apply (store : CentralStore) : CentralMessage → CentralStore
  | .sync up => store.upsertRegion up.regionId up.version up.zonePowerSum up.zoneDeviceSummary
  | .alarm up => store.pushAlarm (.ofAlarm up)
  | .snapshotReq => store

/-- The event that is queued for a message. -/
def syncCall : CentralMessage → Option CentralDbCall
  | .sync up => some (.regionSync up.regionId up.version up.zonePowerSum)
  | _ => none

/-- A session has made an access. -/
structure Moves (c : CentralThreads) (k : ℕ) (effect : Effect) (t : CentralThreads) : Prop where
  /-- It is one of its handler. -/
  acts : Acts c.store (c.pc k) effect
  /-- The store. -/
  store : t.store = effect.stored.foldl apply c.store
  /-- The queue. -/
  db : t.db = c.db ++ effect.received.filterMap syncCall
  /-- The table. -/
  alarm : t.alarm =
    c.alarm ++ (effect.tried.filter fun entry => !entry.2).map fun entry => entry.1.row
  /-- The frames. -/
  sent : t.sent = c.sent ++ effect.sent.map fun out => (k, out)
  /-- The handlers. -/
  pc : t.pc = Function.update c.pc k effect.pc

/-- The messages, in the order of three of the accesses. -/
structure Log where
  /-- They were found in their bodies. -/
  received : List (ℕ × CentralMessage)
  /-- They were carried out in the store. -/
  stored : List (ℕ × CentralMessage)
  /-- The alarms were logged; the flag says whether the statement failed. -/
  tried : List (ℕ × AlarmUp × Bool)

/-- Nothing has happened. -/
def Log.empty : Log := ⟨[], [], []⟩

/-- A monitor of these accesses. -/
def watch (log : Log) (c : CentralThreads) : Event → CentralThreads → Log
  | .body k body, _ =>
    match ofBody body with
    | none => log
    | some (.sync up) => { log with received := log.received ++ [(k, .sync up)] }
    | some m =>
      { log with received := log.received ++ [(k, m)], stored := log.stored ++ [(k, m)] }
  | .next k fails, _ =>
    match c.pc k with
    | .upsertRegion up => { log with stored := log.stored ++ [(k, .sync up)] }
    | .logAlarm up => { log with tried := log.tried ++ [(k, up, fails)] }
    | _ => log

variable {c t : CentralThreads} {k : ℕ} {e : Event} {log : Log}

/-- The entries that an access adds to the log. -/
def Log.add (log : Log) (k : ℕ) (effect : Effect) : Log where
  received := log.received ++ effect.received.map fun m => (k, m)
  stored := log.stored ++ effect.stored.map fun m => (k, m)
  tried := log.tried ++ effect.tried.map fun entry => (k, entry)

/-- An access that adds nothing. -/
theorem Log.add_move (log : Log) (k : ℕ) (pc : CentralPc) : log.add k (.move pc) = log := by
  simp [Log.add, Effect.move]

/-- Only the handler moves on. -/
theorem moves_goto {pc : CentralPc} (hacts : Acts c.store (c.pc k) (.move pc)) :
    Moves c k (.move pc) (c.goto k pc) where
  acts := hacts
  store := rfl
  db := (List.append_nil _).symm
  alarm := (List.append_nil _).symm
  sent := (List.append_nil _).symm
  pc := rfl

/-- A reply is sent. -/
theorem moves_asyncSend {type : MsgType} {payload : Bytes}
    (hacts : Acts c.store (c.pc k) ⟨[], [], [], [⟨type, payload⟩], .idle⟩) :
    Moves c k ⟨[], [], [], [⟨type, payload⟩], .idle⟩ (c.asyncSend k type payload) where
  acts := hacts
  store := rfl
  db := (List.append_nil _).symm
  alarm := (List.append_nil _).symm
  sent := rfl
  pc := rfl

/-- **Inversion lemma.** Every step is an access of one session. -/
theorem moves_of_step (log : Log) (h : step c e = some t) :
    ∃ k effect, Moves c k effect t ∧ watch log c e t = log.add k effect := by
  cases e with
  | body k body =>
    obtain ⟨hidle, heq⟩ := Option.ite_none_right_eq_some.mp h
    cases heq
    simp only [watch]
    cases hbody : ofBody body with
    | none =>
      refine ⟨k, .move .idle, ⟨?_, rfl, ?_, ?_, ?_, ?_⟩, (log.add_move k .idle).symm⟩
      · rw [hidle]
        exact .ignored
      · exact (List.append_nil _).symm
      · exact (List.append_nil _).symm
      · exact (List.append_nil _).symm
      · exact (Function.update_eq_self_iff.mpr hidle.symm).symm
    | some m =>
      cases m with
      | sync up =>
        refine ⟨k, ⟨[.sync up], [], [], [], .upsertRegion up⟩, ⟨?_, rfl, rfl, ?_, ?_, rfl⟩, ?_⟩
        · rw [hidle]
          exact .sync (fits_of_ofBody hbody)
        · exact (List.append_nil _).symm
        · exact (List.append_nil _).symm
        · simp [Log.add]
      | alarm up =>
        refine ⟨k, ⟨[.alarm up], [.alarm up], [], [], .logAlarm up⟩, ⟨?_, rfl, ?_, ?_, ?_, rfl⟩, ?_⟩
        · rw [hidle]
          exact .alarm (fits_of_ofBody hbody)
        · exact (List.append_nil _).symm
        · exact (List.append_nil _).symm
        · exact (List.append_nil _).symm
        · simp [Log.add]
      | snapshotReq =>
        refine ⟨k, ⟨[.snapshotReq], [.snapshotReq], [], [], .alarmsSnapshot c.store.regions⟩,
          ⟨?_, rfl, ?_, ?_, ?_, rfl⟩, ?_⟩
        · rw [hidle]
          exact .snapshotReq
        · exact (List.append_nil _).symm
        · exact (List.append_nil _).symm
        · exact (List.append_nil _).symm
        · simp [Log.add]
  | next k fails =>
    have hnext : c.next k fails (c.pc k) = some t := h
    simp only [watch]
    refine ⟨k, ?_⟩
    cases hpc : c.pc k with
    | idle =>
      rw [hpc] at hnext
      cases hnext
    | upsertRegion up =>
      rw [hpc] at hnext
      cases hnext
      refine ⟨⟨[], [.sync up], [], [], .ackSync up⟩, ⟨?_, rfl, ?_, ?_, ?_, rfl⟩, ?_⟩
      · rw [hpc]
        exact .upsertRegion up
      · exact (List.append_nil _).symm
      · exact (List.append_nil _).symm
      · exact (List.append_nil _).symm
      · simp [Log.add]
    | ackSync up =>
      rw [hpc] at hnext
      cases hnext
      refine ⟨_, moves_asyncSend ?_, by simp [Log.add]⟩
      rw [hpc]
      exact .ackSync rfl
    | logAlarm up =>
      rw [hpc] at hnext
      cases hnext
      refine ⟨⟨[], [], [(up, fails)], [], .ackAlarm up⟩, ⟨?_, rfl, ?_, ?_, ?_, rfl⟩, ?_⟩
      · rw [hpc]
        exact .logAlarm up fails
      · exact (List.append_nil _).symm
      · cases fails with
        | true => exact (List.append_nil _).symm
        | false => rfl
      · exact (List.append_nil _).symm
      · simp [Log.add]
    | ackAlarm up =>
      rw [hpc] at hnext
      cases hnext
      refine ⟨_, moves_asyncSend ?_, by simp [Log.add]⟩
      rw [hpc]
      exact .ackAlarm rfl
    | alarmsSnapshot regions =>
      rw [hpc] at hnext
      cases hnext
      refine ⟨_, moves_goto ?_, (log.add_move k _).symm⟩
      rw [hpc]
      exact .alarmsSnapshot regions
    | sendSnapshot snap =>
      rw [hpc] at hnext
      simp only [next] at hnext
      cases hpayload : snap.encodeAdminSnapshot with
      | ok payload =>
        rw [hpayload] at hnext
        cases hnext
        refine ⟨_, moves_asyncSend ?_, by simp [Log.add]⟩
        rw [hpc]
        exact .sendSnapshot hpayload
      | error error =>
        rw [hpayload] at hnext
        cases hnext
        refine ⟨_, moves_goto ?_, (log.add_move k _).symm⟩
        rw [hpc]
        exact .failed hpayload

/-! ## The order in which the messages are carried out -/

/-- The store after messages that were handled one after the other. -/
def storeAfter (messages : List (ℕ × CentralMessage)) : CentralStore :=
  (messages.foldl (fun c m => c.handle m.1 m.2) CentralServer.start).store

/-- A snapshot shows the regions of one moment and the alarms of another. -/
def shown (stored : List (ℕ × CentralMessage)) (i j : ℕ) : CentralStore :=
  ⟨(storeAfter (stored.take i)).regions, (storeAfter (stored.take j)).alarms⟩

/-- The `n`-th message of a session has this place in the order. -/
structure Placed (stored : List (ℕ × CentralMessage)) (k n i : ℕ) (m : CentralMessage) : Prop where
  /-- The message stands there. -/
  entry : stored[i]? = some (k, m)
  /-- So many of the session stand before it. -/
  count : (tagged k (stored.take i)).length = n

/-- A frame answers the `n`-th message of a session. -/
inductive Answers (stored : List (ℕ × CentralMessage)) (k n : ℕ) : CentralMessage → OutMsg → Prop
  /-- This very message was carried out before it was acknowledged. -/
  | ack {m : CentralMessage} {reply : OutMsg} {i : ℕ} (hack : m.ack = some reply)
      (hplaced : Placed stored k n i m) : Answers stored k n m reply
  /-- The regions are those of the moment that this very request has in the order, and the alarms
  are not older. -/
  | snapshot {i j : ℕ} {payload : Bytes} (hplaced : Placed stored k n i .snapshotReq)
      (hlater : i ≤ j) (hpast : j ≤ stored.length)
      (hpayload : (shown stored i j).encodeAdminSnapshot = .ok payload) :
      Answers stored k n .snapshotReq ⟨.adminSnapshotAck, payload⟩

/-- The message that a handler has not carried out. -/
def unstored : CentralPc → List CentralMessage
  | .upsertRegion up => [.sync up]
  | _ => []

/-- The alarm that a handler has not logged. -/
def unlogged : CentralPc → List AlarmUp
  | .logAlarm up => [up]
  | _ => []

/-- The message that a handler has not answered. -/
def unanswered : CentralPc → List CentralMessage
  | .idle => []
  | .upsertRegion up => [.sync up]
  | .ackSync up => [.sync up]
  | .logAlarm up => [.alarm up]
  | .ackAlarm up => [.alarm up]
  | .alarmsSnapshot _ => [.snapshotReq]
  | .sendSnapshot _ => [.snapshotReq]

/-- What the threads have done amounts to the messages one after the other. -/
structure Linearizes (c : CentralThreads) (log : Log) : Prop where
  /-- The store is that of the messages in the order in which they were carried out. -/
  store : c.store = storeAfter log.stored
  /-- This is the order of each session, but for the message in its handler. -/
  order : ∀ k, tagged k log.received = tagged k log.stored ++ unstored (c.pc k)
  /-- Each synchronization was queued once, in the order in which they were received. -/
  db : c.db = log.received.filterMap fun m => syncCall m.2
  /-- The table has the alarms that were logged without a failure. -/
  alarm : c.alarm = (log.tried.filter fun entry => !entry.2.2).map fun entry => entry.2.1.row
  /-- Each alarm of a session is logged once, in the order of the session. -/
  logged : ∀ k, (tagged k log.stored).filterMap alarmOf =
    (tagged k log.tried).map Prod.fst ++ unlogged (c.pc k)
  /-- The frames to a session answer its messages in their order, the `n`-th frame the `n`-th
  message, but for the one in its handler. -/
  replies : ∀ k, ∃ handled, tagged k log.received = handled ++ unanswered (c.pc k) ∧
    Matched (Answers log.stored k) handled (tagged k c.sent)

/-- How far a handler has come with the `n`-th message of its session. -/
inductive Progress (stored : List (ℕ × CentralMessage)) (k n : ℕ) : CentralPc → Prop
  | idle : Progress stored k n .idle
  | upsertRegion {up : RegionSyncUp} (hfits : Fits (.sync up)) :
    Progress stored k n (.upsertRegion up)
  | ackSync {up : RegionSyncUp} {i : ℕ} (hplaced : Placed stored k n i (.sync up)) :
    Progress stored k n (.ackSync up)
  | logAlarm {up : AlarmUp} {i : ℕ} (hplaced : Placed stored k n i (.alarm up)) :
    Progress stored k n (.logAlarm up)
  | ackAlarm {up : AlarmUp} {i : ℕ} (hplaced : Placed stored k n i (.alarm up)) :
    Progress stored k n (.ackAlarm up)
  | alarmsSnapshot {i : ℕ} (hplaced : Placed stored k n i .snapshotReq) :
    Progress stored k n (.alarmsSnapshot (storeAfter (stored.take i)).regions)
  | sendSnapshot {i j : ℕ} (hplaced : Placed stored k n i .snapshotReq) (hlater : i ≤ j)
    (hpast : j ≤ stored.length) : Progress stored k n (.sendSnapshot (shown stored i j))

/-- What holds between two accesses. -/
structure Inv (c : CentralThreads) (log : Log) : Prop where
  /-- The law. -/
  law : Linearizes c log
  /-- The handlers, each with the first message that has no reply. -/
  progress : ∀ k, Progress log.stored k (tagged k c.sent).length (c.pc k)
  /-- The messages have been decoded. -/
  fits : ∀ m ∈ log.stored, m.2.Fits

variable {stored new : List (ℕ × CentralMessage)} {effect : Effect} {pc : CentralPc} {n i j : ℕ}

/-- A handler of the sequential model does to the store what the accesses do. -/
theorem store_handle (c : CentralServer) (k : ℕ) (m : CentralMessage) :
    (c.handle k m).store = apply c.store m := by
  cases m with
  | sync up => rfl
  | alarm up => rfl
  | snapshotReq =>
    simp only [CentralServer.handle, CentralServer.onSnapshotReq]
    split <;> rfl

theorem storeAfter_append (stored : List (ℕ × CentralMessage)) (k : ℕ)
    (new : List CentralMessage) :
    storeAfter (stored ++ new.map fun m => (k, m)) = new.foldl apply (storeAfter stored) := by
  induction new using List.reverseRecOn with
  | nil => rw [List.map_nil, List.append_nil, List.foldl_nil]
  | append_singleton new m ih =>
    rw [List.map_append, List.map_singleton, ← List.append_assoc, List.foldl_concat, ← ih,
      storeAfter, List.foldl_concat]
    exact store_handle _ k m

/-- What was shown stays what was shown. -/
theorem shown_append (hi : i ≤ stored.length) (hj : j ≤ stored.length)
    (new : List (ℕ × CentralMessage)) : shown (stored ++ new) i j = shown stored i j := by
  rw [shown, shown, List.take_append_of_le_length hi, List.take_append_of_le_length hj]

/-- A place is one of the places so far. -/
theorem Placed.lt {m : CentralMessage} (h : Placed stored k n i m) : i < stored.length :=
  (List.getElem?_eq_some_iff.mp h.entry).1

/-- A message keeps its place when others are carried out. -/
theorem Placed.append {m : CentralMessage} (h : Placed stored k n i m)
    (new : List (ℕ × CentralMessage)) : Placed (stored ++ new) k n i m where
  entry := by rw [List.getElem?_append_left h.lt, h.entry]
  count := by rw [List.take_append_of_le_length h.lt.le, h.count]

/-- The next message of a session is placed at the end. -/
theorem placed_append_self (hcount : (tagged k stored).length = n) (m : CentralMessage) :
    Placed (stored ++ [(k, m)]) k n stored.length m where
  entry := by simp
  count := by rw [List.take_left, hcount]

/-- An answer stays one when other messages are carried out. -/
theorem Answers.append {m : CentralMessage} {reply : OutMsg} (h : Answers stored k n m reply)
    (new : List (ℕ × CentralMessage)) : Answers (stored ++ new) k n m reply := by
  cases h with
  | ack hack hplaced => exact .ack hack (hplaced.append new)
  | snapshot hplaced hlater hpast hpayload =>
    refine .snapshot (hplaced.append new) hlater
      (hpast.trans (List.length_append ▸ Nat.le_add_right _ _)) ?_
    rwa [shown_append hplaced.lt.le hpast]

/-- So does the progress of a handler. -/
theorem Progress.append (h : Progress stored k n pc) (new : List (ℕ × CentralMessage)) :
    Progress (stored ++ new) k n pc := by
  cases h with
  | idle => exact .idle
  | upsertRegion hfits => exact .upsertRegion hfits
  | ackSync hplaced => exact .ackSync (hplaced.append new)
  | logAlarm hplaced => exact .logAlarm (hplaced.append new)
  | ackAlarm hplaced => exact .ackAlarm (hplaced.append new)
  | alarmsSnapshot hplaced =>
    rw [← List.take_append_of_le_length hplaced.lt.le]
    exact .alarmsSnapshot (hplaced.append new)
  | sendSnapshot hplaced hlater hpast =>
    rw [← shown_append hplaced.lt.le hpast new]
    exact .sendSnapshot (hplaced.append new) hlater
      (hpast.trans (List.length_append ▸ Nat.le_add_right _ _))

/-- The messages that were carried out and the replies of a session differ by what its handler has
still to do. -/
theorem Linearizes.count (h : Linearizes c log) (k : ℕ) :
    (tagged k log.stored).length + (unstored (c.pc k)).length =
      (tagged k c.sent).length + (unanswered (c.pc k)).length := by
  obtain ⟨handled, hreceived, hmatched⟩ := h.replies k
  have hlength := congrArg List.length ((h.order k).symm.trans hreceived)
  rwa [List.length_append, List.length_append, hmatched.1] at hlength

/-- A message is carried out after it was received. -/
theorem Acts.unstored_eq {store : CentralStore} (h : Acts store pc effect) :
    unstored pc ++ effect.received = effect.stored ++ unstored effect.pc := by
  cases h <;> rfl

/-- An alarm is logged after it was carried out. -/
theorem Acts.unlogged_eq {store : CentralStore} (h : Acts store pc effect) :
    unlogged pc ++ effect.stored.filterMap alarmOf =
      effect.tried.map Prod.fst ++ unlogged effect.pc := by
  cases h <;> rfl

/-- A handler makes progress, and has done with its message when it has sent its reply. -/
theorem Acts.progress (h : Acts (storeAfter stored) pc effect)
    (hprogress : Progress stored k n pc)
    (hcount : (tagged k stored).length + (unstored pc).length = n + (unanswered pc).length) :
    Progress (stored ++ effect.stored.map fun m => (k, m)) k (n + effect.sent.length)
      effect.pc := by
  cases h with
  | ignored => exact .idle
  | sync hfits => exact .upsertRegion hfits
  | alarm hfits => exact .logAlarm (placed_append_self hcount _)
  | snapshotReq =>
    have hpc := Progress.alarmsSnapshot (placed_append_self hcount .snapshotReq)
    rwa [List.take_left] at hpc
  | upsertRegion up => exact .ackSync (placed_append_self (Nat.succ_injective hcount) _)
  | ackSync hack => exact .idle
  | logAlarm up fails =>
    cases hprogress with
    | logAlarm hplaced => exact .ackAlarm (hplaced.append _)
  | ackAlarm hack => exact .idle
  | alarmsSnapshot regions =>
    cases hprogress with
    | @alarmsSnapshot i hplaced =>
      have hpc := Progress.sendSnapshot hplaced hplaced.lt.le le_rfl
      rw [shown, List.take_length] at hpc
      change Progress (stored ++ []) k n (.sendSnapshot _)
      rw [List.append_nil]
      exact hpc
  | sendSnapshot hpayload => exact .idle
  | failed herror => exact .idle

/-- What is shown of messages that fit can be encoded. -/
theorem shown_encodes (hfits : ∀ m ∈ stored, m.2.Fits) (i j : ℕ) :
    ∃ payload, (shown stored i j).encodeAdminSnapshot = .ok payload := by
  have hbounded := (folded_foldl (stored.take j)).bounded fun m hm =>
    hfits m (List.mem_of_mem_take hm)
  exact ⟨_, encodeAdminSnapshot_eq hbounded.strings⟩

/-- What a handler sends answers its message. -/
theorem Acts.replies {store : CentralStore} (h : Acts store pc effect)
    (hprogress : Progress stored k n pc) (hfits : ∀ m ∈ stored, m.2.Fits) :
    ∃ handled, unanswered pc ++ effect.received = handled ++ unanswered effect.pc ∧
      Matched (fun later => Answers stored k (n + later)) handled effect.sent := by
  cases h with
  | ignored => exact ⟨[], rfl, .nil⟩
  | sync hfits => exact ⟨[], rfl, .nil⟩
  | alarm hfits => exact ⟨[], rfl, .nil⟩
  | snapshotReq => exact ⟨[], rfl, .nil⟩
  | upsertRegion up => exact ⟨[], rfl, .nil⟩
  | @ackSync up reply hack =>
    cases hprogress with
    | ackSync hplaced => exact ⟨[.sync up], rfl, .singleton (.ack hack hplaced)⟩
  | logAlarm up fails => exact ⟨[], rfl, .nil⟩
  | @ackAlarm up reply hack =>
    cases hprogress with
    | ackAlarm hplaced => exact ⟨[.alarm up], rfl, .singleton (.ack hack hplaced)⟩
  | alarmsSnapshot regions => exact ⟨[], rfl, .nil⟩
  | sendSnapshot hpayload =>
    cases hprogress with
    | sendSnapshot hplaced hlater hpast =>
      exact ⟨[.snapshotReq], rfl, .singleton (.snapshot hplaced hlater hpast hpayload)⟩
  | failed herror =>
    cases hprogress with
    | @sendSnapshot i j hplaced hlater hpast =>
      obtain ⟨payload, hpayload⟩ := shown_encodes hfits i j
      rw [hpayload] at herror
      cases herror

/-- What a handler carries out was decoded. -/
theorem Acts.fits {store : CentralStore} (h : Acts store pc effect)
    (hprogress : Progress stored k n pc) : ∀ m ∈ effect.stored, m.Fits := by
  intro m hm
  cases h with
  | alarm hfits =>
    rw [List.mem_singleton.mp hm]
    exact hfits
  | snapshotReq =>
    rw [List.mem_singleton.mp hm]
    trivial
  | upsertRegion up =>
    rw [List.mem_singleton.mp hm]
    cases hprogress with
    | upsertRegion hfits => exact hfits
  | ignored => exact absurd hm List.not_mem_nil
  | sync hfits => exact absurd hm List.not_mem_nil
  | ackSync hack => exact absurd hm List.not_mem_nil
  | logAlarm up fails => exact absurd hm List.not_mem_nil
  | ackAlarm hack => exact absurd hm List.not_mem_nil
  | alarmsSnapshot regions => exact absurd hm List.not_mem_nil
  | sendSnapshot hpayload => exact absurd hm List.not_mem_nil
  | failed herror => exact absurd hm List.not_mem_nil

/-- An access keeps the law. -/
private theorem Inv.law_moves (h : Inv c log) (hmoves : Moves c k effect t) :
    Linearizes t (log.add k effect) := by
  have hacts := hmoves.acts
  have hpc : t.pc k = effect.pc := by rw [hmoves.pc, Function.update_self]
  have hpc' : ∀ j, j ≠ k → t.pc j = c.pc j := fun j hj => by
    rw [hmoves.pc, Function.update_of_ne hj]
  constructor
  · rw [hmoves.store, h.law.store]
    exact (storeAfter_append ..).symm
  · intro j
    rw [Log.add, tagged_append, tagged_append]
    by_cases hj : j = k
    · subst hj
      rw [tagged_self, tagged_self, h.law.order, hpc, List.append_assoc, List.append_assoc,
        hacts.unstored_eq]
    · rw [tagged_of_ne hj, tagged_of_ne hj, hpc' j hj, List.append_nil, List.append_nil]
      exact h.law.order j
  · rw [hmoves.db, h.law.db, Log.add, List.filterMap_append, List.filterMap_map]
    rfl
  · rw [hmoves.alarm, h.law.alarm, Log.add, List.filter_append, List.map_append, List.filter_map,
      List.map_map]
    rfl
  · intro j
    rw [Log.add, tagged_append, tagged_append, List.filterMap_append, List.map_append]
    by_cases hj : j = k
    · subst hj
      rw [tagged_self, tagged_self, h.law.logged, hpc, List.append_assoc, List.append_assoc,
        hacts.unlogged_eq]
    · rw [tagged_of_ne hj, tagged_of_ne hj, hpc' j hj, List.filterMap_nil, List.map_nil,
        List.append_nil, List.append_nil]
      exact h.law.logged j
  · intro j
    obtain ⟨handled, hreceived, hanswers⟩ := h.law.replies j
    have hold := hanswers.imp fun n m reply hanswer =>
      Answers.append hanswer (effect.stored.map fun m => (k, m))
    rw [Log.add, hmoves.sent, tagged_append, tagged_append]
    by_cases hj : j = k
    · subst hj
      obtain ⟨new, hnew, hanswers'⟩ := hacts.replies (h.progress j) h.fits
      refine ⟨handled ++ new, ?_, ?_⟩
      · rw [tagged_self, hreceived, hpc, List.append_assoc, List.append_assoc, hnew]
      · rw [tagged_self]
        exact hold.append (hanswers'.imp fun n m reply hanswer => hanswer.append _)
    · rw [tagged_of_ne hj, tagged_of_ne hj, hpc' j hj, List.append_nil, List.append_nil]
      exact ⟨handled, hreceived, hold⟩

/-- **Step lemma.** An access keeps the invariant. -/
theorem Inv.step (h : Inv c log) (hstep : step c e = some t) : Inv t (watch log c e t) := by
  obtain ⟨k, effect, hmoves, hlog⟩ := moves_of_step log hstep
  have hacts := hmoves.acts
  rw [hlog]
  refine ⟨h.law_moves hmoves, fun j => ?_, fun m hm => ?_⟩
  · rw [hmoves.pc, hmoves.sent, tagged_append]
    by_cases hj : j = k
    · subst hj
      rw [Function.update_self, tagged_self, List.length_append]
      rw [h.law.store] at hacts
      exact hacts.progress (h.progress j) (h.law.count j)
    · rw [Function.update_of_ne hj, tagged_of_ne hj, List.append_nil]
      exact (h.progress j).append _
  · rcases List.mem_append.mp hm with hold | hnew
    · exact h.fits m hold
    · obtain ⟨m', hm', rfl⟩ := List.mem_map.mp hnew
      exact hacts.fits (h.progress k) m' hm'

theorem inv_start : Inv start .empty where
  law := ⟨rfl, fun _ => rfl, rfl, rfl, fun _ => rfl, fun _ => ⟨[], rfl, .nil⟩⟩
  progress _ := .idle
  fits _ hm := absurd hm List.not_mem_nil

/-- In every run of the threads: the store is that of the messages carried out one after the other,
in an order that respects each session; the queue and the table have each message once, and each
session is answered in its order, after the message was carried out. -/
theorem always_linearizes (es : List Event) :
    Always (monitored step watch) (fun p => Linearizes p.1 p.2) (start, .empty) es :=
  have hinv : Always (monitored step watch) (fun p => Inv p.1 p.2) (start, .empty) es :=
    Always.of_monitored (fun _ _ _ _ h hstep => h.step hstep) inv_start
  hinv.mono fun _ h => h.law

end CentralThreads

end SmartLighting
