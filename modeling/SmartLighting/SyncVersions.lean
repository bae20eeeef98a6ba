import SmartLighting.AdminZones
import SmartLighting.Library.Runs

/-!
# Versions of a region

`RegionSyncClient` numbers its synchronizations and sends each on a connection of
its own. It waits for an answer, but gives up when the connection fails; the
message may then still be under way and be handled after a later one. The central
server stores whatever it handled last, without a look at the versions.
-/

namespace SmartLighting

open Transition CentralServer CentralMessage

/-- What the synchronization client is waiting for. -/
inductive SyncPhase
  /-- The timer of `schedule_tick`. -/
  | timer
  /-- The resolver, the connection or the handshake, before it sends the message. -/
  | connecting (up : RegionSyncUp)
  /-- The end of the write, or the acknowledgement. -/
  | ack
  deriving DecidableEq

/-- A synchronization client and the central server. -/
structure SyncSystem where
  /-- `version_`. -/
  version : UInt32
  /-- What the client waits for. -/
  phase : SyncPhase
  /-- How many connections the client has opened; this numbers the current one. -/
  connection : ℕ
  /-- The messages that no session of the central server has handled, with their connections. -/
  pending : List (ℕ × Bytes)
  /-- The central server. -/
  server : CentralServer
  deriving DecidableEq

namespace SyncSystem

/-- The client was constructed and the central server is running. -/
def start : SyncSystem := ⟨0, .timer, 0, [], .start⟩

/-- `do_sync_once`. -/
def doSyncOnce (regionId : UInt32) (s : SyncSystem) (reg : Registry) : SyncSystem :=
  let version := s.version + 1
  { s with
    version := version
    phase := .connecting (syncUp regionId version reg)
    connection := s.connection + 1 }

/-- `send_sync`, called after the handshake. -/
def sendSync (s : SyncSystem) (up : RegionSyncUp) : SyncSystem :=
  { s with phase := .ack, pending := s.pending ++ [(s.connection, syncBody up)] }

/-- `schedule_tick`. -/
def scheduleTick (s : SyncSystem) : SyncSystem := { s with phase := .timer }

/-- What can happen. -/
inductive Event
  /-- The timer expires, or `start` is called: the registry is read. -/
  | sync (reg : Registry)
  /-- The handshake completes. -/
  | connected
  /-- A step of the client fails. -/
  | failed
  /-- The acknowledgement is read. -/
  | acked
  /-- A session of the central server handles the message that it holds. -/
  | process (i : ℕ)
  /-- A session of the central server handles a message of someone else. -/
  | other (session : ℕ) (body : Bytes)

/-- A body that is no synchronization of the region. -/
def Foreign (regionId : UInt32) (body : Bytes) : Prop :=
  ((ofBody body).bind syncOf).map (fun up => up.regionId) ≠ some regionId

instance (regionId : UInt32) (body : Bytes) : Decidable (Foreign regionId body) :=
  inferInstanceAs (Decidable (_ ≠ _))

/-- One step. An acknowledgement is read only after the message was handled. -/
def step (regionId : UInt32) (s : SyncSystem) : Event → Option SyncSystem
  | .sync reg => if s.phase = .timer then some (s.doSyncOnce regionId reg) else none
  | .connected =>
    match s.phase with
    | .connecting up => some (s.sendSync up)
    | _ => none
  | .failed => if s.phase = .timer then none else some s.scheduleTick
  | .acked =>
    if s.phase = .ack ∧ s.connection ∉ s.pending.map Prod.fst then some s.scheduleTick else none
  | .process i =>
    match s.pending[i]? with
    | some (session, body) =>
      some { s with pending := s.pending.eraseIdx i, server := s.server.onMessage session body }
    | none => none
  | .other session body =>
    if Foreign regionId body then some { s with server := s.server.onMessage session body }
    else none

/-- The synchronization that an event makes the central server handle. -/
def processed (s : SyncSystem) : Event → Option RegionSyncUp
  | .process i => do
    let message ← s.pending[i]?
    let m ← ofBody message.2
    m.syncOf
  | _ => none

/-- A monitor of the synchronizations that were handled, in their order. -/
def watch (done : List RegionSyncUp) (s : SyncSystem) (e : Event) (_ : SyncSystem) :
    List RegionSyncUp :=
  done ++ (s.processed e).toList

/-- What the central server stores for the region. -/
def stored (regionId : UInt32) (s : SyncSystem) : Option RegionAggregate :=
  s.server.store.regions.lookup regionId

/-- What a step should leave: the aggregate of the newest message that was handled, and no
smaller version than before. -/
structure NewestLaw (regionId : UInt32) (s : SyncSystem) (done : List RegionSyncUp)
    (t : SyncSystem) : Prop where
  /-- The stored aggregate is that of a message with the largest version. -/
  newest : done ≠ [] → ∃ up ∈ done, t.stored regionId = some (CentralStore.aggregateOf up) ∧
    ∀ up' ∈ done, up'.version ≤ up.version
  /-- The stored version does not decrease. -/
  monotone : ∀ a b, s.stored regionId = some a → t.stored regionId = some b →
    a.version ≤ b.version

/-- No message with a larger version was handled before. -/
def InOrder (s : SyncSystem) (done : List RegionSyncUp) (e : Event) : Prop :=
  ∀ up, s.processed e = some up → ∀ up' ∈ done, up'.version ≤ up.version

/-- What the central server stores is what it handled last, and this is the newest. -/
structure VersionInv (regionId : UInt32) (s : SyncSystem) (done : List RegionSyncUp) : Prop where
  /-- Only synchronizations of the region are under way. -/
  region : ∀ session body up, (session, body) ∈ s.pending → ofBody body = some (.sync up) →
    up.regionId = regionId
  /-- So is the one that the client is about to send. -/
  sending : ∀ up, s.phase = .connecting up → up.regionId = regionId
  /-- The last message is stored. -/
  stored : s.stored regionId = done.getLast?.map CentralStore.aggregateOf
  /-- No other message is newer. -/
  newest : ∀ up, done.getLast? = some up → ∀ up' ∈ done, up'.version ≤ up.version

variable {regionId : UInt32} {s t : SyncSystem} {done : List RegionSyncUp} {e : Event}

/-- A synchronization is decoded with the region that it was sent for. -/
theorem regionId_of_ofBody_syncBody {up up' : RegionSyncUp}
    (h : ofBody (syncBody up) = some (.sync up')) : up'.regionId = up.regionId := by
  simp only [syncBody, ofBody, if_true] at h
  obtain ⟨up'', hup, heq⟩ := Option.map_eq_some_iff.mp h
  cases heq
  exact (decodeRegionSyncUp_header (Reader.decode_of_toOption hup)).1

/-- The steps, with the state that each leaves. -/
inductive Steps (regionId : UInt32) (s : SyncSystem) : Event → SyncSystem → Prop
  | sync (reg : Registry) : Steps regionId s (.sync reg) (s.doSyncOnce regionId reg)
  | connected {up : RegionSyncUp} (hphase : s.phase = .connecting up) :
      Steps regionId s .connected (s.sendSync up)
  | failed : Steps regionId s .failed s.scheduleTick
  | acked : Steps regionId s .acked s.scheduleTick
  | process {i session : ℕ} {body : Bytes} (hmessage : s.pending[i]? = some (session, body)) :
      Steps regionId s (.process i)
        { s with pending := s.pending.eraseIdx i, server := s.server.onMessage session body }
  | other {session : ℕ} {body : Bytes} (hforeign : Foreign regionId body) :
      Steps regionId s (.other session body)
        { s with server := s.server.onMessage session body }

/-- Every step is one of these. -/
theorem steps_of_step (h : step regionId s e = some t) : Steps regionId s e t := by
  cases e with
  | sync reg =>
    obtain ⟨-, heq⟩ := Option.ite_none_right_eq_some.mp h
    cases heq
    exact .sync reg
  | connected =>
    simp only [step] at h
    split at h
    · next up hphase =>
      cases h
      exact .connected hphase
    · cases h
  | failed =>
    obtain ⟨-, heq⟩ := Option.ite_none_left_eq_some.mp h
    cases heq
    exact .failed
  | acked =>
    obtain ⟨-, heq⟩ := Option.ite_none_right_eq_some.mp h
    cases heq
    exact .acked
  | process i =>
    simp only [step] at h
    split at h
    · next session body hmessage =>
      cases h
      exact .process hmessage
    · cases h
  | other session body =>
    obtain ⟨hforeign, heq⟩ := Option.ite_none_right_eq_some.mp h
    cases heq
    exact .other hforeign

/-- What a step puts under way is the message that the client was about to send. -/
theorem Steps.pending (h : Steps regionId s e t) {message : ℕ × Bytes}
    (hmem : message ∈ t.pending) :
    message ∈ s.pending ∨ ∃ up, s.phase = .connecting up ∧ message.2 = syncBody up := by
  cases h with
  | sync reg => exact Or.inl hmem
  | @connected up hphase =>
    rcases List.mem_append.mp hmem with hmem | hmem
    · exact Or.inl hmem
    · rw [List.mem_singleton.mp hmem]
      exact Or.inr ⟨up, hphase, rfl⟩
  | failed => exact Or.inl hmem
  | acked => exact Or.inl hmem
  | process hmessage => exact Or.inl (List.mem_of_mem_eraseIdx hmem)
  | other hforeign => exact Or.inl hmem

/-- The message that the client is about to send was collected for its region. -/
theorem Steps.sending (h : Steps regionId s e t) {up : RegionSyncUp}
    (hphase : t.phase = .connecting up) : s.phase = .connecting up ∨ up.regionId = regionId := by
  cases h with
  | sync reg =>
    cases hphase
    exact Or.inr rfl
  | connected => cases hphase
  | failed => cases hphase
  | acked => cases hphase
  | process hmessage => exact Or.inl hphase
  | other hforeign => exact Or.inl hphase

/-- What is handled was under way. -/
theorem mem_of_processed {up : RegionSyncUp} (h : s.processed e = some up) :
    ∃ message ∈ s.pending, ofBody message.2 = some (.sync up) := by
  cases e with
  | process i =>
    obtain ⟨message, hmessage, hm⟩ := Option.bind_eq_some_iff.mp h
    obtain ⟨m, hbody, hsync⟩ := Option.bind_eq_some_iff.mp hm
    obtain rfl := syncOf_eq_some.mp hsync
    exact ⟨message, List.mem_of_getElem? hmessage, hbody⟩
  | sync reg => cases h
  | connected => cases h
  | failed => cases h
  | acked => cases h
  | other session body => cases h

/-- A step stores the synchronization that it handles, and no other for the region. -/
theorem Steps.stored (h : Steps regionId s e t)
    (hregion : ∀ up, s.processed e = some up → up.regionId = regionId) :
    t.stored regionId =
      ((s.processed e).map CentralStore.aggregateOf).or (s.stored regionId) := by
  cases h with
  | sync reg => rfl
  | connected hphase => rfl
  | failed => rfl
  | acked => rfl
  | @process i session body hmessage =>
    have hprocessed : s.processed (.process i) = (ofBody body).bind syncOf := by
      simp only [processed, hmessage]
      rfl
    rw [hprocessed] at hregion ⊢
    refine (lookup_onMessage s.server session body regionId).trans ?_
    cases hsync : (ofBody body).bind syncOf with
    | none => rfl
    | some up =>
      dsimp only
      rw [if_pos (hregion up hsync).symm]
      rfl
  | @other session body hforeign =>
    refine (lookup_onMessage s.server session body regionId).trans ?_
    unfold Foreign at hforeign
    cases hsync : (ofBody body).bind syncOf with
    | none => rfl
    | some up =>
      rw [hsync] at hforeign
      have hne : regionId ≠ up.regionId := fun heq => hforeign (congrArg some heq.symm)
      dsimp only
      rw [if_neg hne]
      rfl

/-- What is handled is a synchronization of the region. -/
theorem VersionInv.regionId_of_processed (hinv : VersionInv regionId s done) {up : RegionSyncUp}
    (h : s.processed e = some up) : up.regionId = regionId := by
  obtain ⟨⟨session, body⟩, hmem, hbody⟩ := mem_of_processed h
  exact hinv.region session body up hmem hbody

/-- A message in order keeps the invariant. -/
theorem VersionInv.step (hinv : VersionInv regionId s done) (horder : InOrder s done e)
    (h : Steps regionId s e t) : VersionInv regionId t (done ++ (s.processed e).toList) := by
  constructor
  · intro session body up hmem hbody
    rcases h.pending hmem with hold | ⟨up', hphase, hsame⟩
    · exact hinv.region session body up hold hbody
    · obtain rfl : body = syncBody up' := hsame
      rw [regionId_of_ofBody_syncBody hbody]
      exact hinv.sending up' hphase
  · intro up hphase
    rcases h.sending hphase with hold | hnew
    · exact hinv.sending up hold
    · exact hnew
  · rw [h.stored fun up => hinv.regionId_of_processed, hinv.stored]
    cases s.processed e with
    | none => simp
    | some up => simp
  · intro up hlast up' hmem
    cases hprocessed : s.processed e with
    | none =>
      simp only [hprocessed, Option.toList_none, List.append_nil] at hlast hmem
      exact hinv.newest up hlast up' hmem
    | some new =>
      simp only [hprocessed, Option.toList_some, List.getLast?_concat, Option.some.injEq] at hlast
      simp only [hprocessed, Option.toList_some, List.mem_append, List.mem_singleton] at hmem
      subst hlast
      rcases hmem with hold | rfl
      · exact horder new hprocessed up' hold
      · exact UInt32.le_refl _

/-- With all messages in order, what is stored last is the newest. -/
theorem newestLaw_of_inOrder (hinv : VersionInv regionId s done) (horder : InOrder s done e)
    (h : Steps regionId s e t) :
    NewestLaw regionId s (done ++ (s.processed e).toList) t := by
  have hnext := hinv.step horder h
  constructor
  · intro hne
    obtain ⟨up, hlast⟩ := Option.isSome_iff_exists.mp (List.getLast?_isSome.mpr hne)
    refine ⟨up, List.mem_of_getLast? hlast, ?_, hnext.newest up hlast⟩
    rw [hnext.stored, hlast, Option.map_some]
  · intro a b ha hb
    rw [hinv.stored] at ha
    obtain ⟨old, hold, rfl⟩ := Option.map_eq_some_iff.mp ha
    rw [hnext.stored] at hb
    obtain ⟨new, hnew, rfl⟩ := Option.map_eq_some_iff.mp hb
    exact hnext.newest new hnew old (List.mem_append_left _ (List.mem_of_getLast? hold))

/-- A message out of order is stored, although a newer one was handled. -/
theorem inOrder_of_newestLaw (hinv : VersionInv regionId s done) (h : Steps regionId s e t)
    (hlaw : NewestLaw regionId s (done ++ (s.processed e).toList) t) : InOrder s done e := by
  intro up hprocessed up' hmem
  have hstored := h.stored fun up => hinv.regionId_of_processed
  simp only [hprocessed, Option.map_some, Option.some_or, Option.toList_some] at hstored hlaw
  obtain ⟨newest, -, hsame, hmax⟩ := hlaw.newest (by simp)
  rw [hstored] at hsame
  have hversion : up.version = newest.version :=
    congrArg RegionAggregate.version (Option.some.inj hsame)
  rw [hversion]
  exact hmax up' (List.mem_append_left _ hmem)

/-- In any run of a client and the central server the newest synchronization stays exactly
when every message is handled before all messages with a larger version. -/
theorem eachStep_newestLaw_iff (regionId : UInt32) (es : List Event) :
    EachStep (monitored (step regionId) watch) (fun p _ q => NewestLaw regionId p.1 q.2 q.1)
        (start, []) es ↔
      EachStep (monitored (step regionId) watch) (fun p e _ => InOrder p.1 p.2 e)
        (start, []) es := by
  refine eachStep_monitored_iff (J := VersionInv regionId)
    (L := fun s _ _ t handled => NewestLaw regionId s handled t) (C := InOrder) ?_ ?_ ?_
  · intro s handled e t hinv horder hstep
    exact hinv.step horder (steps_of_step hstep)
  · intro s handled e t hinv hstep
    have hsteps := steps_of_step hstep
    constructor
    · exact inOrder_of_newestLaw hinv hsteps
    · intro horder
      exact newestLaw_of_inOrder hinv horder hsteps
  · constructor
    · intro session body up hmem
      cases hmem
    · intro up hphase
      cases hphase
    · rfl
    · intro up hlast
      cases hlast

/-- The first connection fails after the message was written. The message of the second is
handled first. -/
def lateMessage : List Event :=
  [.sync lampZone, .connected, .failed, .sync sensorZone, .connected, .process 1, .process 0]

/-- The second version was stored, and is replaced by the first. -/
theorem not_eachStep_newestLaw_lateMessage :
    ¬EachStep (monitored (step 7) watch) (fun p _ q => NewestLaw 7 p.1 q.2 q.1) (start, [])
      lateMessage := by
  intro h
  have hlaw := h (lateMessage.take 6) lateMessage[6] (List.prefix_refl _) _ _ rfl rfl
  have hdecreased := hlaw.monotone _ _ rfl rfl
  exact absurd hdecreased (by decide)

end SyncSystem

end SmartLighting
