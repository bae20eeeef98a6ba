import SmartLighting.SyncVersions

/-!
# The chain of the synchronization client

`RegionSyncClient` goes from its timer through the resolver, the connection, the
handshake, a write and two reads back to its timer. Each completion handler
starts the next operation, or sets the timer where the operation failed. The
operations that are outstanding form a list here, so that a handler could start
none or several; it is shown that there is always one.
-/

namespace SmartLighting

open Reader Transition

/-- `decode_region_sync_ack`. -/
def decodeRegionSyncAck : Reader RegionSyncAck := do
  let regionId ← getU32
  let version ← getU32
  let ok ← getU8
  return ⟨regionId, version, ok⟩

/-- An outstanding operation, with what its completion handler has captured. -/
inductive SyncOp
  /-- `timer_.async_wait` of `schedule_tick`. -/
  | timer
  /-- `async_resolve`. -/
  | resolve (up : RegionSyncUp)
  /-- `async_connect`. -/
  | connect (up : RegionSyncUp)
  /-- `async_handshake`. -/
  | handshake (up : RegionSyncUp)
  /-- `async_write_frame`, with the bytes that it writes. -/
  | write (bytes : Bytes)
  /-- `async_read` of `hdr_`. -/
  | header
  /-- `async_read` of `body_`. -/
  | body
  deriving DecidableEq

/-- The phase of the system with the central server to which an operation belongs. -/
def SyncOp.phase : SyncOp → SyncPhase
  | timer => .timer
  | resolve up | connect up | handshake up => .connecting up
  | write _ | header | body => .ack

/-- Only the timer belongs to the phase of the timer. -/
theorem SyncOp.phase_ne_timer {op : SyncOp} (h : op ≠ .timer) : op.phase ≠ .timer := by
  intro htimer
  cases op with
  | timer => exact h rfl
  | _ => cases htimer

/-- `RegionSyncClient`, as far as synchronizations go. -/
structure RegionSyncClient where
  /-- `version_`. -/
  version : UInt32
  /-- `hdr_`. -/
  hdr : Bytes
  /-- `body_len_`. -/
  bodyLen : UInt32
  /-- `body_`. -/
  body : Bytes
  /-- The operations that have not completed. -/
  pending : List SyncOp
  /-- The messages that `do_sync_once` has built. -/
  built : List RegionSyncUp
  /-- The acknowledgements that `on_ack` has printed. -/
  acked : List RegionSyncAck
  deriving DecidableEq

namespace RegionSyncClient

/-- Start an operation. -/
def post (s : RegionSyncClient) (op : SyncOp) : RegionSyncClient :=
  { s with pending := s.pending ++ [op] }

/-- `schedule_tick`. -/
def scheduleTick (s : RegionSyncClient) : RegionSyncClient := s.post .timer

/-- `do_sync_once`. -/
def doSyncOnce (regionId : UInt32) (s : RegionSyncClient) (reg : Registry) : RegionSyncClient :=
  let version := s.version + 1
  let up := syncUp regionId version reg
  { s with version := version, built := s.built ++ [up] }.post (.resolve up)

/-- `send_sync`. -/
def sendSync (s : RegionSyncClient) (up : RegionSyncUp) : RegionSyncClient :=
  s.post (.write (SmartLighting.sendSync up))

/-- `read_ack`. -/
def readAck (s : RegionSyncClient) : RegionSyncClient := s.post .header

/-- `on_ack`: nothing but a well-formed acknowledgement is printed. -/
def onAck (s : RegionSyncClient) : RegionSyncClient :=
  match s.body with
  | [] => s
  | code :: p =>
    let t : MsgType := ⟨code⟩
    if t ≠ .regionSyncAck then s
    else
      match decode decodeRegionSyncAck p with
      | .ok ack => { s with acked := s.acked ++ [ack] }
      | .error _ => s

/-- How an operation completes. -/
inductive Outcome
  /-- The timer expires; the registry is as it is then. -/
  | expired (reg : Registry)
  /-- The operation succeeds. -/
  | ok
  /-- The read succeeds with these bytes. -/
  | read (bytes : Bytes)
  /-- The operation fails. -/
  | failed

/-- The completion handler of an operation. A read fills its buffer. -/
def handle (regionId : UInt32) (s : RegionSyncClient) :
    SyncOp → Outcome → Option RegionSyncClient
  | .timer, .expired reg => some (s.doSyncOnce regionId reg)
  | .resolve up, .ok => some (s.post (.connect up))
  | .connect up, .ok => some (s.post (.handshake up))
  | .handshake up, .ok => some (s.sendSync up)
  | .write _, .ok => some s.readAck
  | .header, .read bytes =>
    if bytes.length = 4 then
      let len := SmartLighting.bodyLen bytes
      let s := { s with hdr := bytes, bodyLen := len, body := List.replicate len.toNat 0 }
      some (s.post .body)
    else none
  | .body, .read bytes =>
    if bytes.length = s.bodyLen.toNat then some { s with body := bytes }.onAck.scheduleTick
    else none
  | .timer, .failed => none
  | _, .failed => some s.scheduleTick
  | _, _ => none

/-- The operation at a position of the list completes. -/
structure Event where
  /-- The position. -/
  index : ℕ
  /-- The outcome. -/
  outcome : Outcome

/-- One completion: the operation is no longer outstanding when its handler runs. -/
def step (regionId : UInt32) (s : RegionSyncClient) (e : Event) : Option RegionSyncClient :=
  (s.pending[e.index]?).bind fun op =>
    handle regionId { s with pending := s.pending.eraseIdx e.index } op e.outcome

/-- The client after its construction. -/
def fresh : RegionSyncClient := ⟨0, [0, 0, 0, 0], 0, [], [], [], []⟩

/-- `start`. -/
def start (regionId : UInt32) (doFirstSyncImmediately : Bool) (reg : Registry) :
    RegionSyncClient :=
  if doFirstSyncImmediately then fresh.doSyncOnce regionId reg else fresh.scheduleTick

/-- The chain is in one place, from which it goes on, and the messages are numbered. -/
structure InOnePlace (regionId : UInt32) (s : RegionSyncClient) : Prop where
  /-- One operation is outstanding. -/
  one : s.pending.length = 1
  /-- It can complete. -/
  alive : ∃ e t, step regionId s e = some t
  /-- The `k`-th message has version `k`. -/
  versions : ∀ k up, s.built[k]? = some up → up.version.toNat = (k + 1) % 4294967296

/-- What is known of the client in every state. -/
structure ChainInv (s : RegionSyncClient) : Prop where
  /-- One operation is outstanding. -/
  one : ∃ op, s.pending = [op]
  /-- `version_` counts the messages. -/
  version : s.version.toNat = s.built.length % 4294967296
  /-- The messages are numbered. -/
  versions : ∀ k up, s.built[k]? = some up → up.version.toNat = (k + 1) % 4294967296

variable {regionId : UInt32} {s t : RegionSyncClient} {op : SyncOp} {o : Outcome} {e : Event}

/-- `on_ack` starts no operation and builds no message. -/
theorem onAck_frame (s : RegionSyncClient) :
    s.onAck.pending = s.pending ∧ s.onAck.version = s.version ∧ s.onAck.built = s.built := by
  unfold onAck
  split
  · exact ⟨rfl, rfl, rfl⟩
  · dsimp only
    split
    · exact ⟨rfl, rfl, rfl⟩
    · split <;> exact ⟨rfl, rfl, rfl⟩

/-- Every handler starts one operation; only that of the timer builds a message. -/
theorem handle_spec (h : handle regionId s op o = some t) :
    (∃ op', t.pending = s.pending ++ [op']) ∧
      ((t.version = s.version ∧ t.built = s.built) ∨
        ∃ reg, t.version = s.version + 1 ∧
          t.built = s.built ++ [syncUp regionId (s.version + 1) reg]) := by
  unfold handle at h
  split at h
  · next reg =>
    cases h
    exact ⟨⟨_, rfl⟩, Or.inr ⟨reg, rfl, rfl⟩⟩
  · cases h
    exact ⟨⟨_, rfl⟩, Or.inl ⟨rfl, rfl⟩⟩
  · cases h
    exact ⟨⟨_, rfl⟩, Or.inl ⟨rfl, rfl⟩⟩
  · cases h
    exact ⟨⟨_, rfl⟩, Or.inl ⟨rfl, rfl⟩⟩
  · cases h
    exact ⟨⟨_, rfl⟩, Or.inl ⟨rfl, rfl⟩⟩
  · obtain ⟨-, h⟩ := Option.ite_none_right_eq_some.mp h
    cases h
    exact ⟨⟨_, rfl⟩, Or.inl ⟨rfl, rfl⟩⟩
  · next bytes =>
    obtain ⟨-, h⟩ := Option.ite_none_right_eq_some.mp h
    cases h
    obtain ⟨hpending, hversion, hbuilt⟩ := onAck_frame { s with body := bytes }
    refine ⟨⟨.timer, ?_⟩, Or.inl ⟨hversion, hbuilt⟩⟩
    rw [scheduleTick, post, hpending]
  · cases h
  · cases h
    exact ⟨⟨_, rfl⟩, Or.inl ⟨rfl, rfl⟩⟩
  · cases h

/-- Every operation can complete. -/
theorem exists_outcome (regionId : UInt32) (s : RegionSyncClient) (op : SyncOp) :
    ∃ o t, handle regionId s op o = some t := by
  cases op with
  | timer => exact ⟨.expired .empty, _, rfl⟩
  | resolve up => exact ⟨.failed, _, rfl⟩
  | connect up => exact ⟨.failed, _, rfl⟩
  | handshake up => exact ⟨.failed, _, rfl⟩
  | write bytes => exact ⟨.failed, _, rfl⟩
  | header => exact ⟨.failed, _, rfl⟩
  | body => exact ⟨.failed, _, rfl⟩

/-- The completion is that of the only operation outstanding, whose handler then runs. -/
theorem handle_of_step (hop : s.pending = [op]) (h : step regionId s e = some t) :
    handle regionId { s with pending := [] } op e.outcome = some t := by
  obtain ⟨op', hget, hhandle⟩ := Option.bind_eq_some_iff.mp h
  rw [hop, List.getElem?_singleton] at hget
  obtain ⟨hindex, hsame⟩ := Option.ite_none_right_eq_some.mp hget
  cases hsame
  rw [hop, hindex] at hhandle
  exact hhandle

/-- A message more, with the version that follows. -/
theorem versions_concat (regionId : UInt32) (reg : Registry) {built : List RegionSyncUp}
    {version : UInt32}
    (hversion : version.toNat = built.length % 4294967296)
    (hbuilt : ∀ k up, built[k]? = some up → up.version.toNat = (k + 1) % 4294967296) :
    (version + 1).toNat = (built ++ [syncUp regionId (version + 1) reg]).length % 4294967296 ∧
      ∀ k up, (built ++ [syncUp regionId (version + 1) reg])[k]? = some up →
        up.version.toNat = (k + 1) % 4294967296 := by
  have hnext : (version + 1).toNat = (built.length + 1) % 4294967296 := by
    have hone : (1 : UInt32).toNat = 1 := by decide
    rw [UInt32.toNat_add, hversion, hone]
    omega
  constructor
  · rw [List.length_append, List.length_singleton, hnext]
  · exact forall_getElem?_concat hbuilt hnext

namespace ChainInv

/-- The chain is in one place at the start. -/
theorem start (first : Bool) (reg : Registry) : ChainInv (start regionId first reg) := by
  cases first with
  | false => exact ⟨⟨.timer, rfl⟩, rfl, fun k up hget => by cases hget⟩
  | true =>
    have hnone : ∀ k up, ([] : List RegionSyncUp)[k]? = some up →
        up.version.toNat = (k + 1) % 4294967296 := by
      intro k up hget
      cases hget
    have hzero : (0 : UInt32).toNat = ([] : List RegionSyncUp).length % 4294967296 := rfl
    obtain ⟨hversion, hversions⟩ := versions_concat regionId reg hzero hnone
    exact ⟨⟨_, rfl⟩, hversion, hversions⟩

/-- A completion takes the chain from one place to another. -/
theorem step (hinv : ChainInv s) (h : step regionId s e = some t) : ChainInv t := by
  obtain ⟨op, hop⟩ := hinv.one
  obtain ⟨⟨next, hone⟩, hbuilt⟩ := handle_spec (handle_of_step hop h)
  rcases hbuilt with ⟨hversion, hsame⟩ | ⟨reg, hversion, hmore⟩
  · refine ⟨⟨next, hone⟩, ?_, ?_⟩
    · rw [hversion, hsame]
      exact hinv.version
    · rw [hsame]
      exact hinv.versions
  · obtain ⟨hcount, hversions⟩ :=
      versions_concat regionId reg hinv.version hinv.versions
    refine ⟨⟨next, hone⟩, ?_, ?_⟩
    · rw [hversion, hmore]
      exact hcount
    · rw [hmore]
      exact hversions

/-- Whatever operation is outstanding can complete. -/
theorem inOnePlace (hinv : ChainInv s) : InOnePlace regionId s := by
  obtain ⟨op, hop⟩ := hinv.one
  obtain ⟨o, t, hhandle⟩ :=
    exists_outcome regionId { s with pending := s.pending.eraseIdx 0 } op
  refine ⟨by rw [hop, List.length_singleton], ⟨⟨0, o⟩, t, ?_⟩, hinv.versions⟩
  have hget : s.pending[0]? = some op := by rw [hop, List.getElem?_cons_zero]
  rw [RegionSyncClient.step, hget]
  exact hhandle

end ChainInv

/-- The sync client is always in one place: however its operations end, one of them is outstanding
and can complete, and the messages it builds are numbered from one. -/
theorem always_inOnePlace (regionId : UInt32) (first : Bool) (reg : Registry) (es : List Event) :
    Always (step regionId) (InOnePlace regionId) (start regionId first reg) es :=
  (Always.of_invariant (fun _ _ _ => ChainInv.step) (ChainInv.start first reg)).mono
    fun _ => ChainInv.inOnePlace

/-! ## The client beside the central server -/

/-- The client is where the system with the central server has it. -/
structure IsClientOf (system : SyncSystem) (s : RegionSyncClient) : Prop where
  /-- The versions agree. -/
  version : system.version = s.version
  /-- The outstanding operation belongs to the phase. -/
  phase : s.pending.map SyncOp.phase = [system.phase]

variable {system : SyncSystem}

/-- Starting an operation of the phase. -/
theorem isClientOf_post (hidle : s.pending = []) (hversion : system.version = s.version)
    (hphase : system.phase = op.phase) : IsClientOf system (s.post op) := by
  refine ⟨hversion, ?_⟩
  rw [post, hidle, hphase]
  rfl

/-- The chain goes on with its timer, which the system takes for a failure. -/
theorem exists_failed (hidle : s.pending = []) (hversion : system.version = s.version)
    (hphase : system.phase ≠ .timer) :
    ∃ e' system', SyncSystem.step regionId system e' = some system' ∧
      IsClientOf system' s.scheduleTick :=
  ⟨.failed, system.scheduleTick, if_neg hphase, isClientOf_post hidle hversion rfl⟩

/-- The system takes at most one step for a handler of the client. -/
theorem handle_simulated (hidle : s.pending = []) (hversion : system.version = s.version)
    (hphase : system.phase = op.phase) (h : handle regionId s op o = some t) :
    IsClientOf system t ∨
      ∃ e' system', SyncSystem.step regionId system e' = some system' ∧
        IsClientOf system' t := by
  unfold handle at h
  split at h
  · next reg =>
    cases h
    refine Or.inr ⟨.sync reg, system.doSyncOnce regionId reg, if_pos hphase, ?_⟩
    refine isClientOf_post hidle ?_ ?_
    · rw [SyncSystem.doSyncOnce, hversion]
    · rw [SyncSystem.doSyncOnce, hversion]
      rfl
  · cases h
    exact Or.inl (isClientOf_post hidle hversion hphase)
  · cases h
    exact Or.inl (isClientOf_post hidle hversion hphase)
  · next up =>
    cases h
    have hconnecting : system.phase = .connecting up := hphase
    refine Or.inr ⟨.connected, system.sendSync up, ?_, isClientOf_post hidle hversion rfl⟩
    simp only [SyncSystem.step, hconnecting]
  · cases h
    exact Or.inl (isClientOf_post hidle hversion hphase)
  · obtain ⟨-, h⟩ := Option.ite_none_right_eq_some.mp h
    cases h
    exact Or.inl (isClientOf_post hidle hversion hphase)
  · next bytes =>
    obtain ⟨-, h⟩ := Option.ite_none_right_eq_some.mp h
    cases h
    obtain ⟨hpending, hsame, -⟩ := onAck_frame { s with body := bytes }
    refine Or.inr (exists_failed (hpending.trans hidle) (hversion.trans hsame.symm) ?_)
    rw [hphase]
    exact SyncOp.phase_ne_timer fun hop => by cases hop
  · cases h
  · next hop =>
    cases h
    refine Or.inr (exists_failed hidle hversion ?_)
    rw [hphase]
    exact SyncOp.phase_ne_timer hop
  · cases h

/-- Every run of the client is part of a run of the system with the central server. -/
theorem run_simulated_start (regionId : UInt32) (reg : Registry) {es : List Event}
    (h : run (step regionId) (start regionId false reg) es = some t) :
    ∃ es' system', run (SyncSystem.step regionId) .start es' = some system' ∧
      IsClientOf system' t := by
  refine run_simulated (R := fun s system => IsClientOf system s) ?_ ⟨rfl, rfl⟩ h
  intro s e t system hclient hstep
  obtain ⟨op, hop, hphase⟩ := List.map_eq_singleton_iff.mp hclient.phase
  exact handle_simulated (s := { s with pending := [] }) rfl hclient.version hphase.symm
    (handle_of_step hop hstep)

end RegionSyncClient

end SmartLighting
