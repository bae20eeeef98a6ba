import SmartLighting.CentralStream

/-!
# An administrator at the central server

`main` of `admin_cli.cpp` writes a request, waits for one frame and prints what it holds. The
session of the central server takes the request in two reads and writes its answer in parts, while
other sessions change the store. The administrator is shown the store of one moment, and leaves no
trace.
-/

namespace SmartLighting

open Transition CentralServer CentralMessage

/-- How `main` of `admin_cli` ends. -/
inductive AdminResult
  /-- It has printed `empty`, and returns 1. -/
  | empty
  /-- It has printed `unexpected msg`, and returns 1. -/
  | unexpected
  /-- `print_snapshot` has printed these lines, and it returns 0. -/
  | shown (lines : List SnapshotLine)
  deriving DecidableEq

/-- An administrator, and the session of the central server that it is connected to. -/
structure AdminSession where
  /-- The central server and the session. -/
  session : CentralStream
  /-- What the administrator has written and the session has not read. -/
  request : Bytes
  /-- What the administrator has come to. -/
  result : Option AdminResult
  deriving DecidableEq

namespace AdminSession

/-- `read_frame`, which waits until the stream holds the whole frame, however long it is. -/
def readFrame (stream : Bytes) : Option Bytes :=
  if stream.length < 4 then none
  else
    let len := bodyLen (stream.take 4)
    let rest := stream.drop 4
    if rest.length < len.toNat then none else some (rest.take len.toNat)

/-- `main` after `read_frame`. -/
def finish : Bytes → AdminResult
  | [] => .empty
  | code :: payload =>
    if (⟨code⟩ : MsgType) ≠ .adminSnapshotAck then .unexpected else .shown (printSnapshot payload)

/-- The administrator has called `write_frame`, and the central server has just started. -/
def start : AdminSession := ⟨.start, frame .adminSnapshotReq [], none⟩

/-- What can happen while the connection lasts. -/
inductive Event
  /-- A read of the session completes. -/
  | take
  /-- Another session handles a body. -/
  | other (session : ℕ) (body : Bytes)
  /-- An outstanding write puts some bytes on the stream. -/
  | put (i n : ℕ)
  /-- An outstanding write completes. -/
  | writeDone (i : ℕ)
  /-- `read_frame` returns. -/
  | read

/-- The next read of session `k` completes with bytes of the administrator. -/
def take (k : ℕ) (s : AdminSession) (n : ℕ) (e : Bytes → CentralStream.Event) :
    Option AdminSession :=
  if s.request.length < n then none
  else
    (CentralStream.step k s.session (e (s.request.take n))).map fun session =>
      { s with session := session, request := s.request.drop n }

/-- One handler of the central server, or a step of the administrator on session `k`. -/
def step (k : ℕ) (s : AdminSession) : Event → Option AdminSession
  | .take =>
    match s.session.reading with
    | .header => s.take k 4 .header
    | .body len => s.take k len.toNat .body
    | .ended => none
  | .other j body =>
    (CentralStream.step k s.session (.other j body)).map fun session =>
      { s with session := session }
  | .put i n =>
    (CentralStream.step k s.session (.put i n)).map fun session => { s with session := session }
  | .writeDone i =>
    (CentralStream.step k s.session (.writeDone i true)).map fun session =>
      { s with session := session }
  | .read =>
    if s.result.isSome then none
    else (readFrame s.session.stream).map fun body => { s with result := some (finish body) }

/-- The bodies of the other sessions. -/
structure Log where
  /-- All of them. -/
  handled : List (ℕ × Bytes)
  /-- Those that were handled before the request. -/
  asked : Option (List (ℕ × Bytes))

/-- The log after a step. -/
def watch (log : Log) (s : AdminSession) (e : Event) (_ : AdminSession) : Log :=
  match e with
  | .take =>
    match s.session.reading with
    | .body _ => { log with asked := some log.handled }
    | _ => log
  | .other j body => { log with handled := log.handled ++ [(j, body)] }
  | _ => log

/-- A store whose snapshot fits the counts of the format and the length of a frame. -/
def Showable (store : CentralStore) : Prop :=
  store.regions.entries.length < 65536 ∧ (snapshotBytes store).length < 4294967295

/-- The administrator has its answer. -/
def Answered (s : AdminSession) : Prop := s.result.isSome

/-- The central server after the bodies of the other sessions alone. -/
def served (bodies : List (ℕ × Bytes)) : CentralServer := CentralServer.start.run bodies

/-- The frame of the reply for a store. -/
def replyFrame (store : CentralStore) : Bytes := frame .adminSnapshotAck (snapshotBytes store)

/-- What an administrator can rely on. -/
structure Serves (k : ℕ) (s : AdminSession) (log : Log) : Prop where
  /-- The store and the log are as if nobody had asked. -/
  undisturbed : s.session.server.store = (served log.handled).store ∧
    s.session.server.db = (served log.handled).db
  /-- Whatever is shown is what `read_frame` takes from the reply for the store at the moment of the
  request, and a store that fits the format is shown line by line. -/
  shown : ∀ result, s.result = some result → ∃ before body, log.asked = some before ∧
    before <+: log.handled ∧ readFrame (replyFrame (served before).store) = some body ∧
      result = finish body ∧
      (Showable (served before).store → result = .shown (storeLines (served before).store))
  /-- The administrator gets its answer. -/
  answered : CanReach (step k) Answered 4 s

/-! ## The request and the reply -/

variable {k : ℕ} {s t : AdminSession} {log : Log} {e : Event} {stream body : Bytes}

/-- The body of the request. -/
def requestBody : Bytes := [MsgType.adminSnapshotReq.code]

/-- The session reads the length of the request. -/
theorem bodyLen_request : bodyLen (start.request.take 4) = 1 := by decide

/-- A frame that was read is not read differently when more bytes follow. -/
theorem readFrame_append (h : readFrame stream = some body) (more : Bytes) :
    readFrame (stream ++ more) = some body := by
  unfold readFrame at h ⊢
  obtain ⟨hheader, h⟩ := Option.ite_none_left_eq_some.mp h
  obtain ⟨hbody, heq⟩ := Option.ite_none_left_eq_some.mp h
  cases heq
  have htake : (stream ++ more).take 4 = stream.take 4 :=
    List.take_append_of_le_length (by omega)
  have hdrop : (stream ++ more).drop 4 = stream.drop 4 ++ more :=
    List.drop_append_of_le_length (by omega)
  rw [if_neg (by rw [List.length_append]; omega)]
  dsimp only
  rw [htake, hdrop, if_neg (by rw [List.length_append]; omega),
    List.take_append_of_le_length (by omega)]

/-- The administrator reads a frame as far as its length goes, which is cast to 32 bits. -/
theorem readFrame_frame (type : MsgType) (payload : Bytes) :
    readFrame (frame type payload) =
      some ((type.code :: payload).take (1 + payload.length).toUInt32.toNat) := by
  have hheader : ¬(frame type payload).length < 4 := by simp [frame, store32]
  have hlen : bodyLen ((frame type payload).take 4) = (1 + payload.length).toUInt32 :=
    bodyLen_store32 _
  have hbody : (frame type payload).drop 4 = type.code :: payload := rfl
  have hle : (1 + payload.length).toUInt32.toNat ≤ 1 + payload.length := by
    rw [Nat.toUInt32, UInt32.toNat_ofNat']
    exact Nat.mod_le ..
  unfold readFrame
  dsimp only
  rw [if_neg hheader, hlen, hbody, if_neg (by rw [List.length_cons]; omega)]

/-- The whole reply is read when it is shorter than 4 GiB, and its lines are those of the store. -/
theorem finish_reply {store : CentralStore} (hbounded : Bounded store) (hshowable : Showable store)
    (hread : readFrame (replyFrame store) = some body) :
    finish body = .shown (storeLines store) := by
  rw [replyFrame, readFrame_frame, toNat_frameLength hshowable.2] at hread
  have hwhole : (MsgType.adminSnapshotAck.code :: snapshotBytes store).length ≤
      1 + (snapshotBytes store).length := by
    rw [List.length_cons, Nat.add_comm]
  rw [List.take_of_length_le hwhole] at hread
  obtain rfl := Option.some.inj hread
  have hprinted := (snapshotLoop_prints hbounded hshowable.1).exec_eq
  have hlines : printSnapshot (snapshotBytes store) = storeLines store := by
    rw [printSnapshot, hprinted]
  rw [finish, if_neg (by decide), hlines]

/-- A server that differs only in what it has sent does the same. -/
theorem onMessage_congr {c d : CentralServer} (hstore : c.store = d.store) (hdb : c.db = d.db)
    (j : ℕ) (body : Bytes) :
    (c.onMessage j body).store = (d.onMessage j body).store ∧
      (c.onMessage j body).db = (d.onMessage j body).db := by
  rw [onMessage_eq, onMessage_eq]
  cases ofBody body with
  | none => exact ⟨hstore, hdb⟩
  | some m =>
    cases m with
    | sync up =>
      simp only [Option.elim_some, handle, onRegionSync, asyncSend, hstore, hdb, and_self]
    | alarm up =>
      simp only [Option.elim_some, handle, onAlarm, asyncSend, hstore, hdb, and_self]
    | snapshotReq =>
      simp only [Option.elim_some, handle, onSnapshotReq, asyncSend, hstore]
      split
      · exact ⟨rfl, hdb⟩
      · exact ⟨hstore, hdb⟩

/-- The request leaves the store and the log, and is answered with the snapshot. -/
theorem onMessage_request {c : CentralServer} (hbounded : Bounded c.store) :
    c.onMessage k requestBody =
      c.asyncSend k .adminSnapshotAck (snapshotBytes c.store) := by
  have hbody : ofBody requestBody = some .snapshotReq := by decide
  rw [onMessage_eq, hbody, Option.elim_some, handle, onSnapshotReq,
    encodeAdminSnapshot_eq hbounded.strings]

/-! ## The exchange -/

/-- How far the exchange is. -/
inductive Phase (k : ℕ) (s : AdminSession) (log : Log) : Prop
  /-- The session has not read the request, or only its length. -/
  | asking (hasked : log.asked = none) (hresult : s.result = none)
      (hidle : s.session.outstanding = [] ∧ s.session.stream = [])
      (hreading : s.session.reading = .header ∧ s.request = start.request ∨
        s.session.reading = .body 1 ∧ s.request = requestBody)
      (hserver : s.session.server = served log.handled)
  /-- It writes its reply. -/
  | replying {before : List (ℕ × Bytes)} (hasked : log.asked = some before)
      (hbefore : before <+: log.handled)
      (hreading : s.session.reading = .header ∧ s.request = [])
      (hsingle : s.session.outstanding.length ≤ 1)
      (hrest : s.session.stream ++ s.session.outstanding.flatten =
        replyFrame (served before).store)
      (hresult : ∀ result, s.result = some result →
        ∃ body, readFrame (replyFrame (served before).store) = some body ∧ result = finish body)

/-- What holds between two handlers. -/
structure Inv (k : ℕ) (s : AdminSession) (log : Log) : Prop where
  /-- The exchange has come so far. -/
  phase : Phase k s log
  /-- The store and the log are as if nobody had asked. -/
  undisturbed : s.session.server.store = (served log.handled).store ∧
    s.session.server.db = (served log.handled).db

theorem inv_start (k : ℕ) : Inv k start ⟨[], none⟩ where
  phase := .asking rfl rfl ⟨rfl, rfl⟩ (Or.inl ⟨rfl, rfl⟩) rfl
  undisturbed := ⟨rfl, rfl⟩

/-- What the server holds fits the format. -/
theorem bounded_served (bodies : List (ℕ × Bytes)) : Bounded (served bodies).store :=
  bounded_run bodies

/-- A read takes bytes of the administrator. -/
theorem take_eq_some {n : ℕ} {e : Bytes → CentralStream.Event} (h : s.take k n e = some t) :
    n ≤ s.request.length ∧
      CentralStream.step k s.session (e (s.request.take n)) = some t.session ∧
      t.request = s.request.drop n ∧ t.result = s.result := by
  obtain ⟨hlong, h⟩ := Option.ite_none_left_eq_some.mp h
  obtain ⟨session, hsession, rfl⟩ := Option.map_eq_some_iff.mp h
  exact ⟨Nat.le_of_not_lt hlong, hsession, rfl, rfl⟩

/-- The length of the request is read. -/
theorem Inv.takeHeader (h : Inv k s log) (hreading : s.session.reading = .header)
    (hstep : s.take k 4 .header = some t) : Inv k t log := by
  obtain ⟨hlong, hsession, hrequest, hresult⟩ := take_eq_some hstep
  obtain ⟨-, heq⟩ := Option.ite_none_right_eq_some.mp hsession
  obtain ⟨session, request, result⟩ := t
  cases heq
  cases h.phase with
  | asking hasked hnone hidle hstage hserver =>
    rcases hstage with ⟨-, hrequested⟩ | ⟨hbody, -⟩
    · refine ⟨.asking hasked (hresult.trans hnone) hidle (Or.inr ⟨?_, ?_⟩) hserver,
        h.undisturbed⟩
      · rw [hrequested, bodyLen_request]
        rfl
      · rw [hrequest, hrequested]
        rfl
    · rw [hreading] at hbody
      cases hbody
  | replying hasked hbefore hstage hsingle hrest hread =>
    rw [hstage.2] at hlong
    exact absurd hlong (by decide)

/-- The request is read, and its answer is about to be written. -/
theorem Inv.takeBody (h : Inv k s log) {len : UInt32} (hreading : s.session.reading = .body len)
    (hstep : s.take k len.toNat .body = some t) :
    Inv k t { log with asked := some log.handled } := by
  obtain ⟨hlong, hsession, hrequest, hresult⟩ := take_eq_some hstep
  have heq := CentralStream.eq_of_step_body hsession
  cases h.phase with
  | asking hasked hnone hidle hstage hserver =>
    rcases hstage with ⟨hheader, -⟩ | ⟨hbody, hrequested⟩
    · rw [hreading] at hheader
      cases hheader
    · obtain rfl : len = 1 := by
        rw [hreading] at hbody
        exact Reading.body.inj hbody
      have htaken : s.request.take (1 : UInt32).toNat = requestBody := by rw [hrequested]; rfl
      have hleft : t.request = [] := by rw [hrequest, hrequested]; rfl
      have hserved : s.session.server.onMessage k requestBody =
          s.session.server.asyncSend k .adminSnapshotAck
            (snapshotBytes (served log.handled).store) := by
        rw [hserver]
        exact onMessage_request (bounded_served log.handled)
      rw [htaken, CentralStream.onMessage, hserved] at heq
      have hreply : t.session.outstanding = [replyFrame (served log.handled).store] := by
        rw [heq]
        simp [asyncSend, hidle.1, CentralStream.repliesOf, CentralStream.frameOf, replyFrame]
      refine ⟨.replying rfl (List.prefix_refl _) ⟨by rw [heq], hleft⟩ ?_ ?_ ?_, ?_⟩
      · rw [hreply]
        exact le_rfl
      · rw [hreply, heq]
        simp [hidle.2]
      · intro result hsome
        rw [hresult, hnone] at hsome
        cases hsome
      · rw [heq]
        exact h.undisturbed
  | replying hasked hbefore hstage hsingle hrest hread =>
    rw [hreading] at hstage
    cases hstage.1

/-- A read of the session completes. -/
theorem Inv.take (h : Inv k s log) (hstep : step k s .take = some t) :
    Inv k t (watch log s .take t) := by
  simp only [AdminSession.step] at hstep
  simp only [watch]
  split at hstep
  · next hreading =>
    rw [hreading]
    exact h.takeHeader hreading hstep
  · next len hreading =>
    rw [hreading]
    exact h.takeBody hreading hstep
  · cases hstep

/-- Another session handles a body. -/
theorem Inv.other (h : Inv k s log) {j : ℕ} {body : Bytes}
    (hstep : step k s (.other j body) = some t) :
    Inv k t { log with handled := log.handled ++ [(j, body)] } := by
  obtain ⟨session, hsession, rfl⟩ := Option.map_eq_some_iff.mp hstep
  obtain ⟨-, heq⟩ := Option.ite_none_left_eq_some.mp hsession
  cases heq
  have hserved : served (log.handled ++ [(j, body)]) = (served log.handled).onMessage j body :=
    run_concat ..
  refine ⟨?_, ?_⟩
  · cases h.phase with
    | asking hasked hnone hidle hstage hserver =>
      exact .asking hasked hnone hidle hstage (by rw [hserved, ← hserver])
    | replying hasked hbefore hstage hsingle hrest hread =>
      exact .replying hasked (hbefore.trans (List.prefix_append ..)) hstage hsingle hrest hread
  · rw [hserved]
    exact onMessage_congr h.undisturbed.1 h.undisturbed.2 j body

/-- A step that only writes part of the reply. -/
theorem Inv.writes (h : Inv k s log) {outstanding : List Bytes} {stream : Bytes}
    (hbusy : s.session.outstanding ≠ []) (hsingle : outstanding.length ≤ 1)
    (hrest : stream ++ outstanding.flatten =
      s.session.stream ++ s.session.outstanding.flatten) :
    Inv k { s with session := { s.session with
      outstanding := outstanding
      stream := stream } } log := by
  refine ⟨?_, h.undisturbed⟩
  cases h.phase with
  | asking hasked hnone hidle hstage hserver => exact absurd hidle.1 hbusy
  | replying hasked hbefore hstage _ hwhole hread =>
    exact .replying hasked hbefore hstage hsingle (hrest.trans hwhole) hread

/-- At most the reply is outstanding. -/
theorem Inv.single (h : Inv k s log) : s.session.outstanding.length ≤ 1 := by
  cases h.phase with
  | asking hasked hnone hidle hstage hserver =>
    rw [hidle.1]
    exact Nat.zero_le 1
  | replying hasked hbefore hstage hsingle hwhole hread => exact hsingle

/-- Part of the reply is written. -/
theorem Inv.put (h : Inv k s log) {i n : ℕ} (hstep : step k s (.put i n) = some t) :
    Inv k t log := by
  obtain ⟨session, hsession, rfl⟩ := Option.map_eq_some_iff.mp hstep
  obtain ⟨rest, hrest, rfl⟩ := Option.map_eq_some_iff.mp hsession
  obtain ⟨hone, rfl⟩ := CentralStream.eq_singleton_of_single h.single hrest
  refine h.writes (by rw [hone]; exact List.cons_ne_nil _ _) ?_ ?_
  · rw [hone]
    exact le_rfl
  · simp [hone]

/-- The reply was written. -/
theorem Inv.writeDone (h : Inv k s log) {i : ℕ} (hstep : step k s (.writeDone i) = some t) :
    Inv k t log := by
  obtain ⟨session, hsession, rfl⟩ := Option.map_eq_some_iff.mp hstep
  simp only [CentralStream.step] at hsession
  split at hsession
  · cases hsession
  · next rest hrest =>
    obtain ⟨hcomplete, heq⟩ := Option.ite_none_right_eq_some.mp hsession
    cases heq
    obtain ⟨hone, rfl⟩ := CentralStream.eq_singleton_of_single h.single hrest
    have hbusy : s.session.outstanding ≠ [] := by
      rw [hone]
      exact List.cons_ne_nil _ _
    have hsingle : (s.session.outstanding.eraseIdx 0).length ≤ 1 := by
      rw [hone]
      exact Nat.zero_le 1
    have hrest : s.session.stream ++ (s.session.outstanding.eraseIdx 0).flatten =
        s.session.stream ++ s.session.outstanding.flatten := by
      simp [hone, hcomplete trivial]
    exact h.writes hbusy hsingle hrest

/-- The administrator reads the reply. -/
theorem Inv.read (h : Inv k s log) (hstep : step k s .read = some t) : Inv k t log := by
  obtain ⟨-, hstep⟩ := Option.ite_none_left_eq_some.mp hstep
  obtain ⟨body, hbody, rfl⟩ := Option.map_eq_some_iff.mp hstep
  refine ⟨?_, h.undisturbed⟩
  cases h.phase with
  | asking hasked hnone hidle hstage hserver =>
    rw [hidle.2] at hbody
    cases hbody
  | replying hasked hbefore hstage hsingle hwhole hread =>
    refine .replying hasked hbefore hstage hsingle hwhole fun result hresult => ?_
    refine ⟨body, ?_, (Option.some.inj hresult).symm⟩
    rw [← hwhole]
    exact readFrame_append hbody _

/-- Every step keeps the invariant. -/
theorem Inv.step (h : Inv k s log) (hstep : step k s e = some t) : Inv k t (watch log s e t) := by
  cases e with
  | take => exact h.take hstep
  | other j body => exact h.other hstep
  | put i n => exact h.put hstep
  | writeDone i => exact h.writeDone hstep
  | read => exact h.read hstep

/-- A reply that is being written arrives. -/
theorem Inv.answered_of_asked (h : Inv k s log) (hasked : log.asked ≠ none) :
    CanReach (AdminSession.step k) Answered 2 s := by
  cases h.phase with
  | asking hnone hresult hidle hstage hserver => exact absurd hnone hasked
  | @replying before hsome hbefore hstage hsingle hwhole hread =>
    have hready (u : AdminSession) (hresult : u.result = none)
        (hstream : u.session.stream = replyFrame (served before).store) :
        CanReach (AdminSession.step k) Answered 1 u := by
      obtain ⟨body, hbody⟩ : ∃ body, readFrame u.session.stream = some body := by
        rw [hstream]
        exact ⟨_, readFrame_frame ..⟩
      refine .cons (e := .read) (t := { u with result := some (finish body) }) ?_ (.done rfl)
      simp only [AdminSession.step, hresult, hbody]
      rfl
    cases hresult : s.result with
    | some result => exact .done (by rw [Answered, hresult]; rfl)
    | none =>
      cases hout : s.session.outstanding with
      | nil =>
        rw [hout, List.flatten_nil, List.append_nil] at hwhole
        exact (hready s hresult hwhole).mono (by decide)
      | cons rest more =>
        obtain rfl : more = [] := by
          rw [hout] at hsingle
          exact List.length_eq_zero_iff.mp (by simpa using hsingle)
        rw [hout, List.flatten_singleton] at hwhole
        refine .cons (e := .put 0 rest.length) (t := { s with session := { s.session with
          outstanding := [[]]
          stream := s.session.stream ++ rest } }) ?_ (hready _ hresult hwhole)
        simp [AdminSession.step, CentralStream.step, hout]

/-- A request whose length was read is read and answered. -/
theorem Inv.answered_of_body (h : Inv k s log) (hreading : s.session.reading = .body 1)
    (hrequest : s.request = requestBody) : CanReach (AdminSession.step k) Answered 3 s := by
  have hstep : AdminSession.step k s .take = some
      { s with
        session := { s.session.onMessage k requestBody with reading := .header }
        request := [] } := by
    simp only [AdminSession.step, hreading, AdminSession.take, CentralStream.step, hrequest]
    rfl
  have hnext := h.take hstep
  simp only [watch, hreading] at hnext
  exact .cons hstep (hnext.answered_of_asked (Option.some_ne_none _))

/-- The answer comes. -/
theorem Inv.answered (h : Inv k s log) : CanReach (AdminSession.step k) Answered 4 s := by
  cases h.phase with
  | asking hasked hnone hidle hstage hserver =>
    rcases hstage with ⟨hreading, hrequest⟩ | ⟨hreading, hrequest⟩
    · have hstep : AdminSession.step k s .take = some
          { s with
            session := { s.session with reading := .body 1 }
            request := requestBody } := by
        simp only [AdminSession.step, hreading, AdminSession.take, CentralStream.step, hrequest]
        rfl
      have hnext := h.take hstep
      exact .cons hstep (hnext.answered_of_body rfl rfl)
    · exact (h.answered_of_body hreading hrequest).mono (by decide)
  | replying hasked hbefore hstage hsingle hwhole hread =>
    exact (h.answered_of_asked (by rw [hasked]; exact Option.some_ne_none _)).mono (by decide)

theorem Inv.serves (h : Inv k s log) : Serves k s log where
  undisturbed := h.undisturbed
  shown result hresult := by
    cases h.phase with
    | asking hasked hnone hidle hreading hserver => rw [hnone] at hresult; cases hresult
    | replying hasked hbefore hreading hsingle hrest hread =>
      obtain ⟨body, hbody, rfl⟩ := hread result hresult
      refine ⟨_, body, hasked, hbefore, hbody, rfl, fun hshowable => ?_⟩
      exact finish_reply (bounded_served _) hshowable hbody
  answered := h.answered

/-- In every run of an administrator and the central server, whatever other sessions do meanwhile:
the request changes nothing, what the administrator is shown is decided by the store at the moment
of its request, and it always gets an answer. -/
theorem always_serves (k : ℕ) (es : List Event) :
    Always (monitored (AdminSession.step k) watch) (fun p => Serves k p.1 p.2) (start, ⟨[], none⟩)
      es := by
  have hinv : Always (monitored (AdminSession.step k) watch) (fun p => Inv k p.1 p.2)
      (start, ⟨[], none⟩) es := .of_monitored (fun _ _ _ _ h hstep => h.step hstep) (inv_start k)
  exact hinv.mono fun _ h => h.serves

end AdminSession

end SmartLighting
