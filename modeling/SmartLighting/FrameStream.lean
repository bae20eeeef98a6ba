import SmartLighting.CentralStream
import SmartLighting.SessionScope

/-!
# Frames on a stream

`DeviceSession` and `CentralSession` read with the same two handlers: four bytes
of header, then as many bytes as the header says, if this is from 1 to 1 MiB. A
read takes its bytes from the front of the stream, and fails where the stream
ends before. The sessions differ in `on_message` and in what they do when they
stop, which are parameters here. Both `async_write_frame` and `write_frame` send
the bytes of `frame`.
-/

namespace SmartLighting

variable {σ : Type}

/-- A session with the bytes that its peer sends until the stream ends. -/
structure FrameLoop (σ : Type) where
  /-- What the session waits for. -/
  reading : Reading
  /-- The bytes that no read has taken. -/
  unread : Bytes
  /-- The bodies that `on_message` was called with. -/
  bodies : List Bytes
  /-- What `on_message` works on. -/
  session : σ

namespace FrameLoop

/-- The session after its handshake, which calls `read_header`. -/
def start (s : σ) (stream : Bytes) : FrameLoop σ := ⟨.header, stream, [], s⟩

/-- The session does not read again: `on_close` and the end of the connection. -/
def stop (onStop : σ → σ) (r : FrameLoop σ) : FrameLoop σ :=
  { r with reading := .ended, session := onStop r.session }

/-- The completion handler of `read_header`. -/
def headerDone (onStop : σ → σ) (r : FrameLoop σ) : FrameLoop σ :=
  if r.unread.length < 4 then { r with unread := [] }.stop onStop
  else
    let len := bodyLen (r.unread.take 4)
    let r := { r with unread := r.unread.drop 4 }
    if AcceptsLength len then { r with reading := .body len } else r.stop onStop

/-- The completion handler of `read_body`, which calls `on_message` and `read_header`. -/
def bodyDone (onMessage : σ → Bytes → σ) (onStop : σ → σ) (len : UInt32) (r : FrameLoop σ) :
    FrameLoop σ :=
  if r.unread.length < len.toNat then { r with unread := [] }.stop onStop
  else
    let body := r.unread.take len.toNat
    { reading := .header
      unread := r.unread.drop len.toNat
      bodies := r.bodies ++ [body]
      session := onMessage r.session body }

/-- The handler that the session waits for. -/
def step (onMessage : σ → Bytes → σ) (onStop : σ → σ) (r : FrameLoop σ) : FrameLoop σ :=
  match r.reading with
  | .header => r.headerDone onStop
  | .body len => r.bodyDone onMessage onStop len
  | .ended => r

/-- The session after a number of handlers. -/
def after (onMessage : σ → Bytes → σ) (onStop : σ → σ) : ℕ → FrameLoop σ → FrameLoop σ
  | 0, r => r
  | n + 1, r => after onMessage onStop n (r.step onMessage onStop)

/-- The session when the stream has ended: each handler that does not stop takes a byte or more. -/
def receive (onMessage : σ → Bytes → σ) (onStop : σ → σ) (s : σ) (stream : Bytes) :
    FrameLoop σ :=
  after onMessage onStop (stream.length + 1) (start s stream)

end FrameLoop

/-! ## Frames -/

/-- A body that a session accepts. -/
def InRange (body : Bytes) : Prop := 1 ≤ body.length ∧ body.length ≤ 1048576

/-- The frame of a body. -/
def frameBytes (body : Bytes) : Bytes := store32 (toBe32 body.length.toUInt32) ++ body

/-- The frames of a sequence of bodies, one after the other. -/
def framesOf (bodies : List Bytes) : Bytes := bodies.flatMap frameBytes

variable {stream body rest x y : Bytes} {bodies bodies' : List Bytes}

/-- The frame of a message is that of its type byte and payload. -/
theorem frame_eq_frameBytes (type : MsgType) (payload : Bytes) :
    frame type payload = frameBytes (type.code :: payload) := by
  rw [frame, frameBytes, List.length_cons, Nat.add_comm payload.length 1, List.append_assoc]
  rfl

/-- The length of a frame is stored as the codec stores a word. -/
theorem store32_toBe32 (x : UInt32) : store32 (toBe32 x) = u32Bytes x := by
  simp only [store32, toBe32, u32Bytes, putU32, List.nil_append, List.cons.injEq, and_true]
  refine ⟨?_, ?_, ?_, ?_⟩
  all_goals
    apply byte_eq_of_bits
    intro i hi
    interval_cases i <;> simp

/-- A header is determined by the length in it. -/
theorem store32_bodyLen {hdr : Bytes} (h : hdr.length = 4) :
    store32 (toBe32 (bodyLen hdr)) = hdr := by
  obtain ⟨b0, b1, b2, b3, rfl⟩ := List.length_eq_four.mp h
  rw [← u32Bytes_combine b0 b1 b2 b3, ← store32_toBe32, bodyLen_store32]

/-- What `read_header` and `read_body` take together is the frame of a body in range. -/
theorem readFrame_eq_some :
    readFrame stream = some (body, rest) ↔ InRange body ∧ stream = frameBytes body ++ rest := by
  constructor
  · intro h
    simp only [readFrame] at h
    obtain ⟨hheader, h⟩ := Option.ite_none_left_eq_some.mp h
    obtain ⟨haccepts, h⟩ := Option.ite_none_right_eq_some.mp h
    obtain ⟨hbody, h⟩ := Option.ite_none_left_eq_some.mp h
    cases h
    have hlength : ((stream.drop 4).take (bodyLen (stream.take 4)).toNat).length =
        (bodyLen (stream.take 4)).toNat := by
      rw [List.length_take]
      omega
    have hhdr : (stream.take 4).length = 4 := by
      rw [List.length_take]
      omega
    constructor
    · rw [InRange, hlength]
      exact acceptsLength_iff_toNat.mp haccepts
    · rw [frameBytes, hlength, Nat.toUInt32_eq, UInt32.ofNat_toNat, store32_bodyLen hhdr,
        List.append_assoc, List.take_append_drop, List.take_append_drop]
  · rintro ⟨hrange, rfl⟩
    cases body with
    | nil => exact absurd hrange.1 (by simp)
    | cons code payload =>
      rw [← frame_eq_frameBytes ⟨code⟩ payload]
      refine readFrame_frame ?_
      have hle := hrange.2
      rw [List.length_cons] at hle
      omega

/-- Where a frame follows, the sequence of frames is not at its end. -/
theorem framesOf_cons_append (body : Bytes) (bodies : List Bytes) (x : Bytes) :
    framesOf (body :: bodies) ++ x = frameBytes body ++ (framesOf bodies ++ x) := by
  rw [framesOf, List.flatMap_cons, List.append_assoc]
  rfl

/-- A leading sequence of frames is part of every sequence after which no frame follows. -/
theorem prefix_of_framesOf_append (hbodies : ∀ b ∈ bodies, InRange b)
    (hbodies' : ∀ b ∈ bodies', InRange b) (hy : readFrame y = none)
    (h : framesOf bodies ++ x = framesOf bodies' ++ y) : bodies <+: bodies' := by
  induction bodies generalizing bodies' with
  | nil => exact List.nil_prefix
  | cons b bodies ih =>
    obtain ⟨hb, hrest⟩ := List.forall_mem_cons.mp hbodies
    rw [framesOf_cons_append] at h
    have hread := readFrame_eq_some.mpr ⟨hb, h.symm⟩
    cases bodies' with
    | nil =>
      rw [framesOf, List.flatMap_nil, List.nil_append, hy] at hread
      cases hread
    | cons b' bodies' =>
      obtain ⟨hb', hrest'⟩ := List.forall_mem_cons.mp hbodies'
      rw [framesOf_cons_append, readFrame_eq_some.mpr ⟨hb', rfl⟩] at hread
      obtain ⟨rfl, htail⟩ := Prod.mk.inj (Option.some.inj hread)
      exact List.cons_prefix_cons.mpr ⟨rfl, ih hrest hrest' htail.symm⟩

/-- A stream is cut into frames in only one way. -/
theorem framesOf_append_inj (hbodies : ∀ b ∈ bodies, InRange b)
    (hbodies' : ∀ b ∈ bodies', InRange b) (hx : readFrame x = none) (hy : readFrame y = none)
    (h : framesOf bodies ++ x = framesOf bodies' ++ y) : bodies = bodies' ∧ x = y := by
  have hle := prefix_of_framesOf_append hbodies hbodies' hy h
  have hge := prefix_of_framesOf_append hbodies' hbodies hx h.symm
  obtain rfl := hle.eq_of_length (Nat.le_antisymm hle.length_le hge.length_le)
  exact ⟨rfl, List.append_cancel_left h⟩

/-! ## The loop -/

namespace FrameLoop

variable {onMessage : σ → Bytes → σ} {onStop : σ → σ} {r : FrameLoop σ} {n : ℕ}

/-- What is not read where no frame follows: all of it, unless a length is refused. -/
def leftover (rest : Bytes) : Bytes :=
  if rest.length < 4 then [] else
    if AcceptsLength (bodyLen (rest.take 4)) then [] else rest.drop 4

/-- A session that has stopped stays as it is. -/
theorem after_ended (h : r.reading = .ended) (n : ℕ) : after onMessage onStop n r = r := by
  induction n with
  | zero => rfl
  | succ n ih =>
    have hstep : r.step onMessage onStop = r := by rw [step, h]
    rw [after, hstep, ih]

/-- A header whose length is accepted leads to its body. -/
theorem step_of_accepts (hr : r.reading = .header) (hheader : ¬r.unread.length < 4)
    (haccepts : AcceptsLength (bodyLen (r.unread.take 4))) :
    r.step onMessage onStop =
      { r with
        unread := r.unread.drop 4
        reading := .body (bodyLen (r.unread.take 4)) } := by
  simp only [step, hr, headerDone, if_neg hheader, if_pos haccepts]

/-- Two handlers take a frame. -/
theorem step_step_of_frame (hr : r.reading = .header)
    (hframe : readFrame r.unread = some (body, rest)) :
    (r.step onMessage onStop).step onMessage onStop =
      ⟨.header, rest, r.bodies ++ [body], onMessage r.session body⟩ := by
  simp only [readFrame] at hframe
  obtain ⟨hheader, hframe⟩ := Option.ite_none_left_eq_some.mp hframe
  obtain ⟨haccepts, hframe⟩ := Option.ite_none_right_eq_some.mp hframe
  obtain ⟨hbody, hframe⟩ := Option.ite_none_left_eq_some.mp hframe
  cases hframe
  rw [step_of_accepts hr hheader haccepts]
  simp only [step, bodyDone, if_neg hbody]

/-- Where no frame follows, the session stops. -/
theorem after_of_no_frame (hr : r.reading = .header) (hframe : readFrame r.unread = none)
    (hn : r.unread.length < n) :
    after onMessage onStop n r =
      ⟨.ended, leftover r.unread, r.bodies, onStop r.session⟩ := by
  cases n with
  | zero => exact absurd hn (Nat.not_lt_zero _)
  | succ n =>
    rw [after]
    by_cases hheader : r.unread.length < 4
    · -- The stream ends within a header.
      have hfirst : r.step onMessage onStop = ⟨.ended, [], r.bodies, onStop r.session⟩ := by
        simp only [step, hr, headerDone, if_pos hheader, stop]
      rw [hfirst, after_ended rfl, leftover, if_pos hheader]
    · by_cases haccepts : AcceptsLength (bodyLen (r.unread.take 4))
      · -- The stream ends within a body.
        have hshort : (r.unread.drop 4).length < (bodyLen (r.unread.take 4)).toNat := by
          by_contra hbody
          simp only [readFrame, if_neg hheader, if_pos haccepts, if_neg hbody] at hframe
          cases hframe
        cases n with
        | zero => omega
        | succ n =>
          rw [step_of_accepts hr hheader haccepts, after]
          have hsecond : step onMessage onStop
              { r with
                unread := r.unread.drop 4
                reading := .body (bodyLen (r.unread.take 4)) } =
              ⟨.ended, [], r.bodies, onStop r.session⟩ := by
            simp only [step, bodyDone, if_pos hshort, stop]
          rw [hsecond, after_ended rfl, leftover, if_neg hheader, if_pos haccepts]
      · -- The length is refused.
        have hfirst : r.step onMessage onStop =
            ⟨.ended, r.unread.drop 4, r.bodies, onStop r.session⟩ := by
          simp only [step, hr, headerDone, if_neg hheader, if_neg haccepts, stop]
        rw [hfirst, after_ended rfl, leftover, if_neg hheader, if_neg haccepts]

/-- The loop delivers frames as long as one follows, and then stops. -/
theorem after_header (hr : r.reading = .header) (hn : r.unread.length < n) :
    ∃ bodies rest, (∀ b ∈ bodies, InRange b) ∧ r.unread = framesOf bodies ++ rest ∧
      readFrame rest = none ∧
      after onMessage onStop n r =
        ⟨.ended, leftover rest, r.bodies ++ bodies, onStop (bodies.foldl onMessage r.session)⟩ := by
  induction hlength : r.unread.length using Nat.strong_induction_on generalizing r n with
  | _ length ih =>
    cases hframe : readFrame r.unread with
    | none =>
      refine ⟨[], r.unread, List.forall_mem_nil _, rfl, hframe, ?_⟩
      rw [after_of_no_frame hr hframe hn, List.append_nil, List.foldl_nil]
    | some result =>
      obtain ⟨body, rest⟩ := result
      obtain ⟨hrange, hunread⟩ := readFrame_eq_some.mp hframe
      have hshorter : rest.length + 5 ≤ r.unread.length := by
        have hpos := hrange.1
        have hstore : (store32 (toBe32 body.length.toUInt32)).length = 4 := rfl
        rw [hunread, frameBytes, List.length_append, List.length_append, hstore]
        omega
      obtain ⟨m, rfl⟩ : ∃ m, n = m + 2 := ⟨n - 2, by omega⟩
      obtain ⟨bodies, rest', hbodies, hrest, hnone, hafter⟩ :=
        ih rest.length (by omega) (r := ⟨.header, rest, r.bodies ++ [body],
          onMessage r.session body⟩) (n := m) rfl (by dsimp only; omega) rfl
      refine ⟨body :: bodies, rest', List.forall_mem_cons.mpr ⟨hrange, hbodies⟩, ?_, hnone, ?_⟩
      · rw [framesOf_cons_append, ← hrest]
        exact hunread
      · rw [after, after, step_step_of_frame hr hframe, hafter, List.append_assoc]
        rfl

/-- What a session has done when the stream has ended. -/
theorem receive_eq (onMessage : σ → Bytes → σ) (onStop : σ → σ) (s : σ) (stream : Bytes) :
    ∃ bodies rest, (∀ b ∈ bodies, InRange b) ∧ stream = framesOf bodies ++ rest ∧
      readFrame rest = none ∧
      receive onMessage onStop s stream =
        ⟨.ended, leftover rest, bodies, onStop (bodies.foldl onMessage s)⟩ :=
  after_header (r := start s stream) rfl (Nat.lt_succ_self _)

/-- The bodies that are delivered are those of the frames before the first place where no frame
follows. -/
theorem receive_of_split (hbodies : ∀ b ∈ bodies, InRange b) (hrest : readFrame rest = none)
    (hstream : stream = framesOf bodies ++ rest) (onMessage : σ → Bytes → σ) (onStop : σ → σ)
    (s : σ) :
    receive onMessage onStop s stream =
      ⟨.ended, leftover rest, bodies, onStop (bodies.foldl onMessage s)⟩ := by
  obtain ⟨bodies', rest', hbodies', hstream', hrest', heq⟩ := receive_eq onMessage onStop s stream
  rw [hstream] at hstream'
  obtain ⟨rfl, rfl⟩ := framesOf_append_inj hbodies hbodies' hrest hrest' hstream'
  exact heq

/-- No frame follows a length that is refused. -/
theorem readFrame_of_refused {hdr : Bytes} (hlength : hdr.length = 4)
    (hrefused : ¬AcceptsLength (bodyLen hdr)) (more : Bytes) :
    readFrame (hdr ++ more) = none := by
  have htake : (hdr ++ more).take 4 = hdr := by rw [← hlength, List.take_left]
  have hlong : ¬(hdr ++ more).length < 4 := by
    rw [List.length_append]
    omega
  simp only [readFrame, if_neg hlong, htake, if_neg hrefused]

/-- What lies behind a length that is refused is not read. -/
theorem leftover_of_refused {hdr : Bytes} (hlength : hdr.length = 4)
    (hrefused : ¬AcceptsLength (bodyLen hdr)) (more : Bytes) : leftover (hdr ++ more) = more := by
  have htake : (hdr ++ more).take 4 = hdr := by rw [← hlength, List.take_left]
  have hdrop : (hdr ++ more).drop 4 = more := by rw [← hlength, List.drop_left]
  have hlong : ¬(hdr ++ more).length < 4 := by
    rw [List.length_append]
    omega
  simp only [leftover, if_neg hlong, htake, if_neg hrefused, hdrop]

/-- Framing recovers the messages that were sent, and from any stream the bodies of its longest
leading sequence of frames; behind a length that is refused nothing is read. -/
theorem receive_exact (onMessage : σ → Bytes → σ) (onStop : σ → σ) (s : σ) :
    (∀ messages : List (MsgType × Bytes), (∀ m ∈ messages, 1 + m.2.length ≤ 1048576) →
      let r := receive onMessage onStop s (messages.flatMap fun m => frame m.1 m.2)
      r.bodies = (messages.map fun m => m.1.code :: m.2) ∧ r.unread = []) ∧
    ∀ stream : Bytes,
      let r := receive onMessage onStop s stream
      r.reading = .ended ∧ r.session = onStop (r.bodies.foldl onMessage s) ∧
      (∀ b ∈ r.bodies, InRange b) ∧ framesOf r.bodies <+: stream ∧
      (∀ bodies, (∀ b ∈ bodies, InRange b) → framesOf bodies <+: stream → bodies <+: r.bodies) ∧
      ∀ bodies hdr more, (∀ b ∈ bodies, InRange b) → hdr.length = 4 →
        ¬AcceptsLength (bodyLen hdr) → stream = framesOf bodies ++ (hdr ++ more) →
        r.bodies = bodies ∧ r.unread = more := by
  constructor
  · intro messages hfits
    have hbodies : ∀ b ∈ messages.map (fun m => m.1.code :: m.2), InRange b := by
      intro b hb
      obtain ⟨m, hm, rfl⟩ := List.mem_map.mp hb
      have hle := hfits m hm
      rw [InRange, List.length_cons]
      omega
    have hstream : (messages.flatMap fun m => frame m.1 m.2) =
        framesOf (messages.map fun m => m.1.code :: m.2) ++ [] := by
      simp only [framesOf, List.append_nil, List.flatMap_map, frame_eq_frameBytes]
    rw [receive_of_split hbodies rfl hstream]
    exact ⟨rfl, rfl⟩
  · intro stream
    obtain ⟨bodies, rest, hbodies, hstream, hrest, heq⟩ := receive_eq onMessage onStop s stream
    rw [heq]
    refine ⟨rfl, rfl, hbodies, ⟨rest, hstream.symm⟩, ?_, ?_⟩
    · rintro bodies' hbodies' ⟨x, hx⟩
      exact prefix_of_framesOf_append hbodies' hbodies hrest (hx.trans hstream)
    · intro bodies' hdr more hbodies' hlength hrefused hsplit
      rw [← heq, receive_of_split hbodies' (readFrame_of_refused hlength hrefused more) hsplit]
      exact ⟨rfl, leftover_of_refused hlength hrefused more⟩

end FrameLoop

/-- A stream reaches the central server as the bodies of its frames, in their order. -/
theorem CentralServer.receive_eq_run (c : CentralServer) (session : ℕ) (stream : Bytes) :
    let r := FrameLoop.receive (fun c body => c.onMessage session body) id c stream
    r.session = c.run (r.bodies.map fun body => (session, body)) := by
  obtain ⟨bodies, rest, -, -, -, heq⟩ :=
    FrameLoop.receive_eq (fun c body => onMessage c session body) id c stream
  rw [heq]
  change bodies.foldl (fun c body => c.onMessage session body) c =
    (bodies.map fun body => (session, body)).foldl (fun c body => c.onMessage body.1 body.2) c
  rw [List.foldl_map]

/-- A session of the region handles the next body, with the clock at that time. -/
def Served.receiveNext (regionId : UInt32) (clock : ℕ → Clock) (s : Served × ℕ) (body : Bytes) :
    Served × ℕ := (s.1.receive regionId (body, clock s.2), s.2 + 1)

/-- Several bodies are handled at the times that follow. -/
theorem Served.foldl_receiveNext (regionId : UInt32) (clock : ℕ → Clock) (bodies : List Bytes)
    (s : Served) (n : ℕ) :
    (bodies.foldl (receiveNext regionId clock) (s, n)).1 =
      s.serve regionId (bodies.mapIdx fun i body => (body, clock (n + i))) := by
  induction bodies generalizing s n with
  | nil => rfl
  | cons body bodies ih =>
    rw [List.foldl_cons, receiveNext, ih, List.mapIdx_cons]
    simp only [serve, List.foldl_cons, Nat.add_zero, Nat.add_assoc, Nat.add_comm 1]

/-- A stream reaches a session of the region as the bodies of its frames, in their order. -/
theorem Served.receive_eq_serve (regionId : UInt32) (clock : ℕ → Clock) (s : Served)
    (stream : Bytes) :
    let r := FrameLoop.receive (receiveNext regionId clock) id (s, 0) stream
    r.session.1 = s.serve regionId (r.bodies.mapIdx fun i body => (body, clock i)) := by
  obtain ⟨bodies, rest, -, -, -, heq⟩ :=
    FrameLoop.receive_eq (receiveNext regionId clock) id (s, 0) stream
  rw [heq]
  have hserve := foldl_receiveNext regionId clock bodies s 0
  simp only [Nat.zero_add] at hserve
  exact hserve

end SmartLighting
