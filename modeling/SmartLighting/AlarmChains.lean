import SmartLighting.AlarmClient
import Mathlib.Order.Lattice

/-!
# Overlapping alarms

An alarm reaches the central server on its own stream as long as it is alone. A
second alarm replaces the stream of the first in the member that both chains
use, so every chain that is still under way goes on with a stream that is not its own.
-/

namespace SmartLighting

open Transition

namespace AlarmOp

/-- The stream on which the operation was started. -/
def stream : AlarmOp → Option ℕ
  | .resolve => none
  | .connect i => some i
  | .handshake i => some i
  | .write i _ => some i
  | .readHeader i => some i
  | .readBody i => some i
  | .finished => none

/-- The handshake of the chain has completed. -/
def afterHandshake : AlarmOp → Bool
  | .write _ _ => true
  | .readHeader _ => true
  | .readBody _ => true
  | .finished => true
  | _ => false

/-- The frame of the chain has been written. -/
def afterWrite : AlarmOp → Bool
  | .readHeader _ => true
  | .readBody _ => true
  | .finished => true
  | _ => false

end AlarmOp

/-- The frames that a chain should have written by now, all of them to its own stream. -/
def AlarmChain.due (chain : AlarmChain) (k : ℕ) : List WrittenFrame :=
  if chain.pending.afterWrite then
    (encodeAlarmUp chain.alarm).toOption.toList.map fun payload => ⟨k, ⟨.alarmUp, payload⟩, true⟩
  else []

namespace AlarmClient

variable {s t : AlarmClient} {e : Event} {k : ℕ} {chain : AlarmChain}

/-- A chain delivers its alarm: it works on its own stream, which stays in place
until the chain has finished, and its frame is written there once, after the
handshake, and nowhere else. -/
structure Delivers (s : AlarmClient) (k : ℕ) (chain : AlarmChain) : Prop where
  /-- Its operations are started on its own stream. -/
  onOwn : ∀ i, chain.pending.stream = some i → i = chain.own
  /-- Its stream is not replaced before it has finished. -/
  kept : chain.pending ≠ .finished → s.alarmSock = some chain.own
  /-- Its frame is on its own stream once it was written, and on no other stream. -/
  once : ∀ (i : ℕ) (stream : AlarmStream), s.streams[i]? = some stream →
    stream.written.filter (fun w => w.chain = k) = if i = chain.own then chain.due k else []

/-- The process lives and every chain delivers its alarm. -/
structure DeliveryLaw (s : AlarmClient) : Prop where
  /-- No handler has thrown. -/
  alive : s.terminated = false
  /-- Every chain delivers. -/
  delivers : ∀ (k : ℕ) (chain : AlarmChain), s.chains[k]? = some chain → Delivers s k chain

/-- An alarm is sent when no chain is under way, and its strings can be encoded
when its chain comes to write it. -/
def Alone (s : AlarmClient) : Event → Prop
  | .send _ => ∀ chain ∈ s.chains, chain.pending = .finished
  | .complete k => ∀ (chain : AlarmChain) (i : ℕ), s.chains[k]? = some chain →
    chain.pending = .handshake i → ∃ payload, encodeAlarmUp chain.alarm = .ok payload

/-- The streams are those of the chains, and hold what the chains have done. -/
structure ChainInv (s : AlarmClient) : Prop where
  /-- The law holds. -/
  law : DeliveryLaw s
  /-- Each chain has created one stream. -/
  length : s.streams.length = s.chains.length
  /-- A chain and its stream have the same number. -/
  own : ∀ (k : ℕ) (chain : AlarmChain), s.chains[k]? = some chain → chain.own = k
  /-- The alarm of a chain that comes to write can be encoded. -/
  encoded : ∀ (k : ℕ) (chain : AlarmChain) (i : ℕ) (payload : Bytes),
    s.chains[k]? = some chain → chain.pending = .write i payload →
      encodeAlarmUp chain.alarm = .ok payload
  /-- A stream has completed its handshake when its chain has. -/
  ready : ∀ (k : ℕ) (chain : AlarmChain) (stream : AlarmStream), s.chains[k]? = some chain →
    s.streams[k]? = some stream → chain.pending.afterHandshake = true → stream.handshaken = true
  /-- Only chains that exist have written. -/
  writers : ∀ (i : ℕ) (stream : AlarmStream), s.streams[i]? = some stream →
    ∀ w ∈ stream.written, w.chain < s.chains.length

theorem ChainInv.start : ChainInv start := by
  refine ⟨⟨rfl, ?_⟩, rfl, ?_, ?_, ?_, ?_⟩ <;> simp [AlarmClient.start]

/-- A first alarm after all chains have finished gets a stream for itself. -/
theorem ChainInv.send (hinv : ChainInv s) {alarm : AlarmUp} (halone : Alone s (.send alarm)) :
    ChainInv (s.sendAlarmNow alarm) := by
  have hchains : ∀ (j : ℕ) (c : AlarmChain), (s.sendAlarmNow alarm).chains[j]? = some c →
      s.chains[j]? = some c ∨ j = s.chains.length ∧ ⟨alarm, s.streams.length, .resolve⟩ = c :=
    fun j c hc => getElem?_concat_eq_some.mp hc
  have hstreams : ∀ (i : ℕ) (stream : AlarmStream),
      (s.sendAlarmNow alarm).streams[i]? = some stream →
      s.streams[i]? = some stream ∨ i = s.streams.length ∧ ⟨false, []⟩ = stream :=
    fun i stream hs => getElem?_concat_eq_some.mp hs
  refine ⟨⟨hinv.law.alive, fun j c hc => ?_⟩, ?_, fun j c hc => ?_, fun j c i payload hc hop => ?_,
    fun j c stream hc hs hafter => ?_, fun i stream hs w hw => ?_⟩
  · rcases hchains j c hc with hold | ⟨rfl, rfl⟩
    · have hfinished := halone c (List.mem_of_getElem? hold)
      have hown := hinv.own j c hold
      refine ⟨?_, fun hne => absurd hfinished hne, fun i stream hs => ?_⟩
      · rw [hfinished]
        nofun
      · rcases hstreams i stream hs with hs | ⟨rfl, rfl⟩
        · exact (hinv.law.delivers j c hold).once i stream hs
        · have hlt : j < s.chains.length := (List.getElem?_eq_some_iff.mp hold).1
          have hne : s.streams.length ≠ c.own := by
            rw [hown, hinv.length]
            omega
          simp [hne]
    · refine ⟨nofun, fun _ => rfl, fun i stream hs => ?_⟩
      have hdue : AlarmChain.due ⟨alarm, s.streams.length, .resolve⟩ s.chains.length = [] := rfl
      rw [hdue, ite_self, List.filter_eq_nil_iff]
      intro w hw
      rcases hstreams i stream hs with hs | ⟨rfl, rfl⟩
      · have hlt := hinv.writers i stream hs w hw
        simp only [decide_eq_true_eq]
        omega
      · cases hw
  · simp [sendAlarmNow, hinv.length]
  · rcases hchains j c hc with hold | ⟨rfl, rfl⟩
    · exact hinv.own j c hold
    · exact hinv.length
  · rcases hchains j c hc with hold | ⟨rfl, rfl⟩
    · exact hinv.encoded j c i payload hold hop
    · cases hop
  · rcases hchains j c hc with hold | ⟨rfl, rfl⟩
    · rcases hstreams j stream hs with hs | ⟨rfl, rfl⟩
      · exact hinv.ready j c stream hold hs hafter
      · have hlt : s.streams.length < s.chains.length := (List.getElem?_eq_some_iff.mp hold).1
        rw [hinv.length] at hlt
        exact absurd hlt (lt_irrefl _)
    · cases hafter
  · have hmore : (s.sendAlarmNow alarm).chains.length = s.chains.length + 1 := by
      simp [sendAlarmNow]
    rcases hstreams i stream hs with hs | ⟨rfl, rfl⟩
    · have hlt := hinv.writers i stream hs w hw
      omega
    · cases hw

/-- The chains after one of them was advanced. -/
theorem getElem?_setPending {op : AlarmOp} {j : ℕ} (hchain : s.chains[k]? = some chain) :
    (s.setPending k op).chains[j]? =
      if j = k then some { chain with pending := op } else s.chains[j]? := by
  unfold setPending
  by_cases h : j = k
  · subst h
    simp [hchain]
  · rw [if_neg h]
    exact List.getElem?_modify_ne _ _ (Ne.symm h)

/-- The streams after one of them was updated. -/
theorem getElem?_updateStream {f : AlarmStream → AlarmStream} {i j : ℕ} :
    (s.updateStream i f).streams[j]? =
      if j = i then s.streams[j]?.map f else s.streams[j]? := by
  unfold updateStream
  by_cases h : j = i
  · subst h
    simp
  · rw [if_neg h]
    exact List.getElem?_modify_ne _ _ (Ne.symm h)

/-- The frames of a chain on a stream, after another chain or the same one has added its frames
to its stream. -/
theorem filter_written_advance {op : AlarmOp} {f : AlarmStream → AlarmStream}
    {added : List WrittenFrame} (hadded : ∀ w ∈ added, w.chain = k)
    (hwritten : ∀ stream, s.streams[k]? = some stream →
      (f stream).written = stream.written ++ added) {i : ℕ} (j : ℕ) {stream' : AlarmStream}
    (hs : ((s.updateStream k f).setPending k op).streams[i]? = some stream') :
    ∃ stream, s.streams[i]? = some stream ∧
      stream'.written.filter (fun w => w.chain = j) =
        stream.written.filter (fun w => w.chain = j) ++ if i = k ∧ j = k then added else [] := by
  change (s.updateStream k f).streams[i]? = some stream' at hs
  rw [getElem?_updateStream] at hs
  by_cases hi : i = k
  · subst hi
    rw [if_pos rfl] at hs
    obtain ⟨stream, hold, rfl⟩ := Option.map_eq_some_iff.mp hs
    refine ⟨stream, hold, ?_⟩
    rw [hwritten stream hold, List.filter_append]
    congr 1
    by_cases hj : j = i
    · subst hj
      simp only [and_self, if_true, List.filter_eq_self, decide_eq_true_eq]
      exact hadded
    · simp only [hj, and_false, if_false, List.filter_eq_nil_iff, decide_eq_true_eq]
      intro w hw heq
      exact hj (heq.symm.trans (hadded w hw))
  · rw [if_neg hi] at hs
    exact ⟨stream', hs, by simp [hi]⟩

/-- A chain advances on its own stream: it may add frames of its own there, and
goes on to an operation for which these are the frames that are due. -/
theorem ChainInv.advance (hinv : ChainInv s) (hchain : s.chains[k]? = some chain)
    (hpending : chain.pending ≠ .finished) {op : AlarmOp} {f : AlarmStream → AlarmStream}
    (added : List WrittenFrame) (hstream : ∀ i, op.stream = some i → i = k)
    (hadded : ∀ w ∈ added, w.chain = k)
    (hwritten : ∀ stream, s.streams[k]? = some stream →
      (f stream).written = stream.written ++ added)
    (hdue : ({ chain with pending := op } : AlarmChain).due k = chain.due k ++ added)
    (hencoded : ∀ i payload, op = .write i payload → encodeAlarmUp chain.alarm = .ok payload)
    (hready : ∀ stream, s.streams[k]? = some stream → op.afterHandshake = true →
      (f stream).handshaken = true) :
    ChainInv ((s.updateStream k f).setPending k op) := by
  have hchains : ∀ j, ((s.updateStream k f).setPending k op).chains[j]? =
      if j = k then some { chain with pending := op } else s.chains[j]? := fun j =>
    getElem?_setPending (s := s.updateStream k f) hchain
  have hstreams : ∀ j, ((s.updateStream k f).setPending k op).streams[j]? =
      if j = k then s.streams[j]?.map f else s.streams[j]? := fun j => getElem?_updateStream
  have hown := hinv.own k chain hchain
  refine ⟨⟨hinv.law.alive, fun j c hc => ?_⟩, ?_, fun j c hc => ?_, fun j c i payload hc => ?_,
    fun j c stream hc hs => ?_, fun i stream' hs w hw => ?_⟩
  · rw [hchains] at hc
    by_cases hj : j = k
    · subst hj
      rw [if_pos rfl] at hc
      obtain rfl := Option.some.inj hc
      have hdelivers := hinv.law.delivers j chain hchain
      refine ⟨fun i hi => (hstream i hi).trans hown.symm, fun _ => hdelivers.kept hpending,
        fun i stream' hs => ?_⟩
      obtain ⟨stream, hold, hfilter⟩ := filter_written_advance hadded hwritten j hs
      rw [hfilter, hdelivers.once i stream hold, hdue]
      by_cases hi : i = j <;> simp [hi, hown]
    · rw [if_neg hj] at hc
      have hdelivers := hinv.law.delivers j c hc
      refine ⟨hdelivers.onOwn, hdelivers.kept, fun i stream' hs => ?_⟩
      obtain ⟨stream, hold, hfilter⟩ := filter_written_advance hadded hwritten j hs
      rw [hfilter, hdelivers.once i stream hold]
      simp [hj]
  · simpa [updateStream, setPending] using hinv.length
  · rw [hchains] at hc
    split at hc
    · next hj =>
      obtain rfl := Option.some.inj hc
      exact hown.trans hj.symm
    · exact hinv.own j c hc
  · rw [hchains] at hc
    split at hc
    · obtain rfl := Option.some.inj hc
      exact hencoded i payload
    · exact hinv.encoded j c i payload hc
  · rw [hchains] at hc
    rw [hstreams] at hs
    split at hc
    · next hj =>
      obtain rfl := Option.some.inj hc
      rw [if_pos hj, hj] at hs
      obtain ⟨old, hold, rfl⟩ := Option.map_eq_some_iff.mp hs
      exact hready old hold
    · next hj =>
      rw [if_neg hj] at hs
      exact hinv.ready j c stream hc hs
  · have hlength : ((s.updateStream k f).setPending k op).chains.length = s.chains.length := by
      simp [updateStream, setPending]
    rw [hlength]
    rw [hstreams] at hs
    split at hs
    · next hi =>
      obtain ⟨old, hold, rfl⟩ := Option.map_eq_some_iff.mp hs
      rw [hi] at hold
      rw [hwritten old hold] at hw
      rcases List.mem_append.mp hw with hw | hw
      · exact hinv.writers k old hold w hw
      · rw [hadded w hw]
        exact (List.getElem?_eq_some_iff.mp hchain).1
    · exact hinv.writers i stream' hs w hw

/-- A chain that goes on without touching a stream. -/
theorem ChainInv.proceed (hinv : ChainInv s) (hchain : s.chains[k]? = some chain)
    (hpending : chain.pending ≠ .finished) {op : AlarmOp}
    (hstream : ∀ i, op.stream = some i → i = k)
    (hwrite : op.afterWrite = chain.pending.afterWrite)
    (hhandshake : op.afterHandshake = true → chain.pending.afterHandshake = true)
    (hencoded : ∀ i payload, op ≠ .write i payload) : ChainInv (s.setPending k op) := by
  have hsame : s.updateStream k id = s := by
    simp only [updateStream, List.modify_id]
  rw [← hsame]
  refine hinv.advance hchain hpending [] hstream (by simp) (by simp) ?_
    (fun i payload heq => absurd heq (hencoded i payload)) ?_
  · simp only [AlarmChain.due, hwrite, List.append_nil]
  · intro stream hs hafter
    exact hinv.ready k chain stream hchain hs (hhandshake hafter)

/-- The completion of any operation keeps the invariant, unless the alarm cannot
be encoded. -/
theorem ChainInv.complete (hinv : ChainInv s) (halone : Alone s (.complete k))
    (h : s.complete k = some t) : ChainInv t := by
  unfold AlarmClient.complete at h
  obtain ⟨chain, hchain, h⟩ := Option.bind_eq_some_iff.mp h
  obtain ⟨current, hcurrent, h⟩ := Option.bind_eq_some_iff.mp h
  have hdelivers := hinv.law.delivers k chain hchain
  have hown := hinv.own k chain hchain
  have hpending : chain.pending ≠ .finished := by
    intro hfinished
    rw [hfinished] at h
    cases h
  -- The member still holds the stream of the chain.
  have hsock := hdelivers.kept hpending
  rw [hcurrent, hown] at hsock
  obtain rfl := Option.some.inj hsock
  have honOwn : ∀ i, chain.pending.stream = some i → i = current := fun i hi =>
    (hdelivers.onOwn i hi).trans hown
  cases hop : chain.pending with
  | resolve =>
    rw [hop] at h
    cases h
    exact hinv.proceed hchain hpending (by simp [AlarmOp.stream]) (by rw [hop]; rfl) nofun nofun
  | connect i =>
    rw [hop] at h
    cases h
    exact hinv.proceed hchain hpending (by simp [AlarmOp.stream]) (by rw [hop]; rfl) nofun nofun
  | handshake i =>
    rw [hop] at h honOwn
    obtain rfl := honOwn i rfl
    obtain ⟨payload, hpayload⟩ := halone chain i hchain hop
    simp only [hpayload] at h
    cases h
    refine hinv.advance hchain hpending [] (by simp [AlarmOp.stream]) (by simp) (by simp) ?_ ?_
      (by simp)
    · simp [AlarmChain.due, hop, AlarmOp.afterWrite]
    · intro j payload' heq
      cases heq
      exact hpayload
  | write i payload =>
    rw [hop] at h honOwn
    obtain rfl := honOwn i rfl
    have hpayload := hinv.encoded i chain i payload hchain hop
    cases h
    refine hinv.advance hchain hpending [⟨i, ⟨.alarmUp, payload⟩, true⟩]
      (by simp [AlarmOp.stream]) (by simp) ?_ ?_ nofun ?_
    · intro stream hs
      rw [hinv.ready i chain stream hchain hs (by rw [hop]; rfl)]
    · simp [AlarmChain.due, hop, AlarmOp.afterWrite, hpayload, Except.toOption]
    · intro stream hs _
      exact hinv.ready i chain stream hchain hs (by rw [hop]; rfl)
  | readHeader i =>
    rw [hop] at h
    cases h
    exact hinv.proceed hchain hpending (by simp [AlarmOp.stream]) (by rw [hop]; rfl)
      (by rw [hop]; exact fun _ => rfl) nofun
  | readBody i =>
    rw [hop] at h
    cases h
    exact hinv.proceed hchain hpending (by simp [AlarmOp.stream]) (by rw [hop]; rfl)
      (by rw [hop]; exact fun _ => rfl) nofun
  | finished => exact absurd hop hpending

/-- A step that meets the condition keeps the invariant. -/
theorem ChainInv.step (hinv : ChainInv s) (halone : Alone s e) (h : step s e = some t) :
    ChainInv t := by
  cases e with
  | send alarm =>
    simp only [AlarmClient.step, hinv.law.alive] at h
    cases h
    exact hinv.send halone
  | complete k =>
    simp only [AlarmClient.step, hinv.law.alive] at h
    exact hinv.complete halone h

/-- A step that does not meet the condition takes a stream from its chain or
ends the process. -/
theorem not_deliveryLaw_of_not_alone (hinv : ChainInv s) (halone : ¬Alone s e)
    (h : step s e = some t) : ¬DeliveryLaw t := by
  intro hlaw
  cases e with
  | send alarm =>
    simp only [AlarmClient.step, hinv.law.alive] at h
    cases h
    simp only [Alone, not_forall] at halone
    obtain ⟨c, hmem, hpending⟩ := halone
    obtain ⟨j, hj, hc⟩ := List.mem_iff_getElem.mp hmem
    have hold : s.chains[j]? = some c := List.getElem?_eq_some_iff.mpr ⟨hj, hc⟩
    have hnew : (s.sendAlarmNow alarm).chains[j]? = some c :=
      getElem?_concat_eq_some.mpr (Or.inl hold)
    have hkept : some s.streams.length = some c.own := (hlaw.delivers j c hnew).kept hpending
    rw [hinv.own j c hold, hinv.length] at hkept
    have heq := Option.some.inj hkept
    omega
  | complete k =>
    simp only [AlarmClient.step, hinv.law.alive] at h
    simp only [Alone, not_forall] at halone
    obtain ⟨chain, i, hchain, hop, hlong⟩ := halone
    unfold AlarmClient.complete at h
    simp only [hchain, Option.bind_eq_bind, Option.bind_some, hop] at h
    obtain ⟨current, -, h⟩ := Option.bind_eq_some_iff.mp h
    cases hpayload : encodeAlarmUp chain.alarm with
    | ok payload => exact hlong ⟨payload, hpayload⟩
    | error message =>
      simp only [hpayload] at h
      cases h
      cases hlaw.alive

/-- In any run every alarm is delivered on its own stream exactly when no alarm
is sent while a chain is under way, and every alarm can be encoded. -/
theorem always_deliveryLaw_iff (es : List Event) :
    Always step DeliveryLaw start es ↔ EachStep step (fun s e _ => Alone s e) start es :=
  always_iff_of_invariant (fun _ hinv => hinv.law) (fun _ _ _ hinv halone h => hinv.step halone h)
    (fun _ _ _ hinv halone h => not_deliveryLaw_of_not_alone hinv halone h) .start

/-- A tick finds two lamps lost and sends both alarms; then the first chain
proceeds up to its write. -/
def twoLost : List Event :=
  [.send ⟨1, 26, 1, 1, 9, ascii "lamp1", ascii "comm_lost"⟩,
    .send ⟨1, 26, 1, 1, 9, ascii "lamp2", ascii "comm_lost"⟩,
    .complete 0, .complete 0, .complete 0, .complete 0]

/-- The frame of the first alarm is written to the stream of the second. -/
theorem not_always_deliveryLaw_twoLost : ¬Always step DeliveryLaw start twoLost := by
  intro h
  have hlaw := h twoLost (List.prefix_refl _) _ rfl
  have honce := (hlaw.delivers 0 _ rfl).once 1 _ rfl
  exact absurd honce (by decide)

end AlarmClient

end SmartLighting
