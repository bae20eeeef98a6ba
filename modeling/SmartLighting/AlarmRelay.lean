import SmartLighting.AlarmChains
import SmartLighting.FaultPath
import SmartLighting.RegionOutputs

/-!
# What becomes of an alarm

A region raises alarms in its handlers, and hands each of them to a chain of operations of its own.
Any of these may fail, also because a later alarm has replaced the stream, and then the chain
gives up. A frame reaches the central server whole or not at all, and frames of different chains
reach it in any order, between what others send, which is no alarm of this region. Through all of
this every alarm is in one place: it waits in its chain, its frame is under way, the central server
has logged it, or a failure has lost it.
-/

namespace SmartLighting

open Transition CentralMessage

namespace AlarmChain

/-- The alarm, as long as its frame was not given to a stream. -/
def waits (chain : AlarmChain) : List AlarmUp :=
  if chain.pending.afterHandshake then [] else [chain.alarm]

/-- The body of the frame that the next handler starts to write. -/
def writes (chain : AlarmChain) : List Bytes :=
  match chain.pending with
  | .handshake _ =>
    (encodeAlarmUp chain.alarm).toOption.toList.map fun payload => MsgType.alarmUp.code :: payload
  | _ => []

end AlarmChain

namespace AlarmClient

/-- The pending operation of a chain fails: its handler prints the error and returns. -/
def fail (s : AlarmClient) (k : ℕ) : Option AlarmClient := do
  let chain ← s.chains[k]?
  if chain.pending = .finished then none else some (s.setPending k .finished)

/-- The alarms whose frames were not given to a stream yet. -/
def waiting (s : AlarmClient) : List AlarmUp := s.chains.flatMap AlarmChain.waits

/-- The alarm that a failure of the pending operation of a chain loses. -/
def gaveUp (s : AlarmClient) (k : ℕ) : List AlarmUp :=
  (s.chains[k]?).toList.flatMap AlarmChain.waits

/-- The body of the frame that the handler of a chain starts to write. -/
def writes (s : AlarmClient) (k : ℕ) : List Bytes :=
  (s.chains[k]?).toList.flatMap AlarmChain.writes

end AlarmClient

/-- A region, its client and the central server, with the bodies of the frames between them. -/
structure AlarmRelay where
  /-- The region. -/
  region : Region
  /-- Its client, as far as alarms go. -/
  client : AlarmClient
  /-- The frames that a stream has taken. -/
  underway : List Bytes
  /-- The central server. -/
  central : CentralServer

/-- The alarm that a call of `log_alarm` holds. -/
def CentralDbCall.alarmOf : CentralDbCall → Option AlarmUp
  | .regionSync .. => none
  | .alarm regionId tsUnix deviceType zoneId code uri text =>
    some ⟨regionId, tsUnix, deviceType, zoneId, code, uri, text⟩

/-- The alarms that the central server has passed to `log_alarm`. -/
def CentralServer.logged (c : CentralServer) : List AlarmUp :=
  c.db.filterMap CentralDbCall.alarmOf

/-- The store keeps the last alarms that were logged, in their order. -/
def CentralServer.ShowsLogged (c : CentralServer) : Prop :=
  c.store.alarms = (c.logged.map AlarmRecord.ofAlarm).drop (c.logged.length - maxAlarms)

namespace AlarmRelay

/-- Nothing was raised yet. -/
def start : AlarmRelay := ⟨.start, .start, [], .start⟩

/-- The alarm in a body, if it is one of this region. -/
def alarmIn (cfg : RegionConfig) (body : Bytes) : Option AlarmUp :=
  ((ofBody body).bind alarmOf).filter fun a => a.regionId = cfg.regionId

/-- What can happen. -/
inductive Event
  /-- A handler of the region runs. -/
  | region (e : Region.Event)
  /-- The pending operation of a chain completes. -/
  | complete (k : ℕ)
  /-- It fails. -/
  | fail (k : ℕ)
  /-- A session of the central server receives a frame of the region. -/
  | process (i session : ℕ)
  /-- A frame of the region is lost with its stream. -/
  | drop (i : ℕ)
  /-- A session of the central server receives something else, if it is no alarm of the region. -/
  | other (session : ℕ) (body : Bytes)

/-- One handler of the region, of its client or of the central server. The handlers of the region
call `send_alarm_now` for each alarm that they raise. Others send no alarm in the name of the
region. -/
def step (cfg : RegionConfig) (s : AlarmRelay) : Event → Option AlarmRelay
  | .region e =>
    if s.client.terminated then none
    else
      (Region.step cfg s.region e).map fun r =>
        { s with
          region := r
          client := (r.alarms.drop s.region.alarms.length).foldl AlarmClient.sendAlarmNow s.client }
  | .complete k =>
    (AlarmClient.step s.client (.complete k)).map fun client =>
      { s with client := client, underway := s.underway ++ s.client.writes k }
  | .fail k =>
    if s.client.terminated then none
    else (s.client.fail k).map fun client => { s with client := client }
  | .process i session =>
    (s.underway[i]?).map fun body =>
      { s with underway := s.underway.eraseIdx i, central := s.central.onMessage session body }
  | .drop i =>
    (s.underway[i]?).map fun _ => { s with underway := s.underway.eraseIdx i }
  | .other session body =>
    if alarmIn cfg body = none then
      some { s with central := s.central.onMessage session body }
    else none

/-- The alarms that failures have lost. -/
def watchLost (cfg : RegionConfig) (lost : List AlarmUp) (s : AlarmRelay) (e : Event)
    (_ : AlarmRelay) : List AlarmUp :=
  match e with
  | .fail k => lost ++ s.client.gaveUp k
  | .drop i => lost ++ ((s.underway[i]?).bind (alarmIn cfg)).toList
  | _ => lost

/-- The alarms of the region that the central server has logged. -/
def received (cfg : RegionConfig) (c : CentralServer) : List AlarmUp :=
  c.logged.filter fun a => a.regionId = cfg.regionId

/-- Every alarm is accounted for. -/
structure Accounts (cfg : RegionConfig) (s : AlarmRelay) (lost : List AlarmUp) : Prop where
  /-- The process of the region lives as long as a length prefix holds every name. -/
  alive : (∀ a ∈ s.region.alarms, a.uri.length ≤ 65535) → s.client.terminated = false
  /-- Each alarm that was raised is in one place, and no other alarm is anywhere. -/
  account : s.region.alarms.Perm
    (s.client.waiting ++ s.underway.filterMap (alarmIn cfg) ++ received cfg s.central ++ lost)
  /-- The administrator is shown the last alarms that were logged. -/
  shown : s.central.ShowsLogged

end AlarmRelay

/-! ## The region -/

/-- An alarm of a region names it, and its text fits a length prefix. -/
def AlarmUp.IsOf (cfg : RegionConfig) (a : AlarmUp) : Prop :=
  a.regionId = cfg.regionId ∧ a.text.length ≤ 65535

/-- Every alarm that a handler raises is one of its region. -/
theorem Region.isOf_of_mem_raised {cfg : RegionConfig} {r : Region} {e : Region.Event} {a : AlarmUp}
    (ha : a ∈ Region.raised cfg r e) : a.IsOf cfg := by
  unfold Region.raised at ha
  cases e with
  | frame k body clock =>
    dsimp only at ha
    split at ha
    · next report hm =>
      obtain rfl := List.mem_singleton.mp ha
      have hfits : report.uri.length ≤ 65535 ∧ report.text.length ≤ 65535 :=
        DeviceMessage.fits_of_ofBody hm
      exact ⟨rfl, hfits.2⟩
    · cases ha
  | datagram bytes beyond clock =>
    have htext : (ascii "sensor_fault").length ≤ 65535 := by decide
    dsimp only at ha
    split at ha
    · split at ha
      · obtain rfl := List.mem_singleton.mp ha
        exact ⟨rfl, htext⟩
      · cases ha
    · cases ha
  | tick clock =>
    have htext : (ascii "comm_lost").length ≤ 65535 := by decide
    obtain ⟨uri, -, rfl⟩ := List.mem_map.mp ha
    exact ⟨rfl, htext⟩
  | posted k => cases ha
  | writeDone k i ok => cases ha
  | close k => cases ha
  | expire k => cases ha

/-! ## The client -/

/-- The frame of an alarm of the region holds it. -/
theorem AlarmRelay.alarmIn_alarmUp {cfg : RegionConfig} {a : AlarmUp} {payload : Bytes}
    (hpayload : encodeAlarmUp a = .ok payload) (hregion : a.regionId = cfg.regionId) :
    alarmIn cfg (MsgType.alarmUp.code :: payload) = some a := by
  obtain ⟨huri, htext, -⟩ := encodeAlarmUp_eq_ok.mp hpayload
  obtain ⟨payload', hpayload', -, -, hbody⟩ := readFrame_alarm ⟨huri, htext⟩
  obtain rfl := Except.ok.inj (hpayload.symm.trans hpayload')
  simp [alarmIn, hbody, CentralMessage.alarmOf, hregion]

namespace AlarmClient

open AlarmRelay

variable {cfg : RegionConfig} {s t : AlarmClient} {k : ℕ} {chain : AlarmChain}

/-- What the client does with the alarms of one handler. -/
theorem sendAll (alarms : List AlarmUp) (s : AlarmClient) :
    (alarms.foldl sendAlarmNow s).terminated = s.terminated ∧
      (alarms.foldl sendAlarmNow s).chains.map AlarmChain.alarm =
        s.chains.map AlarmChain.alarm ++ alarms ∧
      (alarms.foldl sendAlarmNow s).waiting = s.waiting ++ alarms := by
  induction alarms generalizing s with
  | nil => exact ⟨rfl, (List.append_nil _).symm, (List.append_nil _).symm⟩
  | cons a alarms ih =>
    obtain ⟨hterminated, hchains, hwaiting⟩ := ih (s.sendAlarmNow a)
    have hone : (s.sendAlarmNow a).waiting = s.waiting ++ [a] := by
      simp [waiting, sendAlarmNow, AlarmChain.waits, AlarmOp.afterHandshake]
    refine ⟨hterminated, ?_, ?_⟩
    · rw [List.foldl_cons, hchains]
      simp [sendAlarmNow]
    · rw [List.foldl_cons, hwaiting, hone, List.append_assoc]
      rfl

/-- A chain took another pending operation, which let some alarms out. -/
structure Releases (s t : AlarmClient) (out : List AlarmUp) : Prop where
  /-- The alarms of the chains. -/
  alarms : t.chains.map AlarmChain.alarm = s.chains.map AlarmChain.alarm
  /-- What waits. -/
  waiting : s.waiting.Perm (t.waiting ++ out)

/-- The list of chains after another operation is pending in one of them. -/
theorem chains_setPending {k : ℕ} (hk : k < s.chains.length) (op : AlarmOp) :
    (s.setPending k op).chains = s.chains.set k { s.chains[k] with pending := op } := by
  rw [setPending, List.modify_eq_set_getElem?, List.getElem?_eq_getElem hk]
  rfl

/-- The chains of `t` are those of `s`, with another operation pending in one of them. -/
theorem releases_of_chains (hchain : s.chains[k]? = some chain) {op : AlarmOp}
    (hchains : t.chains = (s.setPending k op).chains) {out : List AlarmUp}
    (hout : chain.waits = ({ chain with pending := op } : AlarmChain).waits ++ out) :
    Releases s t out := by
  obtain ⟨hk, rfl⟩ := List.getElem?_eq_some_iff.mp hchain
  rw [chains_setPending hk] at hchains
  constructor
  · have hsame : (s.chains.map AlarmChain.alarm).set k s.chains[k].alarm =
        s.chains.map AlarmChain.alarm := by
      rw [← List.map_set, List.set_getElem_self]
    rw [hchains, List.map_set]
    exact hsame
  · have hold : s.chains.Perm (s.chains[k] :: s.chains.eraseIdx k) :=
      (List.getElem_cons_eraseIdx_perm hk).symm
    have hnew := List.set_perm_cons_eraseIdx hk { s.chains[k] with pending := op }
    rw [← hchains] at hnew
    have hsplit := hold.flatMap_right AlarmChain.waits
    rw [List.flatMap_cons, hout, List.append_assoc] at hsplit
    have hmoved := (hnew.flatMap_right AlarmChain.waits).symm
    rw [List.flatMap_cons] at hmoved
    refine hsplit.trans ((List.perm_append_comm.append_left _).trans ?_)
    rw [← List.append_assoc]
    exact hmoved.append_right out

/-- What a completed operation does to the chains. -/
theorem complete_chains (h : s.complete k = some t) :
    ∃ chain op, s.chains[k]? = some chain ∧ t.chains = (s.setPending k op).chains ∧
      (op.afterHandshake = chain.pending.afterHandshake ∧ chain.writes = [] ∨
        ∃ payload, encodeAlarmUp chain.alarm = .ok payload ∧
          chain.pending.afterHandshake = false ∧ op.afterHandshake = true ∧
          chain.writes = [MsgType.alarmUp.code :: payload]) := by
  unfold AlarmClient.complete at h
  obtain ⟨chain, hchain, h⟩ := Option.bind_eq_some_iff.mp h
  obtain ⟨current, -, h⟩ := Option.bind_eq_some_iff.mp h
  refine ⟨chain, ?_⟩
  cases hop : chain.pending with
  | resolve =>
    rw [hop] at h
    cases h
    exact ⟨.connect current, hchain, rfl, Or.inl ⟨rfl, by rw [AlarmChain.writes, hop]⟩⟩
  | connect i =>
    rw [hop] at h
    cases h
    exact ⟨.handshake current, hchain, rfl, Or.inl ⟨rfl, by rw [AlarmChain.writes, hop]⟩⟩
  | handshake i =>
    rw [hop] at h
    cases hpayload : encodeAlarmUp chain.alarm with
    | ok payload =>
      simp only [hpayload] at h
      cases h
      refine ⟨.write current payload, hchain, rfl, Or.inr ⟨payload, rfl, rfl, rfl, ?_⟩⟩
      simp [AlarmChain.writes, hop, hpayload, Except.toOption]
    | error message =>
      simp only [hpayload] at h
      cases h
      refine ⟨.handshake i, hchain, ?_, Or.inl ⟨rfl, ?_⟩⟩
      · obtain ⟨hk, rfl⟩ := List.getElem?_eq_some_iff.mp hchain
        rw [chains_setPending hk, ← hop]
        exact (List.set_getElem_self hk).symm
      · simp [AlarmChain.writes, hop, hpayload, Except.toOption]
  | write i payload =>
    rw [hop] at h
    cases h
    exact ⟨.readHeader current, hchain, rfl, Or.inl ⟨rfl, by rw [AlarmChain.writes, hop]⟩⟩
  | readHeader i =>
    rw [hop] at h
    cases h
    exact ⟨.readBody current, hchain, rfl, Or.inl ⟨rfl, by rw [AlarmChain.writes, hop]⟩⟩
  | readBody i =>
    rw [hop] at h
    cases h
    exact ⟨.finished, hchain, rfl, Or.inl ⟨rfl, by rw [AlarmChain.writes, hop]⟩⟩
  | finished =>
    rw [hop] at h
    cases h

/-- A completed operation releases the alarm whose frame is then written. -/
theorem releases_complete (hof : ∀ a ∈ s.chains.map AlarmChain.alarm, a.IsOf cfg)
    (h : s.complete k = some t) : Releases s t ((s.writes k).filterMap (alarmIn cfg)) := by
  obtain ⟨chain, op, hchain, hchains, hnext⟩ := complete_chains h
  have hwrites : s.writes k = chain.writes := by
    rw [writes, hchain]
    exact List.append_nil _
  rw [hwrites]
  refine releases_of_chains hchain hchains ?_
  unfold AlarmChain.waits
  rcases hnext with ⟨hsame, hnone⟩ | ⟨payload, hpayload, hbefore, hafter, hone⟩
  · rw [hsame, hnone]
    exact (List.append_nil _).symm
  · have halarm := hof chain.alarm (List.mem_map_of_mem (List.mem_of_getElem? hchain))
    have hin := alarmIn_alarmUp hpayload halarm.1
    simp [hbefore, hafter, hone, hin]

/-- A completed operation ends the process only for an alarm that cannot be encoded. -/
theorem terminated_complete (hof : ∀ a ∈ s.chains.map AlarmChain.alarm, a.IsOf cfg)
    (hnames : ∀ a ∈ s.chains.map AlarmChain.alarm, a.uri.length ≤ 65535)
    (h : s.complete k = some t) : t.terminated = s.terminated := by
  unfold AlarmClient.complete at h
  obtain ⟨chain, hchain, h⟩ := Option.bind_eq_some_iff.mp h
  obtain ⟨current, -, h⟩ := Option.bind_eq_some_iff.mp h
  have hmem := List.mem_map_of_mem (f := AlarmChain.alarm) (List.mem_of_getElem? hchain)
  obtain ⟨payload, hpayload⟩ : ∃ payload, encodeAlarmUp chain.alarm = .ok payload :=
    ⟨_, encodeAlarmUp_eq_ok.mpr ⟨hnames _ hmem, (hof _ hmem).2, rfl⟩⟩
  rw [hpayload] at h
  split at h <;> first | (cases h; rfl) | cases h

/-- A failed operation releases the alarm that it loses. -/
theorem releases_fail (h : s.fail k = some t) :
    Releases s t (s.gaveUp k) ∧ t.terminated = s.terminated := by
  obtain ⟨chain, hchain, h⟩ := Option.bind_eq_some_iff.mp h
  obtain ⟨-, heq⟩ := Option.ite_none_left_eq_some.mp h
  cases heq
  have hgaveUp : s.gaveUp k = chain.waits := by
    rw [gaveUp, hchain]
    exact List.append_nil _
  rw [hgaveUp]
  exact ⟨releases_of_chains hchain rfl rfl, rfl⟩

end AlarmClient

/-! ## The central server -/

namespace CentralServer

/-- A body adds the alarm in it to the log, and to the window over the log. -/
theorem logged_onMessage (c : CentralServer) (session : ℕ) (body : Bytes) :
    (c.onMessage session body).logged =
        c.logged ++ ((ofBody body).bind CentralMessage.alarmOf).toList ∧
      (c.ShowsLogged → (c.onMessage session body).ShowsLogged) := by
  have hquiet {d : CentralServer} (hdb : d.logged = c.logged)
      (halarms : d.store.alarms = c.store.alarms) :
      d.logged = c.logged ++ [] ∧ (c.ShowsLogged → d.ShowsLogged) := by
    refine ⟨hdb.trans (List.append_nil _).symm, fun h => ?_⟩
    rw [ShowsLogged, hdb, halarms]
    exact h
  rw [onMessage_eq]
  cases ofBody body with
  | none => exact hquiet rfl rfl
  | some m =>
    cases m with
    | sync up =>
      refine hquiet ?_ rfl
      exact (List.filterMap_append ..).trans (List.append_nil _)
    | alarm up =>
      have hlogged : (c.handle session (.alarm up)).logged = c.logged ++ [up] :=
        List.filterMap_append ..
      refine ⟨hlogged, fun h => ?_⟩
      have hwindow := CentralStore.alarms_pushAlarm (a := AlarmRecord.ofAlarm up)
        (h.trans (by rw [List.length_map]))
      rw [Option.elim_some, ShowsLogged, hlogged, List.map_append, List.length_append]
      refine hwindow.trans ?_
      simp only [List.length_append, List.length_map, List.map_cons, List.map_nil,
        List.length_cons, List.length_nil]
    | snapshotReq =>
      change (c.onSnapshotReq session).logged = _ ∧ _
      rw [Option.elim_some, handle, onSnapshotReq]
      split
      · exact hquiet rfl rfl
      · exact hquiet rfl rfl

end CentralServer

namespace AlarmRelay

variable {cfg : RegionConfig} {s t : AlarmRelay} {lost : List AlarmUp} {e : Event}

/-- The log of the region grows by the alarm of the region in the body. -/
theorem received_onMessage (cfg : RegionConfig) (c : CentralServer) (session : ℕ) (body : Bytes) :
    received cfg (c.onMessage session body) = received cfg c ++ (alarmIn cfg body).toList := by
  rw [received, (CentralServer.logged_onMessage c session body).1, List.filter_append, received,
    alarmIn, List.append_cancel_left_eq]
  cases (ofBody body).bind CentralMessage.alarmOf with
  | none => rfl
  | some a => by_cases h : a.regionId = cfg.regionId <;> simp [Option.filter, h]

/-- The alarms of the region come from its chains, and name it. -/
structure Inv (cfg : RegionConfig) (s : AlarmRelay) (lost : List AlarmUp) : Prop where
  /-- Each alarm has its chain. -/
  chains : s.client.chains.map AlarmChain.alarm = s.region.alarms
  /-- Each alarm is one of the region. -/
  isOf : ∀ a ∈ s.region.alarms, a.IsOf cfg
  /-- Every alarm is accounted for. -/
  accounts : Accounts cfg s lost

theorem inv_start (cfg : RegionConfig) : Inv cfg start [] where
  chains := rfl
  isOf := List.forall_mem_nil _
  accounts := ⟨fun _ => rfl, .nil, rfl⟩

/-- Where alarms are raised and change their places, each is still in one place. -/
theorem perm_of_moved {raised raised' places places' : List AlarmUp} (h : raised.Perm places)
    (hmoved : ∀ a, raised'.count a + places.count a = raised.count a + places'.count a) :
    raised'.Perm places' := by
  rw [List.perm_iff_count]
  intro a
  have hcount := h.count_eq a
  have hbalance := hmoved a
  omega

/-- The frames that are left when one of them is taken. -/
theorem perm_underway (cfg : RegionConfig) {underway : List Bytes} {i : ℕ} {body : Bytes}
    (h : underway[i]? = some body) :
    (underway.filterMap (alarmIn cfg)).Perm
      ((underway.eraseIdx i).filterMap (alarmIn cfg) ++ (alarmIn cfg body).toList) := by
  obtain ⟨hi, rfl⟩ := List.getElem?_eq_some_iff.mp h
  have hsplit := ((List.getElem_cons_eraseIdx_perm hi).filterMap (alarmIn cfg)).symm
  refine hsplit.trans (.trans ?_ List.perm_append_comm)
  rw [List.filterMap_cons]
  cases alarmIn cfg underway[i] <;> rfl

/-- A handler of the region raises alarms, and their chains start. -/
theorem Inv.region (hinv : Inv cfg s lost) {e : Region.Event}
    (h : step cfg s (.region e) = some t) : Inv cfg t lost := by
  obtain ⟨-, h⟩ := Option.ite_none_left_eq_some.mp h
  obtain ⟨r, hr, rfl⟩ := Option.map_eq_some_iff.mp h
  have hraised := (Region.outputs_step hr).1
  have hnew : r.alarms.drop s.region.alarms.length = Region.raised cfg s.region e := by
    rw [hraised, List.drop_left]
  obtain ⟨hterminated, hchains, hwaiting⟩ :=
    AlarmClient.sendAll (Region.raised cfg s.region e) s.client
  refine ⟨?_, ?_, ?_, ?_, hinv.accounts.shown⟩
  · dsimp only
    rw [hnew, hchains, hinv.chains, hraised]
  · dsimp only
    rw [hraised]
    intro a ha
    rcases List.mem_append.mp ha with hold | hraised
    · exact hinv.isOf a hold
    · exact Region.isOf_of_mem_raised hraised
  · dsimp only
    rw [hnew, hterminated, hraised]
    intro hnames
    exact hinv.accounts.alive fun a ha => hnames a (List.mem_append_left _ ha)
  · dsimp only
    rw [hnew, hwaiting, hraised]
    refine perm_of_moved hinv.accounts.account fun a => ?_
    simp only [List.count_append]
    omega

/-- An operation completes. -/
theorem Inv.complete (hinv : Inv cfg s lost) {k : ℕ}
    (h : step cfg s (.complete k) = some t) : Inv cfg t lost := by
  obtain ⟨client, hclient, rfl⟩ := Option.map_eq_some_iff.mp h
  obtain ⟨halive, hcomplete⟩ := Option.ite_none_left_eq_some.mp hclient
  have hof : ∀ a ∈ s.client.chains.map AlarmChain.alarm, a.IsOf cfg := by
    rw [hinv.chains]
    exact hinv.isOf
  have hreleases := AlarmClient.releases_complete hof hcomplete
  refine ⟨hreleases.alarms.trans hinv.chains, hinv.isOf, fun hnames => ?_, ?_,
    hinv.accounts.shown⟩
  · rw [AlarmClient.terminated_complete hof (by rw [hinv.chains]; exact hnames) hcomplete]
    exact hinv.accounts.alive hnames
  · refine perm_of_moved hinv.accounts.account fun a => ?_
    have hwaiting := hreleases.waiting.count_eq a
    simp only [List.filterMap_append, List.count_append] at hwaiting ⊢
    omega

/-- An operation fails. -/
theorem Inv.fail (hinv : Inv cfg s lost) {k : ℕ}
    (h : step cfg s (.fail k) = some t) : Inv cfg t (lost ++ s.client.gaveUp k) := by
  obtain ⟨-, h⟩ := Option.ite_none_left_eq_some.mp h
  obtain ⟨client, hclient, rfl⟩ := Option.map_eq_some_iff.mp h
  obtain ⟨hreleases, hterminated⟩ := AlarmClient.releases_fail hclient
  refine ⟨hreleases.alarms.trans hinv.chains, hinv.isOf, fun hnames => ?_, ?_,
    hinv.accounts.shown⟩
  · rw [hterminated]
    exact hinv.accounts.alive hnames
  · refine perm_of_moved hinv.accounts.account fun a => ?_
    have hwaiting := hreleases.waiting.count_eq a
    simp only [List.count_append] at hwaiting ⊢
    omega

/-- The central server receives a frame of the region. -/
theorem Inv.process (hinv : Inv cfg s lost) {i session : ℕ}
    (h : step cfg s (.process i session) = some t) : Inv cfg t lost := by
  obtain ⟨body, hbody, rfl⟩ := Option.map_eq_some_iff.mp h
  refine ⟨hinv.chains, hinv.isOf, hinv.accounts.alive, ?_,
    (CentralServer.logged_onMessage s.central session body).2 hinv.accounts.shown⟩
  dsimp only
  rw [received_onMessage]
  refine perm_of_moved hinv.accounts.account fun a => ?_
  have hunderway := (perm_underway cfg hbody).count_eq a
  simp only [List.count_append] at hunderway ⊢
  omega

/-- A frame is lost. -/
theorem Inv.drop (hinv : Inv cfg s lost) {i : ℕ} (h : step cfg s (.drop i) = some t) :
    Inv cfg t (lost ++ ((s.underway[i]?).bind (alarmIn cfg)).toList) := by
  obtain ⟨body, hbody, rfl⟩ := Option.map_eq_some_iff.mp h
  rw [hbody, Option.bind_some]
  refine ⟨hinv.chains, hinv.isOf, hinv.accounts.alive, ?_, hinv.accounts.shown⟩
  refine perm_of_moved hinv.accounts.account fun a => ?_
  have hunderway := (perm_underway cfg hbody).count_eq a
  simp only [List.count_append] at hunderway ⊢
  omega

/-- The central server receives something else. -/
theorem Inv.other (hinv : Inv cfg s lost) {session : ℕ} {body : Bytes}
    (h : step cfg s (.other session body) = some t) : Inv cfg t lost := by
  obtain ⟨hforeign, heq⟩ := Option.ite_none_right_eq_some.mp h
  cases heq
  refine ⟨hinv.chains, hinv.isOf, hinv.accounts.alive, ?_,
    (CentralServer.logged_onMessage s.central session body).2 hinv.accounts.shown⟩
  dsimp only
  rw [received_onMessage, hforeign, Option.toList_none, List.append_nil]
  exact hinv.accounts.account

theorem Inv.step (hinv : Inv cfg s lost) (h : step cfg s e = some t) :
    Inv cfg t (watchLost cfg lost s e t) := by
  cases e with
  | region e => exact hinv.region h
  | complete k => exact hinv.complete h
  | fail k => exact hinv.fail h
  | process i session => exact hinv.process h
  | drop i => exact hinv.drop h
  | other session body => exact hinv.other h

/-- In every run of a region, its client and the central server, in which nobody else sends an alarm
in the name of the region, whatever overlaps and whatever fails, every alarm is in one place: none
is invented, logged twice, or lost without a failure. -/
theorem always_accounts (cfg : RegionConfig) (es : List Event) :
    Always (monitored (step cfg) (watchLost cfg)) (fun p => Accounts cfg p.1 p.2) (start, [])
      es := by
  have hinv : Always (monitored (step cfg) (watchLost cfg)) (fun p => Inv cfg p.1 p.2)
      (start, []) es := .of_monitored (fun _ _ _ _ hinv h => hinv.step h) (inv_start cfg)
  exact hinv.mono fun _ h => h.accounts

end AlarmRelay

end SmartLighting
