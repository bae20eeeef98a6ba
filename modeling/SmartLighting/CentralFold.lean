import SmartLighting.CentralServer

/-!
# The central server is a fold of its messages

Whatever bodies arrive, on whatever sessions, the store and the answers depend
only on the well-formed messages in them: the last synchronization of each
region, the most recent alarms, and one acknowledgement for each message.
-/

namespace SmartLighting

namespace CentralServer

open CentralMessage

variable {c : CentralServer} {messages : List (ℕ × CentralMessage)}

/-- What the server is after it handled a sequence of messages. -/
structure Folded (messages : List (ℕ × CentralMessage)) (c : CentralServer) : Prop where
  /-- The aggregate of a region is what its last synchronization leaves. -/
  regions : ∀ id, c.store.regions.lookup id =
    (syncsOf messages id).getLast?.map CentralStore.aggregateOf
  /-- The alarms are the most recent ones. -/
  alarms : c.store.alarms = ((alarmsOf messages).map AlarmRecord.ofAlarm).drop
    ((alarmsOf messages).length - maxAlarms)
  /-- Each synchronization and each alarm is logged once. -/
  db : c.db = messages.filterMap fun m => m.2.dbCall
  /-- Each synchronization and each alarm is acknowledged once, to the session it came from. -/
  acks : (c.sent.filter fun out => out.2.type ≠ .adminSnapshotAck) =
    messages.filterMap fun m => m.2.ack.map fun out => (m.1, out)

/-- Nothing was handled yet. -/
theorem folded_start : Folded [] start := by
  constructor
  · intro id
    rfl
  · rfl
  · rfl
  · rfl

/-- One more synchronization is handled. -/
theorem Folded.onRegionSync (h : Folded messages c) (session : ℕ) (up : RegionSyncUp) :
    Folded (messages ++ [(session, .sync up)]) (c.onRegionSync session up) := by
  constructor
  · intro id
    have hlookup := CentralStore.lookup_upsertRegion c.store up id
    refine hlookup.trans ?_
    rw [syncsOf_append, syncsOf_cons]
    by_cases hid : up.regionId = id
    · rw [if_pos hid.symm, if_pos hid]
      exact (congrArg (Option.map _) List.getLast?_concat).symm
    · have hnil : syncsOf [] id = [] := rfl
      rw [if_neg (Ne.symm hid), if_neg hid, hnil, List.append_nil]
      exact h.regions id
  · have halarms : alarmsOf (messages ++ [(session, .sync up)]) = alarmsOf messages :=
      (alarmsOf_append ..).trans (List.append_nil _)
    rw [halarms]
    exact h.alarms
  · rw [List.filterMap_append, ← h.db]
    rfl
  · rw [List.filterMap_append, ← h.acks]
    exact List.filter_append ..

/-- One more alarm is handled. -/
theorem Folded.onAlarm (h : Folded messages c) (session : ℕ) (up : AlarmUp) :
    Folded (messages ++ [(session, .alarm up)]) (c.onAlarm session up) := by
  constructor
  · intro id
    have hsyncs : syncsOf (messages ++ [(session, .alarm up)]) id = syncsOf messages id :=
      (syncsOf_append ..).trans (List.append_nil _)
    rw [hsyncs, ← h.regions id]
    exact congrArg (fun regions => regions.lookup id) CentralStore.regions_pushAlarm
  · have halarms : alarmsOf (messages ++ [(session, .alarm up)]) = alarmsOf messages ++ [up] :=
      alarmsOf_append ..
    have hwindow := CentralStore.alarms_pushAlarm (a := AlarmRecord.ofAlarm up)
      (h.alarms.trans (by rw [List.length_map]))
    rw [halarms, List.map_append]
    refine hwindow.trans ?_
    simp only [List.length_append, List.length_map, List.map_cons, List.map_nil, List.length_cons,
      List.length_nil]
  · rw [List.filterMap_append, ← h.db]
    rfl
  · rw [List.filterMap_append, ← h.acks]
    exact List.filter_append ..

/-- A request for a snapshot leaves the store and the log. -/
theorem Folded.onSnapshotReq (h : Folded messages c) (session : ℕ) :
    Folded (messages ++ [(session, .snapshotReq)]) (c.onSnapshotReq session) := by
  have hsame : (c.onSnapshotReq session).store = c.store ∧ (c.onSnapshotReq session).db = c.db ∧
      ((c.onSnapshotReq session).sent.filter fun out => out.2.type ≠ .adminSnapshotAck) =
        c.sent.filter fun out => out.2.type ≠ .adminSnapshotAck := by
    unfold CentralServer.onSnapshotReq
    split
    · refine ⟨rfl, rfl, ?_⟩
      simp [asyncSend, List.filter_append]
    · exact ⟨rfl, rfl, rfl⟩
  obtain ⟨hstore, hdb, hsent⟩ := hsame
  constructor
  · intro id
    have hsyncs : syncsOf (messages ++ [(session, .snapshotReq)]) id = syncsOf messages id :=
      (syncsOf_append ..).trans (List.append_nil _)
    rw [hsyncs, hstore]
    exact h.regions id
  · have halarms : alarmsOf (messages ++ [(session, .snapshotReq)]) = alarmsOf messages :=
      (alarmsOf_append ..).trans (List.append_nil _)
    rw [halarms, hstore]
    exact h.alarms
  · rw [List.filterMap_append, ← h.db, hdb]
    exact (List.append_nil _).symm
  · rw [List.filterMap_append, ← h.acks, hsent]
    exact (List.append_nil _).symm

/-- One more message is handled. -/
theorem Folded.handle (h : Folded messages c) (session : ℕ) (m : CentralMessage) :
    Folded (messages ++ [(session, m)]) (c.handle session m) := by
  cases m with
  | sync up => exact h.onRegionSync session up
  | alarm up => exact h.onAlarm session up
  | snapshotReq => exact h.onSnapshotReq session

/-- The server started empty and handled the messages. -/
theorem folded_foldl (messages : List (ℕ × CentralMessage)) :
    Folded messages (messages.foldl (fun c m => c.handle m.1 m.2) start) := by
  induction messages using List.reverseRecOn with
  | nil => exact folded_start
  | append_singleton messages m ih =>
    rw [List.foldl_concat]
    exact ih.handle m.1 m.2

/-- The server started empty and handled the accepted messages of the bodies. -/
theorem folded_accepted (bodies : List (ℕ × Bytes)) :
    Folded (accepted bodies) (start.run bodies) := by
  rw [run_eq_foldl]
  exact folded_foldl (accepted bodies)

/-- What the snapshot's counts rely on: every list of the store fits a 16-bit count, and
every string a 16-bit length. -/
structure Bounded (s : CentralStore) : Prop where
  /-- The zones of a region. -/
  zones : ∀ id agg, s.regions.lookup id = some agg → agg.zonePowerMw.keys.length ≤ 65535
  /-- The alarms. -/
  alarms : s.alarms.length ≤ maxAlarms
  /-- The strings of an alarm. -/
  strings : ∀ a ∈ s.alarms, a.uri.length ≤ 65535 ∧ a.text.length ≤ 65535

/-- The bounds come from the messages and from the window over the alarms. -/
theorem Folded.bounded (h : Folded messages c) (hfits : ∀ m ∈ messages, m.2.Fits) :
    Bounded c.store := by
  constructor
  · intro id agg hlookup
    rw [h.regions] at hlookup
    obtain ⟨up, hlast, rfl⟩ := Option.map_eq_some_iff.mp hlookup
    have hmem := (List.mem_filter.mp (List.mem_of_getLast? hlast)).1
    obtain ⟨⟨session, m⟩, hm, hsync⟩ := List.mem_filterMap.mp hmem
    obtain rfl := syncOf_eq_some.mp hsync
    exact le_trans (length_powerMap_le up.zonePowerSum) (hfits _ hm).1
  · rw [h.alarms, List.length_drop, List.length_map]
    omega
  · intro a ha
    rw [h.alarms] at ha
    obtain ⟨up, hup, rfl⟩ := List.mem_map.mp (List.mem_of_mem_drop ha)
    obtain ⟨⟨session, m⟩, hm, halarm⟩ := List.mem_filterMap.mp hup
    obtain rfl := alarmOf_eq_some.mp halarm
    exact hfits _ hm

/-- Whatever was received, the store is bounded. -/
theorem bounded_run (bodies : List (ℕ × Bytes)) : Bounded (start.run bodies).store :=
  (folded_accepted bodies).bounded fun _ => fits_of_mem_accepted

end CentralServer

end SmartLighting
