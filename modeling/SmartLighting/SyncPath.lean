import SmartLighting.Aggregation
import SmartLighting.CentralServer
import SmartLighting.Framing

/-!
# The way of a synchronization

`do_sync_once` sends the aggregates of the registry as one frame. Three limits
lie on its way to the store of the central server: the 16-bit counts, the 32-bit
length, and the largest body that the server accepts. The sender checks none.
-/

namespace SmartLighting

open Reader CentralMessage

/-- What `do_sync_once` collects. The power sums come from a hash map, so they may be
listed in any order. -/
structure IsSyncUp (regionId version : UInt32) (r : Registry) (up : RegionSyncUp) : Prop where
  /-- The region. -/
  regionId : up.regionId = regionId
  /-- The version. -/
  version : up.version = version
  /-- The power sums. -/
  power : up.zonePowerSum.Perm r.zonePowerSum
  /-- The summary, which is sorted. -/
  summary : up.zoneDeviceSummary = r.zoneDeviceSummary

/-- The message of `do_sync_once`, in the order of the map's entries. -/
def syncUp (regionId version : UInt32) (r : Registry) : RegionSyncUp :=
  ⟨regionId, version, r.zonePowerSum, r.zoneDeviceSummary⟩

theorem isSyncUp_syncUp (regionId version : UInt32) (r : Registry) :
    IsSyncUp regionId version r (syncUp regionId version r) := ⟨rfl, rfl, .refl _, rfl⟩

/-- The body of the frame of a synchronization. -/
def syncBody (up : RegionSyncUp) : Bytes := MsgType.regionSyncUp.code :: encodeRegionSyncUp up

/-- `send_sync`: the bytes that are written. -/
def sendSync (up : RegionSyncUp) : Bytes := frame .regionSyncUp (encodeRegionSyncUp up)

variable {regionId version : UInt32} {r : Registry} {up : RegionSyncUp}

/-- With at most 65535 zones the message is found in its body. -/
theorem ofBody_syncBody (hpower : up.zonePowerSum.length ≤ 65535)
    (hsummary : up.zoneDeviceSummary.length ≤ 65535) :
    CentralMessage.ofBody (syncBody up) = some (.sync up) := by
  simp only [syncBody, CentralMessage.ofBody, if_true,
    (decodeRegionSyncUp_exact hpower hsummary).decode_eq]
  rfl

namespace IsSyncUp

/-- The power list is not longer than the summary. -/
theorem length_power_le (h : IsSyncUp regionId version r up) :
    up.zonePowerSum.length ≤ r.zoneDeviceSummary.length := by
  rw [h.power.length_eq]
  exact r.length_zonePowerSum_le

/-- No zone has two power sums. -/
theorem nodup_power (h : IsSyncUp regionId version r up) :
    (up.zonePowerSum.map Prod.fst).Nodup :=
  (h.power.map Prod.fst).nodup_iff.mpr r.nodup_zonePowerSum

/-- The power map of the message shows the power sums of the registry. -/
theorem lookup_powerMap (h : IsSyncUp regionId version r up) (z p : UInt32) :
    (powerMap up.zonePowerSum).lookup z = some p ↔ (z, p) ∈ r.zonePowerSum := by
  unfold powerMap
  rw [AssocMap.lookup_foldl_insert_of_nodup h.nodup_power, ← h.power.mem_iff]
  constructor
  · rintro ⟨⟨z', p'⟩, hmem, rfl, rfl⟩
    exact hmem
  · intro hmem
    exact ⟨(z, p), hmem, rfl, rfl⟩

/-- The summary map of the message shows the summary of the registry. -/
theorem lookup_summaryMap (h : IsSyncUp regionId version r up) (z : UInt32)
    (zs : ZoneDeviceSummary) :
    (summaryMap up.zoneDeviceSummary).lookup z = some zs ↔
      zs ∈ r.zoneDeviceSummary ∧ zs.zoneId = z := by
  have hnodup := r.nodup_zoneDeviceSummary
  rw [← h.summary] at hnodup ⊢
  unfold summaryMap
  rw [AssocMap.lookup_foldl_insert_of_nodup hnodup]
  constructor
  · rintro ⟨zs', hmem, hzone, rfl⟩
    exact ⟨hmem, hzone⟩
  · rintro ⟨hmem, hzone⟩
    exact ⟨zs, hmem, hzone, rfl⟩

end IsSyncUp

/-- The frame is accepted, its body is decoded, and the store then holds the version, the
power sums and the summaries that were sent, and no others. -/
def Lossless (c : CentralServer) (session : ℕ) (rest : Bytes) (r : Registry)
    (up : RegionSyncUp) : Prop :=
  ∃ body message, readFrame (sendSync up ++ rest) = some (body, rest) ∧
    CentralMessage.ofBody body = some (.sync message) ∧
    ∃ agg, (c.onMessage session body).store.regions.lookup up.regionId = some agg ∧
      agg.version = up.version ∧
      (∀ z p, agg.zonePowerMw.lookup z = some p ↔ (z, p) ∈ r.zonePowerSum) ∧
      ∀ z zs, agg.zoneSummary.lookup z = some zs ↔ zs ∈ r.zoneDeviceSummary ∧ zs.zoneId = z

/-- The store after a synchronization was found in a body. -/
theorem lookup_onMessage_sync {c : CentralServer} {session : ℕ} {body : Bytes}
    (h : CentralMessage.ofBody body = some (.sync up)) (id : UInt32) :
    (c.onMessage session body).store.regions.lookup id =
      if id = up.regionId then some (CentralStore.aggregateOf up)
      else c.store.regions.lookup id := by
  rw [CentralServer.lookup_onMessage, h]
  rfl

variable {c : CentralServer} {session : ℕ} {rest : Bytes}

/-- A frame within the limits loses nothing. -/
theorem lossless_of_fits (h : IsSyncUp regionId version r up)
    (hzones : r.zoneDeviceSummary.length ≤ 65535)
    (hfits : 13 + 8 * r.zonePowerSum.length + 14 * r.zoneDeviceSummary.length ≤ 1048576) :
    Lossless c session rest r up := by
  have hsummary : up.zoneDeviceSummary.length ≤ 65535 := by
    rw [h.summary]
    exact hzones
  have hpower : up.zonePowerSum.length ≤ 65535 := le_trans h.length_power_le hzones
  have hlength : 1 + (encodeRegionSyncUp up).length ≤ 1048576 := by
    rw [length_encodeRegionSyncUp, h.power.length_eq, h.summary]
    omega
  have hbody := ofBody_syncBody hpower hsummary
  refine ⟨syncBody up, up, readFrame_frame hlength, hbody, CentralStore.aggregateOf up, ?_, rfl,
    h.lookup_powerMap, h.lookup_summaryMap⟩
  rw [lookup_onMessage_sync hbody, if_pos rfl]

/-- A longer frame is refused, so the store does not change. -/
theorem readFrame_sendSync_refused (rest : Bytes) (h : IsSyncUp regionId version r up)
    (hzones : r.zoneDeviceSummary.length ≤ 65535)
    (hlong : ¬13 + 8 * r.zonePowerSum.length + 14 * r.zoneDeviceSummary.length ≤ 1048576) :
    readFrame (sendSync up ++ rest) = none := by
  have hpower := r.length_zonePowerSum_le
  have hlength := length_encodeRegionSyncUp up
  rw [h.power.length_eq, h.summary] at hlength
  apply readFrame_frame_refused
  · omega
  · omega

/-- With at most 65535 zones in the summary a synchronization arrives without loss exactly
when its frame fits the limit of the central server, which otherwise refuses it. -/
theorem lossless_iff (c : CentralServer) (session : ℕ) (rest : Bytes)
    (h : IsSyncUp regionId version r up) (hzones : r.zoneDeviceSummary.length ≤ 65535) :
    (Lossless c session rest r up ↔
      13 + 8 * r.zonePowerSum.length + 14 * r.zoneDeviceSummary.length ≤ 1048576) ∧
    (¬Lossless c session rest r up → readFrame (sendSync up ++ rest) = none) := by
  have hrefused := readFrame_sendSync_refused rest h hzones
  have hiff : Lossless c session rest r up ↔
      13 + 8 * r.zonePowerSum.length + 14 * r.zoneDeviceSummary.length ≤ 1048576 := by
    constructor
    · rintro ⟨body, message, hread, -⟩
      by_contra hlong
      rw [hrefused hlong] at hread
      cases hread
    · exact lossless_of_fits h hzones
  refine ⟨hiff, fun hlossy => hrefused ?_⟩
  rwa [← hiff]

/-! ## Too many zones -/

/-- Lamps that registered one after the other, each in a zone of its own. -/
def manyZones (n : ℕ) : Registry :=
  (List.range n).foldl (fun r i =>
    r.upsert (u32Bytes i.toUInt32) ⟨.luminaire, (i + 1).toUInt32, 0, 0, 0, false, 1000⟩) .empty

private theorem toUInt32_inj {i j : ℕ} (hi : i < 4294967296) (hj : j < 4294967296)
    (h : i.toUInt32 = j.toUInt32) : i = j := by
  have hnat := congrArg UInt32.toNat h
  rw [Nat.toUInt32, UInt32.toNat_ofNat', UInt32.toNat_ofNat'] at hnat
  omega

/-- Each of the lamps is found. -/
theorem get_manyZones {n i : ℕ} (hn : n < 4294967296) (hi : i < n) :
    (manyZones n).get (u32Bytes i.toUInt32) =
      some ⟨.luminaire, (i + 1).toUInt32, 0, 0, 0, false, 1000⟩ := by
  induction n with
  | zero => omega
  | succ n ih =>
    rw [manyZones, List.range_succ, List.foldl_concat, Registry.get_upsert]
    by_cases hlast : i = n
    · rw [hlast, if_pos rfl]
    · have hname : u32Bytes i.toUInt32 ≠ u32Bytes n.toUInt32 := by
        intro hsame
        have hexact := getU32_exact i.toUInt32
        rw [hsame] at hexact
        exact hlast (toUInt32_inj (by omega) (by omega) (hexact.inj (getU32_exact _)))
      rw [if_neg hname]
      exact ih (by omega) (by omega)

/-- Nothing else is found. -/
theorem zoneId_of_get_manyZones {n : ℕ} {uri : Bytes} {st : DeviceState}
    (h : (manyZones n).get uri = some st) : ∃ i < n, (i + 1).toUInt32 = st.zoneId := by
  induction n with
  | zero => cases h
  | succ n ih =>
    rw [manyZones, List.range_succ, List.foldl_concat, Registry.get_upsert] at h
    split at h
    · cases h
      exact ⟨n, by omega, rfl⟩
    · obtain ⟨i, hi, hzone⟩ := ih h
      exact ⟨i, by omega, hzone⟩

/-- There is power in each of the zones. -/
theorem le_length_manyZones {n : ℕ} (hn : n < 4294967295) :
    n ≤ (manyZones n).zonePowerSum.length := by
  have hnodup : ((List.range n).map fun i => (i + 1).toUInt32).Nodup := by
    refine List.Nodup.map_on (fun i hi j hj hsame => ?_) List.nodup_range
    rw [List.mem_range] at hi hj
    have hsucc := toUInt32_inj (by omega) (by omega) hsame
    omega
  have hsubset : ((List.range n).map fun i => (i + 1).toUInt32) ⊆
      (manyZones n).zonePowerSum.map Prod.fst := by
    intro z hz
    obtain ⟨i, hi, rfl⟩ := List.mem_map.mp hz
    rw [List.mem_range] at hi
    refine Registry.mem_zones_zonePowerSum.mpr
      ⟨_, _, get_manyZones (by omega) hi, rfl, rfl, ?_⟩
    intro hzero
    have hsucc : i + 1 = 0 := toUInt32_inj (by omega) (by omega) hzero
    omega
  have hle := (List.subperm_of_subset hnodup hsubset).length_le
  rwa [List.length_map, List.length_range, List.length_map] at hle

/-- There are no other zones. -/
theorem length_manyZones_le (n : ℕ) : (manyZones n).zoneDeviceSummary.length ≤ n := by
  have hsubset : (manyZones n).zoneDeviceSummary.map ZoneDeviceSummary.zoneId ⊆
      (List.range n).map fun i => (i + 1).toUInt32 := by
    intro z hz
    obtain ⟨uri, st, hget, rfl, -⟩ := Registry.mem_zones_zoneDeviceSummary.mp hz
    obtain ⟨i, hi, hzone⟩ := zoneId_of_get_manyZones hget
    exact List.mem_map.mpr ⟨i, List.mem_range.mpr hi, hzone⟩
  have hle := (List.subperm_of_subset (Registry.nodup_zoneDeviceSummary _) hsubset).length_le
  rwa [List.length_map, List.length_map, List.length_range] at hle

/-- The synchronization of two zones arrives. -/
theorem lossless_iff_twoZones :
    Lossless .start 0 [] (manyZones 2) (syncUp 1 1 (manyZones 2)) :=
  (lossless_iff .start 0 [] (isSyncUp_syncUp ..) (by decide)).1.mpr (by decide)

/-- The synchronization of 47662 zones with a lamp does not arrive: its frame is too long. -/
theorem not_lossless_manyZones :
    ¬Lossless .start 0 [] (manyZones 47662) (syncUp 1 1 (manyZones 47662)) := by
  have hpower : 47662 ≤ (manyZones 47662).zonePowerSum.length := le_length_manyZones (by omega)
  have hsummary := length_manyZones_le 47662
  have hle := (manyZones 47662).length_zonePowerSum_le
  rintro ⟨body, message, hread, -⟩
  rw [readFrame_sendSync_refused [] (isSyncUp_syncUp ..) (by omega) (by omega)] at hread
  cases hread

end SmartLighting
