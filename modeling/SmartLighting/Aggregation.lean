import SmartLighting.CentralProto
import SmartLighting.Registry
import Mathlib.Data.List.Sort

/-!
# The aggregates of a region

`zone_power_sum` and `zone_device_summary` of `registry.hpp` fold over all
devices: the first lists the zones that have a lamp, the second those that have
any device. Devices of zone zero are skipped. All sums wrap.
-/

namespace SmartLighting

/-- `Acc`: the counters of a zone. -/
structure Acc where
  /-- Lamps. -/
  lampTotal : UInt16
  /-- Lamps that are switched on. -/
  lampOn : UInt16
  /-- Lamps with a latched fault. -/
  lampFault : UInt16
  /-- Sensors. -/
  sensorTotal : UInt16
  /-- Sensors with a latched fault. -/
  sensorFault : UInt16
  deriving DecidableEq

/-- Count one device. -/
def Acc.count (a : Acc) (st : DeviceState) : Acc :=
  if st.type = .luminaire then
    let a := { a with lampTotal := a.lampTotal + 1 }
    let a := if st.on ≠ 0 then { a with lampOn := a.lampOn + 1 } else a
    if st.fault then { a with lampFault := a.lampFault + 1 } else a
  else
    let a := { a with sensorTotal := a.sensorTotal + 1 }
    if st.fault then { a with sensorFault := a.sensorFault + 1 } else a

namespace Registry

/-- The body of the loop of `zone_power_sum`. -/
def addPower (sums : AssocMap UInt32 UInt32) (st : DeviceState) : AssocMap UInt32 UInt32 :=
  if st.zoneId = 0 then sums
  else if st.type = .luminaire then
    AssocMap.modify sums st.zoneId 0 fun sum => sum + st.powerMw
  else sums

/-- `zone_power_sum`. -/
def zonePowerSum (r : Registry) : List (UInt32 × UInt32) :=
  let sums := r.dev.entries.foldl (fun sums kv => addPower sums kv.2) ∅
  sums.entries.map fun kv => (kv.1, kv.2)

/-- The body of the loop of `zone_device_summary`. -/
def addDevice (acc : AssocMap UInt32 Acc) (st : DeviceState) : AssocMap UInt32 Acc :=
  if st.zoneId = 0 then acc
  else AssocMap.modify acc st.zoneId ⟨0, 0, 0, 0, 0⟩ fun a => a.count st

/-- `zone_device_summary`. -/
def zoneDeviceSummary (r : Registry) : List ZoneDeviceSummary :=
  let acc := r.dev.entries.foldl (fun acc kv => addDevice acc kv.2) ∅
  let out := acc.entries.map fun kv =>
    { zoneId := kv.1
      lampTotal := kv.2.lampTotal
      lampOn := kv.2.lampOn
      lampFault := kv.2.lampFault
      sensorTotal := kv.2.sensorTotal
      sensorFault := kv.2.sensorFault : ZoneDeviceSummary }
  out.insertionSort fun a b => a.zoneId ≤ b.zoneId

variable {r : Registry} {z : UInt32}

/-- The zone to whose power a device adds. -/
def powerZone (st : DeviceState) : Option UInt32 :=
  if st.zoneId ≠ 0 ∧ st.type = .luminaire then some st.zoneId else none

/-- The zone in which a device is counted. -/
def summaryZone (st : DeviceState) : Option UInt32 :=
  if st.zoneId ≠ 0 then some st.zoneId else none

/-- Each pass adds to the sum of at most one zone. -/
theorem addPower_eq (sums : AssocMap UInt32 UInt32) (st : DeviceState) :
    addPower sums st =
      (powerZone st).elim sums fun k => AssocMap.modify sums k 0 fun sum => sum + st.powerMw := by
  unfold addPower powerZone
  by_cases hzone : st.zoneId = 0
  · simp [hzone]
  · by_cases htype : st.type = .luminaire <;> simp [hzone, htype]

/-- Each pass counts in at most one zone. -/
theorem addDevice_eq (acc : AssocMap UInt32 Acc) (st : DeviceState) :
    addDevice acc st =
      (summaryZone st).elim acc fun k =>
        AssocMap.modify acc k ⟨0, 0, 0, 0, 0⟩ fun a => a.count st := by
  unfold addDevice summaryZone
  by_cases hzone : st.zoneId = 0 <;> simp [hzone]

/-- A zone has a device for which `zoneOf` names it. -/
private theorem exists_entry_iff {zoneOf : DeviceState → Option UInt32} :
    (∃ kv ∈ r.dev.entries, zoneOf kv.2 = some z) ↔
      ∃ uri st, r.get uri = some st ∧ zoneOf st = some z := by
  constructor
  · rintro ⟨⟨uri, st⟩, hmem, hzone⟩
    exact ⟨uri, st, (AssocMap.mem_entries_iff r.dev uri st).mp hmem, hzone⟩
  · rintro ⟨uri, st, hget, hzone⟩
    exact ⟨⟨uri, st⟩, (AssocMap.mem_entries_iff r.dev uri st).mpr hget, hzone⟩

/-- The zones of the power list are the keys of its map. -/
private theorem zones_zonePowerSum : r.zonePowerSum.map Prod.fst =
    (r.dev.entries.foldl (fun sums kv => addPower sums kv.2) ∅).keys := by
  rw [zonePowerSum, List.map_map]
  rfl

/-- Sorting keeps the zones of the summary. -/
private theorem zones_zoneDeviceSummary :
    (r.zoneDeviceSummary.map ZoneDeviceSummary.zoneId).Perm
      (r.dev.entries.foldl (fun acc kv => addDevice acc kv.2) ∅).keys := by
  refine ((List.perm_insertionSort ..).map _).trans ?_
  rw [List.map_map]
  exact .refl _

/-- The power list has a zone exactly when it has a lamp. -/
theorem mem_zones_zonePowerSum :
    z ∈ r.zonePowerSum.map Prod.fst ↔
      ∃ uri st, r.get uri = some st ∧ st.type = .luminaire ∧ st.zoneId = z ∧ z ≠ 0 := by
  have hkeys := AssocMap.isSome_lookup_foldl_modify
    (fun sums (kv : Σ _ : Bytes, DeviceState) => addPower_eq sums kv.2) r.dev.entries z
  rw [exists_entry_iff, AList.lookup_isSome, AList.mem_keys] at hkeys
  rw [zones_zonePowerSum, hkeys]
  refine exists_congr fun uri => exists_congr fun st => and_congr_right fun _ => ?_
  unfold powerZone
  split
  · next h => grind
  · next h => grind

/-- The summary has a zone exactly when it has a device. -/
theorem mem_zones_zoneDeviceSummary :
    z ∈ r.zoneDeviceSummary.map ZoneDeviceSummary.zoneId ↔
      ∃ uri st, r.get uri = some st ∧ st.zoneId = z ∧ z ≠ 0 := by
  have hkeys := AssocMap.isSome_lookup_foldl_modify
    (fun acc (kv : Σ _ : Bytes, DeviceState) => addDevice_eq acc kv.2) r.dev.entries z
  rw [exists_entry_iff, AList.lookup_isSome, AList.mem_keys] at hkeys
  rw [zones_zoneDeviceSummary.mem_iff, hkeys]
  refine exists_congr fun uri => exists_congr fun st => and_congr_right fun _ => ?_
  unfold summaryZone
  split
  · next h => grind
  · next h => grind

/-- No zone is listed twice in the power list. -/
theorem nodup_zonePowerSum (r : Registry) : (r.zonePowerSum.map Prod.fst).Nodup := by
  rw [zones_zonePowerSum]
  exact AList.keys_nodup _

/-- No zone is listed twice in the summary. -/
theorem nodup_zoneDeviceSummary (r : Registry) :
    (r.zoneDeviceSummary.map ZoneDeviceSummary.zoneId).Nodup := by
  rw [zones_zoneDeviceSummary.nodup_iff]
  exact AList.keys_nodup _

/-- A zone with power has devices, so the power list is not longer than the summary. -/
theorem length_zonePowerSum_le (r : Registry) :
    r.zonePowerSum.length ≤ r.zoneDeviceSummary.length := by
  have hsubset : r.zonePowerSum.map Prod.fst ⊆
      r.zoneDeviceSummary.map ZoneDeviceSummary.zoneId := by
    intro z hz
    obtain ⟨uri, st, hget, -, hzone, hne⟩ := mem_zones_zonePowerSum.mp hz
    exact mem_zones_zoneDeviceSummary.mpr ⟨uri, st, hget, hzone, hne⟩
  have hle := (List.subperm_of_subset (nodup_zonePowerSum r) hsubset).length_le
  rwa [List.length_map, List.length_map] at hle

end Registry

end SmartLighting
