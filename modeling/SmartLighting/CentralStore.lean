import SmartLighting.CentralProto
import SmartLighting.Library.AssocMap

/-!
# The store of the central server

`central_store.hpp` keeps the last aggregates of each region and the most recent
alarms. Each operation is one critical section of the store's mutex.
-/

namespace SmartLighting

/-- `RegionAggregate`. -/
structure RegionAggregate where
  /-- Version of the last synchronization. -/
  version : UInt32
  /-- The power consumption of each zone in milliwatts. -/
  zonePowerMw : AssocMap UInt32 UInt32
  /-- The devices of each zone. -/
  zoneSummary : AssocMap UInt32 ZoneDeviceSummary
  deriving DecidableEq

/-- `AlarmRecord`. -/
structure AlarmRecord where
  /-- The reporting region. -/
  regionId : UInt32
  /-- Clock of the region in seconds. -/
  tsUnix : UInt32
  /-- 1 for a lamp and 2 for a sensor. -/
  deviceType : UInt8
  /-- Zone of the device. -/
  zoneId : UInt32
  /-- Kind of fault. -/
  code : UInt8
  /-- Name of the device. -/
  uri : Bytes
  /-- Description. -/
  text : Bytes
  deriving DecidableEq

/-- `class CentralStore`. -/
structure CentralStore where
  /-- `regions_`. -/
  regions : AssocMap UInt32 RegionAggregate
  /-- `alarms_`, oldest first. -/
  alarms : List AlarmRecord
  deriving DecidableEq

/-- `MAX_ALARMS`. -/
def maxAlarms : ℕ := 2000

/-- The power map that `upsert_region` fills: the last pair of a zone stays. -/
def powerMap (zonePowerSum : List (UInt32 × UInt32)) : AssocMap UInt32 UInt32 :=
  zonePowerSum.foldl (fun m zp => m.insert zp.1 zp.2) ∅

/-- The summary map that `upsert_region` fills: the last summary of a zone stays. -/
def summaryMap (zoneDeviceSummary : List ZoneDeviceSummary) :
    AssocMap UInt32 ZoneDeviceSummary :=
  zoneDeviceSummary.foldl (fun m zs => m.insert zs.zoneId zs) ∅

namespace CentralStore

/-- The store of a server that has just started. -/
def empty : CentralStore := ⟨∅, []⟩

/-- `upsert_region`: create the aggregate if there is none, then replace all of it. -/
def upsertRegion (s : CentralStore) (regionId version : UInt32)
    (zonePowerSum : List (UInt32 × UInt32)) (zoneDeviceSummary : List ZoneDeviceSummary) :
    CentralStore :=
  let agg := (s.regions.lookup regionId).getD ⟨0, ∅, ∅⟩
  let agg := { agg with version := version }
  let agg := { agg with zonePowerMw := powerMap zonePowerSum }
  let agg := { agg with zoneSummary := summaryMap zoneDeviceSummary }
  { s with regions := s.regions.insert regionId agg }

/-- `push_alarm`: append, and drop the oldest alarms beyond the limit. -/
def pushAlarm (s : CentralStore) (a : AlarmRecord) : CentralStore :=
  let alarms := s.alarms ++ [a]
  if alarms.length > maxAlarms then { s with alarms := alarms.drop (alarms.length - maxAlarms) }
  else { s with alarms := alarms }

variable {s : CentralStore} {id : UInt32} {a : AlarmRecord}

/-- What a synchronization leaves as the aggregate of its region. -/
def aggregateOf (up : RegionSyncUp) : RegionAggregate :=
  ⟨up.version, powerMap up.zonePowerSum, summaryMap up.zoneDeviceSummary⟩

/-- A synchronization replaces the aggregate of its region, and no other. -/
theorem lookup_upsertRegion (s : CentralStore) (up : RegionSyncUp) (id : UInt32) :
    (s.upsertRegion up.regionId up.version up.zonePowerSum up.zoneDeviceSummary).regions.lookup
        id =
      if id = up.regionId then some (aggregateOf up) else s.regions.lookup id :=
  AssocMap.lookup_insert_eq ..

@[simp] theorem alarms_upsertRegion {version : UInt32} {power : List (UInt32 × UInt32)}
    {summary : List ZoneDeviceSummary} :
    (s.upsertRegion id version power summary).alarms = s.alarms := rfl

@[simp] theorem regions_pushAlarm : (s.pushAlarm a).regions = s.regions := by
  unfold pushAlarm
  dsimp only
  split <;> rfl

/-- The alarms are a window over all alarms: the oldest go first. -/
theorem alarms_pushAlarm {all : List AlarmRecord}
    (h : s.alarms = all.drop (all.length - maxAlarms)) :
    (s.pushAlarm a).alarms = (all ++ [a]).drop ((all ++ [a]).length - maxAlarms) := by
  have hlength : s.alarms.length = min all.length maxAlarms := by
    rw [h, List.length_drop]
    omega
  have hshift : s.alarms ++ [a] = (all ++ [a]).drop (all.length - maxAlarms) := by
    rw [h, List.drop_append_of_le_length (Nat.sub_le ..)]
  have hone : (s.alarms ++ [a]).length = s.alarms.length + 1 := List.length_append
  have hall : (all ++ [a]).length = all.length + 1 := List.length_append
  have hpositive : 0 < maxAlarms := by decide
  unfold pushAlarm
  dsimp only
  split
  · next hlong =>
    -- The list was full, so exactly one alarm is dropped.
    have hdropped : all.length - maxAlarms + ((s.alarms ++ [a]).length - maxAlarms) =
        (all ++ [a]).length - maxAlarms := by omega
    rw [← hdropped, ← List.drop_drop, ← hshift]
  · next hshort =>
    have hkept : (all ++ [a]).length - maxAlarms = all.length - maxAlarms := by omega
    rw [hkept, ← hshift]

end CentralStore

/-- The power map shows the last pair of each zone. -/
theorem lookup_powerMap (zonePowerSum : List (UInt32 × UInt32)) (z : UInt32) :
    (powerMap zonePowerSum).lookup z =
      (zonePowerSum.filter fun zp => zp.1 = z).getLast?.map fun zp => zp.2 := by
  unfold powerMap
  rw [AssocMap.lookup_foldl_insert, AList.lookup_empty, Option.or_none]

/-- The summary map shows the last summary of each zone. -/
theorem lookup_summaryMap (zoneDeviceSummary : List ZoneDeviceSummary) (z : UInt32) :
    (summaryMap zoneDeviceSummary).lookup z =
      (zoneDeviceSummary.filter fun zs => zs.zoneId = z).getLast? := by
  unfold summaryMap
  rw [AssocMap.lookup_foldl_insert, AList.lookup_empty, Option.or_none, Option.map_id']

/-- The power map has at most one entry for each pair. -/
theorem length_powerMap_le (zonePowerSum : List (UInt32 × UInt32)) :
    (powerMap zonePowerSum).keys.length ≤ zonePowerSum.length := by
  have hempty : (∅ : AssocMap UInt32 UInt32).keys.length = 0 := rfl
  have h : (powerMap zonePowerSum).keys.length ≤
      (∅ : AssocMap UInt32 UInt32).keys.length + zonePowerSum.length :=
    AssocMap.length_foldl_insert_le ..
  omega

end SmartLighting
