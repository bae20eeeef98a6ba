import SmartLighting.Aggregation
import SmartLighting.SessionScope
import Mathlib.Algebra.BigOperators.Group.List.Basic
import Mathlib.Algebra.Ring.Nat

/-!
# What the aggregates count

`zone_power_sum` adds in 32 bits and `zone_device_summary` counts in 16 bits, in
the order in which the device map is iterated. Here they are compared with the
sums and counts of natural numbers over the entries of the map, which do not
depend on an order. The power list is the true one exactly while no zone reaches
2^32 mW; the counts are exact below 65536 devices in a zone.
-/

namespace SmartLighting

namespace Registry

variable {r : Registry} {z p : UInt32}

/-- The lamps of a zone, in the order of iteration. -/
def lampsOf (r : Registry) (z : UInt32) : List DeviceState :=
  (r.dev.entries.map Sigma.snd).filter fun st => st.type = .luminaire ∧ st.zoneId = z

/-- The power of all lamps of a zone, as a natural number. -/
def lampPower (r : Registry) (z : UInt32) : ℕ :=
  ((r.lampsOf z).map fun st => st.powerMw.toNat).sum

/-- The power list has one pair for each zone with a lamp, with the true sum of its power, in
whatever order the devices are iterated. -/
structure IsTruePower (r : Registry) : Prop where
  /-- A zone has at most one pair. -/
  once : (r.zonePowerSum.map Prod.fst).Nodup
  /-- The zones are those that have a lamp, without zone zero. -/
  zones : ∀ z, z ∈ r.zonePowerSum.map Prod.fst ↔
    z ≠ 0 ∧ ∃ uri st, r.get uri = some st ∧ st.type = .luminaire ∧ st.zoneId = z
  /-- The second component is the sum over all lamps of the zone. -/
  sums : ∀ zp ∈ r.zonePowerSum, zp.2.toNat = r.lampPower zp.1
  /-- Another order of the devices gives the same pairs. -/
  order : ∀ r' : Registry, r'.dev.entries.Perm r.dev.entries →
    r'.zonePowerSum.Perm r.zonePowerSum

/-- A sum in 32 bits is the sum modulo 2^32. -/
theorem toNat_foldl_add (l : List DeviceState) :
    (l.foldl (fun sum st => sum + st.powerMw) (0 : UInt32)).toNat =
      (l.map fun st => st.powerMw.toNat).sum % 4294967296 := by
  induction l using List.reverseRecOn with
  | nil => rfl
  | append_singleton l st ih =>
    rw [List.foldl_concat, UInt32.toNat_add, ih, List.map_append, List.sum_append]
    simp only [List.map_cons, List.map_nil, List.sum_singleton, Nat.reducePow]
    omega

/-- The zone of a lamp, unless it is zero, is the one to which it adds its power. -/
private theorem powerZone_eq_some {st : DeviceState} (hz : z ≠ 0) :
    powerZone st = some z ↔ st.type = .luminaire ∧ st.zoneId = z := by
  unfold powerZone
  grind

/-- The sum under a zone is that of its lamps. -/
theorem lookup_sums (hz : z ≠ 0) :
    (r.dev.entries.foldl (fun sums kv => addPower sums kv.2) ∅).lookup z =
      if r.lampsOf z = [] then none
      else some ((r.lampsOf z).foldl (fun sum st => sum + st.powerMw) 0) := by
  have hlamps : r.lampsOf z =
      (r.dev.entries.filter fun kv => powerZone kv.2 = some z).map Sigma.snd := by
    simp only [lampsOf, List.filter_map, powerZone_eq_some hz, Function.comp_def]
  rw [AssocMap.lookup_foldl_modify (fun sums (kv : Σ _ : Bytes, DeviceState) =>
    addPower_eq sums kv.2), hlamps]
  simp only [List.map_eq_nil_iff, List.foldl_map]

/-- The pairs of the power list. -/
theorem mem_zonePowerSum : (z, p) ∈ r.zonePowerSum ↔
    z ≠ 0 ∧ r.lampsOf z ≠ [] ∧ p.toNat = r.lampPower z % 4294967296 := by
  have hentry : (z, p) ∈ r.zonePowerSum ↔
      (r.dev.entries.foldl (fun sums kv => addPower sums kv.2) ∅).lookup z = some p := by
    rw [← AssocMap.mem_entries_iff, zonePowerSum, List.mem_map]
    constructor
    · rintro ⟨kv, hkv, heq⟩
      cases heq
      exact hkv
    · intro h
      exact ⟨⟨z, p⟩, h, rfl⟩
  rw [hentry]
  by_cases hz : z = 0
  · -- No device adds to zone zero.
    have hnone : z ∉ r.zonePowerSum.map Prod.fst := by
      rw [mem_zones_zonePowerSum]
      rintro ⟨uri, st, -, -, -, hne⟩
      exact hne hz
    simp only [hz, ne_eq, not_true_eq_false, false_and, iff_false]
    rw [← hentry]
    exact fun hmem => hnone (List.mem_map.mpr ⟨(z, p), hmem, rfl⟩)
  · rw [lookup_sums hz]
    split
    · next hnil => simp [hnil]
    · next hne =>
      rw [Option.some.injEq, ← UInt32.toNat_inj, toNat_foldl_add, lampPower]
      simp only [hz, hne, ne_eq, not_false_eq_true, true_and]
      exact eq_comm

/-- A lamp of a zone is a device that the registry finds. -/
theorem mem_lampsOf {st : DeviceState} : st ∈ r.lampsOf z ↔
    (∃ uri, r.get uri = some st) ∧ st.type = .luminaire ∧ st.zoneId = z := by
  simp only [lampsOf, List.mem_filter, List.mem_map, decide_eq_true_eq]
  refine and_congr_left fun _ => ?_
  constructor
  · rintro ⟨⟨uri, st⟩, hmem, rfl⟩
    exact ⟨uri, (AssocMap.mem_entries_iff _ _ _).mp hmem⟩
  · rintro ⟨uri, hget⟩
    exact ⟨⟨uri, st⟩, (AssocMap.mem_entries_iff _ _ _).mpr hget, rfl⟩

/-- The lamps of a zone and their power do not depend on the order of the devices. -/
theorem lampsOf_perm {r' : Registry} (h : r'.dev.entries.Perm r.dev.entries) (z : UInt32) :
    (r'.lampsOf z).Perm (r.lampsOf z) := (h.map _).filter _

theorem lampPower_perm {r' : Registry} (h : r'.dev.entries.Perm r.dev.entries) (z : UInt32) :
    r'.lampPower z = r.lampPower z := ((lampsOf_perm h z).map _).sum_eq

/-- Neither does the power list, but for its own order. -/
theorem zonePowerSum_perm {r' : Registry} (h : r'.dev.entries.Perm r.dev.entries) :
    r'.zonePowerSum.Perm r.zonePowerSum := by
  have hnodup := (nodup_zonePowerSum r).of_map
  have hnodup' := (nodup_zonePowerSum r').of_map
  refine (List.perm_ext_iff_of_nodup hnodup' hnodup).mpr fun ⟨z, p⟩ => ?_
  rw [mem_zonePowerSum, mem_zonePowerSum, lampPower_perm h, ← List.length_eq_zero_iff.ne,
    ← List.length_eq_zero_iff.ne, (lampsOf_perm h z).length_eq]

/-- The power list is the true one exactly when the power of no zone reaches 2^32 mW. -/
theorem isTruePower_iff (r : Registry) :
    r.IsTruePower ↔ ∀ z ≠ 0, r.lampPower z < 4294967296 := by
  constructor
  · intro h z hz
    by_cases hlamps : r.lampsOf z = []
    · rw [lampPower, hlamps]
      decide
    · let p : UInt32 := (r.lampPower z).toUInt32
      have hp : p.toNat = r.lampPower z % 4294967296 := UInt32.toNat_ofNat'
      have hsum := h.sums (z, p) (mem_zonePowerSum.mpr ⟨hz, hlamps, hp⟩)
      rw [← hsum]
      exact p.toNat_lt
  · intro h
    refine ⟨nodup_zonePowerSum r, fun z => ?_, fun zp hzp => ?_, fun r' => zonePowerSum_perm⟩
    · rw [mem_zones_zonePowerSum]
      constructor
      · rintro ⟨uri, st, hget, htype, hzone, hne⟩
        exact ⟨hne, uri, st, hget, htype, hzone⟩
      · rintro ⟨hne, uri, st, hget, htype, hzone⟩
        exact ⟨uri, st, hget, htype, hzone, hne⟩
    · obtain ⟨z, p⟩ := zp
      obtain ⟨hz, -, hsum⟩ := mem_zonePowerSum.mp hzp
      rw [hsum, Nat.mod_eq_of_lt (h z hz)]

/-- The frames of a peer that registers two lamps in zone 1, with 2^31 mW each. -/
def overloadFrames : List (Bytes × Clock) :=
  [([1, 1, 0, 1, 97, 0, 0, 0, 1], ⟨1, 1⟩),
    ([4, 0, 1, 97, 0, 0, 0, 1, 1, 100, 128, 0, 0, 0], ⟨2, 1⟩),
    ([1, 1, 0, 1, 98, 0, 0, 0, 1], ⟨3, 1⟩),
    ([4, 0, 1, 98, 0, 0, 0, 1, 1, 100, 128, 0, 0, 0], ⟨4, 1⟩)]

/-- The registry after a session has handled these frames. -/
def overloaded : Registry := (Served.serve 1 (.accept .empty) overloadFrames).reg

/-- The sum of the two lamps wraps around to zero. -/
theorem not_isTruePower_overloaded : ¬overloaded.IsTruePower := by
  intro h
  have hpair : (1, 0) ∈ overloaded.zonePowerSum := by decide +kernel
  have hsum : (0 : UInt32).toNat = overloaded.lampPower 1 := h.sums (1, 0) hpair
  have hpower : overloaded.lampPower 1 = 4294967296 := by decide +kernel
  rw [hpower] at hsum
  exact absurd hsum (by decide)

end Registry

/-! ## The counts of a zone -/

/-- The five counts of a zone, as natural numbers. -/
structure ZoneCounts where
  /-- Lamps. -/
  lampTotal : ℕ
  /-- Lamps that are switched on. -/
  lampOn : ℕ
  /-- Lamps with a fault. -/
  lampFault : ℕ
  /-- Other devices. -/
  sensorTotal : ℕ
  /-- Other devices with a fault. -/
  sensorFault : ℕ

namespace ZoneCounts

/-- Count the devices of a list. -/
def of (l : List DeviceState) : ZoneCounts where
  lampTotal := l.countP fun st => st.type = .luminaire
  lampOn := l.countP fun st => st.type = .luminaire ∧ st.on ≠ 0
  lampFault := l.countP fun st => st.type = .luminaire ∧ st.fault
  sensorTotal := l.countP fun st => st.type ≠ .luminaire
  sensorFault := l.countP fun st => st.type ≠ .luminaire ∧ st.fault

/-- The counts modulo 2^16. -/
def wrap (n : ZoneCounts) : ZoneCounts where
  lampTotal := n.lampTotal % 65536
  lampOn := n.lampOn % 65536
  lampFault := n.lampFault % 65536
  sensorTotal := n.sensorTotal % 65536
  sensorFault := n.sensorFault % 65536

end ZoneCounts

/-- The numbers in the accumulator of a zone. -/
def Acc.counts (a : Acc) : ZoneCounts :=
  ⟨a.lampTotal.toNat, a.lampOn.toNat, a.lampFault.toNat, a.sensorTotal.toNat,
    a.sensorFault.toNat⟩

/-- The numbers in the summary of a zone. -/
def ZoneDeviceSummary.counts (zs : ZoneDeviceSummary) : ZoneCounts :=
  ⟨zs.lampTotal.toNat, zs.lampOn.toNat, zs.lampFault.toNat, zs.sensorTotal.toNat,
    zs.sensorFault.toNat⟩

/-- The accumulator counts modulo 2^16. -/
theorem Acc.counts_foldl (l : List DeviceState) :
    (l.foldl Acc.count ⟨0, 0, 0, 0, 0⟩).counts = (ZoneCounts.of l).wrap := by
  induction l using List.reverseRecOn with
  | nil => rfl
  | append_singleton l st ih =>
    rw [List.foldl_concat]
    generalize l.foldl Acc.count ⟨0, 0, 0, 0, 0⟩ = a at ih ⊢
    simp only [Acc.counts, ZoneCounts.of, ZoneCounts.wrap, ZoneCounts.mk.injEq] at ih ⊢
    obtain ⟨h1, h2, h3, h4, h5⟩ := ih
    simp only [List.countP_append, List.countP_singleton]
    by_cases htype : st.type = .luminaire
    · by_cases hon : st.on = 0 <;> cases hfault : st.fault <;>
        simp [Acc.count, htype, hon, hfault, h1, h2, h3, h4, h5]
    · cases hfault : st.fault <;> simp [Acc.count, htype, hfault, h1, h2, h3, h4, h5]

/-- The parts of a count are not more than the whole. -/
theorem ZoneCounts.of_le (l : List DeviceState) :
    (of l).lampOn ≤ (of l).lampTotal ∧ (of l).lampFault ≤ (of l).lampTotal ∧
      (of l).sensorFault ≤ (of l).sensorTotal ∧ (of l).lampTotal ≤ l.length ∧
      (of l).sensorTotal ≤ l.length := by
  refine ⟨List.countP_mono_left ?_, List.countP_mono_left ?_, List.countP_mono_left ?_,
    List.countP_le_length, List.countP_le_length⟩
  all_goals
    intro st _ h
    exact decide_eq_true (of_decide_eq_true h).1

/-- Where a zone has fewer than 65536 devices, no count wraps. -/
theorem ZoneCounts.wrap_of {l : List DeviceState} (h : l.length < 65536) :
    (of l).wrap = of l := by
  obtain ⟨hon, hfault, hsensor, hlamps, hsensors⟩ := of_le l
  rw [wrap, Nat.mod_eq_of_lt (by omega), Nat.mod_eq_of_lt (by omega), Nat.mod_eq_of_lt (by omega),
    Nat.mod_eq_of_lt (by omega), Nat.mod_eq_of_lt (by omega)]

namespace Registry

/-- The devices of a zone, in the order of iteration. -/
def devicesOf (r : Registry) (z : UInt32) : List DeviceState :=
  (r.dev.entries.map Sigma.snd).filter fun st => st.zoneId = z

/-- The summary has one entry for each zone with a device, in the order of the zones. Its counts
are those of the devices modulo 2^16, in whatever order the devices are iterated. -/
structure IsTrueSummary (r : Registry) : Prop where
  /-- The zones increase. -/
  increasing : (r.zoneDeviceSummary.map ZoneDeviceSummary.zoneId).Pairwise (· < ·)
  /-- The zones are those that have a device, without zone zero. -/
  zones : ∀ z, z ∈ r.zoneDeviceSummary.map ZoneDeviceSummary.zoneId ↔
    z ≠ 0 ∧ ∃ uri st, r.get uri = some st ∧ st.zoneId = z
  /-- The counts are right modulo 2^16. -/
  counts : ∀ zs ∈ r.zoneDeviceSummary, zs.counts = (ZoneCounts.of (r.devicesOf zs.zoneId)).wrap
  /-- Below 65536 devices they are right. -/
  exact : ∀ zs ∈ r.zoneDeviceSummary, (r.devicesOf zs.zoneId).length < 65536 →
    zs.counts = ZoneCounts.of (r.devicesOf zs.zoneId) ∧ zs.lampOn ≤ zs.lampTotal ∧
      zs.lampFault ≤ zs.lampTotal ∧ zs.sensorFault ≤ zs.sensorTotal
  /-- Another order of the devices gives the same summary. -/
  order : ∀ r' : Registry, r'.dev.entries.Perm r.dev.entries →
    r'.zoneDeviceSummary = r.zoneDeviceSummary

variable {r : Registry} {z : UInt32} {zs : ZoneDeviceSummary}

/-- The accumulator under a zone is that of its devices. -/
theorem lookup_counts (hz : z ≠ 0) :
    (r.dev.entries.foldl (fun acc kv => addDevice acc kv.2) ∅).lookup z =
      if r.devicesOf z = [] then none
      else some ((r.devicesOf z).foldl Acc.count ⟨0, 0, 0, 0, 0⟩) := by
  have hdevices : r.devicesOf z =
      (r.dev.entries.filter fun kv => summaryZone kv.2 = some z).map Sigma.snd := by
    have hzone : ∀ st, summaryZone st = some z ↔ st.zoneId = z := by
      intro st
      unfold summaryZone
      grind
    simp only [devicesOf, List.filter_map, hzone, Function.comp_def]
  rw [AssocMap.lookup_foldl_modify (fun acc (kv : Σ _ : Bytes, DeviceState) =>
    addDevice_eq acc kv.2), hdevices]
  simp only [List.map_eq_nil_iff, List.foldl_map]

/-- An entry of the summary is determined by its zone and counts. -/
theorem ext_counts {zs' : ZoneDeviceSummary} (hzone : zs.zoneId = zs'.zoneId)
    (hcounts : zs.counts = zs'.counts) : zs = zs' := by
  obtain ⟨zone, a, b, c, d, e⟩ := zs
  obtain ⟨zone', a', b', c', d', e'⟩ := zs'
  simp only [ZoneDeviceSummary.counts, ZoneCounts.mk.injEq, UInt16.toNat_inj] at hcounts
  obtain ⟨rfl, rfl, rfl, rfl, rfl⟩ := hcounts
  rw [show zone = zone' from hzone]

/-- The entries of the summary. -/
theorem mem_zoneDeviceSummary : zs ∈ r.zoneDeviceSummary ↔
    zs.zoneId ≠ 0 ∧ r.devicesOf zs.zoneId ≠ [] ∧
      zs.counts = (ZoneCounts.of (r.devicesOf zs.zoneId)).wrap := by
  have hentry : zs ∈ r.zoneDeviceSummary ↔
      ∃ a, (r.dev.entries.foldl (fun acc kv => addDevice acc kv.2) ∅).lookup zs.zoneId = some a ∧
        a.counts = zs.counts := by
    rw [zoneDeviceSummary, List.mem_insertionSort, List.mem_map]
    constructor
    · rintro ⟨⟨k, a⟩, hkv, rfl⟩
      exact ⟨a, (AssocMap.mem_entries_iff _ _ _).mp hkv, rfl⟩
    · rintro ⟨a, hlookup, hcounts⟩
      exact ⟨⟨zs.zoneId, a⟩, (AssocMap.mem_entries_iff _ _ _).mpr hlookup, ext_counts rfl hcounts⟩
  by_cases hz : zs.zoneId = 0
  · -- No device is counted in zone zero.
    have hnone : zs.zoneId ∉ r.zoneDeviceSummary.map ZoneDeviceSummary.zoneId := by
      rw [mem_zones_zoneDeviceSummary]
      rintro ⟨uri, st, -, -, hne⟩
      exact hne hz
    simp only [hz, ne_eq, not_true_eq_false, false_and, iff_false]
    exact fun hmem => hnone (List.mem_map.mpr ⟨zs, hmem, rfl⟩)
  · rw [hentry, lookup_counts hz]
    split
    · next hnil => simp [hnil]
    · next hne =>
      simp only [Option.some.injEq, exists_eq_left', Acc.counts_foldl]
      simp only [hz, hne, ne_eq, not_false_eq_true, true_and]
      exact eq_comm

/-- The zones of the summary increase. -/
theorem pairwise_zoneDeviceSummary (r : Registry) :
    r.zoneDeviceSummary.Pairwise fun a b => a.zoneId < b.zoneId := by
  have htotal : Std.Total fun a b : ZoneDeviceSummary => a.zoneId ≤ b.zoneId :=
    ⟨fun a b => UInt32.le_total a.zoneId b.zoneId⟩
  have htrans : IsTrans ZoneDeviceSummary fun a b => a.zoneId ≤ b.zoneId :=
    ⟨fun a b c => UInt32.le_trans⟩
  have hsorted : r.zoneDeviceSummary.Pairwise fun a b => a.zoneId ≤ b.zoneId :=
    List.pairwise_insertionSort _ _
  have hnodup : r.zoneDeviceSummary.Pairwise fun a b => a.zoneId ≠ b.zoneId :=
    List.pairwise_map.mp (nodup_zoneDeviceSummary r)
  exact (hsorted.and hnodup).imp fun h => UInt32.lt_of_le_of_ne h.1 h.2

/-- The summary does not depend on the order of the devices. -/
theorem zoneDeviceSummary_perm {r' : Registry} (h : r'.dev.entries.Perm r.dev.entries) :
    r'.zoneDeviceSummary = r.zoneDeviceSummary := by
  have hdevices : ∀ z, (r'.devicesOf z).Perm (r.devicesOf z) := fun z => (h.map _).filter _
  have hcounts : ∀ z, ZoneCounts.of (r'.devicesOf z) = ZoneCounts.of (r.devicesOf z) := by
    intro z
    simp only [ZoneCounts.of, (hdevices z).countP_eq]
  have hantisymm : Std.Antisymm fun a b : ZoneDeviceSummary => a.zoneId < b.zoneId :=
    ⟨fun a b hab hba => absurd hba (UInt32.lt_asymm hab)⟩
  have hirrefl : Std.Irrefl fun a b : ZoneDeviceSummary => a.zoneId < b.zoneId :=
    ⟨fun a => UInt32.lt_irrefl a.zoneId⟩
  refine (pairwise_zoneDeviceSummary r').eq_of_mem_iff (pairwise_zoneDeviceSummary r)
    fun zs => ?_
  rw [mem_zoneDeviceSummary, mem_zoneDeviceSummary, hcounts, ← List.length_eq_zero_iff.ne,
    ← List.length_eq_zero_iff.ne, (hdevices zs.zoneId).length_eq]

/-- `zone_device_summary` counts every device once. -/
theorem isTrueSummary (r : Registry) : r.IsTrueSummary where
  increasing := List.pairwise_map.mpr (pairwise_zoneDeviceSummary r)
  zones z := by
    rw [mem_zones_zoneDeviceSummary]
    constructor
    · rintro ⟨uri, st, hget, hzone, hne⟩
      exact ⟨hne, uri, st, hget, hzone⟩
    · rintro ⟨hne, uri, st, hget, hzone⟩
      exact ⟨uri, st, hget, hzone, hne⟩
  counts zs hzs := (mem_zoneDeviceSummary.mp hzs).2.2
  exact zs hzs hfew := by
    have hcounts := (mem_zoneDeviceSummary.mp hzs).2.2
    rw [ZoneCounts.wrap_of hfew] at hcounts
    obtain ⟨hon, hfault, hsensor, -, -⟩ := ZoneCounts.of_le (r.devicesOf zs.zoneId)
    rw [← hcounts] at hon hfault hsensor
    exact ⟨hcounts, hon, hfault, hsensor⟩
  order r' := zoneDeviceSummary_perm

end Registry

end SmartLighting
