import SmartLighting.AdminCli
import SmartLighting.SyncPath

/-!
# The zones that the administrator sees

A region reports its zones in two lists: power sums of the zones with a lamp, and
device counts of all zones. The snapshot goes through the first list only, so a
zone with sensors but without a lamp is not shown, although it was reported.
-/

namespace SmartLighting

open CentralServer CentralMessage

/-- The zones printed under the heading of a region. The flag tells whether the heading above
the first line is that of the region. -/
def zonesUnder (rid : UInt32) : Bool → List SnapshotLine → List SnapshotLine
  | _, [] => []
  | under, line :: lines =>
    match line with
    | .region rid' _ _ => zonesUnder rid (rid' = rid) lines
    | .zone .. => if under then line :: zonesUnder rid under lines else zonesUnder rid under lines
    | _ => zonesUnder rid false lines

variable {rid : UInt32} {rest : List SnapshotLine}

/-- Zones are collected under the heading of the region. -/
theorem zonesUnder_zones (under : Bool) (agg : RegionAggregate)
    (zones : List (Σ _ : UInt32, UInt32)) (rest : List SnapshotLine) :
    zonesUnder rid under (zones.map (zoneLine agg) ++ rest) =
      (if under then zones.map (zoneLine agg) else []) ++ zonesUnder rid under rest := by
  induction zones with
  | nil =>
    cases under with
    | false => rfl
    | true => rfl
  | cons zone zones ih =>
    cases under with
    | false => exact ih
    | true => exact congrArg (List.cons (zoneLine agg zone)) ih

/-- A region contributes its zones when it is the one in question. -/
theorem zonesUnder_region (rid : UInt32) (under : Bool) (region : Σ _ : UInt32, RegionAggregate)
    (rest : List SnapshotLine) :
    ∃ under', zonesUnder rid under (regionLines region ++ rest) =
      (if region.1 = rid then region.2.zonePowerMw.entries.map (zoneLine region.2) else []) ++
        zonesUnder rid under' rest := by
  refine ⟨region.1 = rid, ?_⟩
  refine (zonesUnder_zones (decide (region.1 = rid)) region.2 region.2.zonePowerMw.entries
    rest).trans ?_
  simp only [decide_eq_true_eq]

/-- Lines outside of the regions contribute nothing. -/
theorem zonesUnder_outside (under : Bool) (h : ∀ line ∈ rest, line.Outside) :
    zonesUnder rid under rest = [] := by
  induction rest generalizing under with
  | nil => rfl
  | cons line lines ih =>
    have hline := h line List.mem_cons_self
    have htail := ih false fun line' hline' => h line' (List.mem_cons_of_mem line hline')
    cases line with
    | region => cases hline
    | zone => cases hline
    | title => exact htail
    | alarmsTitle => exact htail
    | alarm => exact htail
    | decodeFail => exact htail

/-- All regions together contribute the zones of the one in question. -/
theorem zonesUnder_regions (under : Bool) (h : ∀ line ∈ rest, line.Outside)
    (regions : List (Σ _ : UInt32, RegionAggregate)) :
    zonesUnder rid under (regions.flatMap regionLines ++ rest) =
      (regions.filter fun region => region.1 = rid).flatMap fun region =>
        region.2.zonePowerMw.entries.map (zoneLine region.2) := by
  induction regions generalizing under with
  | nil => exact zonesUnder_outside under h
  | cons region regions ih =>
    rw [List.flatMap_cons, List.append_assoc]
    obtain ⟨under', hregion⟩ := zonesUnder_region rid under region
      (regions.flatMap regionLines ++ rest)
    rw [hregion, ih]
    by_cases hid : region.1 = rid
    · simp [hid]
    · simp [hid]

/-- The lines under a region of a bounded store: its zones, if the region is shown at all. -/
theorem mem_zonesUnder_iff {s : CentralStore} (h : Bounded s) {agg : RegionAggregate}
    (hlookup : s.regions.lookup rid = some agg) (line : SnapshotLine) :
    line ∈ zonesUnder rid false (printSnapshot (snapshotBytes s)) ↔
      rid ∈ (shownRegions s).map Sigma.fst ∧
        line ∈ agg.zonePowerMw.entries.map (zoneLine agg) := by
  obtain ⟨rest, hprint, houtside⟩ := printSnapshot_snapshotBytes h
  have hzones : zonesUnder rid false (printSnapshot (snapshotBytes s)) =
      ((shownRegions s).filter fun region => region.1 = rid).flatMap fun region =>
        region.2.zonePowerMw.entries.map (zoneLine region.2) := by
    rw [hprint]
    exact zonesUnder_regions false houtside (shownRegions s)
  rw [hzones, List.mem_flatMap, List.mem_map]
  -- A region of this name is the stored one.
  have hstored : ∀ region ∈ shownRegions s, region.1 = rid → region.2 = agg := by
    rintro ⟨id, agg'⟩ hmem rfl
    have hfound := (AssocMap.mem_entries_iff s.regions id agg').mp (List.mem_of_mem_take hmem)
    rw [hlookup] at hfound
    exact (Option.some.inj hfound).symm
  constructor
  · rintro ⟨region, hmem, hline⟩
    obtain ⟨hshown, hid⟩ := List.mem_filter.mp hmem
    have hid := of_decide_eq_true hid
    rw [hstored region hshown hid] at hline
    exact ⟨⟨region, hshown, hid⟩, hline⟩
  · rintro ⟨⟨region, hshown, hid⟩, hline⟩
    refine ⟨region, List.mem_filter.mpr ⟨hshown, decide_eq_true hid⟩, ?_⟩
    rw [hstored region hshown hid]
    exact hline

/-- The next snapshot lists the zone under the region, with the counts that
`zone_device_summary` computed for it. -/
def ListsZone (s : CentralStore) (regionId : UInt32) (r : Registry) (z : UInt32) : Prop :=
  ∃ payload zs pwr, s.encodeAdminSnapshot = .ok payload ∧
    zs ∈ r.zoneDeviceSummary ∧ zs.zoneId = z ∧
    .zone z pwr zs.lampTotal zs.lampOn zs.lampFault zs.sensorTotal zs.sensorFault ∈
      zonesUnder regionId false (printSnapshot payload)

variable {regionId version : UInt32} {r : Registry} {up : RegionSyncUp} {z : UInt32}

/-- The aggregate of the region stays as long as no other synchronization of it is accepted. -/
theorem lookup_run_sync (before after : List (ℕ × Bytes)) (session : ℕ) {body : Bytes}
    (hbody : CentralMessage.ofBody body = some (.sync up))
    (hafter : syncsOf (accepted after) up.regionId = []) :
    (start.run (before ++ (session, body) :: after)).store.regions.lookup up.regionId =
      some (CentralStore.aggregateOf up) := by
  have hsyncs : syncsOf (accepted (before ++ (session, body) :: after)) up.regionId =
      syncsOf (accepted before) up.regionId ++ [up] := by
    rw [accepted_mid hbody, syncsOf_append, syncsOf_cons, if_pos rfl, hafter]
  rw [(folded_accepted _).regions, hsyncs, List.getLast?_concat, Option.map_some]

/-- The registry has a lamp in the zone. -/
def HasLamp (r : Registry) (z : UInt32) : Prop :=
  ∃ uri st, r.get uri = some st ∧ st.type = .luminaire ∧ st.zoneId = z

/-- The registry has a device in the zone. -/
def HasDevice (r : Registry) (z : UInt32) : Prop :=
  ∃ uri st, r.get uri = some st ∧ st.zoneId = z

/-- A zone is in the power list when it has a lamp. -/
theorem exists_power_iff (hz : z ≠ 0) : (∃ p, (z, p) ∈ r.zonePowerSum) ↔ HasLamp r z := by
  have hzones : z ∈ r.zonePowerSum.map Prod.fst ↔ ∃ p, (z, p) ∈ r.zonePowerSum := by
    simp
  rw [← hzones, Registry.mem_zones_zonePowerSum]
  simp only [hz, ne_eq, not_false_eq_true, and_true, HasLamp]

/-- A zone with a device has a summary. -/
theorem exists_summary (hz : z ≠ 0) (hdevice : HasDevice r z) :
    ∃ zs ∈ r.zoneDeviceSummary, zs.zoneId = z := by
  obtain ⟨uri, st, hget, hzone⟩ := hdevice
  exact List.mem_map.mp (Registry.mem_zones_zoneDeviceSummary.mpr ⟨uri, st, hget, hzone, hz⟩)

/-- After a synchronization with at most 65535 zones was handled, a zone with a device is
listed exactly when it has a lamp and its region is among those that the snapshot's count
covers. -/
theorem listsZone_iff (before after : List (ℕ × Bytes)) (session : ℕ)
    (hsync : IsSyncUp regionId version r up) (hzones : r.zoneDeviceSummary.length ≤ 65535)
    (hafter : syncsOf (accepted after) regionId = []) {s : CentralStore}
    (hsame : (start.run (before ++ (session, syncBody up) :: after)).store.Same s) (hz : z ≠ 0)
    (hdevice : HasDevice r z) :
    ListsZone s regionId r z ↔
      HasLamp r z ∧ regionId ∈ (shownRegions s).map Sigma.fst := by
  obtain rfl := hsync.regionId
  have hbounded := hsame.bounded (bounded_run _)
  have hsummary : up.zoneDeviceSummary.length ≤ 65535 := by
    rw [hsync.summary]
    exact hzones
  have hbody := ofBody_syncBody (le_trans hsync.length_power_le hzones) hsummary
  -- What the rearranged store keeps for the region.
  have hlookup := lookup_run_sync before after session hbody hafter
  obtain ⟨agg, hagg, -, hpower, hsum⟩ := hsame.lookup_rearranged hlookup
  have hentry : ∀ p, (⟨z, p⟩ : Σ _ : UInt32, UInt32) ∈ agg.zonePowerMw.entries ↔
      (z, p) ∈ r.zonePowerSum := by
    intro p
    rw [AssocMap.mem_entries_iff, hpower]
    exact hsync.lookup_powerMap z p
  have hencode := encodeAdminSnapshot_eq hbounded.strings
  constructor
  · rintro ⟨payload, zs, pwr, hpayload, -, -, hline⟩
    rw [hencode] at hpayload
    obtain rfl := Except.ok.inj hpayload
    obtain ⟨hshown, hzone⟩ := (mem_zonesUnder_iff hbounded hagg _).mp hline
    obtain ⟨⟨z', p⟩, hmem, hsame⟩ := List.mem_map.mp hzone
    obtain rfl : z' = z := by
      simp only [zoneLine, SnapshotLine.zone.injEq] at hsame
      exact hsame.1
    exact ⟨(exists_power_iff hz).mp ⟨p, (hentry p).mp hmem⟩, hshown⟩
  · rintro ⟨hlamp, hshown⟩
    obtain ⟨p, hp⟩ := (exists_power_iff hz).mpr hlamp
    obtain ⟨zs, hzs, hzone⟩ := exists_summary hz hdevice
    refine ⟨snapshotBytes s, zs, p, hencode, hzs, hzone, ?_⟩
    refine (mem_zonesUnder_iff hbounded hagg _).mpr ⟨hshown, ?_⟩
    refine List.mem_map.mpr ⟨⟨z, p⟩, (hentry p).mpr hp, ?_⟩
    have hfound : agg.zoneSummary.lookup z = some zs := by
      rw [hsum]
      exact (hsync.lookup_summaryMap z zs).mpr ⟨hzs, hzone⟩
    simp only [zoneLine, RegionAggregate.shownSummary, hfound, Option.getD_some]

/-- A region with a single device, a sensor in zone 1. -/
def sensorZone : Registry :=
  Registry.empty.upsert (ascii "sensor") ⟨.sensor, 1, 0, 0, 0, false, 1000⟩

/-- A region with a lamp in zone 1. -/
def lampZone : Registry :=
  Registry.empty.upsert (ascii "lamp") ⟨.luminaire, 1, 1, 60, 6000, false, 1000⟩

/-- The zone of the lamp is listed. -/
theorem listsZone_iff_lampZone :
    ListsZone (start.run [(0, syncBody (syncUp 7 1 lampZone))]).store 7 lampZone 1 :=
  (listsZone_iff [] [] 0 (isSyncUp_syncUp 7 1 lampZone) (by decide) rfl (.refl _) (by decide)
    ⟨ascii "lamp", _, rfl, rfl⟩).mpr ⟨⟨ascii "lamp", _, rfl, rfl, rfl⟩, by decide⟩

/-- The zone of the sensor was reported with its sensor, and is not listed. -/
theorem not_listsZone_sensorZone :
    sensorZone.zoneDeviceSummary = [⟨1, 0, 0, 0, 1, 0⟩] ∧
      ¬ListsZone (start.run [(0, syncBody (syncUp 7 1 sensorZone))]).store 7 sensorZone 1 := by
  refine ⟨by decide, ?_⟩
  rintro ⟨payload, zs, pwr, hpayload, -, -, hline⟩
  have hnone : (Option.map (fun payload => zonesUnder 7 false (printSnapshot payload))
      (start.run [(0, syncBody (syncUp 7 1 sensorZone))]).store.encodeAdminSnapshot.toOption) =
        some [] := by decide
  rw [hpayload] at hnone
  have hempty : zonesUnder 7 false (printSnapshot payload) = [] := Option.some.inj hnone
  rw [hempty] at hline
  cases hline

end SmartLighting
