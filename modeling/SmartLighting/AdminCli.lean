import SmartLighting.CentralFold
import SmartLighting.Library.Printer

/-!
# The administrator's view

`admin_cli.cpp` requests a snapshot and prints it with two nested loops of its
own. The writer of the snapshot is `encode_admin_snapshot` of the central server.
Both are hand-written; here they are shown to agree on every store that a
central server can reach, in whatever order its hash maps are iterated.
-/

namespace SmartLighting

open Reader Printer

/-- What `print_snapshot` prints. -/
inductive SnapshotLine
  /-- `=== CENTRAL SNAPSHOT ===`. -/
  | title
  /-- The heading of a region. -/
  | region (rid ver : UInt32) (zones : UInt16)
  /-- A zone of the region above. -/
  | zone (zid pwr : UInt32) (lampTotal lampOn lampFault sensTotal sensFault : UInt16)
  /-- The heading of the alarms. -/
  | alarmsTitle (acnt : UInt16)
  /-- An alarm. -/
  | alarm (rid ts : UInt32) (dt : UInt8) (zid : UInt32) (code : UInt8) (uri text : Bytes)
  /-- `decode snapshot fail`, with the text of the exception. -/
  | decodeFail (what : String)
  deriving DecidableEq

/-- The zone loop of `print_snapshot`. -/
def printZone : Printer SnapshotLine Unit := do
  let zid ← read getU32
  let pwr ← read getU32
  let lampTotal ← read getU16
  let lampOn ← read getU16
  let lampFault ← read getU16
  let sensTotal ← read getU16
  let sensFault ← read getU16
  print (.zone zid pwr lampTotal lampOn lampFault sensTotal sensFault)

/-- The region loop of `print_snapshot`. -/
def printRegion : Printer SnapshotLine Unit := do
  let rid ← read getU32
  let ver ← read getU32
  let zones ← read getU16
  print (.region rid ver zones)
  Printer.times zones.toNat printZone

/-- The alarm loop of `print_snapshot`. -/
def printAlarm : Printer SnapshotLine Unit := do
  let rid ← read getU32
  let ts ← read getU32
  let dt ← read getU8
  let zid ← read getU32
  let code ← read getU8
  let uri ← read getStr
  let text ← read getStr
  print (.alarm rid ts dt zid code uri text)

/-- The part of `print_snapshot` behind the regions. -/
def printAlarms : Printer SnapshotLine Unit := do
  if (← remaining) = [] then return ()
  else do
    let acnt ← read getU16
    print (.alarmsTitle acnt)
    Printer.times acnt.toNat printAlarm

/-- The first part of `print_snapshot`: the title and the regions. -/
def printRegions : Printer SnapshotLine Unit := do
  let regions ← read getU16
  print .title
  Printer.times regions.toNat printRegion

/-- The `try` block of `print_snapshot`. -/
def snapshotLoop : Printer SnapshotLine Unit := do
  printRegions
  printAlarms

/-- `print_snapshot`: all lines that it prints. -/
def printSnapshot (payload : Bytes) : List SnapshotLine :=
  match snapshotLoop.exec payload [] with
  | (.ok _, _, lines) => lines
  | (.error e, _, lines) => lines ++ [.decodeFail e]

/-! ## The wire form of a snapshot -/

/-- The wire form of a zone of the snapshot. -/
def snapshotZoneBytes (agg : RegionAggregate) (zone : Σ _ : UInt32, UInt32) : Bytes :=
  u32Bytes zone.1 ++ (u32Bytes zone.2 ++ countsBytes (agg.shownSummary zone.1))

/-- The wire form of a region of the snapshot. -/
def snapshotRegionBytes (region : Σ _ : UInt32, RegionAggregate) : Bytes :=
  u32Bytes region.1 ++ (u32Bytes region.2.version ++
    (u16Bytes region.2.zonePowerMw.entries.length.toUInt16 ++
      region.2.zonePowerMw.entries.flatMap (snapshotZoneBytes region.2)))

/-- The wire form of an alarm of the snapshot. -/
def snapshotAlarmBytes (a : AlarmRecord) : Bytes :=
  u32Bytes a.regionId ++ (u32Bytes a.tsUnix ++ ([a.deviceType] ++ (u32Bytes a.zoneId ++
    ([a.code] ++ (strBytes a.uri ++ strBytes a.text)))))

/-- The wire form of the alarms of the snapshot. -/
def snapshotAlarmsBytes (alarms : List AlarmRecord) : Bytes :=
  u16Bytes alarms.length.toUInt16 ++ alarms.flatMap snapshotAlarmBytes

/-- The wire form of the snapshot. -/
def snapshotBytes (s : CentralStore) : Bytes :=
  u16Bytes s.regions.entries.length.toUInt16 ++
    (s.regions.entries.flatMap snapshotRegionBytes ++ snapshotAlarmsBytes s.alarms)

theorem putZone_eq (agg : RegionAggregate) (out : Bytes) (zone : Σ _ : UInt32, UInt32) :
    agg.putZone out zone = out ++ snapshotZoneBytes agg zone := by
  simp only [RegionAggregate.putZone, putU32_eq, putU16_eq, List.append_assoc, snapshotZoneBytes,
    countsBytes]

theorem putRegion_eq (out : Bytes) (region : Σ _ : UInt32, RegionAggregate) :
    RegionAggregate.putRegion out region = out ++ snapshotRegionBytes region := by
  unfold RegionAggregate.putRegion
  dsimp only
  rw [foldl_put (putZone_eq region.2)]
  simp only [putU32_eq, putU16_eq, List.append_assoc, snapshotRegionBytes]

/-- An alarm is appended when its strings fit. -/
theorem putAlarm_eq {a : AlarmRecord} (h : a.uri.length ≤ 65535 ∧ a.text.length ≤ 65535)
    (out : Bytes) : a.put out = .ok (out ++ snapshotAlarmBytes a) := by
  unfold AlarmRecord.put
  rw [bind_putStr_eq_ok]
  refine ⟨h.1, ?_⟩
  rw [putStr_eq_ok]
  refine ⟨h.2, ?_⟩
  simp only [putU32_eq, putU8_eq, List.append_assoc, snapshotAlarmBytes]

/-- The snapshot of a store whose strings fit is its wire form. -/
theorem encodeAdminSnapshot_eq {s : CentralStore}
    (h : ∀ a ∈ s.alarms, a.uri.length ≤ 65535 ∧ a.text.length ≤ 65535) :
    s.encodeAdminSnapshot = .ok (snapshotBytes s) := by
  unfold CentralStore.encodeAdminSnapshot
  dsimp only
  rw [foldl_put putRegion_eq, foldlM_put fun a ha => putAlarm_eq (h a ha)]
  simp only [putU16_eq, List.nil_append, List.append_assoc, snapshotBytes, snapshotAlarmsBytes]

/-! ## The lines of a snapshot -/

/-- The line of a zone. -/
def zoneLine (agg : RegionAggregate) (zone : Σ _ : UInt32, UInt32) : SnapshotLine :=
  let zs := agg.shownSummary zone.1
  .zone zone.1 zone.2 zs.lampTotal zs.lampOn zs.lampFault zs.sensorTotal zs.sensorFault

/-- The lines of a region: its heading and its zones. -/
def regionLines (region : Σ _ : UInt32, RegionAggregate) : List SnapshotLine :=
  .region region.1 region.2.version region.2.zonePowerMw.entries.length.toUInt16 ::
    region.2.zonePowerMw.entries.map (zoneLine region.2)

/-- The line of an alarm. -/
def alarmLine (a : AlarmRecord) : SnapshotLine :=
  .alarm a.regionId a.tsUnix a.deviceType a.zoneId a.code a.uri a.text

/-- The lines of a store: each region once, with each zone of its power map once,
then the alarms in order. -/
def storeLines (s : CentralStore) : List SnapshotLine :=
  .title :: (s.regions.entries.flatMap regionLines ++
    .alarmsTitle s.alarms.length.toUInt16 :: s.alarms.map alarmLine)

theorem printZone_prints (agg : RegionAggregate) (zone : Σ _ : UInt32, UInt32) :
    Prints printZone (snapshotZoneBytes agg zone) [zoneLine agg zone] () :=
  .read_bind (getU32_exact _) (.read_bind (getU32_exact _) (.read_bind (getU16_exact _)
    (.read_bind (getU16_exact _) (.read_bind (getU16_exact _) (.read_bind (getU16_exact _)
      (.read_print (getU16_exact _) _))))))

/-- A region with at most 65535 zones is printed completely. -/
theorem printRegion_prints {region : Σ _ : UInt32, RegionAggregate}
    (h : region.2.zonePowerMw.entries.length ≤ 65535) :
    Prints printRegion (snapshotRegionBytes region) (regionLines region) () := by
  have hzones : Prints (Printer.times region.2.zonePowerMw.entries.length.toUInt16.toNat printZone)
      (region.2.zonePowerMw.entries.flatMap (snapshotZoneBytes region.2))
      (region.2.zonePowerMw.entries.map (zoneLine region.2)) () := by
    rw [toNat_toUInt16 h]
    exact .times_map fun zone _ => printZone_prints region.2 zone
  exact .read_bind (getU32_exact _) (.read_bind (getU32_exact _) (.read_bind (getU16_exact _)
    (.print_bind hzones)))

theorem printAlarm_prints {a : AlarmRecord} (h : a.uri.length ≤ 65535 ∧ a.text.length ≤ 65535) :
    Prints printAlarm (snapshotAlarmBytes a) [alarmLine a] () :=
  .read_bind (getU32_exact _) (.read_bind (getU32_exact _) (.read_bind (getU8_exact _)
    (.read_bind (getU32_exact _) (.read_bind (getU8_exact _) (.read_bind (getStr_exact h.1)
      (.read_print (getStr_exact h.2) _))))))

/-- At most 65535 alarms are printed completely. -/
theorem printAlarms_prints {alarms : List AlarmRecord} (hcount : alarms.length ≤ 65535)
    (h : ∀ a ∈ alarms, a.uri.length ≤ 65535 ∧ a.text.length ≤ 65535) :
    Prints printAlarms (snapshotAlarmsBytes alarms)
      (.alarmsTitle alarms.length.toUInt16 :: alarms.map alarmLine) () := by
  have halarms : Prints (Printer.times alarms.length.toUInt16.toNat printAlarm)
      (alarms.flatMap snapshotAlarmBytes) (alarms.map alarmLine) () := by
    rw [toNat_toUInt16 hcount]
    exact .times_map fun a ha => printAlarm_prints (h a ha)
  exact .unless_end (by simp [snapshotAlarmsBytes, u16Bytes, putU16])
    (.read_bind (getU16_exact _) (.print_bind halarms))

/-- The regions that the 16-bit count of the snapshot covers. -/
def shownRegions (s : CentralStore) : List (Σ _ : UInt32, RegionAggregate) :=
  s.regions.entries.take (s.regions.entries.length % 65536)

/-- With fewer than 65536 regions all of them are shown. -/
theorem shownRegions_eq {s : CentralStore} (h : s.regions.entries.length < 65536) :
    shownRegions s = s.regions.entries := by
  rw [shownRegions, Nat.mod_eq_of_lt h, List.take_length]

/-- The regions of a bounded store are printed as far as their count reaches. -/
theorem printRegions_prints {s : CentralStore} (h : CentralServer.Bounded s) :
    Prints printRegions
      (u16Bytes s.regions.entries.length.toUInt16 ++ (shownRegions s).flatMap snapshotRegionBytes)
      (.title :: (shownRegions s).flatMap regionLines) () := by
  have hlength : s.regions.entries.length.toUInt16.toNat = (shownRegions s).length := by
    have hle : s.regions.entries.length % 65536 ≤ s.regions.entries.length := Nat.mod_le ..
    rw [shownRegions, List.length_take, Nat.toUInt16, UInt16.toNat_ofNat']
    omega
  have hregions : Prints (Printer.times s.regions.entries.length.toUInt16.toNat printRegion)
      ((shownRegions s).flatMap snapshotRegionBytes) ((shownRegions s).flatMap regionLines)
      () := by
    rw [hlength]
    refine .times fun region hregion => printRegion_prints ?_
    have hlookup := (AssocMap.mem_entries_iff s.regions region.1 region.2).mp
      (List.mem_of_mem_take hregion)
    have hzones := h.zones region.1 region.2 hlookup
    rwa [AssocMap.length_keys] at hzones
  exact .read_bind (getU16_exact _) (.print_bind hregions)

/-- A bounded store with fewer than 65536 regions is printed completely. -/
theorem snapshotLoop_prints {s : CentralStore} (hbounded : CentralServer.Bounded s)
    (hcount : s.regions.entries.length < 65536) :
    Prints snapshotLoop (snapshotBytes s) (storeLines s) () := by
  have hregions := printRegions_prints hbounded
  rw [shownRegions_eq hcount] at hregions
  have halarms : s.alarms.length ≤ 65535 := le_trans hbounded.alarms (by decide)
  rw [snapshotBytes, ← List.append_assoc]
  exact hregions.bind (printAlarms_prints halarms hbounded.strings)

/-- A line of neither a region nor a zone. -/
def SnapshotLine.Outside : SnapshotLine → Prop
  | region .. => False
  | zone .. => False
  | _ => True

/-- Whatever follows the regions, the second part of the loop prints no region and no zone. -/
theorem printAlarms_adds : Adds printAlarms SnapshotLine.Outside := by
  have halarm : Adds printAlarm SnapshotLine.Outside :=
    .bind (.read _) fun _ => .bind (.read _) fun _ => .bind (.read _) fun _ =>
      .bind (.read _) fun _ => .bind (.read _) fun _ => .bind (.read _) fun _ =>
        .bind (.read _) fun _ => .print trivial
  refine .bind .remaining fun rest => ?_
  split
  · exact .pure ()
  · exact .bind (.read _) fun acnt => .bind (.print trivial) fun _ => halarm.times acnt.toNat

/-- The lines of any bounded store: the shown regions, and then no other region or zone. -/
theorem printSnapshot_snapshotBytes {s : CentralStore} (h : CentralServer.Bounded s) :
    ∃ rest, printSnapshot (snapshotBytes s) =
        .title :: ((shownRegions s).flatMap regionLines ++ rest) ∧
      ∀ line ∈ rest, line.Outside := by
  have hregions := printRegions_prints h
  have hbytes : snapshotBytes s =
      (u16Bytes s.regions.entries.length.toUInt16 ++
        (shownRegions s).flatMap snapshotRegionBytes) ++
      ((s.regions.entries.drop (s.regions.entries.length % 65536)).flatMap snapshotRegionBytes ++
        snapshotAlarmsBytes s.alarms) := by
    rw [snapshotBytes, List.append_assoc, ← List.append_assoc (List.flatMap _ (shownRegions s)),
      ← List.flatMap_append, shownRegions, List.take_append_drop]
  generalize (s.regions.entries.drop (s.regions.entries.length % 65536)).flatMap
    snapshotRegionBytes ++ snapshotAlarmsBytes s.alarms = tail at hbytes
  obtain ⟨new, hnew, houtside⟩ :=
    printAlarms_adds tail (.title :: (shownRegions s).flatMap regionLines)
  have hloop : snapshotLoop.exec (snapshotBytes s) [] =
      printAlarms.exec tail (.title :: (shownRegions s).flatMap regionLines) := by
    rw [hbytes, snapshotLoop, exec_bind, hregions]
    rfl
  rw [printSnapshot, hloop]
  generalize printAlarms.exec tail _ = result at hnew ⊢
  obtain ⟨outcome, left, lines⟩ := result
  obtain rfl := hnew
  cases outcome with
  | ok _ => exact ⟨new, rfl, houtside⟩
  | error e =>
    refine ⟨new ++ [.decodeFail e], ?_, ?_⟩
    · simp only [List.cons_append, List.append_assoc]
    · intro line hline
      rcases List.mem_append.mp hline with hline | hline
      · exact houtside line hline
      · rw [List.mem_singleton.mp hline]
        trivial

/-! ## Iteration order -/

/-- The same aggregate, with maps that may be iterated in another order. -/
structure RegionAggregate.Same (a b : RegionAggregate) : Prop where
  /-- The version. -/
  version : b.version = a.version
  /-- The power map. -/
  power : ∀ z, b.zonePowerMw.lookup z = a.zonePowerMw.lookup z
  /-- The summary map. -/
  summary : ∀ z, b.zoneSummary.lookup z = a.zoneSummary.lookup z

/-- The same store, with maps that may be iterated in another order. -/
structure CentralStore.Same (s t : CentralStore) : Prop where
  /-- The same regions. -/
  regions : ∀ id, Option.Rel RegionAggregate.Same (s.regions.lookup id) (t.regions.lookup id)
  /-- The same alarms. -/
  alarms : t.alarms = s.alarms

namespace CentralStore.Same

variable {s t : CentralStore}

theorem refl (s : CentralStore) : s.Same s where
  regions id := by
    cases s.regions.lookup id with
    | none => exact .none
    | some agg => exact .some ⟨rfl, fun _ => rfl, fun _ => rfl⟩
  alarms := rfl

/-- A region of the rearranged store is a rearranged region. -/
theorem lookup (h : s.Same t) {id : UInt32} {b : RegionAggregate}
    (hlookup : t.regions.lookup id = some b) :
    ∃ a, s.regions.lookup id = some a ∧ a.Same b := by
  have hrel := h.regions id
  rw [hlookup] at hrel
  cases hfound : s.regions.lookup id with
  | none =>
    rw [hfound] at hrel
    cases hrel
  | some a =>
    rw [hfound] at hrel
    cases hrel with
    | some hsame => exact ⟨a, rfl, hsame⟩

/-- A region of the store is found in the rearranged store. -/
theorem lookup_rearranged (h : s.Same t) {id : UInt32} {a : RegionAggregate}
    (hlookup : s.regions.lookup id = some a) :
    ∃ b, t.regions.lookup id = some b ∧ a.Same b := by
  have hrel := h.regions id
  rw [hlookup] at hrel
  cases hfound : t.regions.lookup id with
  | none =>
    rw [hfound] at hrel
    cases hrel
  | some b =>
    rw [hfound] at hrel
    cases hrel with
    | some hsame => exact ⟨b, rfl, hsame⟩

/-- A region of a store with fewer than 65536 regions is shown, in whatever order they come. -/
theorem mem_shownRegions (h : s.Same t) (hroom : s.regions.entries.length < 65536) {id : UInt32}
    {a : RegionAggregate} (hlookup : s.regions.lookup id = some a) :
    id ∈ (shownRegions t).map Sigma.fst := by
  obtain ⟨b, hb, -⟩ := h.lookup_rearranged hlookup
  have hlength : t.regions.entries.length = s.regions.entries.length := by
    refine AssocMap.length_entries_of_isSome fun id => ?_
    have hrel := h.regions id
    generalize s.regions.lookup id = a at hrel ⊢
    generalize t.regions.lookup id = b at hrel ⊢
    cases hrel <;> rfl
  rw [shownRegions_eq (hlength ▸ hroom)]
  exact List.mem_map.mpr ⟨_, (AssocMap.mem_entries_iff t.regions id b).mpr hb, rfl⟩

/-- The bounds do not depend on the order. -/
theorem bounded (h : s.Same t) (hbounded : CentralServer.Bounded s) :
    CentralServer.Bounded t := by
  constructor
  · intro id b hlookup
    obtain ⟨a, ha, hsame⟩ := h.lookup hlookup
    have hlength : b.zonePowerMw.entries.length = a.zonePowerMw.entries.length :=
      AssocMap.length_entries_of_isSome fun z => by rw [hsame.power]
    have hzones := hbounded.zones id a ha
    rwa [AssocMap.length_keys, ← hlength, ← AssocMap.length_keys] at hzones
  · rw [h.alarms]
    exact hbounded.alarms
  · rw [h.alarms]
    exact hbounded.strings

end CentralStore.Same

/-! ## The snapshot is read back -/

end SmartLighting
