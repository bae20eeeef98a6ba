import SmartLighting.Fleet
import SmartLighting.SyncPath
import SmartLighting.ZoneSums
import Mathlib.Algebra.BigOperators.Group.Multiset.Basic
import Mathlib.Algebra.Order.BigOperators.Group.List
import Mathlib.Data.Fintype.Card
import Mathlib.Data.Fintype.Sum

/-!
# The totals of a deployment

The registry of a deployment lists each device at most once, so the aggregates count its devices.
A lamp consumes at most 274 W. The power of 15675 lamps in a zone therefore fits into 32 bits, and
the frame of a synchronization has room for the zones of 47661 devices.
-/

namespace SmartLighting

/-- The five counts of a collection of devices. -/
def ZoneCounts.count (devices : Multiset DeviceState) : ZoneCounts where
  lampTotal := devices.countP fun st => st.type = .luminaire
  lampOn := devices.countP fun st => st.type = .luminaire ∧ st.on ≠ 0
  lampFault := devices.countP fun st => st.type = .luminaire ∧ st.fault
  sensorTotal := devices.countP fun st => st.type ≠ .luminaire
  sensorFault := devices.countP fun st => st.type ≠ .luminaire ∧ st.fault

/-- They do not depend on the order. -/
theorem ZoneCounts.of_eq_count (l : List DeviceState) : of l = count l := by
  simp only [of, count, Multiset.coe_countP]

namespace Deployment

variable {ι κ : Type} {d : Deployment ι κ}

/-- The name under which a device is registered. -/
def name (d : Deployment ι κ) : ι ⊕ κ → Bytes :=
  Sum.elim (fun i => (d.lamp i).uri) fun j => (d.sensor j).uri.take 47

/-- The zone of a device. -/
def zone (d : Deployment ι κ) : ι ⊕ κ → UInt32 :=
  Sum.elim (fun i => (d.lamp i).zone) fun j => (d.sensor j).zone

/-- A registry that lists devices of the deployment only. -/
def IsRegistry (d : Deployment ι κ) (reg : Registry) : Prop :=
  ∀ uri st, reg.get uri = some st → d.Describes uri st

variable {reg : Registry} {uri : Bytes} {st : DeviceState} {z : UInt32}

/-- An entry has the name and the zone of a device. -/
theorem Describes.device (h : d.Describes uri st) : ∃ x, d.name x = uri ∧ d.zone x = st.zoneId := by
  rcases h with ⟨i, huri, hst⟩ | ⟨j, huri, hst⟩
  · exact ⟨.inl i, huri.symm, hst.zone.symm⟩
  · exact ⟨.inr j, huri.symm, hst.zone.symm⟩

/-- Under the name of a lamp there is a state of this lamp. -/
theorem IsRegistry.isLampState (h : d.IsRegistry reg) (hnames : Function.Injective d.name) {i : ι}
    {st : DeviceState} (hget : reg.get (d.lamp i).uri = some st) : IsLampState (d.lamp i) st := by
  rcases h _ st hget with ⟨i', huri, hst⟩ | ⟨j, huri, -⟩
  · have hsame : (Sum.inl i : ι ⊕ κ) = .inl i' := hnames huri
    cases hsame
    exact hst
  · exact absurd huri (d.apart i j)

/-- A zone is in the power list when it has a registered lamp. -/
theorem IsRegistry.mem_zones_iff (h : d.IsRegistry reg) (hnames : Function.Injective d.name)
    {z : UInt32} : z ∈ reg.zonePowerSum.map Prod.fst ↔
      z ≠ 0 ∧ ∃ i, (d.lamp i).zone = z ∧ (reg.get (d.lamp i).uri).isSome := by
  rw [Registry.mem_zones_zonePowerSum]
  constructor
  · rintro ⟨uri, st, hget, htype, hzone, hne⟩
    obtain ⟨i, rfl, hst⟩ := (h uri st hget).lamp htype
    exact ⟨hne, i, hst.zone.symm.trans hzone, Option.isSome_iff_exists.mpr ⟨st, hget⟩⟩
  · rintro ⟨hne, i, hzone, hsome⟩
    obtain ⟨st, hget⟩ := Option.isSome_iff_exists.mp hsome
    have hst := h.isLampState hnames hget
    exact ⟨_, st, hget, hst.type, hst.zone.trans hzone, hne⟩

/-- A lamp consumes at most 274 W. -/
theorem powerMw_le {on intensity : UInt8} {powerMw : UInt32} (h : PowerLaw on intensity powerMw) :
    powerMw.toNat ≤ 274000 := by
  rcases h with ⟨-, rfl⟩ | ⟨-, rfl⟩
  · decide
  · have hint : intensity.toUInt32.toNat = intensity.toNat := UInt8.toNat_toUInt32 intensity
    have hlt := intensity.toNat_lt
    have hmul : (800 * intensity.toUInt32).toNat = 800 * intensity.toNat := by
      rw [UInt32.toNat_mul, hint]
      exact Nat.mod_eq_of_lt (by simp only [UInt32.reduceToNat]; omega)
    rw [UInt32.toNat_add, hmul, Nat.mod_eq_of_lt (by simp only [UInt32.reduceToNat]; omega)]
    simp only [UInt32.reduceToNat]
    omega

variable [Fintype ι] [Fintype κ]

/-- A deployment that the wire formats have room for. -/
structure Sized (d : Deployment ι κ) : Prop where
  /-- Each device has a name of its own. -/
  names : Function.Injective d.name
  /-- The power of the lamps of a zone fits into 32 bits. -/
  lamps : ∀ z, (Finset.univ.filter fun i => (d.lamp i).zone = z).card ≤ 15675
  /-- All zones fit into one frame. -/
  total : Fintype.card ι + Fintype.card κ ≤ 47661

/-- The states that a registry has of the devices of a zone. -/
def devices (d : Deployment ι κ) (reg : Registry) (z : UInt32) : Multiset DeviceState :=
  (Finset.univ.filter fun x => d.zone x = z).val.filterMap fun x => reg.get (d.name x)

/-- The names of all devices. -/
private theorem mem_names {x : ι ⊕ κ} : d.name x ∈ Finset.univ.toList.map d.name :=
  List.mem_map_of_mem (Finset.mem_toList.mpr (Finset.mem_univ x))

/-- The devices of a zone in the registry are those of the deployment. -/
theorem IsRegistry.coe_devicesOf (h : d.IsRegistry reg) (hnames : Function.Injective d.name)
    (z : UInt32) : (reg.devicesOf z : Multiset DeviceState) = d.devices reg z := by
  have hperm : (reg.dev.entries.map Sigma.snd).Perm
      ((Finset.univ.toList.map d.name).filterMap reg.get) := by
    refine AssocMap.values_perm reg.dev ((Finset.nodup_toList _).map hnames) fun uri huri => ?_
    obtain ⟨st, hst⟩ := Option.isSome_iff_exists.mp (AList.lookup_isSome.mpr huri)
    obtain ⟨x, rfl, -⟩ := (h uri st hst).device
    exact mem_names
  have hvalues : ((reg.dev.entries.map Sigma.snd : List DeviceState) : Multiset DeviceState) =
      Finset.univ.val.filterMap fun x => reg.get (d.name x) := by
    rw [Multiset.coe_eq_coe.mpr hperm, ← Multiset.filterMap_coe, ← Multiset.map_coe,
      Finset.coe_toList, Multiset.filterMap_map]
    rfl
  rw [Registry.devicesOf, ← Multiset.filter_coe, hvalues, devices, Multiset.filter_filterMap,
    Finset.filter_val, Multiset.filterMap_filter]
  congr 1
  funext x
  cases hget : reg.get (d.name x) with
  | none => simp
  | some st =>
    -- The entry under the name of a device has the zone of this device.
    obtain ⟨y, hname, hzone⟩ := (h _ st hget).device
    obtain rfl := hnames hname
    rw [Option.filter_some, hzone]
    simp

/-- Only the lamps of a zone consume power. -/
theorem IsRegistry.lampPower_eq (h : d.IsRegistry reg) (hnames : Function.Injective d.name)
    (z : UInt32) :
    reg.lampPower z = ((d.devices reg z).map fun st => st.powerMw.toNat).sum := by
  have hlamps : reg.lampsOf z = (reg.devicesOf z).filter fun st => st.type = .luminaire := by
    simp only [Registry.lampsOf, Registry.devicesOf, List.filter_filter, Bool.decide_and]
  have hsensors : ∀ st ∈ reg.devicesOf z, st.type ≠ .luminaire → st.powerMw.toNat = 0 := by
    intro st hst htype
    obtain ⟨⟨uri, st'⟩, hmem, rfl⟩ := List.mem_map.mp (List.mem_of_mem_filter hst)
    rcases h uri st' ((AssocMap.mem_entries_iff _ _ _).mp hmem) with ⟨i, -, hst'⟩ | ⟨j, -, hst'⟩
    · exact absurd hst'.type htype
    · exact congrArg UInt32.toNat hst'.power.2.2
  rw [Registry.lampPower, hlamps, ← h.coe_devicesOf hnames, Multiset.map_coe, Multiset.sum_coe]
  generalize reg.devicesOf z = l at hsensors
  induction l with
  | nil => rfl
  | cons st l ih =>
    obtain ⟨hst, hrest⟩ := List.forall_mem_cons.mp hsensors
    by_cases htype : st.type = .luminaire
    · rw [List.filter_cons_of_pos (by simp [htype]), List.map_cons, List.sum_cons, ih hrest,
        List.map_cons, List.sum_cons]
    · rw [List.filter_cons_of_neg (by simp [htype]), ih hrest, List.map_cons, List.sum_cons,
        hst htype, Nat.zero_add]

omit [Fintype κ] in
/-- The registry has no more lamps in a zone than the deployment. -/
theorem IsRegistry.length_lampsOf_le (h : d.IsRegistry reg) (z : UInt32) :
    (reg.lampsOf z).length ≤ (Finset.univ.filter fun i => (d.lamp i).zone = z).card := by
  classical
  let lamps := reg.dev.entries.filter fun kv => kv.2.type = .luminaire ∧ kv.2.zoneId = z
  have hlength : (reg.lampsOf z).length = (lamps.map Sigma.fst).length := by
    rw [Registry.lampsOf, List.filter_map, List.length_map, List.length_map]
    rfl
  have hnodup : (lamps.map Sigma.fst).Nodup :=
    List.Nodup.sublist (List.filter_sublist.map Sigma.fst) reg.dev.nodupKeys
  have hsubset : (lamps.map Sigma.fst).toFinset ⊆
      (Finset.univ.filter fun i => (d.lamp i).zone = z).image fun i => (d.lamp i).uri := by
    intro uri huri
    obtain ⟨⟨uri', st⟩, hmem, rfl⟩ := List.mem_map.mp (List.mem_toFinset.mp huri)
    obtain ⟨hentry, hst⟩ := List.mem_filter.mp hmem
    obtain ⟨htype, hzone⟩ := of_decide_eq_true hst
    have hdescribes := h uri' st ((AssocMap.mem_entries_iff _ _ _).mp hentry)
    obtain ⟨i, rfl, hlamp⟩ := hdescribes.lamp htype
    refine Finset.mem_image.mpr ⟨i, Finset.mem_filter.mpr ⟨Finset.mem_univ i, ?_⟩, rfl⟩
    rw [← hlamp.zone]
    exact hzone
  rw [hlength, ← List.toFinset_card_of_nodup hnodup]
  exact (Finset.card_le_card hsubset).trans Finset.card_image_le

/-- The power of a zone fits into 32 bits. -/
theorem IsRegistry.lampPower_lt (h : d.IsRegistry reg) (hsized : d.Sized) (z : UInt32) :
    reg.lampPower z < 4294967296 := by
  have hle : ∀ p ∈ (reg.lampsOf z).map fun st => st.powerMw.toNat, p ≤ 274000 := by
    intro p hp
    obtain ⟨st, hst, rfl⟩ := List.mem_map.mp hp
    obtain ⟨⟨uri, hget⟩, htype, -⟩ := Registry.mem_lampsOf.mp hst
    obtain ⟨i, -, hlamp⟩ := (h uri st hget).lamp htype
    exact powerMw_le hlamp.power
  have hsum := List.sum_le_card_nsmul _ _ hle
  have hlength := (h.length_lampsOf_le z).trans (hsized.lamps z)
  rw [List.length_map, Nat.nsmul_eq_mul] at hsum
  calc
    reg.lampPower z ≤ (reg.lampsOf z).length * 274000 := hsum
    _ ≤ 15675 * 274000 := Nat.mul_le_mul_right _ hlength
    _ < 4294967296 := by decide

/-- The summary has no more zones than there are devices. -/
theorem IsRegistry.length_zoneDeviceSummary_le (h : d.IsRegistry reg) :
    reg.zoneDeviceSummary.length ≤ Fintype.card ι + Fintype.card κ := by
  classical
  have hsubset : (reg.zoneDeviceSummary.map ZoneDeviceSummary.zoneId).toFinset ⊆
      Finset.univ.image d.zone := by
    intro z hz
    obtain ⟨uri, st, hget, rfl, -⟩ :=
      Registry.mem_zones_zoneDeviceSummary.mp (List.mem_toFinset.mp hz)
    obtain ⟨x, -, hzone⟩ := (h uri st hget).device
    exact Finset.mem_image.mpr ⟨x, Finset.mem_univ x, hzone⟩
  have hnodup := Registry.nodup_zoneDeviceSummary reg
  rw [← List.length_map, ← List.toFinset_card_of_nodup hnodup, ← Fintype.card_sum]
  exact (Finset.card_le_card hsubset).trans Finset.card_image_le

/-- A zone has no more devices than the deployment. -/
theorem IsRegistry.length_devicesOf_le (h : d.IsRegistry reg) (hnames : Function.Injective d.name)
    (z : UInt32) : (reg.devicesOf z).length ≤ Fintype.card ι + Fintype.card κ := by
  have hle (f : ι ⊕ κ → Option DeviceState) (s : Multiset (ι ⊕ κ)) :
      (s.filterMap f).card ≤ s.card := by
    induction s using Quotient.inductionOn with
    | h l => exact List.length_filterMap_le f l
  have hcard := hle (fun x => reg.get (d.name x)) (Finset.univ.filter fun x => d.zone x = z).val
  rw [← devices, ← h.coe_devicesOf hnames, Multiset.coe_card] at hcard
  refine hcard.trans ?_
  rw [← Fintype.card_sum]
  exact Finset.card_le_univ _

/-- The power list of the registry gives the true power of each zone. -/
theorem IsRegistry.power (h : d.IsRegistry reg) (hsized : d.Sized) {p : UInt32}
    (hp : (z, p) ∈ reg.zonePowerSum) :
    p.toNat = ((d.devices reg z).map fun st => st.powerMw.toNat).sum := by
  obtain ⟨-, -, hsum⟩ := Registry.mem_zonePowerSum.mp hp
  rw [hsum, Nat.mod_eq_of_lt (h.lampPower_lt hsized z), h.lampPower_eq hsized.names]

/-- Its summary gives the true counts of each zone. -/
theorem IsRegistry.counts (h : d.IsRegistry reg) (hsized : d.Sized) {zs : ZoneDeviceSummary}
    (hzs : zs ∈ reg.zoneDeviceSummary) :
    zs.counts = ZoneCounts.count (d.devices reg zs.zoneId) := by
  have hlength := h.length_devicesOf_le hsized.names zs.zoneId
  have htotal := hsized.total
  obtain ⟨-, -, hcounts⟩ := Registry.mem_zoneDeviceSummary.mp hzs
  rw [hcounts, ZoneCounts.wrap_of (by omega), ZoneCounts.of_eq_count, h.coe_devicesOf hsized.names]

end Deployment

end SmartLighting
