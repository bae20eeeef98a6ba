import SmartLighting.Library.AssocMap
import SmartLighting.Proto

/-!
# The device registry of a region

`registry.hpp` keeps the state of each device, by its name, and for each zone
the lamps that motion commands go to. Each operation below is one critical
section of the registry's mutex.
-/

namespace SmartLighting

/-- `DeviceState`: what the registry keeps about a device. -/
structure DeviceState where
  /-- Kind of device. -/
  type : DeviceType
  /-- Zone it was last heard from. -/
  zoneId : UInt32
  /-- Nonzero when switched on. -/
  on : UInt8
  /-- Light level. -/
  intensity : UInt8
  /-- Power consumption in milliwatts. -/
  powerMw : UInt32
  /-- Whether a fault is latched. -/
  fault : Bool
  /-- Steady-clock reading when it was last heard. -/
  lastSeenMs : UInt64
  deriving DecidableEq

/-- `class Registry`. -/
structure Registry where
  /-- `dev_`: the devices by name. -/
  dev : AssocMap Bytes DeviceState
  /-- `zone_to_lamps_`: the lamps of each zone. -/
  zoneToLamps : AssocMap UInt32 (List Bytes)

namespace Registry

/-- The registry of a region that has just started. -/
def empty : Registry := ⟨∅, ∅⟩

/-- Append a lamp to the list of a zone unless it is there. Both `upsert` and
`register_lamp` contain this code. -/
def pushLamp (index : AssocMap UInt32 (List Bytes)) (zone : UInt32) (uri : Bytes) :
    AssocMap UInt32 (List Bytes) :=
  let v := (index.lookup zone).getD []
  index.insert zone (if uri ∈ v then v else v ++ [uri])

/-- `upsert`: store the state and index a lamp under its zone. -/
def upsert (r : Registry) (uri : Bytes) (st : DeviceState) : Registry :=
  let dev := r.dev.insert uri st
  if st.type = .luminaire ∧ st.zoneId ≠ 0 then
    ⟨dev, pushLamp r.zoneToLamps st.zoneId uri⟩
  else ⟨dev, r.zoneToLamps⟩

/-- `get`: copy the state of a device. -/
def get (r : Registry) (uri : Bytes) : Option DeviceState := r.dev.lookup uri

/-- The test inside `detect_comm_lost`, in 64-bit arithmetic that wraps. -/
def CommLost (now timeoutMs : UInt64) (st : DeviceState) : Prop :=
  st.fault = false ∧ st.lastSeenMs > 0 ∧ now - st.lastSeenMs > timeoutMs

instance (now timeoutMs : UInt64) (st : DeviceState) : Decidable (CommLost now timeoutMs st) :=
  inferInstanceAs (Decidable (_ ∧ _))

/-- The body of the loop of `detect_comm_lost`, for one entry. -/
def latch (now timeoutMs : UInt64) (st : DeviceState) : DeviceState :=
  if CommLost now timeoutMs st then { st with fault := true } else st

/-- `detect_comm_lost`: latch the fault of every device that passes the test,
and list these devices. -/
def detectCommLost (r : Registry) (now timeoutMs : UInt64) : List Bytes × Registry :=
  let lost := r.dev.entries.filter fun entry => CommLost now timeoutMs entry.2
  (lost.map fun entry => entry.1, { r with dev := AssocMap.mapValues (latch now timeoutMs) r.dev })

/-- `register_lamp`. -/
def registerLamp (r : Registry) (uri : Bytes) (zone : UInt32) : Registry :=
  { r with zoneToLamps := pushLamp r.zoneToLamps zone uri }

/-- `get_lamps_in_zone`. -/
def getLampsInZone (r : Registry) (zone : UInt32) : List Bytes :=
  (r.zoneToLamps.lookup zone).getD []

variable {r : Registry} {uri v : Bytes} {st : DeviceState} {zone z : UInt32}
  {now timeoutMs : UInt64}

/-! ## What each operation leaves -/

@[simp] theorem get_empty : empty.get uri = none := rfl

@[simp] theorem getLampsInZone_empty : empty.getLampsInZone z = [] := rfl

/-- An insertion changes the state of one device. -/
theorem get_upsert : (r.upsert uri st).get v = if v = uri then some st else r.get v := by
  unfold upsert get
  split <;> exact AssocMap.lookup_insert_eq ..

@[simp] theorem get_upsert_self : (r.upsert uri st).get uri = some st := by
  rw [get_upsert, if_pos rfl]

theorem get_upsert_ne (h : v ≠ uri) : (r.upsert uri st).get v = r.get v := by
  rw [get_upsert, if_neg h]

@[simp] theorem get_registerLamp : (r.registerLamp uri zone).get v = r.get v := rfl

/-- The lists after a lamp was pushed to one of them. -/
theorem lookup_pushLamp {index : AssocMap UInt32 (List Bytes)} :
    ((pushLamp index zone uri).lookup z).getD [] =
      if z = zone then
        if uri ∈ (index.lookup zone).getD [] then (index.lookup zone).getD []
        else (index.lookup zone).getD [] ++ [uri]
      else (index.lookup z).getD [] := by
  unfold pushLamp
  rw [AssocMap.lookup_insert_eq]
  split <;> simp

/-- A lamp is in a list after a push if it was there or was pushed. -/
theorem mem_registerLamp :
    v ∈ (r.registerLamp uri zone).getLampsInZone z ↔
      v ∈ r.getLampsInZone z ∨ (v = uri ∧ z = zone) := by
  unfold registerLamp getLampsInZone
  rw [lookup_pushLamp]
  split
  · next hz =>
    subst hz
    split
    · next hmem =>
      simp only [and_true]
      constructor
      · exact Or.inl
      · rintro (h | rfl)
        · exact h
        · exact hmem
    · simp
  · next hz => simp [hz]

/-- An insertion adds to the lists at most the stored device, as a lamp of its zone. -/
theorem mem_upsert :
    v ∈ (r.upsert uri st).getLampsInZone z ↔ v ∈ r.getLampsInZone z ∨
      (v = uri ∧ st.type = .luminaire ∧ st.zoneId ≠ 0 ∧ st.zoneId = z) := by
  unfold upsert
  split
  · next h =>
    obtain ⟨htype, hzone⟩ := h
    have hpush : v ∈ (r.registerLamp uri st.zoneId).getLampsInZone z ↔
        v ∈ r.getLampsInZone z ∨ (v = uri ∧ z = st.zoneId) := mem_registerLamp
    rw [eq_comm (a := z)] at hpush
    simp only [htype, hzone, ne_eq, not_false_eq_true, true_and]
    exact hpush
  · next h =>
    have hnot : ¬(st.type = .luminaire ∧ st.zoneId ≠ 0 ∧ st.zoneId = z) := fun hst =>
      h ⟨hst.1, hst.2.1⟩
    simp only [hnot, and_false, or_false]
    rfl

/-- The devices that `detect_comm_lost` lists are those that pass its test. -/
theorem mem_detectCommLost :
    uri ∈ (r.detectCommLost now timeoutMs).1 ↔
      ∃ st, r.get uri = some st ∧ CommLost now timeoutMs st := by
  simp only [detectCommLost, List.mem_map, List.mem_filter, decide_eq_true_eq, get]
  constructor
  · rintro ⟨⟨u, st⟩, ⟨hmem, hlost⟩, rfl⟩
    exact ⟨st, (AssocMap.mem_entries_iff _ _ _).mp hmem, hlost⟩
  · rintro ⟨st, hget, hlost⟩
    exact ⟨⟨uri, st⟩, ⟨(AssocMap.mem_entries_iff _ _ _).mpr hget, hlost⟩, rfl⟩

/-- `detect_comm_lost` updates each entry on its own. -/
theorem get_detectCommLost :
    (r.detectCommLost now timeoutMs).2.get uri = (r.get uri).map (latch now timeoutMs) :=
  AssocMap.lookup_mapValues ..

@[simp] theorem getLampsInZone_detectCommLost :
    (r.detectCommLost now timeoutMs).2.getLampsInZone z = r.getLampsInZone z := rfl

end Registry

end SmartLighting
