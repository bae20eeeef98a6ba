import SmartLighting.Registry
import Mathlib.Algebra.Ring.Nat

/-!
# Devices that fell silent

`detect_comm_lost` subtracts 64-bit words. Its argument `now` is read before the mutex is
taken, so an entry may have been heard later than that; then the difference wraps around.
-/

namespace SmartLighting

namespace Registry

variable {r : Registry} {now timeoutMs : UInt64} {st : DeviceState}

/-- A device without a fault was last heard more than the timeout ago. -/
def Silent (now timeoutMs : UInt64) (st : DeviceState) : Prop :=
  st.fault = false ∧ 0 < st.lastSeenMs.toNat ∧
    st.lastSeenMs.toNat + timeoutMs.toNat < now.toNat

instance (now timeoutMs : UInt64) (st : DeviceState) : Decidable (Silent now timeoutMs st) :=
  inferInstanceAs (Decidable (_ ∧ _))

/-- A call of `detect_comm_lost` lists and marks the silent devices, and does nothing else. -/
structure MarksSilent (r : Registry) (now timeoutMs : UInt64) : Prop where
  /-- No device is listed twice. -/
  once : (r.detectCommLost now timeoutMs).1.Nodup
  /-- The silent devices are listed. -/
  listed : ∀ uri, uri ∈ (r.detectCommLost now timeoutMs).1 ↔
    ∃ st, r.get uri = some st ∧ Silent now timeoutMs st
  /-- Their fault is set, and nothing else changes in any entry. -/
  marked : ∀ uri, (r.detectCommLost now timeoutMs).2.get uri =
    (r.get uri).map fun st => if Silent now timeoutMs st then { st with fault := true } else st
  /-- The zone index stays. -/
  zones : (r.detectCommLost now timeoutMs).2.zoneToLamps = r.zoneToLamps
  /-- A second call finds nothing and changes nothing. -/
  settled : (r.detectCommLost now timeoutMs).2.detectCommLost now timeoutMs =
    ([], (r.detectCommLost now timeoutMs).2)

/-- The device was heard after `now` was read, and the difference exceeds the timeout once it
has wrapped around. -/
def Wraps (now timeoutMs : UInt64) (st : DeviceState) : Prop :=
  st.fault = false ∧ now.toNat < st.lastSeenMs.toNat ∧
    st.lastSeenMs.toNat + timeoutMs.toNat < now.toNat + 2 ^ 64

/-- The difference of two words. -/
theorem toNat_sub_eq (now lastSeen : UInt64) :
    (now - lastSeen).toNat =
      if lastSeen.toNat ≤ now.toNat then now.toNat - lastSeen.toNat
      else now.toNat + 2 ^ 64 - lastSeen.toNat := by
  have hnow := now.toNat_lt
  have hseen := lastSeen.toNat_lt
  rw [UInt64.toNat_sub]
  split
  · next hle =>
    have hsum : 2 ^ 64 - lastSeen.toNat + now.toNat = now.toNat - lastSeen.toNat + 2 ^ 64 := by
      omega
    rw [hsum, Nat.add_mod_right]
    exact Nat.mod_eq_of_lt (by omega)
  · next hlt =>
    rw [Nat.mod_eq_of_lt (by omega)]
    omega

/-- The test of the code finds the silent devices, and those for which it wraps around. -/
theorem commLost_iff : CommLost now timeoutMs st ↔
    Silent now timeoutMs st ∨ Wraps now timeoutMs st := by
  have hpositive : st.lastSeenMs > 0 ↔ 0 < st.lastSeenMs.toNat := UInt64.lt_iff_toNat_lt
  have hlate : now - st.lastSeenMs > timeoutMs ↔
      timeoutMs.toNat < (now - st.lastSeenMs).toNat := UInt64.lt_iff_toNat_lt
  unfold CommLost Silent Wraps
  rw [hpositive, hlate, toNat_sub_eq, ← and_or_left]
  refine and_congr_right fun _ => ?_
  split
  · omega
  · omega

/-- A silent device does not wrap. -/
theorem not_silent_of_wraps (h : Wraps now timeoutMs st) : ¬Silent now timeoutMs st := by
  obtain ⟨-, hlater, -⟩ := h
  rintro ⟨-, -, hsilent⟩
  omega

/-- No device is listed twice. -/
theorem nodup_detectCommLost : (r.detectCommLost now timeoutMs).1.Nodup := by
  have hsub : (r.detectCommLost now timeoutMs).1.Sublist (r.dev.entries.map Sigma.fst) :=
    List.Sublist.map _ (List.filter_sublist)
  exact hsub.nodup r.dev.nodupKeys

/-- A latched device is not lost again. -/
theorem not_commLost_latch : ¬CommLost now timeoutMs (latch now timeoutMs st) := by
  unfold latch
  split
  · exact fun h => absurd h.1 (by simp)
  · next h => exact h

/-- A second call with the same arguments finds nothing and changes nothing. -/
theorem detectCommLost_settled :
    (r.detectCommLost now timeoutMs).2.detectCommLost now timeoutMs =
      ([], (r.detectCommLost now timeoutMs).2) := by
  have hnone : ∀ entry ∈ (r.detectCommLost now timeoutMs).2.dev.entries,
      ¬CommLost now timeoutMs entry.2 := by
    intro entry hentry
    obtain ⟨old, -, rfl⟩ := List.mem_map.mp hentry
    exact not_commLost_latch
  refine Prod.ext ?_ ?_
  · simp only [detectCommLost, List.map_eq_nil_iff, List.filter_eq_nil_iff, decide_eq_true_eq]
    exact hnone
  · have hdev : AssocMap.mapValues (latch now timeoutMs) (r.detectCommLost now timeoutMs).2.dev =
        (r.detectCommLost now timeoutMs).2.dev := by
      refine AList.ext ?_
      refine (List.map_congr_left fun entry hentry => ?_).trans (List.map_id _)
      simp only [latch, if_neg (hnone entry hentry), id_eq]
    exact congrArg (fun dev => Registry.mk dev r.zoneToLamps) hdev

/-- A call does what it should exactly when no difference wraps around. -/
theorem marksSilent_iff (r : Registry) (now timeoutMs : UInt64) :
    MarksSilent r now timeoutMs ↔
      ∀ uri st, r.get uri = some st → ¬Wraps now timeoutMs st := by
  constructor
  · intro h uri st hget hwraps
    have hmem : uri ∈ (r.detectCommLost now timeoutMs).1 :=
      mem_detectCommLost.mpr ⟨st, hget, commLost_iff.mpr (Or.inr hwraps)⟩
    obtain ⟨st', hget', hsilent⟩ := (h.listed uri).mp hmem
    rw [hget] at hget'
    cases hget'
    exact not_silent_of_wraps hwraps hsilent
  · intro h
    have hsame : ∀ uri st, r.get uri = some st →
        (CommLost now timeoutMs st ↔ Silent now timeoutMs st) := by
      intro uri st hget
      rw [commLost_iff]
      exact or_iff_left (h uri st hget)
    constructor
    · exact nodup_detectCommLost
    · intro uri
      rw [mem_detectCommLost]
      constructor
      · rintro ⟨st, hget, hlost⟩
        exact ⟨st, hget, (hsame uri st hget).mp hlost⟩
      · rintro ⟨st, hget, hsilent⟩
        exact ⟨st, hget, (hsame uri st hget).mpr hsilent⟩
    · intro uri
      rw [get_detectCommLost]
      cases hget : r.get uri with
      | none => rfl
      | some st =>
        simp only [Option.map_some, latch, hsame uri st hget]
    · rfl
    · exact detectCommLost_settled

/-- A lamp that is heard while the timer waits for the mutex. -/
def heardMeanwhile : Registry :=
  Registry.empty.upsert (ascii "lamp") ⟨.luminaire, 1, 0, 0, 0, false, 1001⟩

/-- It counts as lost, although it was heard a millisecond after `now`. -/
theorem not_marksSilent_heardMeanwhile : ¬MarksSilent heardMeanwhile 1000 15000 := by
  intro h
  have hmem : ascii "lamp" ∈ (heardMeanwhile.detectCommLost 1000 15000).1 := by decide
  obtain ⟨st, hget, hsilent⟩ := (h.listed _).mp hmem
  have hst : heardMeanwhile.get (ascii "lamp") =
      some ⟨.luminaire, 1, 0, 0, 0, false, 1001⟩ := by decide
  rw [hst] at hget
  cases hget
  exact absurd hsilent (by decide)

end Registry

end SmartLighting
