import SmartLighting.RegionTicks
import Mathlib.Data.Finset.Lattice.Lemmas
import Mathlib.Data.Finset.SDiff

/-!
# The devices that are still silent

`active_lost` is meant to hold the devices that were reported as lost and have
not been heard since. After a tick it holds the devices that `detect_comm_lost`
has just listed, and a device whose fault is latched is not listed again. So a
device that stays silent is dropped at the tick after its alarm, as if it had recovered.
-/

namespace SmartLighting

open StateMachine Transition

namespace Region

variable {cfg : RegionConfig} {r t : Region} {e : Event} {now : UInt64}

/-! ## Runs under a clock -/

/-- The server together with the last reading of its steady clock, which never
goes back. -/
def timedStep (cfg : RegionConfig) : Region × UInt64 → Event → Option (Region × UInt64) :=
  restrict (fun p e => p.2 ≤ e.nowMs.getD p.2)
    (monitored (step cfg) fun last _ e _ => e.nowMs.getD last)

theorem timedStep_eq_some {p q : Region × UInt64} :
    timedStep cfg p e = some q ↔
      p.2 ≤ e.nowMs.getD p.2 ∧ step cfg p.1 e = some q.1 ∧ q.2 = e.nowMs.getD p.2 := by
  rw [timedStep, restrict_eq_some, monitored_eq_some]

/-- No device was heard in the future. -/
def HeardBy (r : Region) (now : UInt64) : Prop :=
  ∀ uri st, r.reg.get uri = some st → st.lastSeenMs ≤ now

/-- Latching a fault does not touch the time of the last message. -/
theorem latch_lastSeenMs {timeoutMs : UInt64} {st : DeviceState} :
    (Registry.latch now timeoutMs st).lastSeenMs = st.lastSeenMs := by
  unfold Registry.latch
  split <;> rfl

/-- Nothing is ever heard in the future. -/
theorem HeardBy.step {p q : Region × UInt64} (hheard : HeardBy p.1 p.2)
    (h : timedStep cfg p e = some q) : HeardBy q.1 q.2 := by
  obtain ⟨hle, hstep, hnow⟩ := timedStep_eq_some.mp h
  intro uri st hget
  rw [hnow]
  rcases step_cases hstep with ⟨clock, rfl, hticks⟩ | ⟨-, hstores⟩
  · rw [hticks.get] at hget
    obtain ⟨old, hold, rfl⟩ := Option.map_eq_some_iff.mp hget
    rw [latch_lastSeenMs]
    exact UInt64.le_trans (hheard uri old hold) hle
  · by_cases hstored : ∃ st, p.1.stored e = some (uri, st)
    · obtain ⟨st', hstored⟩ := hstored
      rw [hstores.get_stored hstored] at hget
      obtain rfl := Option.some.inj hget
      rw [nowMs_of_stored hstored]
      exact UInt64.le_refl _
    · rw [hstores.get_other (not_exists.mp hstored)] at hget
      exact UInt64.le_trans (hheard uri st hget) hle

/-- A device is silent for longer than the timeout. -/
def SilentFor (timeoutMs now lastSeenMs : UInt64) : Prop :=
  lastSeenMs.toNat + timeoutMs.toNat < now.toNat

instance (timeoutMs now lastSeenMs : UInt64) : Decidable (SilentFor timeoutMs now lastSeenMs) :=
  inferInstanceAs (Decidable (_ < _))

/-- Silence lasts as time goes on. -/
theorem SilentFor.mono {timeoutMs lastSeenMs later : UInt64} (hle : now ≤ later)
    (h : SilentFor timeoutMs now lastSeenMs) : SilentFor timeoutMs later lastSeenMs :=
  h.trans_le (UInt64.le_iff_toNat_le.mp hle)

/-- With a clock that does not go back, the subtraction in `detect_comm_lost` does not wrap. -/
theorem sub_gt_iff_silentFor {timeoutMs lastSeenMs : UInt64} (h : lastSeenMs ≤ now) :
    now - lastSeenMs > timeoutMs ↔ SilentFor timeoutMs now lastSeenMs := by
  have hle := UInt64.le_iff_toNat_le.mp h
  rw [gt_iff_lt, UInt64.lt_iff_toNat_lt, UInt64.toNat_sub_of_le _ _ h]
  unfold SilentFor
  omega

/-- The devices listed at a tick were last heard longer than the timeout ago. -/
theorem NewlyLost.silentFor {clock : Clock} {uri : Bytes} (h : NewlyLost cfg clock r uri)
    (hheard : HeardBy r clock.nowMs) :
    ∃ st, r.reg.get uri = some st ∧ st.fault = false ∧ st.lastSeenMs > 0 ∧
      SilentFor cfg.timeoutMs clock.nowMs st.lastSeenMs := by
  obtain ⟨st, hget, hfault, hpos, hsub⟩ := newlyLost_iff.mp h
  exact ⟨st, hget, hfault, hpos, (sub_gt_iff_silentFor (hheard uri st hget)).mp hsub⟩

/-! ## Reported and not heard since -/

/-- Watch the devices that a tick has put into `active_lost` and that have not
been heard since. -/
def watchUnheard (unheard : Finset Bytes) (p : Region × UInt64) (e : Event) (q : Region × UInt64) :
    Finset Bytes :=
  match e with
  | .tick _ => unheard ∪ (q.1.activeLost \ p.1.activeLost)
  | e => match p.1.stored e with
    | some (uri, _) => unheard.erase uri
    | none => unheard

/-- The server, its clock and the devices reported and not heard since. -/
abbrev Watched := (Region × UInt64) × Finset Bytes

/-- What a tick should do with the lost devices. -/
structure ActiveLostLaw (cfg : RegionConfig) (p : Watched) (q : Watched) : Prop where
  /-- Lost devices have been silent for longer than the timeout. -/
  silent : ∀ uri ∈ q.1.1.activeLost, ∃ st, q.1.1.reg.get uri = some st ∧
    SilentFor cfg.timeoutMs q.1.2 st.lastSeenMs
  /-- Only devices that were heard again are removed. -/
  removed : ∀ uri ∈ p.1.1.activeLost, uri ∉ q.1.1.activeLost → uri ∉ p.2
  /-- The server recovers only when all reported devices were heard again. -/
  recovered : p.1.1.fsm.state = .faultHandling → q.1.1.fsm.state = .normalOperation → q.2 = ∅

/-- While every reported device is heard before the next tick, the devices not
heard yet are lost devices whose fault is latched. -/
structure UnheardInv (p : Watched) : Prop where
  /-- They are in `active_lost`. -/
  active : p.2 ⊆ p.1.1.activeLost
  /-- Their fault is latched. -/
  latched : ∀ uri ∈ p.2, ∃ st, p.1.1.reg.get uri = some st ∧ st.fault = true
  /-- The clock is ahead of all messages. -/
  heard : HeardBy p.1.1 p.1.2

/-- A listed device is latched by the tick that lists it. -/
theorem latched_of_newlyLost {clock : Clock} {uri : Bytes} (h : NewlyLost cfg clock r uri) :
    ∃ st, (tick cfg clock r).reg.get uri = some st ∧ st.fault = true := by
  obtain ⟨st, hget, hlost⟩ := newlyLost_iff.mp h
  refine ⟨_, by rw [(ticks_tick cfg clock r).get, hget]; rfl, ?_⟩
  rw [Registry.latch, if_pos hlost]

/-- A device whose fault is latched is not listed. -/
theorem not_newlyLost_of_fault {clock : Clock} {uri : Bytes} {st : DeviceState}
    (hget : r.reg.get uri = some st) (hfault : st.fault = true) : ¬NewlyLost cfg clock r uri := by
  intro h
  obtain ⟨st', hget', hlost⟩ := newlyLost_iff.mp h
  rw [hget] at hget'
  obtain rfl := Option.some.inj hget'
  rw [hlost.1] at hfault
  cases hfault

/-- A message keeps the invariant. -/
theorem UnheardInv.message {p q : Watched} (hinv : UnheardInv p) (htick : ¬e.IsTick)
    (h : monitored (timedStep cfg) watchUnheard p e = some q) : UnheardInv q := by
  obtain ⟨htimed, hwatch⟩ := monitored_eq_some.mp h
  obtain ⟨-, hstep, -⟩ := timedStep_eq_some.mp htimed
  have hstores := stores_step hstep htick
  have hmem : ∀ uri ∈ q.2, uri ∈ p.2 ∧ ∀ st, p.1.1.stored e ≠ some (uri, st) := by
    intro uri huri
    rw [hwatch] at huri
    unfold watchUnheard at huri
    split at huri
    · exact absurd trivial htick
    · split at huri
      · next hstored =>
        obtain ⟨hne, hold⟩ := Finset.mem_erase.mp huri
        refine ⟨hold, fun st heq => hne ?_⟩
        rw [hstored] at heq
        cases heq
        rfl
      · next hstored =>
        refine ⟨huri, fun st heq => ?_⟩
        rw [hstored] at heq
        cases heq
  refine ⟨fun uri huri => ?_, fun uri huri => ?_, hinv.heard.step htimed⟩
  · rw [hstores.activeLost]
    exact hinv.active (hmem uri huri).1
  · rw [hstores.get_other (hmem uri huri).2]
    exact hinv.latched uri (hmem uri huri).1

/-- A tick at which all reported devices were heard starts afresh. -/
theorem UnheardInv.tick {p q : Watched} {clock : Clock} (hinv : UnheardInv p) (hheard : p.2 = ∅)
    (h : monitored (timedStep cfg) watchUnheard p (.tick clock) = some q) : UnheardInv q := by
  obtain ⟨htimed, hwatch⟩ := monitored_eq_some.mp h
  obtain ⟨-, hstep, -⟩ := timedStep_eq_some.mp htimed
  have htick : Region.tick cfg clock p.1.1 = q.1.1 := Option.some.inj hstep
  have hmem : ∀ uri ∈ q.2, uri ∈ q.1.1.activeLost := by
    intro uri huri
    rw [hwatch] at huri
    simp only [watchUnheard, hheard, Finset.empty_union, Finset.mem_sdiff] at huri
    exact huri.1
  refine ⟨hmem, fun uri huri => ?_, hinv.heard.step htimed⟩
  have hlost := hmem uri huri
  rw [← htick, (ticks_tick cfg clock p.1.1).activeLost] at hlost
  rw [← htick]
  exact latched_of_newlyLost hlost

/-- A tick obeys the law exactly when all reported devices were heard before it. -/
theorem activeLostLaw_iff {p q : Watched} {clock : Clock} (hinv : UnheardInv p)
    (h : monitored (timedStep cfg) watchUnheard p (.tick clock) = some q) :
    ActiveLostLaw cfg p q ↔ p.2 = ∅ := by
  obtain ⟨htimed, hwatch⟩ := monitored_eq_some.mp h
  obtain ⟨hle, hstep, hnow⟩ := timedStep_eq_some.mp htimed
  have htick : Region.tick cfg clock p.1.1 = q.1.1 := Option.some.inj hstep
  have hticks : Ticks cfg clock p.1.1 q.1.1 := by
    rw [← htick]
    exact ticks_tick cfg clock p.1.1
  have hnow' : q.1.2 = clock.nowMs := hnow
  constructor
  · intro hlaw
    rw [Finset.eq_empty_iff_forall_notMem]
    intro uri huri
    obtain ⟨st, hget, hfault⟩ := hinv.latched uri huri
    have hdropped : uri ∉ q.1.1.activeLost := by
      rw [hticks.activeLost]
      exact not_newlyLost_of_fault hget hfault
    exact hlaw.removed uri (hinv.active huri) hdropped huri
  · intro hheard
    refine ⟨fun uri huri => ?_, fun uri _ _ => ?_, fun hfault hnormal => ?_⟩
    · rw [hticks.activeLost] at huri
      have hahead : HeardBy p.1.1 clock.nowMs := fun uri st hget =>
        UInt64.le_trans (hinv.heard uri st hget) hle
      obtain ⟨st, hget, -, -, hsilent⟩ := huri.silentFor hahead
      refine ⟨_, by rw [hticks.get, hget]; rfl, ?_⟩
      rw [latch_lastSeenMs, hnow']
      exact hsilent
    · rw [hheard]
      exact Finset.notMem_empty uri
    · have hnone : ∀ v, ¬NewlyLost cfg clock p.1.1 v := by
        by_contra hsome
        rcases hticks.remains (not_forall_not.mp hsome) with hfsm | hfsm
        · rw [hfsm, hfault] at hnormal
          cases hnormal
        · rw [hfsm, ServerFsm.switchTo_of_refused (by rw [hfault]; decide), hfault] at hnormal
          cases hnormal
      rw [hwatch]
      simp only [watchUnheard, hheard, Finset.empty_union, Finset.sdiff_eq_empty_iff_subset]
      intro v hv
      rw [hticks.activeLost] at hv
      exact absurd hv (hnone v)

/-- In any run of the server the law of `active_lost` holds at every tick exactly
when every device that a tick reports is heard again before the next tick. -/
theorem eachStep_activeLostLaw_iff (cfg : RegionConfig) (now : UInt64) (es : List Event) :
    EachStep (monitored (timedStep cfg) watchUnheard)
        (fun p e q => e.IsTick → ActiveLostLaw cfg p q) ((start, now), ∅) es ↔
      EachStep (monitored (timedStep cfg) watchUnheard)
        (fun p e _ => e.IsTick → p.2 = ∅) ((start, now), ∅) es := by
  refine eachStep_iff_of_invariant (I := UnheardInv) ?_ ?_ ?_
  · intro p e q hinv hcond h
    by_cases htick : e.IsTick
    · obtain ⟨clock, rfl⟩ := Event.isTick_iff.mp htick
      exact hinv.tick (hcond trivial) h
    · exact hinv.message htick h
  · intro p e q hinv h
    refine imp_congr_right fun htick => ?_
    obtain ⟨clock, rfl⟩ := Event.isTick_iff.mp htick
    exact activeLostLaw_iff hinv h
  · refine ⟨Finset.empty_subset _, fun uri huri => ?_, fun uri st hget => ?_⟩
    · cases huri
    · cases hget

/-- A lamp registers once and is never heard again. -/
def silentLamp : List Event :=
  [.frame 0 (DeviceMessage.register ⟨.luminaire, ascii "lamp", 1⟩).body ⟨1000, 1⟩,
    .tick ⟨26000, 26⟩, .tick ⟨31000, 31⟩]

/-- The second tick after the registration drops the lamp, which is still silent,
and the server recovers. -/
theorem not_eachStep_activeLostLaw_silentLamp :
    ¬EachStep (monitored (timedStep ⟨1, 20000⟩) watchUnheard)
      (fun p e q => e.IsTick → ActiveLostLaw ⟨1, 20000⟩ p q) ((start, 0), ∅) silentLamp := by
  intro h
  have hlaw := h [silentLamp[0], silentLamp[1]] silentLamp[2] (List.prefix_refl _) _ _ rfl rfl
    trivial
  exact absurd (hlaw.recovered (by decide) (by decide)) (by decide)

end Region

end SmartLighting
