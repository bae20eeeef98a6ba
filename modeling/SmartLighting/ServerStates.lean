import SmartLighting.RegionTicks

/-!
# The states of the server

Once it has booted, the regional server alternates between normal operation and fault handling. A
fault report takes it to fault handling; each tick decides anew, by the devices that it lists.
-/

namespace SmartLighting

open StateMachine Transition

namespace Region

variable {cfg : RegionConfig} {r t : Region} {e : Event} {troubled : Bool}

/-- Whether a fault was reported since the last tick, or the last tick listed a device. -/
def watchTrouble (cfg : RegionConfig) (troubled : Bool) (r : Region) (e : Event) (_ : Region) :
    Bool :=
  match e with
  | .tick clock => decide ((r.reg.detectCommLost clock.nowMs cfg.timeoutMs).1 ≠ [])
  | e => troubled || e.faultReport.isSome

/-- A change of the server after its boot. -/
def IsEpisode (c : Change ServerState ServerLabel) : Prop :=
  match c.label with
  | .commLost | .deviceFault | .sensorFault =>
    c.source = .normalOperation ∧ c.target = .faultHandling
  | .recoverOk => c.source = .faultHandling ∧ c.target = .normalOperation
  | .bootDone | .serverReady => False

/-- The changes of the boot. -/
def bootLog : List (Change ServerState ServerLabel) :=
  [⟨.idle, .registrationHandling, .bootDone⟩,
    ⟨.registrationHandling, .normalOperation, .serverReady⟩]

/-- What holds of the state machine between two handlers. -/
structure ServerLaw (r : Region) (troubled : Bool) : Prop where
  /-- The state tells whether there is trouble. -/
  state : r.fsm.state = if troubled then .faultHandling else .normalOperation
  /-- Devices are in `active_lost` only in trouble. -/
  lost : r.activeLost ≠ ∅ → troubled = true
  /-- The changes follow the matrix. -/
  path : IsPath ServerFsm.transitions .idle r.fsm.log r.fsm.state
  /-- After the boot there were only faults and recoveries. -/
  episodes : ∃ episodes, r.fsm.log = bootLog ++ episodes ∧ ∀ c ∈ episodes, IsEpisode c

theorem serverLaw_start : ServerLaw start false := by
  refine ⟨rfl, fun h => absurd rfl h, ?_, [], rfl, fun c hc => absurd hc List.not_mem_nil⟩
  exact ⟨rfl, by decide, rfl, by decide, rfl⟩

/-- The labels under which fault handling is asked for. -/
def IsFaultLabel (label : ServerLabel) : Prop :=
  label = .commLost ∨ label = .deviceFault ∨ label = .sensorFault

/-- Asking for fault handling. -/
theorem switchTo_faultHandling {label : ServerLabel} (hlabel : IsFaultLabel label)
    (h : ServerLaw r troubled) :
    (r.fsm.switchTo .faultHandling label).state = .faultHandling ∧
      IsPath ServerFsm.transitions .idle (r.fsm.switchTo .faultHandling label).log
        (r.fsm.switchTo .faultHandling label).state ∧
      ∃ episodes, (r.fsm.switchTo .faultHandling label).log = bootLog ++ episodes ∧
        ∀ c ∈ episodes, IsEpisode c := by
  have hstate := h.state
  cases troubled with
  | true =>
    rw [if_pos rfl] at hstate
    rw [ServerFsm.switchTo_of_refused (by rw [hstate]; decide)]
    exact ⟨hstate, h.path, h.episodes⟩
  | false =>
    rw [if_neg Bool.false_ne_true] at hstate
    rw [ServerFsm.switchTo_of_allowed (by rw [hstate]; decide)]
    obtain ⟨episodes, hlog, hall⟩ := h.episodes
    refine ⟨rfl, h.path.concat (by rw [hstate]; decide),
      episodes ++ [⟨r.fsm.state, .faultHandling, label⟩], ?_, ?_⟩
    · rw [Machine.assign_log, hlog, List.append_assoc]
    · rw [List.forall_mem_append, List.forall_mem_singleton]
      refine ⟨hall, ?_⟩
      rcases hlabel with rfl | rfl | rfl <;> exact ⟨hstate, rfl⟩

/-- Only faults are reported. -/
theorem isFaultLabel_of_faultReport {uri : Bytes} {label : ServerLabel}
    (h : e.faultReport = some (uri, label)) : IsFaultLabel label := by
  unfold Event.faultReport at h
  split at h
  · split at h
    · cases h
      exact Or.inr (Or.inl rfl)
    · cases h
  · split at h
    · obtain ⟨-, heq⟩ := Option.ite_none_right_eq_some.mp h
      cases heq
      exact Or.inr (Or.inr rfl)
    · cases h
  · cases h

/-- A message keeps the law. -/
private theorem ServerLaw.message (h : ServerLaw r troubled) (hstores : Stores r e t) :
    ServerLaw t (troubled || e.faultReport.isSome) := by
  have hfsm := hstores.fsm
  cases hreport : e.faultReport with
  | none =>
    rw [hreport] at hfsm
    rw [Option.isSome_none, Bool.or_false]
    refine ⟨?_, ?_, ?_, ?_⟩
    · rw [hfsm, h.state]
    · rw [hstores.activeLost]
      exact h.lost
    · rw [hfsm]
      exact h.path
    · rw [hfsm]
      exact h.episodes
  | some report =>
    obtain ⟨uri, label⟩ := report
    rw [hreport] at hfsm
    obtain ⟨hstate, hpath, hepisodes⟩ :=
      switchTo_faultHandling (isFaultLabel_of_faultReport hreport) h
    rw [Option.isSome_some, Bool.or_true]
    refine ⟨?_, fun _ => rfl, ?_, ?_⟩
    · rw [hfsm]
      exact hstate
    · rw [hfsm]
      exact hpath
    · rw [hfsm]
      exact hepisodes

/-- The alarm loop does not leave fault handling. -/
private theorem state_foldl_reportLost {clock : Clock} (lost : List Bytes)
    (hfault : r.fsm.state = .faultHandling) :
    (lost.foldl (reportLost cfg clock) r).fsm.state = .faultHandling := by
  induction lost generalizing r with
  | nil => exact hfault
  | cons uri lost ih =>
    rw [List.foldl_cons]
    refine ih ?_
    unfold reportLost
    split
    · exact hfault
    · change (r.fsm.switchTo .faultHandling .commLost).state = _
      rw [ServerFsm.switchTo_of_refused (by rw [hfault]; decide)]
      exact hfault

/-- A device that is listed when none is in `active_lost` takes the server to fault handling. -/
private theorem state_tick_of_listed {clock : Clock} (hnormal : r.fsm.state = .normalOperation)
    (hnone : r.activeLost = ∅)
    (hlisted : (r.reg.detectCommLost clock.nowMs cfg.timeoutMs).1 ≠ []) :
    (tick cfg clock r).fsm.state = .faultHandling := by
  obtain ⟨uri, lost, hcons⟩ := List.exists_cons_of_ne_nil hlisted
  have hmem : uri ∈ (tick cfg clock r).activeLost :=
    ((ticks_tick cfg clock r).activeLost uri).mpr (by
      rw [NewlyLost, hcons]
      exact List.mem_cons_self)
  have hloop : ((uri :: lost).foldl (reportLost cfg clock) { r with
      reg := (r.reg.detectCommLost clock.nowMs cfg.timeoutMs).2 }).fsm.state =
        .faultHandling := by
    rw [List.foldl_cons]
    refine state_foldl_reportLost lost ?_
    have hnew : uri ∉ r.activeLost := by
      rw [hnone]
      exact Finset.notMem_empty uri
    unfold reportLost
    rw [if_neg hnew]
    change (r.fsm.switchTo .faultHandling .commLost).state = _
    rw [ServerFsm.switchTo_of_allowed (by rw [hnormal]; decide)]
    rfl
  rw [← hcons] at hloop
  unfold tick at hmem ⊢
  dsimp only at hmem hloop ⊢
  split
  · next hempty =>
    rw [if_pos hempty] at hmem
    split at hmem
    · change uri ∈ Finset.filter _ _ at hmem
      rw [hempty] at hmem
      exact absurd hmem (Finset.notMem_empty uri)
    · rw [hempty] at hmem
      exact absurd hmem (Finset.notMem_empty uri)
  · exact hloop

/-- A tick decides the state anew. -/
private theorem ServerLaw.tick {clock : Clock} (h : ServerLaw r troubled) :
    ServerLaw (tick cfg clock r)
      (decide ((r.reg.detectCommLost clock.nowMs cfg.timeoutMs).1 ≠ [])) := by
  have hticks := ticks_tick cfg clock r
  by_cases hlisted : (r.reg.detectCommLost clock.nowMs cfg.timeoutMs).1 = []
  · have hnone : ∀ v, ¬NewlyLost cfg clock r v := by
      intro v
      rw [NewlyLost, hlisted]
      exact List.not_mem_nil
    have hempty : (Region.tick cfg clock r).activeLost = ∅ :=
      Finset.eq_empty_iff_forall_notMem.mpr fun v hv => hnone v ((hticks.activeLost v).mp hv)
    have hfsm := hticks.recovers hnone
    have hstate := h.state
    rw [decide_eq_false (not_not.mpr hlisted)]
    cases troubled with
    | true =>
      rw [if_pos rfl] at hstate
      rw [if_pos hstate, ServerFsm.switchTo_of_allowed (by rw [hstate]; decide)] at hfsm
      obtain ⟨episodes, hlog, hall⟩ := h.episodes
      refine ⟨by rw [hfsm]; rfl, fun hlost => absurd hempty hlost, ?_,
        episodes ++ [⟨r.fsm.state, .normalOperation, .recoverOk⟩], ?_, ?_⟩
      · rw [hfsm]
        exact h.path.concat (by rw [hstate]; decide)
      · rw [hfsm, Machine.assign_log, hlog, List.append_assoc]
      · rw [List.forall_mem_append, List.forall_mem_singleton]
        exact ⟨hall, hstate, rfl⟩
    | false =>
      rw [if_neg Bool.false_ne_true] at hstate
      rw [if_neg (by rw [hstate]; decide)] at hfsm
      exact ⟨by rw [hfsm]; exact hstate, fun hlost => absurd hempty hlost, hfsm ▸ h.path,
        hfsm ▸ h.episodes⟩
  · rw [decide_eq_true hlisted]
    obtain ⟨uri, lost, hcons⟩ := List.exists_cons_of_ne_nil hlisted
    have hsome : ∃ v, NewlyLost cfg clock r v :=
      ⟨uri, by rw [NewlyLost, hcons]; exact List.mem_cons_self⟩
    obtain ⟨hfault, hpath, hepisodes⟩ := switchTo_faultHandling (Or.inl rfl) h
    rcases hticks.remains hsome with hfsm | hfsm
    · -- The state stays, so that the server was in trouble already.
      have hstate := h.state
      cases troubled with
      | true =>
        exact ⟨by rw [hfsm]; exact hstate, fun _ => rfl, hfsm ▸ h.path, hfsm ▸ h.episodes⟩
      | false =>
        rw [if_neg Bool.false_ne_true] at hstate
        have hnone : r.activeLost = ∅ := by
          by_contra hlost
          exact Bool.false_ne_true (h.lost hlost)
        have hmoved := state_tick_of_listed hstate hnone hlisted
        rw [hfsm, hstate] at hmoved
        cases hmoved
    · exact ⟨by rw [hfsm]; exact hfault, fun _ => rfl, hfsm ▸ hpath, hfsm ▸ hepisodes⟩

/-- Every handler keeps the law. -/
theorem ServerLaw.step (h : ServerLaw r troubled) (hstep : Region.step cfg r e = some t) :
    ServerLaw t (watchTrouble cfg troubled r e t) := by
  by_cases htick : e.IsTick
  · obtain ⟨clock, rfl⟩ := Event.isTick_iff.mp htick
    cases hstep
    exact h.tick
  · have hwatch : watchTrouble cfg troubled r e t = (troubled || e.faultReport.isSome) := by
      unfold watchTrouble
      split
      · exact absurd trivial htick
      · rfl
    rw [hwatch]
    exact h.message (stores_step hstep htick)

/-- In every run the server is in fault handling exactly when the last tick has listed a device or
a fault was reported since, and in normal operation otherwise; its changes are those of the boot,
followed by faults and recoveries in turn. -/
theorem always_serverLaw (cfg : RegionConfig) (es : List Event) :
    Always (monitored (step cfg) (watchTrouble cfg)) (fun p => ServerLaw p.1 p.2)
      (start, false) es :=
  .of_monitored (fun _ _ _ _ h hstep => h.step hstep) serverLaw_start

end Region

end SmartLighting
