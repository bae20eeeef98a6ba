import SmartLighting.LampSound

/-!
# The states of a lamp

The comment at the head of `luminaire_client.cpp` draws the state machine of a
lamp. Most changes go through `SwitchToState`, which looks at the pair of states
only; two assignments do not ask it. A monitor records each change of a run with
the event that caused it, and the record is compared with the drawing.
-/

namespace SmartLighting

open StateMachine Transition

namespace Lamp

variable {cfg : LampConfig} {l t : Lamp} {e : Event} {next : LampState} {label : LampLabel}

/-- The changes that the drawing allows, and a lost connection outside FAULT. -/
def Documented (c : Change LampState LampLabel) : Prop :=
  match c.label with
  | .bootDone => c.source = .idle ∧ c.target = .unregistered
  | .registerReq => c.source = .unregistered ∧ c.target = .registering
  | .registerAck => c.source = .registering ∧ c.target = .off
  | .registerNack | .timeout => c.source = .registering ∧ c.target = .unregistered
  | .switchOn | .setIntensityOn => c.source = .off ∧ c.target = .on
  | .switchOff | .setIntensityOff => c.source = .on ∧ c.target = .off
  | .faultDetected => (c.source = .on ∨ c.source = .off) ∧ c.target = .fault
  | .manualReset => c.source = .fault ∧ c.target = .idle
  | .reconnect => c.source ≠ .fault ∧ c.target = .unregistered
  | .registerAgain => False

/-- FAULT is left only by `manual_reset`. -/
theorem Documented.leaves_fault {c : Change LampState LampLabel} (h : Documented c)
    (hfault : c.source = .fault) : c.label = .manualReset := by
  unfold Documented at h
  cases hlabel : c.label <;> simp [hlabel, hfault] at h ⊢

/-- A lamp goes on only by a command. -/
theorem Documented.enters_on {c : Change LampState LampLabel} (h : Documented c)
    (hon : c.target = .on) : c.label = .switchOn ∨ c.label = .setIntensityOn := by
  unfold Documented at h
  cases hlabel : c.label <;> simp [hlabel, hon] at h ⊢

/-! ## The causes of changes -/

/-- The connection is lost: an operation on it failed. -/
def Lost : Event → Prop
  | .resolved ok | .connected ok | .handshaken ok | .writeDone _ ok => ok = false
  | .readFailed => True
  | _ => False

/-- The event is a frame of this type. -/
def Carries (type : MsgType) : Event → Prop
  | .frame body _ => frameType body = some type
  | _ => False

/-- The event is what the drawing names for a change with this label. -/
def Causes (e : Event) : LampLabel → Prop
  | .bootDone | .manualReset => e = .resetTimer
  | .registerReq | .registerAgain => e = .handshaken true
  | .registerAck => Carries .registerAck e
  | .registerNack => Carries .registerNack e
  | .timeout => e = .registerTimer false
  | .switchOn | .switchOff | .setIntensityOn | .setIntensityOff | .faultDetected => Carries .cmd e
  | .reconnect => Lost e

/-- A change with the event in whose handler it was made. -/
structure CausedChange where
  /-- The change of `state_`. -/
  change : Change LampState LampLabel
  /-- The event, or none when the lamp starts. -/
  cause : Option Event
  deriving DecidableEq

/-- The changes of a lamp that has just started. -/
def firstChanges (cfg : LampConfig) : List CausedChange :=
  (start cfg).fsm.log.map fun c => ⟨c, none⟩

/-- The monitor adds the changes that a handler made. -/
def watchChanges (record : List CausedChange) (l : Lamp) (e : Event) (t : Lamp) :
    List CausedChange :=
  record ++ (t.fsm.log.drop l.fsm.log.length).map fun c => ⟨c, some e⟩

/-- The drawing has the change, and its cause. -/
def CausedChange.Drawn (c : CausedChange) : Prop :=
  Documented c.change ∧ c.cause.elim (c.change.label = .bootDone) fun e => Causes e c.change.label

/-- FAULT is left only when the reset timer expires. -/
theorem CausedChange.Drawn.leaves_fault {c : CausedChange} (h : c.Drawn)
    (hfault : c.change.source = .fault) : c.cause = some .resetTimer := by
  obtain ⟨hdocumented, hcause⟩ := h
  rw [hdocumented.leaves_fault hfault] at hcause
  cases hc : c.cause with
  | none =>
    rw [hc] at hcause
    cases hcause
  | some e =>
    rw [hc] at hcause
    exact congrArg some hcause

/-- A lamp goes on only when a command arrives. -/
theorem CausedChange.Drawn.enters_on {c : CausedChange} (h : c.Drawn)
    (hon : c.change.target = .on) : ∃ e, c.cause = some e ∧ Carries .cmd e := by
  obtain ⟨hdocumented, hcause⟩ := h
  cases hc : c.cause with
  | none =>
    rw [hc] at hcause
    rcases hdocumented.enters_on hon with hlabel | hlabel <;> cases hlabel.symm.trans hcause
  | some e =>
    rw [hc] at hcause
    refine ⟨e, rfl, ?_⟩
    rcases hdocumented.enters_on hon with hlabel | hlabel <;> rw [hlabel] at hcause <;>
      exact hcause

/-- Every change of state so far is drawn. -/
structure Lawful (l : Lamp) (record : List CausedChange) : Prop where
  /-- The record has the changes that the lamp made. -/
  made : record.map CausedChange.change = l.fsm.log
  /-- There were no others: these lead from IDLE to the present state. -/
  leads : Leads .idle (record.map CausedChange.change) l.state
  /-- Each is drawn, with its cause. -/
  drawn : ∀ c ∈ record, c.Drawn

/-- The handler of the event makes no other change. -/
def Orderly (l : Lamp) : Event → Prop
  | .resolved false | .connected false | .handshaken false | .writeDone _ false | .readFailed =>
    l.state ≠ .fault
  | .handshaken true => l.state = .unregistered ∨ l.state = .registering
  | .frame body _ =>
    (frameType body = some .registerAck → l.state ≠ .on) ∧
      (frameType body = some .registerNack → l.state = .unregistered ∨ l.state = .registering)
  | _ => True

/-! ## What one handler adds -/

/-- The changes that lead from one lamp to another are drawn, with the event as their cause. -/
def Explains (e : Event) (l t : Lamp) : Prop :=
  ∃ news, t.fsm.log = l.fsm.log ++ news ∧ Leads l.state news t.state ∧
    ∀ c ∈ news, Documented c ∧ Causes e c.label

/-- There is only one list of added changes. -/
private theorem explains_iff_of_log {news : List (Change LampState LampLabel)}
    (hlog : t.fsm.log = l.fsm.log ++ news) (hleads : Leads l.state news t.state) :
    Explains e l t ↔ ∀ c ∈ news, Documented c ∧ Causes e c.label := by
  constructor
  · rintro ⟨news', hlog', -, hdrawn⟩
    obtain rfl := List.append_cancel_left (hlog.symm.trans hlog')
    exact hdrawn
  · intro hdrawn
    exact ⟨news, hlog, hleads, hdrawn⟩

/-- A handler that changes no state needs no explanation. -/
private theorem explains_of_fsm (hfsm : t.fsm = l.fsm) : Explains e l t :=
  ⟨[], by rw [hfsm, List.append_nil], (congrArg Machine.state hfsm).symm, nofun⟩

/-- One change is explained by itself. -/
private theorem explains_assign (hfsm : t.fsm = (l.assign next label).fsm) :
    Explains e l t ↔ Documented ⟨l.state, next, label⟩ ∧ Causes e label := by
  have hlog : t.fsm.log = l.fsm.log ++ [⟨l.state, next, label⟩] := by rw [hfsm, assign_log]
  have hstate : next = t.state := (congrArg Machine.state hfsm).symm
  rw [explains_iff_of_log hlog ⟨rfl, hstate⟩, List.forall_mem_singleton]

/-- Explanations follow one another. -/
private theorem Explains.trans {m : Lamp} (hfirst : Explains e l m) (hrest : Explains e m t) :
    Explains e l t := by
  obtain ⟨news, hlog, hleads, hdrawn⟩ := hfirst
  obtain ⟨more, hlog', hleads', hdrawn'⟩ := hrest
  refine ⟨news ++ more, ?_, (leads_append_iff hleads).mpr hleads',
    List.forall_mem_append.mpr ⟨hdrawn, hdrawn'⟩⟩
  rw [hlog', hlog, List.append_assoc]

/-- A connection is given up without a change, or because it was lost outside FAULT. -/
private theorem explains_scheduleReconnect : Explains e l l.scheduleReconnect ↔
    l.state = .unregistered ∨ l.state ≠ .fault ∧ Lost e := by
  have hleads : Leads l.state (if l.state = .unregistered then [] else
      [⟨l.state, .unregistered, LampLabel.reconnect⟩]) l.scheduleReconnect.state := by
    rw [scheduleReconnect_state]
    split
    · next hstate => exact hstate
    · exact ⟨rfl, rfl⟩
  rw [explains_iff_of_log scheduleReconnect_log hleads]
  by_cases hstate : l.state = .unregistered
  · simp [hstate]
  · rw [if_neg hstate, List.forall_mem_singleton, or_iff_right hstate]
    simp only [Documented, Causes, and_true]

/-- A lost connection is given up as drawn outside FAULT. -/
private theorem explains_lost (hlost : Lost e) :
    Explains e l l.scheduleReconnect ↔ l.state ≠ .fault := by
  rw [explains_scheduleReconnect, and_iff_left hlost]
  constructor
  · rintro (hstate | hstate)
    · rw [hstate]
      decide
    · exact hstate
  · exact Or.inr

/-- A lamp that is already unregistered gives up its connection without a change. -/
private theorem Explains.scheduleReconnect (h : Explains e l t) (hstate : t.state = .unregistered) :
    Explains e l t.scheduleReconnect :=
  h.trans (explains_scheduleReconnect.mpr (Or.inl hstate))

/-- Commands switch a lamp as drawn. -/
private theorem explains_switched {c : Command} (hobeys : l.Obeys c) (hcmd : Carries .cmd e) :
    Explains e l (l.switched c) := by
  unfold switched
  rcases hobeys with ⟨h1, hstate⟩ | ⟨h2, hstate⟩ | ⟨h3, -⟩
  · rw [if_pos h1]
    exact (explains_assign rfl).mpr ⟨⟨hstate, rfl⟩, hcmd⟩
  · have hother : c.cmd ≠ 1 := by
      rw [h2]
      decide
    rw [if_neg hother, if_pos h2]
    exact (explains_assign rfl).mpr ⟨⟨hstate, rfl⟩, hcmd⟩
  · have hother : c.cmd ≠ 1 ∧ c.cmd ≠ 2 := by
      rw [h3]
      decide
    rw [if_neg hother.1, if_neg hother.2]
    split
    · next h => exact (explains_assign rfl).mpr ⟨⟨h.2, rfl⟩, hcmd⟩
    split
    · next h => exact (explains_assign rfl).mpr ⟨⟨h.2, rfl⟩, hcmd⟩
    · exact explains_of_fsm rfl

/-- A fault is detected as drawn. -/
private theorem explains_detected (hstate : l.state = .on ∨ l.state = .off)
    (hcmd : Carries .cmd e) : Explains e l (l.detected cfg) := by
  have hfsm : (l.detected cfg).fsm = (l.assign .fault .faultDetected).fsm := by
    unfold detected
    split <;> rfl
  exact (explains_assign hfsm).mpr ⟨⟨hstate, rfl⟩, hcmd⟩

/-- A NACK is drawn while the lamp is registering. Elsewhere it gives up a working connection. -/
private theorem explains_nacked (hnack : Carries .registerNack e) (hlost : ¬Lost e) :
    Explains e l l.nacked ↔ l.state = .unregistered ∨ l.state = .registering := by
  unfold nacked
  by_cases hregistering : l.state = .registering
  · rw [if_pos hregistering, iff_true_right (Or.inr hregistering)]
    have hdrawn : Explains e l (l.assign .unregistered .registerNack) :=
      (explains_assign rfl).mpr ⟨⟨hregistering, rfl⟩, hnack⟩
    exact hdrawn.scheduleReconnect rfl
  · rw [if_neg hregistering, explains_scheduleReconnect]
    simp only [hlost, and_false, or_false, hregistering]

/-- A frame is handled as drawn, apart from an ACK while the lamp is on and a
NACK after the registration. -/
private theorem explains_reaction {body : Bytes} {draw : Fin 1000}
    (hreaction : Reaction cfg l body draw t) :
    Explains (.frame body draw) l t ↔ Orderly l (.frame body draw) := by
  have hcommand : ∀ c, commandOf body = some c →
      Carries .cmd (.frame body draw) ∧ Orderly l (.frame body draw) := by
    intro c hc
    have htype := frameType_of_commandOf hc
    refine ⟨htype, fun h => ?_, fun h => ?_⟩
    · rw [htype] at h
      cases h
    · rw [htype] at h
      cases h
  cases hreaction with
  | acked htype hstate =>
    have hfsm : (l.acked cfg).fsm = (l.assign .off .registerAck).fsm := by
      rw [acked, scheduleHeartbeat_fsm]
      rfl
    have hnack : frameType body ≠ some .registerNack := by
      rw [htype]
      decide
    have horderly : Orderly l (.frame body draw) ↔ l.state ≠ .on :=
      ⟨fun h => h.1 htype, fun h => ⟨fun _ => h, fun h' => absurd h' hnack⟩⟩
    have hdocumented : Documented ⟨l.state, .off, .registerAck⟩ ↔ l.state ≠ .on := by
      rcases hstate with h | h <;> simp [Documented, h]
    have hcause : Causes (.frame body draw) .registerAck := htype
    rw [explains_assign hfsm, and_iff_left hcause, horderly, hdocumented]
  | nacked htype =>
    have hack : frameType body ≠ some .registerAck := by
      rw [htype]
      decide
    have horderly : Orderly l (.frame body draw) ↔
        l.state = .unregistered ∨ l.state = .registering :=
      ⟨fun h => h.2 htype, fun h => ⟨fun h' => absurd h' hack, fun _ => h⟩⟩
    rw [horderly]
    exact explains_nacked htype id
  | obeyed c hc hobeys hquiet =>
    obtain ⟨hcmd, horderly⟩ := hcommand c hc
    exact iff_of_true (explains_switched hobeys hcmd) horderly
  | faulted c hc hobeys hdraw' hdraw =>
    obtain ⟨hcmd, horderly⟩ := hcommand c hc
    have hstate : ((l.switched c).reported cfg).state = .on ∨
        ((l.switched c).reported cfg).state = .off := switched_state hobeys
    have hswitched : Explains (.frame body draw) l ((l.switched c).reported cfg) :=
      explains_switched hobeys hcmd
    exact iff_of_true (hswitched.trans (explains_detected hstate hcmd)) horderly
  | kept v hack hnack hobeys hv =>
    exact iff_of_true (explains_of_fsm rfl)
      ⟨fun h hon => hack h (Or.inr hon), fun h => absurd h hnack⟩

/-- The end of a handshake is handled as drawn before a registration. -/
private theorem explains_connectedUp : Explains (.handshaken true) l (l.connectedUp cfg) ↔
    l.state = .unregistered ∨ l.state = .registering := by
  have hfsm : (l.connectedUp cfg).fsm = _ := connectedUp_fsm
  by_cases hregistering : l.state = .registering
  · rw [if_pos hregistering] at hfsm
    exact iff_of_true (explains_of_fsm hfsm) (Or.inr hregistering)
  rw [if_neg hregistering] at hfsm
  by_cases hunregistered : l.state = .unregistered
  · rw [if_pos hunregistered] at hfsm
    exact iff_of_true ((explains_assign hfsm).mpr ⟨⟨hunregistered, rfl⟩, rfl⟩)
      (Or.inl hunregistered)
  · rw [if_neg hunregistered] at hfsm
    refine iff_of_false (fun hdrawn => ?_) fun h => h.elim hunregistered hregistering
    -- The direct assignment is the first of two changes.
    have hlog : (l.connectedUp cfg).fsm.log = l.fsm.log ++
        [⟨l.state, .unregistered, .registerAgain⟩,
          ⟨.unregistered, .registering, .registerReq⟩] := by
      rw [hfsm, assign_log, assign_log, assign_state, List.append_assoc, List.singleton_append]
    have hleads : Leads l.state [⟨l.state, .unregistered, LampLabel.registerAgain⟩,
        ⟨.unregistered, .registering, .registerReq⟩] (l.connectedUp cfg).state :=
      ⟨rfl, rfl, (congrArg Machine.state hfsm).symm⟩
    exact ((explains_iff_of_log hlog hleads).mp hdrawn _ List.mem_cons_self).1

/-- The handler of an event makes drawn changes exactly when it is orderly. -/
private theorem explains_step (hsound : Sound cfg l) (h : step cfg l e = some t) :
    Explains e l t ↔ Orderly l e := by
  obtain ⟨-, hpending, rfl⟩ := step_eq hsound h
  cases e with
  | resolved ok =>
    cases ok with
    | true => exact iff_of_true (explains_of_fsm rfl) trivial
    | false => exact explains_lost rfl
  | connected ok =>
    cases ok with
    | true => exact iff_of_true (explains_of_fsm rfl) trivial
    | false => exact explains_lost rfl
  | handshaken ok =>
    cases ok with
    | true => exact explains_connectedUp
    | false => exact explains_lost rfl
  | posted =>
    obtain ⟨q, hq⟩ := hpending
    simp only [after, hq]
    exact iff_of_true (explains_of_fsm rfl) trivial
  | writeDone i ok =>
    obtain ⟨q, hq⟩ := hpending
    simp only [after, hq]
    cases ok with
    | true => exact iff_of_true (explains_of_fsm (written_fsm q)) trivial
    | false => exact explains_lost rfl
  | readFailed => exact explains_lost trivial
  | frame body draw =>
    have hreaction := received_reaction cfg { l with reads := l.reads - 1 } body draw
    have hexplains := explains_reaction hreaction
    exact hexplains
  | registerTimer cancelled =>
    refine iff_of_true ?_ trivial
    cases cancelled with
    | true => exact explains_of_fsm rfl
    | false =>
      simp only [after, Bool.false_eq_true, if_false]
      split
      · next hregistering =>
        have hdrawn : Explains (.registerTimer false) l (l.assign .unregistered .timeout) :=
          (explains_assign rfl).mpr ⟨⟨hregistering, rfl⟩, rfl⟩
        exact hdrawn.scheduleReconnect rfl
      · exact explains_of_fsm rfl
  | reconnectTimer cancelled =>
    refine iff_of_true ?_ trivial
    cases cancelled with
    | true => exact explains_of_fsm rfl
    | false => exact explains_of_fsm rfl
  | heartbeatTimer cancelled =>
    refine iff_of_true ?_ trivial
    cases cancelled with
    | true => exact explains_of_fsm rfl
    | false =>
      simp only [after, Bool.false_eq_true, if_false]
      refine explains_of_fsm ?_
      rw [scheduleHeartbeat_fsm]
      split <;> rfl
  | resetTimer =>
    refine iff_of_true ?_ trivial
    simp only [after]
    split
    · next hfault =>
      have hidle : Explains .resetTimer l (l.assign .idle .manualReset) :=
        (explains_assign rfl).mpr ⟨⟨hfault, rfl⟩, rfl⟩
      have hboot : Explains .resetTimer (l.assign .idle .manualReset)
          ((l.assign .idle .manualReset).assign .unregistered .bootDone) :=
        (explains_assign rfl).mpr ⟨⟨rfl, rfl⟩, rfl⟩
      exact (hidle.trans hboot).scheduleReconnect rfl
    · exact explains_of_fsm rfl
  | stopTimer => exact iff_of_true (explains_of_fsm rfl) trivial

/-! ## Runs -/

/-- The record stays lawful exactly when the event explains what its handler did. -/
private theorem lawful_watchChanges {record : List CausedChange} (hlaw : Lawful l record) :
    Lawful t (watchChanges record l e t) ↔ Explains e l t := by
  obtain ⟨hmade, hleads, hdrawn⟩ := hlaw
  have hnews : (watchChanges record l e t).map CausedChange.change =
      l.fsm.log ++ t.fsm.log.drop l.fsm.log.length := by
    rw [watchChanges, List.map_append, hmade, List.map_map]
    exact congrArg (l.fsm.log ++ ·) (List.map_id _)
  rw [hmade] at hleads
  constructor
  · rintro ⟨hmade', hleads', hdrawn'⟩
    rw [hnews] at hmade' hleads'
    refine ⟨_, hmade'.symm, (leads_append_iff hleads).mp hleads', fun c hc => ?_⟩
    exact hdrawn' ⟨c, some e⟩ (List.mem_append_right _ (List.mem_map_of_mem hc))
  · rintro ⟨news, hlog, hleads', hexplained⟩
    have hdrop : t.fsm.log.drop l.fsm.log.length = news := by rw [hlog, List.drop_left]
    rw [hdrop] at hnews
    refine ⟨hnews.trans hlog.symm, ?_, ?_⟩
    · rw [hnews]
      exact (leads_append_iff hleads).mpr hleads'
    · rw [watchChanges, hdrop]
      exact List.forall_mem_append.mpr ⟨hdrawn, List.forall_mem_map.mpr hexplained⟩

/-- A lamp that has just started made one change. -/
private theorem lawful_start : Lawful (start cfg) (firstChanges cfg) := by
  refine ⟨rfl, ⟨rfl, rfl⟩, fun c hc => ?_⟩
  obtain rfl := List.mem_singleton.mp hc
  exact ⟨⟨rfl, rfl⟩, rfl⟩

/-- In any run every change of state is drawn, with its cause, exactly when no
connection is lost in FAULT, no REGISTER_ACK arrives while the lamp is on, a
REGISTER_NACK arrives only before the registration is answered, and no handshake
completes after a registration. -/
theorem always_lawful_iff (es : List Event) :
    Always (monitored (step cfg) watchChanges) (fun p => Lawful p.1 p.2)
        (start cfg, firstChanges cfg) es ↔
      EachStep (step cfg) (fun l e _ => Orderly l e) (start cfg) es := by
  rw [← eachStep_monitored watchChanges (firstChanges cfg)]
  refine always_monitored_iff (J := fun l record => Lawful l record ∧ Sound cfg l)
    (C := fun l _ e => Orderly l e) (fun _ _ h => h.1) ?_ ?_ ⟨lawful_start, Sound.start⟩
  · rintro l record e t ⟨hlaw, hsound⟩ horderly h
    exact ⟨(lawful_watchChanges hlaw).mpr ((explains_step hsound h).mpr horderly), hsound.step h⟩
  · rintro l record e t ⟨hlaw, hsound⟩ hdisorder h hlaw'
    exact hdisorder ((explains_step hsound h).mp ((lawful_watchChanges hlaw).mp hlaw'))

/-- A lamp registers, is switched on, detects a fault, and loses its connection. -/
def lostInFault : List Event := registration ++ [switchOn, .readFailed]

/-- The lost connection takes the lamp out of FAULT without a reset. -/
theorem not_always_lawful_lostInFault :
    ¬Always (monitored (step faultyConfig) watchChanges) (fun p => Lawful p.1 p.2)
      (start faultyConfig, firstChanges faultyConfig) lostInFault := by
  intro h
  have hlaw := h lostInFault (List.prefix_refl _) _ rfl
  have hlost := hlaw.drawn ⟨⟨.fault, .unregistered, .reconnect⟩, some .readFailed⟩ (by decide)
  exact hlost.1.1 rfl

end Lamp

end SmartLighting
