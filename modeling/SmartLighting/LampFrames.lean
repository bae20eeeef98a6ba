import SmartLighting.LampSteps

/-!
# What a frame does to a lamp

`on_message` of a lamp that can send, as a plain function, and the five things
that a frame can do to a lamp. Everything later goes through these five cases.
-/

namespace SmartLighting

open StateMachine Transition

namespace Lamp

variable {cfg : LampConfig} {l : Lamp}

/-- The type byte of a frame. -/
def frameType (body : Bytes) : Option MsgType := body.head?.map MsgType.mk

/-- The command in a frame. -/
def commandOf (body : Bytes) : Option Command :=
  if frameType body = some .cmd then (Reader.decode decodeCommand body.tail).toOption else none

/-- The lamp after a REGISTER_ACK that it accepts. -/
def acked (cfg : LampConfig) (l : Lamp) : Lamp :=
  (((l.assign .off .registerAck).setIntensity 0).reported cfg).scheduleHeartbeat cfg

/-- The lamp after a REGISTER_NACK. -/
def nacked (l : Lamp) : Lamp :=
  (if l.state = .registering then l.assign .unregistered .registerNack else l).scheduleReconnect

/-- The lamp after a frame. -/
def received (cfg : LampConfig) (l : Lamp) (body : Bytes) (draw : Fin 1000) : Lamp :=
  if frameType body = some .registerAck then
    if l.state = .registering ∨ l.state = .on then l.acked cfg else l
  else if frameType body = some .registerNack then l.nacked
  else
    match commandOf body with
    | some c => l.commanded cfg c draw
    | none => l

/-- What a frame can do to a lamp. -/
inductive Reaction (cfg : LampConfig) (l : Lamp) (body : Bytes) (draw : Fin 1000) : Lamp → Prop
  /-- A REGISTER_ACK is accepted. -/
  | acked (htype : frameType body = some .registerAck)
      (hstate : l.state = .registering ∨ l.state = .on) : Reaction cfg l body draw (l.acked cfg)
  /-- A REGISTER_NACK. -/
  | nacked (htype : frameType body = some .registerNack) : Reaction cfg l body draw l.nacked
  /-- A command is obeyed, and no fault follows. -/
  | obeyed (c : Command) (hc : commandOf body = some c) (hobeys : l.Obeys c)
      (hquiet : c.cmd = 2 ∨ cfg.faultProbPerMille ≤ draw.val) :
      Reaction cfg l body draw ((l.switched c).reported cfg)
  /-- A command is obeyed, and the lamp detects a fault. -/
  | faulted (c : Command) (hc : commandOf body = some c) (hobeys : l.Obeys c) (hcmd : c.cmd ≠ 2)
      (hdraw : draw.val < cfg.faultProbPerMille) :
      Reaction cfg l body draw (((l.switched c).reported cfg).detected cfg)
  /-- Nothing happens, except that a lamp that is neither on nor off keeps an intensity. -/
  | kept (v : UInt8) (hack : frameType body = some .registerAck →
        ¬(l.state = .registering ∨ l.state = .on))
      (hnack : frameType body ≠ some .registerNack)
      (hobeys : ∀ c, commandOf body = some c → ¬l.Obeys c)
      (hv : l.state = .on ∨ l.state = .off → v = l.intensity) :
      Reaction cfg l body draw (l.setIntensity v)

/-- Obeying a command changes the state and the intensity. -/
theorem switched_eq (c : Command) : l.switched c =
    { l with fsm := (l.switched c).fsm, intensity := (l.switched c).intensity } := by
  unfold switched
  split_ifs <;> rfl

/-- A lamp that obeys a switch or an intensity is then on or off. -/
theorem switched_state {c : Command} (hobeys : l.Obeys c) :
    (l.switched c).state = .on ∨ (l.switched c).state = .off := by
  unfold switched
  split
  · exact Or.inl rfl
  · next h1 =>
    split
    · exact Or.inr rfl
    · next h2 =>
      have hstate : l.state = .on ∨ l.state = .off := by
        rcases hobeys with ⟨h, -⟩ | ⟨h, -⟩ | ⟨-, h⟩
        · exact absurd h h1
        · exact absurd h h2
        · exact h
      split
      · exact Or.inr rfl
      split
      · exact Or.inl rfl
      · exact hstate

/-- A frame that is neither accepted nor obeyed. -/
private theorem reaction_self {body : Bytes} {draw : Fin 1000}
    (hack : frameType body = some .registerAck → ¬(l.state = .registering ∨ l.state = .on))
    (hnack : frameType body ≠ some .registerNack)
    (hobeys : ∀ c, commandOf body = some c → ¬l.Obeys c) : Reaction cfg l body draw l :=
  .kept l.intensity hack hnack hobeys fun _ => rfl

/-- Only a CMD frame holds a command. -/
theorem frameType_of_commandOf {body : Bytes} {c : Command} (h : commandOf body = some c) :
    frameType body = some .cmd :=
  (Option.ite_none_right_eq_some.mp h).1

/-- A frame does one of these things. -/
theorem received_reaction (cfg : LampConfig) (l : Lamp) (body : Bytes) (draw : Fin 1000) :
    Reaction cfg l body draw (l.received cfg body draw) := by
  unfold received
  split
  · next hack =>
    split
    · next hstate => exact .acked hack hstate
    · next hstate =>
      refine reaction_self (fun _ => hstate) ?_ fun c hc => ?_
      · rw [hack]
        decide
      · rw [frameType_of_commandOf hc] at hack
        cases hack
  · next hack =>
    split
    · next hnack => exact .nacked hnack
    · next hnack =>
      cases hc : commandOf body with
      | none =>
        refine reaction_self (fun h => absurd h hack) hnack fun c hc' => ?_
        rw [hc] at hc'
        cases hc'
      | some c =>
        have hother : ∀ c', commandOf body = some c' → ¬l.Obeys c → ¬l.Obeys c' := by
          intro c' hc' hnot
          rw [hc] at hc'
          cases hc'
          exact hnot
        unfold commanded
        dsimp only
        by_cases hobeys : l.Obeys c
        · rw [if_pos hobeys]
          have hstate : ((l.switched c).reported cfg).state = .on ∨
              ((l.switched c).reported cfg).state = .off := switched_state hobeys
          by_cases hcmd : c.cmd = 2
          · rw [if_pos hcmd]
            exact .obeyed c hc hobeys (Or.inl hcmd)
          · rw [if_neg hcmd, simulated]
            by_cases hdraw : (draw.val : ℤ) < cfg.faultProbPerMille
            · rw [if_pos ⟨hdraw, hstate⟩]
              exact .faulted c hc hobeys hcmd hdraw
            · rw [if_neg fun h => hdraw h.1]
              exact .obeyed c hc hobeys (Or.inr (not_lt.mp hdraw))
        · rw [if_neg hobeys]
          split
          · next h3 =>
            refine .kept c.value (fun h => absurd h hack) hnack (fun c' hc' => hother c' hc' hobeys)
              fun hstate => absurd (Or.inr (Or.inr ⟨h3, hstate⟩)) hobeys
          · exact reaction_self (fun h => absurd h hack) hnack fun c' hc' => hother c' hc' hobeys

/-- The states that the matrix connects to OFF by a direct edge. -/
private theorem mem_transitions_off : (l.state, LampState.off) ∈ transitions ↔
    l.state = .registering ∨ l.state = .on := by
  cases l.state <;> decide

private theorem mem_transitions_unregistered : (l.state, LampState.unregistered) ∈ transitions ↔
    l.state = .idle ∨ l.state = .registering := by
  cases l.state <;> decide

theorem onMessage_eq (hready : Ready cfg l) (hidle : l.state ≠ .idle) (body : Bytes)
    (draw : Fin 1000) : l.onMessage cfg body draw = .ok (l.received cfg body draw) := by
  unfold onMessage received
  cases body with
  | nil => rfl
  | cons code p =>
    have htype : ∀ t, frameType (code :: p) = some t ↔ (⟨code⟩ : MsgType) = t := fun t =>
      Option.some_inj
    simp only [htype, commandOf, List.tail_cons]
    split
    · by_cases hedge : (l.state, LampState.off) ∈ transitions
      · rw [switchToState_of_mem hedge, if_pos (mem_transitions_off.mp hedge)]
        simp only [if_true, sendStatus_eq (hready.assign.setIntensity 0)]
        rfl
      · rw [switchToState_of_not_mem hedge, if_neg (mt mem_transitions_off.mpr hedge)]
        rfl
    split
    · unfold nacked
      by_cases hedge : (l.state, LampState.unregistered) ∈ transitions
      · have hregistering := (mem_transitions_unregistered.mp hedge).resolve_left hidle
        rw [switchToState_of_mem hedge, if_pos hregistering]
      · rw [switchToState_of_not_mem hedge,
          if_neg fun h => hedge (mem_transitions_unregistered.mpr (Or.inr h))]
    split
    · cases Reader.decode decodeCommand p with
      | ok c =>
        simp only [command_eq hready]
        rfl
      | error message => rfl
    · rfl

end Lamp

end SmartLighting
