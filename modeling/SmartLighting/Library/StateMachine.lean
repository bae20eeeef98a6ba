import Mathlib.Data.List.Basic

/-!
# Machines driven by a transition matrix

A machine holds its current state and moves along the edges of a matrix of
allowed pairs. A request for any other pair is refused and changes nothing. Each
change of state is recorded with the label of the request, as a console log is.
-/

namespace StateMachine

/-- One change of state and the label it was requested under. -/
structure Change (S L : Type) where
  /-- The state before the change. -/
  source : S
  /-- The state after the change. -/
  target : S
  /-- The label of the request. -/
  label : L
  deriving DecidableEq

/-- A current state and the changes made so far, oldest first. -/
structure Machine (S L : Type) where
  /-- The current state. -/
  state : S
  /-- The record of all changes. -/
  log : List (Change S L)
  deriving DecidableEq

/-- The changes lead from one state to another, each along an edge of the matrix. -/
def IsPath {S L : Type} (matrix : List (S × S)) : S → List (Change S L) → S → Prop
  | s, [], t => s = t
  | s, c :: changes, t => c.source = s ∧ (s, c.target) ∈ matrix ∧ IsPath matrix c.target changes t

/-- The changes lead from one state to another, each from where the one before has led. -/
def Leads {S L : Type} : S → List (Change S L) → S → Prop
  | s, [], t => s = t
  | s, c :: changes, t => c.source = s ∧ Leads c.target changes t

variable {S L : Type} {m : Machine S L} {next : S} {label : L}

/-- What leads on from one state leads on from where it came. -/
theorem leads_append_iff {s t u : S} {changes more : List (Change S L)} (h : Leads s changes t) :
    Leads s (changes ++ more) u ↔ Leads t more u := by
  induction changes generalizing s with
  | nil =>
    obtain rfl : s = t := h
    exact Iff.rfl
  | cons c changes ih =>
    obtain ⟨hsource, hrest⟩ := h
    rw [List.cons_append, Leads, and_iff_right hsource]
    exact ih hrest

/-- A path is a list of changes that leads on, each along an edge. -/
theorem isPath_iff {matrix : List (S × S)} {s t : S} {changes : List (Change S L)} :
    IsPath matrix s changes t ↔
      Leads s changes t ∧ ∀ c ∈ changes, (c.source, c.target) ∈ matrix := by
  induction changes generalizing s with
  | nil => exact (and_iff_left nofun).symm
  | cons c changes ih =>
    rw [IsPath, Leads, ih, List.forall_mem_cons]
    constructor
    · rintro ⟨hsource, hedge, hleads, hedges⟩
      exact ⟨⟨hsource, hleads⟩, hsource.symm ▸ hedge, hedges⟩
    · rintro ⟨⟨hsource, hleads⟩, hedge, hedges⟩
      exact ⟨hsource, hsource ▸ hedge, hleads, hedges⟩

/-- A path goes on along one more edge. -/
theorem IsPath.concat {matrix : List (S × S)} {s t : S} {changes : List (Change S L)}
    (h : IsPath matrix s changes t) (hedge : (t, next) ∈ matrix) :
    IsPath matrix s (changes ++ [⟨t, next, label⟩]) next := by
  obtain ⟨hleads, hedges⟩ := isPath_iff.mp h
  refine isPath_iff.mpr ⟨(leads_append_iff hleads).mpr ⟨rfl, rfl⟩, ?_⟩
  exact List.forall_mem_append.mpr ⟨hedges, List.forall_mem_singleton.mpr hedge⟩

namespace Machine

/-- Change the state without consulting the matrix. -/
def assign (m : Machine S L) (next : S) (label : L) : Machine S L :=
  ⟨next, m.log ++ [⟨m.state, next, label⟩]⟩

@[simp] theorem assign_state : (m.assign next label).state = next := rfl

@[simp] theorem assign_log :
    (m.assign next label).log = m.log ++ [⟨m.state, next, label⟩] := rfl

variable [DecidableEq S] {matrix : List (S × S)}

/-- Move along an edge of the matrix. The flag says whether the move was allowed. -/
def switchTo (matrix : List (S × S)) (m : Machine S L) (next : S) (label : L) :
    Bool × Machine S L :=
  if (m.state, next) ∈ matrix then (true, m.assign next label) else (false, m)

/-- An edge of the matrix is taken. -/
theorem switchTo_of_mem (h : (m.state, next) ∈ matrix) :
    m.switchTo matrix next label = (true, m.assign next label) := if_pos h

/-- A pair outside the matrix is refused. -/
theorem switchTo_of_not_mem (h : (m.state, next) ∉ matrix) :
    m.switchTo matrix next label = (false, m) := if_neg h

/-- A request that was just made is refused, unless the matrix has a loop there. -/
theorem switchTo_switchTo (h : (next, next) ∉ matrix) :
    (m.switchTo matrix next label).2.switchTo matrix next label =
      (false, (m.switchTo matrix next label).2) := by
  by_cases hedge : (m.state, next) ∈ matrix
  · rw [switchTo_of_mem hedge]
    exact switchTo_of_not_mem h
  · rw [switchTo_of_not_mem hedge]
    exact switchTo_of_not_mem hedge

end Machine

end StateMachine
