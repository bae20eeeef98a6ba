import Mathlib.Data.List.Basic

/-!
# Readers of byte strings

A reader consumes bytes from the front of its input and returns a value, or
fails with a message. `Exact` states that a reader recovers a value from a given
encoding whatever bytes follow it; `Yields` bounds the values that it can return
at all. The rules compose both along sequences and counted loops.
-/

/-- A string of bytes. -/
abbrev Bytes := List UInt8

/-- A computation that consumes bytes and may fail with a message. -/
abbrev Reader := StateT Bytes (Except String)

namespace Reader

variable {α β : Type}

/-- Read from the front of a byte string and ignore what is left over. -/
def decode (get : Reader α) (input : Bytes) : Except String α :=
  match get.run input with
  | .ok (a, _) => .ok a
  | .error e => .error e

/-- A decoded value was read, and something may be left over. -/
theorem run_of_decode {get : Reader α} {input : Bytes} {a : α} (h : decode get input = .ok a) :
    ∃ rest, get.run input = .ok (a, rest) := by
  unfold decode at h
  cases hrun : get.run input with
  | error e =>
    rw [hrun] at h
    cases h
  | ok result =>
    rw [hrun] at h
    cases h
    exact ⟨result.2, rfl⟩

/-- A sequence of two readers succeeds when both do. -/
theorem run_bind_eq_ok {get : Reader α} {next : α → Reader β} {input rest : Bytes} {b : β} :
    (get >>= next).run input = .ok (b, rest) ↔
      ∃ a middle, get.run input = .ok (a, middle) ∧ (next a).run middle = .ok (b, rest) := by
  rw [StateT.run_bind]
  cases hget : get.run input with
  | error e => simp [Bind.bind, Except.bind]
  | ok result =>
    obtain ⟨a, middle⟩ := result
    constructor
    · intro hnext
      exact ⟨a, middle, rfl, hnext⟩
    · rintro ⟨a', middle', heq, hnext⟩
      cases heq
      exact hnext

/-- Read a counted sequence of values. -/
def times : ℕ → Reader α → Reader (List α)
  | 0, _ => return []
  | n + 1, get => do
    let a ← get
    let as ← times n get
    return a :: as

/-- The reader recovers `a` from `encoding`, and stops exactly at its end. -/
def Exact (get : Reader α) (encoding : Bytes) (a : α) : Prop :=
  ∀ rest, get.run (encoding ++ rest) = .ok (a, rest)

/-- A constant reads nothing. -/
theorem Exact.pure (a : α) : Exact (Pure.pure a) [] a := fun _ => rfl

/-- Exact readers in sequence read the concatenated encodings. -/
theorem Exact.bind {get : Reader α} {next : α → Reader β} {first second : Bytes} {a : α} {b : β}
    (hget : Exact get first a) (hnext : Exact (next a) second b) :
    Exact (get >>= next) (first ++ second) b := by
  intro rest
  rw [StateT.run_bind, List.append_assoc, hget]
  exact hnext rest

/-- A result that is computed at the end reads nothing more. -/
theorem Exact.bind_pure {get : Reader α} {encoding : Bytes} {a : α} (h : Exact get encoding a)
    (f : α → β) : Exact (get >>= fun x => Pure.pure (f x)) encoding (f a) := by
  have hpure : Exact (Pure.pure (f a)) [] (f a) := .pure (f a)
  have hbind : Exact (get >>= fun x => Pure.pure (f x)) (encoding ++ []) (f a) := h.bind hpure
  rwa [List.append_nil] at hbind

/-- An exact reader recovers a sequence from the concatenated encodings. -/
theorem Exact.times {get : Reader α} {encode : α → Bytes} {as : List α}
    (h : ∀ a ∈ as, Exact get (encode a) a) :
    Exact (times as.length get) (as.flatMap encode) as := by
  induction as with
  | nil => exact .pure []
  | cons a as ih =>
    have htail := ih fun b hb => h b (List.mem_cons_of_mem a hb)
    exact (h a List.mem_cons_self).bind (htail.bind_pure fun as => a :: as)

/-- A reader that stops at the end of its input goes on where there is more. -/
theorem Exact.unless_empty {first : Reader α} {next : Reader α} {encoding : Bytes} {a : α}
    (hne : encoding ≠ []) (hnext : Exact next encoding a) :
    Exact (do if (← get) = [] then first else next) encoding a := by
  intro rest
  have hmore : encoding ++ rest ≠ [] := fun h => hne (List.append_eq_nil_iff.mp h).1
  rw [StateT.run_bind, StateT.run_get]
  simp only [pure_bind, if_neg hmore]
  exact hnext rest

/-- An exact reader decodes the encoding alone. -/
theorem Exact.decode_eq {get : Reader α} {encoding : Bytes} {a : α} (h : Exact get encoding a) :
    decode get encoding = .ok a := by
  have hrun := h []
  rw [List.append_nil] at hrun
  simp only [decode, hrun]

/-- After a part that was encoded, the rest of the reader goes on with the rest of the input. -/
theorem Exact.decode_bind {get : Reader α} {next : α → Reader β} {encoding : Bytes} {a : α}
    (h : Exact get encoding a) (rest : Bytes) :
    decode (get >>= next) (encoding ++ rest) = decode (next a) rest := by
  unfold decode
  rw [StateT.run_bind, h]
  rfl

/-- An encoding determines what is read from it. -/
theorem Exact.inj {get : Reader α} {encoding : Bytes} {a b : α} (ha : Exact get encoding a)
    (hb : Exact get encoding b) : a = b := by
  have hrun := (ha []).symm.trans (hb [])
  cases hrun
  rfl

/-- A result that is found without its error is the result. -/
theorem decode_of_toOption {get : Reader α} {input : Bytes} {a : α}
    (h : (decode get input).toOption = some a) : decode get input = .ok a := by
  cases hresult : decode get input with
  | error e =>
    rw [hresult] at h
    cases h
  | ok b =>
    rw [hresult] at h
    rw [Option.some.inj h]

/-- Every value that the reader can return satisfies `P`. -/
def Yields (get : Reader α) (P : α → Prop) : Prop :=
  ∀ input a rest, get.run input = .ok (a, rest) → P a

/-- A constant satisfies what holds of it. -/
theorem Yields.pure {P : α → Prop} {a : α} (h : P a) : Yields (Pure.pure a) P := by
  intro input b rest hrun
  cases hrun
  exact h

/-- In a sequence the second reader may use what the first one guarantees. -/
theorem Yields.bind {get : Reader α} {next : α → Reader β} {P : α → Prop} {Q : β → Prop}
    (hget : Yields get P) (hnext : ∀ a, P a → Yields (next a) Q) : Yields (get >>= next) Q := by
  intro input b rest hrun
  obtain ⟨a, middle, hfirst, hsecond⟩ := run_bind_eq_ok.mp hrun
  exact hnext a (hget input a middle hfirst) middle b rest hsecond

/-- Nothing is known of what a reader returns. -/
theorem Yields.trivial {get : Reader α} : Yields get fun _ => True := fun _ _ _ _ => True.intro

/-- A counted sequence has its length, and all its values are as one of them. -/
theorem Yields.times {get : Reader α} {P : α → Prop} (h : Yields get P) (n : ℕ) :
    Yields (times n get) fun as => as.length = n ∧ ∀ a ∈ as, P a := by
  induction n with
  | zero => exact .pure ⟨rfl, List.forall_mem_nil P⟩
  | succ n ih =>
    refine h.bind fun a ha => ih.bind fun as has => Yields.pure ?_
    constructor
    · rw [List.length_cons, has.1]
    · exact List.forall_mem_cons.mpr ⟨ha, has.2⟩

/-- What a reader guarantees holds of every decoded value. -/
theorem Yields.of_decode {get : Reader α} {P : α → Prop} (h : Yields get P) {input : Bytes} {a : α}
    (hdecode : decode get input = .ok a) : P a := by
  obtain ⟨rest, hrun⟩ := run_of_decode hdecode
  exact h input a rest hrun

/-- The same where the error is dropped. -/
theorem Yields.of_toOption {get : Reader α} {P : α → Prop} (h : Yields get P) {input : Bytes}
    {a : α} (hdecode : (decode get input).toOption = some a) : P a :=
  h.of_decode (decode_of_toOption hdecode)

end Reader
