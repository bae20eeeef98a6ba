import SmartLighting.Library.Reader

/-!
# Self-delimiting formats

A format is an encoder, which may refuse a value, with a reader of its encodings.
`Consumes` states what a reader took from the front of its input when it
succeeded. A format whose reader is exact, and takes nothing but encodings, is
self-delimiting: no encoding begins another, and no part of one is accepted.
-/

namespace Reader

variable {α β : Type}

/-- A successful reader took bytes from the front that stand in the relation `P` to its value. -/
def Consumes (get : Reader α) (P : α → Bytes → Prop) : Prop :=
  ∀ input a rest, get.run input = .ok (a, rest) → ∃ used, input = used ++ rest ∧ P a used

/-- A constant takes nothing. -/
theorem Consumes.pure {P : α → Bytes → Prop} {a : α} (h : P a []) :
    Consumes (Pure.pure a) P := by
  intro input b rest hrun
  cases hrun
  exact ⟨[], rfl, h⟩

/-- A sequence takes what its parts take, one after the other. -/
theorem Consumes.bind {get : Reader α} {next : α → Reader β} {P : α → Bytes → Prop}
    {Q : β → Bytes → Prop} (hget : Consumes get P)
    (hnext : ∀ a first, P a first → Consumes (next a) fun b second => Q b (first ++ second)) :
    Consumes (get >>= next) Q := by
  intro input b rest hrun
  obtain ⟨a, middle, hfirst, hsecond⟩ := run_bind_eq_ok.mp hrun
  obtain ⟨first, rfl, ha⟩ := hget input a middle hfirst
  obtain ⟨second, rfl, hb⟩ := hnext a first ha middle b rest hsecond
  exact ⟨first ++ second, (List.append_assoc ..).symm, hb⟩

/-- A result that is computed at the end takes nothing more. -/
theorem Consumes.bind_pure {get : Reader α} {f : α → β} {P : α → Bytes → Prop}
    {Q : β → Bytes → Prop} (hget : Consumes get P) (h : ∀ a used, P a used → Q (f a) used) :
    Consumes (get >>= fun a => Pure.pure (f a)) Q := by
  refine hget.bind fun a used ha => .pure ?_
  rw [List.append_nil]
  exact h a used ha

/-- A counted sequence takes the encodings of its elements. -/
theorem Consumes.times {get : Reader α} {encode : α → Bytes}
    (h : Consumes get fun a used => used = encode a) (n : ℕ) :
    Consumes (times n get) fun as used => as.length = n ∧ used = as.flatMap encode := by
  induction n with
  | zero => exact .pure ⟨rfl, rfl⟩
  | succ n ih =>
    refine h.bind fun a first hfirst => ih.bind_pure fun as used has => ?_
    obtain ⟨hlength, rfl⟩ := has
    constructor
    · rw [List.length_cons, hlength]
    · rw [hfirst, List.flatMap_cons]

/-- What a reader takes says what it can return. -/
theorem Consumes.yields {get : Reader α} {P : α → Bytes → Prop} {Q : α → Prop}
    (h : Consumes get P) (hvalue : ∀ a used, P a used → Q a) : Yields get Q := by
  intro input a rest hrun
  obtain ⟨used, -, ha⟩ := h input a rest hrun
  exact hvalue a used ha

/-- A reader that fails on an input decodes nothing from it. -/
theorem decode_eq_error {get : Reader α} {input : Bytes}
    (h : ∀ a rest, get.run input ≠ .ok (a, rest)) : ∃ e, decode get input = .error e := by
  unfold decode
  cases hrun : get.run input with
  | error e => exact ⟨e, rfl⟩
  | ok result => exact absurd hrun (h result.1 result.2)

/-- An exact reader decodes its encoding whatever follows it. -/
theorem Exact.decode_append {get : Reader α} {encoding : Bytes} {a : α}
    (h : Exact get encoding a) (t : Bytes) : decode get (encoding ++ t) = .ok a := by
  unfold decode
  rw [h t]

/-- The encoder and the reader of a format: the reader is exact on each encoding, and what it
takes is an encoding of the value that it returns. -/
structure Format (encode : α → Except String Bytes) (get : Reader α) : Prop where
  /-- Encodings are recovered. -/
  exact : ∀ a b, encode a = .ok b → Exact get b a
  /-- Nothing but encodings is accepted. -/
  consumes : Consumes get fun a b => encode a = .ok b

/-- What a self-delimiting format guarantees, where exactly the values in `fits` are encoded. -/
structure SelfDelimiting (encode : α → Except String Bytes) (get : Reader α) (fits : α → Prop) :
    Prop where
  /-- The encoder throws exactly on the values that do not fit. -/
  refused : ∀ a, (∃ e, encode a = .error e) ↔ ¬fits a
  /-- An encoding is decoded whatever follows it. -/
  recovered : ∀ a b, encode a = .ok b → ∀ t, decode get (b ++ t) = .ok a
  /-- A strict prefix of an encoding is rejected. -/
  truncated : ∀ a b, encode a = .ok b → ∀ p, p <+: b → p ≠ b → ∃ e, decode get p = .error e
  /-- What is accepted begins with the encoding of the decoded value. -/
  canonical : ∀ b a, decode get b = .ok a → ∃ c, encode a = .ok c ∧ c <+: b
  /-- Values with the same encoding are equal. -/
  injective : ∀ a a' b, encode a = .ok b → encode a' = .ok b → a = a'

variable {encode : α → Except String Bytes} {get : Reader α}

/-- A reader of a format that succeeds on a part of some bytes reads the same from all of them. -/
theorem Format.run_append (h : Format encode get) {p rest : Bytes} {a : α}
    (hrun : get.run p = .ok (a, rest)) (more : Bytes) :
    get.run (p ++ more) = .ok (a, rest ++ more) := by
  obtain ⟨used, rfl, hused⟩ := h.consumes p a rest hrun
  rw [List.append_assoc]
  exact h.exact a used hused (rest ++ more)

/-- A strict prefix of an encoding is not read: the reader would stop before its end. -/
theorem Format.truncated (h : Format encode get) {a : α} {b p : Bytes} (hb : encode a = .ok b)
    (hcut : p <+: b) (hne : p ≠ b) : ∃ e, decode get p = .error e := by
  obtain ⟨more, rfl⟩ := hcut
  refine decode_eq_error fun a' rest hrun => ?_
  have hexact := h.exact a _ hb []
  rw [List.append_nil, h.run_append hrun more] at hexact
  have hrest : rest ++ more = [] := congrArg Prod.snd (Except.ok.inj hexact)
  rw [(List.append_eq_nil_iff.mp hrest).2, List.append_nil] at hne
  exact hne rfl

/-- A format is self-delimiting. -/
theorem Format.selfDelimiting {fits : α → Prop} (h : Format encode get)
    (hfits : ∀ a, (∃ b, encode a = .ok b) ↔ fits a) : SelfDelimiting encode get fits where
  refused a := by
    rw [← hfits a]
    cases encode a with
    | error e => simp
    | ok b => simp
  recovered a b hb t := (h.exact a b hb).decode_append t
  truncated a b hb p hcut hne := h.truncated hb hcut hne
  canonical b a hdecode := by
    obtain ⟨rest, hrun⟩ := run_of_decode hdecode
    obtain ⟨used, rfl, hused⟩ := h.consumes b a rest hrun
    exact ⟨used, hused, List.prefix_append used rest⟩
  injective a a' b ha ha' := (h.exact a b ha).inj (h.exact a' b ha')

end Reader
