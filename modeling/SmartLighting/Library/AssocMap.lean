import Mathlib.Data.List.AList
import Mathlib.Data.List.Induction

/-!
# Finite maps as association lists

A finite map is an association list without repeated keys. Mathlib provides the
lists, lookup and insertion; this file adds the update of all values at once,
and maps that are filled in a loop.
-/

/-- A finite map from `α` to `β`. The order of its entries is the order of iteration. -/
abbrev AssocMap (α β : Type) := AList (fun _ : α => β)

namespace AssocMap

variable {α β : Type}

/-- Apply a function to the value of every entry. -/
def mapValues (f : β → β) (m : AssocMap α β) : AssocMap α β where
  entries := m.entries.map fun entry => ⟨entry.1, f entry.2⟩
  nodupKeys := by
    have hkeys : (m.entries.map fun entry => (⟨entry.1, f entry.2⟩ : Sigma fun _ : α => β)).keys
        = m.entries.keys := by simp [List.keys]
    rw [List.NodupKeys, hkeys]
    exact m.nodupKeys

/-- There is one key for each entry. -/
theorem length_keys (m : AssocMap α β) : m.keys.length = m.entries.length := List.length_map _

variable [DecidableEq α]

/-- Updating all values updates what is found under each key. -/
@[simp] theorem lookup_mapValues (f : β → β) (m : AssocMap α β) (a : α) :
    (mapValues f m).lookup a = (m.lookup a).map f := by
  obtain ⟨entries, hnodup⟩ := m
  simp only [AList.lookup, mapValues]
  induction entries with
  | nil => rfl
  | cons entry entries ih =>
    obtain ⟨k, v⟩ := entry
    by_cases h : a = k
    · subst h
      simp
    · have htail := (List.nodupKeys_cons.mp hnodup).2
      simpa [h, Ne.symm h] using ih htail

/-- An entry is listed exactly when lookup finds it. -/
theorem mem_entries_iff (m : AssocMap α β) (a : α) (b : β) :
    (⟨a, b⟩ : Sigma fun _ : α => β) ∈ m.entries ↔ m.lookup a = some b :=
  (List.mem_dlookup_iff m.nodupKeys).symm

/-- Maps in which the same keys are found have the same number of entries. -/
theorem length_entries_of_isSome {γ : Type} {m : AssocMap α β} {n : AssocMap α γ}
    (h : ∀ a, (n.lookup a).isSome = (m.lookup a).isSome) :
    n.entries.length = m.entries.length := by
  have hperm : n.keys.Perm m.keys := by
    refine (List.perm_ext_iff_of_nodup n.keys_nodup m.keys_nodup).mpr fun a => ?_
    rw [← AList.mem_keys, ← AList.mem_keys, ← AList.lookup_isSome, ← AList.lookup_isSome, h]
  rw [← length_keys, ← length_keys, hperm.length_eq]

/-- Lookup after an insertion. -/
theorem lookup_insert_eq (m : AssocMap α β) (a k : α) (b : β) :
    (m.insert k b).lookup a = if a = k then some b else m.lookup a := by
  split
  · next h => rw [h, AList.lookup_insert]
  · next h => exact AList.lookup_insert_ne h

/-! ## Maps that are filled in a loop -/

variable {ε : Type} {key : ε → α} {value : ε → β}

/-- The last insertion under a key wins; keys that are not inserted keep what they had. -/
theorem lookup_foldl_insert (l : List ε) (m : AssocMap α β) (a : α) :
    (l.foldl (fun m e => m.insert (key e) (value e)) m).lookup a =
      ((l.filter fun e => key e = a).getLast?.map value).or (m.lookup a) := by
  induction l using List.reverseRecOn with
  | nil => rfl
  | append_singleton l e ih =>
    rw [List.foldl_concat, lookup_insert_eq, List.filter_append]
    by_cases h : a = key e
    · simp [h]
    · simp [h, Ne.symm h, ih]

/-- A loop of insertions adds at most one entry in each pass. -/
theorem length_foldl_insert_le (l : List ε) (m : AssocMap α β) :
    (l.foldl (fun m e => m.insert (key e) (value e)) m).keys.length ≤
      m.keys.length + l.length := by
  induction l generalizing m with
  | nil => exact le_rfl
  | cons e l ih =>
    have hinsert : (m.insert (key e) (value e)).keys.length ≤ m.keys.length + 1 := by
      rw [AList.keys_insert, List.length_cons]
      exact Nat.succ_le_succ List.length_erase_le
    have htail := ih (m.insert (key e) (value e))
    rw [List.foldl_cons, List.length_cons]
    omega

/-- When no key is inserted twice, exactly the inserted values are found. -/
theorem lookup_foldl_insert_of_nodup {l : List ε} (h : (l.map key).Nodup) (a : α) (b : β) :
    (l.foldl (fun m e => m.insert (key e) (value e)) (∅ : AssocMap α β)).lookup a = some b ↔
      ∃ e ∈ l, key e = a ∧ value e = b := by
  rw [lookup_foldl_insert, AList.lookup_empty, Option.or_none]
  constructor
  · intro hlast
    obtain ⟨e, he, rfl⟩ := Option.map_eq_some_iff.mp hlast
    obtain ⟨hmem, hkey⟩ := List.mem_filter.mp (List.mem_of_getLast? he)
    exact ⟨e, hmem, of_decide_eq_true hkey, rfl⟩
  · rintro ⟨e, he, rfl, rfl⟩
    have hmem : e ∈ l.filter fun e' => key e' = key e :=
      List.mem_filter.mpr ⟨he, decide_eq_true rfl⟩
    obtain ⟨e', he'⟩ := Option.isSome_iff_exists.mp
      (List.getLast?_isSome.mpr (List.ne_nil_of_mem hmem))
    obtain ⟨hmem', hkey'⟩ := List.mem_filter.mp (List.mem_of_getLast? he')
    obtain rfl := List.inj_on_of_nodup_map h hmem' he (of_decide_eq_true hkey')
    rw [he', Option.map_some]

/-- The values of a map are found under the keys of any list that has them all. -/
theorem values_perm (m : AssocMap α β) {l : List α} (hl : l.Nodup) (hkeys : ∀ a ∈ m.keys, a ∈ l) :
    (m.entries.map Sigma.snd).Perm (l.filterMap m.lookup) := by
  have hvalues : m.entries.map Sigma.snd = m.keys.filterMap m.lookup := by
    rw [AList.keys, List.keys, List.filterMap_map, ← List.filterMap_eq_map]
    refine List.filterMap_congr fun entry hentry => ?_
    exact ((mem_entries_iff m entry.1 entry.2).mp hentry).symm
  have hfound : m.keys.Perm (l.filter fun a => (m.lookup a).isSome) := by
    refine (List.perm_ext_iff_of_nodup m.keys_nodup (hl.filter _)).mpr fun a => ?_
    rw [List.mem_filter, AList.lookup_isSome, AList.mem_keys]
    exact ⟨fun h => ⟨hkeys a h, h⟩, And.right⟩
  have hrest : (l.filter fun a => (m.lookup a).isSome).filterMap m.lookup = l.filterMap m.lookup := by
    rw [List.filterMap_filter]
    refine List.filterMap_congr fun a _ => ?_
    cases m.lookup a with
    | none => rfl
    | some b => rfl
  rw [hvalues, ← hrest]
  exact hfound.filterMap _

/-! ## Maps that are accumulated in a loop -/

/-- Update the value of one key, which starts from `init` where it is new. -/
def modify (m : AssocMap α β) (a : α) (init : β) (f : β → β) : AssocMap α β :=
  m.insert a (f ((m.lookup a).getD init))

/-- A loop that updates, for each element, the value of at most one key leaves under a key the
fold of all elements with this key. -/
theorem lookup_foldl_modify {step : AssocMap α β → ε → AssocMap α β} {keyOf : ε → Option α}
    {init : β} {f : β → ε → β}
    (hstep : ∀ m e, step m e = (keyOf e).elim m fun k => modify m k init fun b => f b e)
    (l : List ε) (a : α) :
    (l.foldl step ∅).lookup a =
      if l.filter (fun e => keyOf e = some a) = [] then none
      else some ((l.filter fun e => keyOf e = some a).foldl f init) := by
  induction l using List.reverseRecOn with
  | nil => rfl
  | append_singleton l e ih =>
    rw [List.foldl_concat, hstep, List.filter_append]
    cases hkey : keyOf e with
    | none => simp [hkey, ih]
    | some k =>
      rw [Option.elim_some, modify, lookup_insert_eq]
      by_cases ha : a = k
      · -- Whether the key is new or not, the value so far is the fold so far.
        subst ha
        have hsofar : ((l.foldl step ∅).lookup a).getD init =
            (l.filter fun e => keyOf e = some a).foldl f init := by
          rw [ih]
          split
          · next hnil => rw [hnil]; rfl
          · rfl
        simp [hkey, hsofar, List.foldl_append]
      · simp [hkey, ha, Ne.symm ha, ih]

/-- The keys after such a loop are those of its elements. -/
theorem isSome_lookup_foldl_modify {step : AssocMap α β → ε → AssocMap α β}
    {keyOf : ε → Option α} {init : β} {f : β → ε → β}
    (hstep : ∀ m e, step m e = (keyOf e).elim m fun k => modify m k init fun b => f b e)
    (l : List ε) (a : α) :
    ((l.foldl step ∅).lookup a).isSome ↔ ∃ e ∈ l, keyOf e = some a := by
  rw [lookup_foldl_modify hstep]
  split
  · next hnil =>
    have hnone := List.filter_eq_nil_iff.mp hnil
    simp only [decide_eq_true_eq] at hnone
    simp only [Option.isSome_none, Bool.false_eq_true, false_iff, not_exists, not_and]
    exact hnone
  · next hne =>
    obtain ⟨e, he⟩ := List.exists_mem_of_ne_nil _ hne
    obtain ⟨hmem, hkey⟩ := List.mem_filter.mp he
    exact iff_of_true rfl ⟨e, hmem, of_decide_eq_true hkey⟩

end AssocMap
