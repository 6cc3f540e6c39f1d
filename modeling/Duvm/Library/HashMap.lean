import Mathlib.Algebra.Order.BigOperators.Group.List
import Mathlib.Algebra.Order.Ring.Nat
import Mathlib.Data.Finset.Card
import Mathlib.Data.List.AList

/-!
# Hash maps

A hash map is an association list without duplicate keys, `AList` of Mathlib at
a constant family. The order of the entries is one possible iteration order; a
client which depends on iteration takes an `IterOrder`, an arbitrary
rearrangement of the entries, since a hash map promises no order.
-/

universe u v

abbrev HashMap (Key : Type u) (Value : Type v) := AList fun _ : Key => Value

/-- An iteration order: some rearrangement of the entries of a map. -/
structure IterOrder (Entry : Type u) where
  order : List Entry → List Entry
  perm : ∀ entries, (order entries).Perm entries

def IterOrder.listed (Entry : Type u) : IterOrder Entry where
  order entries := entries
  perm entries := List.Perm.refl entries

@[simp]
theorem IterOrder.mem_order {Entry : Type u} (iter : IterOrder Entry) {entry : Entry}
    {entries : List Entry} : entry ∈ iter.order entries ↔ entry ∈ entries :=
  (iter.perm entries).mem_iff

namespace HashMap

variable {Key : Type u} {Value : Type v}

def size (map : HashMap Key Value) : ℕ := map.keys.length

@[simp]
theorem size_empty : size (∅ : HashMap Key Value) = 0 := rfl

variable [DecidableEq Key]

theorem lookup_insert_eq_ite (map : HashMap Key Value) (key other : Key) (value : Value) :
    (map.insert key value).lookup other = if other = key then some value else map.lookup other := by
  split
  · next same =>
      subst same
      exact AList.lookup_insert map
  · next distinct => exact AList.lookup_insert_ne distinct

theorem lookup_erase_eq_ite (map : HashMap Key Value) (key other : Key) :
    (map.erase key).lookup other = if other = key then none else map.lookup other := by
  split
  · next same =>
      subst same
      exact AList.lookup_erase other map
  · next distinct => exact AList.lookup_erase_ne distinct

variable {key : Key} {map : HashMap Key Value} {value : Value}

theorem mem_of_lookup_eq_some (found : map.lookup key = some value) : key ∈ map :=
  AList.lookup_isSome.mp (by simp [found])

theorem exists_lookup_of_mem (present : key ∈ map) :
    ∃ value, map.lookup key = some value :=
  Option.isSome_iff_exists.mp (AList.lookup_isSome.mpr present)

theorem mem_entries_iff :
    (⟨key, value⟩ : Σ _ : Key, Value) ∈ map.entries ↔ map.lookup key = some value :=
  AList.mem_lookup_iff.symm

theorem size_insert_of_notMem (value : Value) (absent : key ∉ map) :
    size (map.insert key value) = size map + 1 := by
  rw [size, AList.keys_insert, List.erase_of_not_mem (by simpa [AList.mem_keys] using absent)]
  rfl

theorem size_insert_of_mem (value : Value) (present : key ∈ map) :
    size (map.insert key value) = size map := by
  have listed : key ∈ map.keys := AList.mem_keys.mp present
  have positive : 0 < map.keys.length := List.length_pos_of_mem listed
  rw [size, AList.keys_insert, List.length_cons, List.length_erase_of_mem listed, size]
  omega

theorem size_erase_of_mem (present : key ∈ map) :
    size (map.erase key) + 1 = size map := by
  have listed : key ∈ map.keys := AList.mem_keys.mp present
  have positive : 0 < map.keys.length := List.length_pos_of_mem listed
  rw [size, AList.keys_erase, List.length_erase_of_mem listed, size]
  omega

theorem erase_of_notMem (absent : key ∉ map) :
    map.erase key = map := by
  apply AList.ext
  exact List.kerase_of_notMem_keys fun listed => absent (AList.mem_keys.mpr listed)

theorem dlookup_kreplace (entries : List (Σ _ : Key, Value)) (key other : Key) (value : Value)
    (present : key ∈ entries.keys) :
    (entries.kreplace key value).dlookup other =
      if other = key then some value else entries.dlookup other := by
  induction entries with
  | nil => simp at present
  | cons entry rest ih =>
      rcases entry with ⟨first, old⟩
      by_cases same : key = first
      · subst same
        have replaced : List.kreplace key value (⟨key, old⟩ :: rest) = ⟨key, value⟩ :: rest :=
          List.lookmap_cons_some _ _ (by simp)
        rw [replaced]
        split
        · next equal =>
            subst equal
            rw [List.dlookup_cons_eq]
        · next distinct =>
            rw [List.dlookup_cons_ne _ _ distinct, List.dlookup_cons_ne _ _ distinct]
      · have kept : List.kreplace key value (⟨first, old⟩ :: rest) =
            ⟨first, old⟩ :: rest.kreplace key value :=
          List.lookmap_cons_none _ _ (by simp [same])
        have later : key ∈ rest.keys := by
          simpa [same] using present
        rw [kept]
        by_cases isFirst : other = first
        · subst isFirst
          have distinct : other ≠ key := fun equal => same equal.symm
          rw [List.dlookup_cons_eq, if_neg distinct, List.dlookup_cons_eq]
        · rw [List.dlookup_cons_ne _ _ isFirst, ih later, List.dlookup_cons_ne _ _ isFirst]

/-- Changing a value in place is seen under its key only. -/
theorem lookup_replace_eq_ite (present : key ∈ map) (other : Key) (value : Value) :
    (map.replace key value).lookup other =
      if other = key then some value else map.lookup other :=
  dlookup_kreplace map.entries key other value (AList.mem_keys.mp present)

/-- What is found once a value has been changed in place is the new value or was there before. -/
theorem new_or_old {key other : Key} {old value found : Value}
    (listed : map.lookup key = some old)
    (isFound : (map.replace key value).lookup other = some found) :
    other = key ∧ found = value ∨ other ≠ key ∧ map.lookup other = some found := by
  rw [lookup_replace_eq_ite (mem_of_lookup_eq_some listed)] at isFound
  split at isFound
  · next same => exact Or.inl ⟨same, (Option.some.inj isFound).symm⟩
  · next distinct => exact Or.inr ⟨distinct, isFound⟩

theorem replace_self (found : map.lookup key = some value) : map.replace key value = map := by
  apply AList.ext
  exact List.kreplace_self map.nodupKeys (mem_entries_iff.mpr found)

theorem size_replace (map : HashMap Key Value) (key : Key) (value : Value) :
    size (map.replace key value) = size map := by
  rw [size, AList.keys_replace, size]

/-- The sum of a measure of the values. -/
def total (measure : Value → ℕ) (map : HashMap Key Value) : ℕ :=
  (map.entries.map fun entry => measure entry.2).sum

theorem le_total (measure : Value → ℕ) (found : map.lookup key = some value) :
    measure value ≤ total measure map := by
  apply List.single_le_sum fun _ _ => Nat.zero_le _
  exact List.mem_map.mpr ⟨⟨key, value⟩, mem_entries_iff.mpr found, rfl⟩

theorem sum_kreplace (measure : Value → ℕ) (entries : List (Σ _ : Key, Value)) {old : Value}
    (value : Value) (found : entries.dlookup key = some old) :
    ((entries.kreplace key value).map fun entry => measure entry.2).sum + measure old =
      (entries.map fun entry => measure entry.2).sum + measure value := by
  induction entries with
  | nil => simp at found
  | cons entry rest ih =>
      rcases entry with ⟨first, stored⟩
      by_cases same : key = first
      · subst same
        have replaced : List.kreplace key value (⟨key, stored⟩ :: rest) = ⟨key, value⟩ :: rest :=
          List.lookmap_cons_some _ _ (by simp)
        rw [List.dlookup_cons_eq] at found
        rw [replaced, ← Option.some.inj found]
        simp only [List.map_cons, List.sum_cons]
        omega
      · have kept : List.kreplace key value (⟨first, stored⟩ :: rest) =
            ⟨first, stored⟩ :: rest.kreplace key value :=
          List.lookmap_cons_none _ _ (by simp [same])
        rw [List.dlookup_cons_ne _ _ same] at found
        have later := ih found
        rw [kept]
        simp only [List.map_cons, List.sum_cons]
        omega

/-- Changing a value in place changes the sum by the difference. -/
theorem total_replace (measure : Value → ℕ) {old : Value} (value : Value)
    (found : map.lookup key = some old) :
    total measure (map.replace key value) + measure old = total measure map + measure value :=
  sum_kreplace measure map.entries value found

theorem total_insert_of_notMem (measure : Value → ℕ) (value : Value) (absent : key ∉ map) :
    total measure (map.insert key value) = total measure map + measure value := by
  rw [total, AList.entries_insert_of_notMem absent, List.map_cons, List.sum_cons, Nat.add_comm]
  rfl

theorem sum_kerase (measure : Value → ℕ) (entries : List (Σ _ : Key, Value))
    (found : entries.dlookup key = some value) :
    ((entries.kerase key).map fun entry => measure entry.2).sum + measure value =
      (entries.map fun entry => measure entry.2).sum := by
  induction entries with
  | nil => simp at found
  | cons entry rest ih =>
      rcases entry with ⟨first, stored⟩
      by_cases same : key = first
      · subst same
        have erased : List.kerase key (⟨key, stored⟩ :: rest) = rest := List.kerase_cons_eq rfl
        rw [List.dlookup_cons_eq] at found
        rw [erased, List.map_cons, List.sum_cons, ← Option.some.inj found, Nat.add_comm]
      · rw [List.dlookup_cons_ne _ _ same] at found
        have kept : List.kerase key (⟨first, stored⟩ :: rest) =
            ⟨first, stored⟩ :: rest.kerase key := List.kerase_cons_ne same
        rw [kept, List.map_cons, List.sum_cons, List.map_cons, List.sum_cons, Nat.add_assoc,
          ih found]

theorem total_erase (measure : Value → ℕ) (found : map.lookup key = some value) :
    total measure (map.erase key) + measure value = total measure map :=
  sum_kerase measure map.entries found

theorem size_eq_card {keys : Finset Key} (listed : ∀ key, key ∈ map ↔ key ∈ keys) :
    size map = keys.card := by
  have same : map.keys.toFinset = keys := by
    apply Finset.ext
    intro key
    rw [List.mem_toFinset, ← listed key, AList.mem_keys]
  rw [size, ← same, List.toFinset_card_of_nodup map.keys_nodup]

omit [DecidableEq Key] in
theorem size_pos_of_mem (present : key ∈ map) :
    0 < size map :=
  List.length_pos_of_mem (AList.mem_keys.mp present)

end HashMap
