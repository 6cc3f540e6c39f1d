import Mathlib.Data.List.Basic

/-!
# Logs

A log is a list which grows at its end, one entry at a time. The entries below
the length of a log never change again, and the last entry of a given kind is
the new one or the one it was.
-/

namespace Log

universe u

variable {Entry : Type u} {log : List Entry} {entry found : Entry} {index : ℕ}

/-- An entry of a grown log is an old one or the new one. -/
theorem old_or_new (listed : (log ++ [entry])[index]? = some found) :
    log[index]? = some found ∨ index = log.length ∧ found = entry := by
  by_cases old : index < log.length
  · rw [List.getElem?_append_left old] at listed
    exact Or.inl listed
  · have last : index = log.length := by
      have bounded := (List.getElem?_eq_some_iff.mp listed).1
      simp only [List.length_append, List.length_singleton] at bounded
      omega
    subst last
    simp only [List.getElem?_concat_length, Option.some.injEq] at listed
    exact Or.inr ⟨rfl, listed.symm⟩

theorem index_lt (listed : log[index]? = some found) : index < log.length :=
  (List.getElem?_eq_some_iff.mp listed).1

/-- Old entries stay where they are. -/
theorem keep (listed : log[index]? = some found) : (log ++ [entry])[index]? = some found := by
  rw [List.getElem?_append_left (index_lt listed), listed]

/-- The last entry of a kind. -/
def last? (kind : Entry → Bool) (log : List Entry) : Option Entry := (log.filter kind).getLast?

@[simp]
theorem last?_nil (kind : Entry → Bool) : last? kind ([] : List Entry) = none := rfl

theorem last?_concat (kind : Entry → Bool) (log : List Entry) (entry : Entry) :
    last? kind (log ++ [entry]) = if kind entry then some entry else last? kind log := by
  by_cases ofKind : kind entry = true
  · simp [last?, ofKind]
  · simp [last?, ofKind]

/-- The last entry of a kind is the last one among those of a larger selection it is in. -/
theorem last?_filter_of_some {kind keep : Entry → Bool} (isLast : last? kind log = some found)
    (kept : keep found = true) : last? kind (log.filter keep) = some found := by
  unfold last? at isLast ⊢
  rcases List.getLast?_eq_some_iff.mp isLast with ⟨earlier, split⟩
  rw [List.filter_filter]
  have swapped : (log.filter fun entry => kind entry && keep entry) =
      (log.filter kind).filter keep := by
    rw [List.filter_filter]
    exact List.filter_congr fun entry _ => Bool.and_comm _ _
  rw [swapped, split, List.filter_append]
  simp [kept]

/-- The last entry of a kind is the last one of each narrower kind it belongs to. -/
theorem last?_of_narrower {kind narrower : Entry → Bool} (isLast : last? kind log = some found)
    (within : ∀ entry, narrower entry = true → kind entry = true)
    (belongs : narrower found = true) : last? narrower log = some found := by
  have narrowed := last?_filter_of_some isLast belongs
  rw [last?, List.filter_filter] at narrowed
  rw [last?, ← narrowed]
  congr 1
  apply List.filter_congr
  intro entry _
  cases isNarrower : narrower entry with
  | true => rw [within entry isNarrower, Bool.and_true]
  | false => rw [Bool.and_false]

theorem last?_filter_of_none {kind keep : Entry → Bool} (isNone : last? kind log = none) :
    last? kind (log.filter keep) = none := by
  unfold last? at isNone ⊢
  rw [List.getLast?_eq_none_iff, List.filter_eq_nil_iff] at isNone ⊢
  intro entry listed
  exact isNone entry (List.mem_of_mem_filter listed)

/-- A property of every entry and of what was logged before it. -/
def Each (Holds : List Entry → Entry → Prop) (log : List Entry) : Prop :=
  ∀ before entry after, log = before ++ entry :: after → Holds before entry

theorem each_nil {Holds : List Entry → Entry → Prop} : Each Holds [] := by
  intro before entry after empty
  simp at empty

theorem Each.concat {Holds : List Entry → Entry → Prop} (each : Each Holds log)
    (last : Holds log entry) : Each Holds (log ++ [entry]) := by
  intro before found after grown
  rcases List.eq_nil_or_concat after with rfl | ⟨init, final, rfl⟩
  · have split := List.append_inj' grown rfl
    rw [← split.1, ← (List.cons.inj split.2).1]
    exact last
  · rw [List.concat_eq_append, ← List.cons_append, ← List.append_assoc] at grown
    exact each before found init (List.append_inj' grown rfl).1

end Log
