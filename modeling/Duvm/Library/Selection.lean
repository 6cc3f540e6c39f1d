import Mathlib.Data.List.Basic
import Mathlib.Data.List.Sort
import Mathlib.Order.Basic

/-!
# Selection by key

`minBy` is `Iterator::min_by_key`: the first of the entries whose key is least.
`ranked` is `sort_by_key` followed by `take`: the entries with the least keys, in
the order of their keys. The order of the keys is given as a strict comparison.
-/

universe u v

namespace Selection

variable {Entry : Type u} {Key : Type v}

/-- The first entry with the least key. -/
def minBy (less : Key → Key → Bool) (key : Entry → Key) : List Entry → Option Entry
  | [] => none
  | entry :: rest =>
      some (rest.foldl (fun best next => if less (key next) (key best) then next else best) entry)

variable {entries : List Entry}

theorem mem_of_minBy {less : Key → Key → Bool} {key : Entry → Key} {least : Entry}
    (selected : minBy less key entries = some least) : least ∈ entries := by
  cases entries with
  | nil => simp [minBy] at selected
  | cons entry rest =>
      simp only [minBy, Option.some.injEq] at selected
      subst selected
      have inside : ∀ (later : List Entry) (best : Entry),
          later.foldl (fun best next => if less (key next) (key best) then next else best) best ∈
            best :: later := by
        intro later
        induction later with
        | nil => simp
        | cons next later ih =>
            intro best
            simp only [List.foldl_cons]
            split
            · exact List.mem_cons_of_mem _ (ih next)
            · rcases List.mem_cons.mp (ih best) with isBest | isLater
              · rw [isBest]
                exact List.mem_cons_self
              · exact List.mem_cons_of_mem _ (List.mem_cons_of_mem _ isLater)
      exact inside rest entry

/-- A comparison which orders the keys up to ties. -/
structure StrictWeak (less : Key → Key → Bool) : Prop where
  irreflexive : ∀ first, less first first = false
  transitive : ∀ first second third, less second first = false → less third second = false →
    less third first = false
  asymmetric : ∀ first second, less first second = true → less second first = false

/-- No entry has a key below the selected one. -/
theorem not_less_of_minBy {less : Key → Key → Bool} {key : Entry → Key} {least entry : Entry}
    (order : StrictWeak less) (selected : minBy less key entries = some least)
    (listed : entry ∈ entries) :
    less (key entry) (key least) = false := by
  cases entries with
  | nil => simp at listed
  | cons first rest =>
      simp only [minBy, Option.some.injEq] at selected
      subst selected
      have below : ∀ (later : List Entry) (best candidate : Entry),
          less (key candidate) (key best) = false ∨ candidate ∈ later →
          less (key candidate) (key (later.foldl
            (fun best next => if less (key next) (key best) then next else best) best)) =
              false := by
        intro later
        induction later with
        | nil =>
            intro best candidate place
            rcases place with above | inNil
            · exact above
            · simp at inNil
        | cons next later ih =>
            intro best candidate place
            simp only [List.foldl_cons]
            apply ih
            rcases place with above | inLater
            · left
              split
              · next smaller =>
                  exact order.transitive _ _ _ (order.asymmetric _ _ smaller) above
              · exact above
            · rcases List.mem_cons.mp inLater with isNext | isLater
              · left
                subst isNext
                split
                · exact order.irreflexive _
                · next notSmaller => simpa using notSmaller
              · exact Or.inr isLater
      apply below
      rcases List.mem_cons.mp listed with isFirst | isRest
      · left
        rw [isFirst]
        exact order.irreflexive _
      · exact Or.inr isRest

theorem exists_minBy (less : Key → Key → Bool) (key : Entry → Key) {entry : Entry}
    (listed : entry ∈ entries) : ∃ least, minBy less key entries = some least := by
  cases entries with
  | nil => simp at listed
  | cons first rest => exact ⟨_, rfl⟩

section Ranked

variable (less : Key → Key → Bool) (key : Entry → Key)

/-- The second entry does not have to come before the first one. -/
def InOrder (first second : Entry) : Prop := less (key second) (key first) = false

instance : DecidableRel (InOrder less key) := fun _ _ => inferInstanceAs (Decidable (_ = _))

/-- The first `count` of the entries once they are sorted by key; entries with equal keys keep
their order. -/
def ranked (count : ℕ) (entries : List Entry) : List Entry :=
  (entries.insertionSort (InOrder less key)).take count

@[simp]
theorem length_ranked (count : ℕ) (entries : List Entry) :
    (ranked less key count entries).length = min count entries.length := by
  rw [ranked, List.length_take, List.length_insertionSort]

variable {less key}

theorem StrictWeak.pairwise_insertionSort (order : StrictWeak less) (entries : List Entry) :
    (entries.insertionSort (InOrder less key)).Pairwise (InOrder less key) := by
  have total : Std.Total (InOrder less key) := by
    constructor
    intro first second
    cases before : less (key second) (key first) with
    | true => exact Or.inr (order.asymmetric _ _ before)
    | false => exact Or.inl before
  have transitive : IsTrans Entry (InOrder less key) := by
    constructor
    intro first second third earlier later
    exact order.transitive _ _ _ earlier later
  exact List.pairwise_insertionSort (InOrder less key) entries

/-- The ranking splits the entries: what is kept is sorted, and nothing that is left out has to
come before it. -/
theorem StrictWeak.ranked_spec (order : StrictWeak less) (count : ℕ) (entries : List Entry) :
    ∃ omitted, (ranked less key count entries ++ omitted).Perm entries ∧
      (ranked less key count entries).Pairwise (InOrder less key) ∧
      ∀ kept ∈ ranked less key count entries, ∀ other ∈ omitted, InOrder less key kept other := by
  have sorted : (entries.insertionSort (InOrder less key)).Pairwise (InOrder less key) :=
    order.pairwise_insertionSort entries
  refine ⟨(entries.insertionSort (InOrder less key)).drop count, ?_, ?_⟩
  · rw [ranked, List.take_append_drop]
    exact List.perm_insertionSort _ _
  · rw [← List.take_append_drop count (entries.insertionSort (InOrder less key)),
      List.pairwise_append] at sorted
    exact ⟨sorted.1, sorted.2.2⟩

end Ranked

/-- The entry found by a search is the first of those which qualify. -/
theorem find?_eq_some_iff_idxOf [DecidableEq Entry] {qualifies : Entry → Bool}
    {entries : List Entry} {entry : Entry} :
    entries.find? qualifies = some entry ↔
      entry ∈ entries ∧ qualifies entry = true ∧
        ∀ other ∈ entries, qualifies other = true → entries.idxOf entry ≤ entries.idxOf other := by
  induction entries with
  | nil => simp
  | cons first rest ih =>
      by_cases isFound : qualifies first = true
      · rw [List.find?_cons_of_pos isFound]
        constructor
        · rintro ⟨⟩
          exact ⟨List.mem_cons_self, isFound, fun other _ _ => by simp⟩
        · rintro ⟨_, _, least⟩
          have atFirst := least first List.mem_cons_self isFound
          rw [List.idxOf_cons_self, Nat.le_zero] at atFirst
          by_contra different
          rw [List.idxOf_cons_ne rest fun same => different (congrArg some same)] at atFirst
          cases atFirst
      · rw [List.find?_cons_of_neg isFound, ih]
        have later : ∀ other, qualifies other = true → first ≠ other := by
          rintro other qualified rfl
          exact isFound qualified
        constructor
        · rintro ⟨listed, qualified, least⟩
          refine ⟨List.mem_cons_of_mem _ listed, qualified, ?_⟩
          intro other inside otherQualified
          rw [List.idxOf_cons_ne rest (later entry qualified),
            List.idxOf_cons_ne rest (later other otherQualified)]
          apply Nat.succ_le_succ
          refine least other ?_ otherQualified
          exact (List.mem_cons.mp inside).resolve_left (later other otherQualified).symm
        · rintro ⟨listed, qualified, least⟩
          refine ⟨(List.mem_cons.mp listed).resolve_left (later entry qualified).symm,
            qualified, ?_⟩
          intro other inside otherQualified
          have before := least other (List.mem_cons_of_mem _ inside) otherQualified
          rw [List.idxOf_cons_ne rest (later entry qualified),
            List.idxOf_cons_ne rest (later other otherQualified)] at before
          exact Nat.le_of_succ_le_succ before

end Selection
