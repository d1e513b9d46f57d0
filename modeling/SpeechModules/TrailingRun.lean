import Mathlib.Data.List.Induction
import Mathlib.Algebra.Group.Nat.Defs

/-!
# The run of hits at the end of a list

A counter that goes up at a hit and back to zero otherwise holds the length of
the run of hits at the end of what it has seen.
-/

namespace SpeechModules

variable {Item : Type*} {hit : Item → Bool}

/-- The length of the run of hits at the end of a list. -/
def trailingRun (hit : Item → Bool) (items : List Item) : Nat :=
  (items.reverse.takeWhile hit).length

@[simp]
theorem trailingRun_nil : trailingRun hit [] = 0 := rfl

@[simp]
theorem trailingRun_append_singleton (items : List Item) (item : Item) :
    trailingRun hit (items ++ [item]) =
      if hit item then trailingRun hit items + 1 else 0 := by
  unfold trailingRun
  rw [List.reverse_append, List.reverse_singleton, List.singleton_append,
    List.takeWhile_cons]
  split <;> rfl

theorem trailingRun_le_length (items : List Item) :
    trailingRun hit items ≤ items.length := by
  calc trailingRun hit items
      ≤ items.reverse.length := (List.takeWhile_prefix hit).length_le
    _ = items.length := List.length_reverse

/-- A run is at least so long when that many last items are hits. -/
theorem le_trailingRun_iff {count : Nat} (items : List Item) :
    count ≤ trailingRun hit items ↔
      count ≤ items.length ∧
        ∀ item ∈ items.drop (items.length - count), hit item = true := by
  induction items using List.reverseRecOn generalizing count with
  | nil => simp
  | append_singleton items item ih =>
      rw [trailingRun_append_singleton, List.length_append,
        List.length_singleton]
      cases count with
      | zero => simp
      | succ count =>
          rw [Nat.add_sub_add_right, Nat.add_le_add_iff_right]
          by_cases inside : count ≤ items.length
          · rw [List.drop_append_of_le_length (Nat.sub_le _ _)]
            by_cases last : hit item
            · rw [if_pos last, Nat.add_le_add_iff_right, ih,
                List.forall_mem_append]
              simp [inside, last]
            · rw [if_neg last, List.forall_mem_append]
              simp [inside, last]
          · have long := @trailingRun_le_length _ hit items
            split
            · simp only [inside, false_and, iff_false]
              omega
            · simp [inside]

/-- What holds of every beginning of a list, with one item more. -/
theorem forall_take_append_singleton {holds : List Item → Prop}
    (items : List Item) (item : Item) :
    (∀ count ≤ (items ++ [item]).length, holds ((items ++ [item]).take count)) ↔
      (∀ count ≤ items.length, holds (items.take count)) ∧
        holds (items ++ [item]) := by
  constructor
  · intro all
    refine ⟨?_, ?_⟩
    · intro count inside
      have beginning := all count (by rw [List.length_append]; omega)
      rwa [List.take_append_of_le_length inside] at beginning
    · have whole := all _ (Nat.le_refl _)
      rwa [List.take_length] at whole
  · rintro ⟨all, whole⟩ count inside
    by_cases before : count ≤ items.length
    · rw [List.take_append_of_le_length before]
      exact all count before
    · rw [List.take_of_length_le (by rw [List.length_append] at *; simp; omega)]
      exact whole

/-- The beginnings of a beginning are the beginnings no longer than it. -/
theorem forall_take_take {holds : List Item → Prop} {items : List Item} {n : Nat}
    (inside : n ≤ items.length) :
    (∀ count ≤ (items.take n).length, holds ((items.take n).take count)) ↔
      ∀ count ≤ n, holds (items.take count) := by
  rw [List.length_take, Nat.min_eq_left inside]
  apply forall₂_congr
  intro count small
  rw [List.take_take, Nat.min_eq_left small]

theorem foldlM_append_singleton_eq_some_iff {State : Type*}
    {step : State → Item → Option State} {start last : State}
    (items : List Item) (item : Item) :
    (items ++ [item]).foldlM step start = some last ↔
      ∃ middle, items.foldlM step start = some middle ∧
        step middle item = some last := by
  rw [List.foldlM_append, Option.bind_eq_bind, Option.bind_eq_some_iff]
  simp

end SpeechModules
