import Mathlib.Data.List.Perm.Basic
import Mathlib.Tactic.Ring

/-!
# Cutting a list into blocks of one size

A stream that is written in pieces and read in blocks is a list that is built by
appending and taken apart from the front.  The file defines the complete blocks
of a list and says when a list of blocks is made of them.
-/

namespace SpeechModules

namespace ListBlocks

open scoped List

variable {α β : Type*} {size : Nat}

/-- The first `count` blocks of `size` elements. -/
def firstBlocks (size : Nat) : Nat → List α → List (List α)
  | 0, _ => []
  | count + 1, elements =>
      elements.take size :: firstBlocks size count (elements.drop size)

/-- The blocks of `size` elements that are complete. -/
def completeBlocks (size : Nat) (elements : List α) : List (List α) :=
  firstBlocks size (elements.length / size) elements

/-- All blocks have one size. -/
def Uniform (size : Nat) (blocks : List (List α)) : Prop :=
  ∀ block ∈ blocks, block.length = size

theorem uniform_nil : Uniform size ([] : List (List α)) := by
  intro block member
  cases member

theorem uniform_cons {block : List α} {blocks : List (List α)} :
    Uniform size (block :: blocks) ↔
      block.length = size ∧ Uniform size blocks :=
  List.forall_mem_cons

theorem uniform_append {blocks others : List (List α)} :
    Uniform size (blocks ++ others) ↔
      Uniform size blocks ∧ Uniform size others :=
  List.forall_mem_append

theorem Uniform.length_flatten {blocks : List (List α)}
    (uniform : Uniform size blocks) :
    blocks.flatten.length = blocks.length * size := by
  induction blocks with
  | nil => simp
  | cons block blocks ih =>
      obtain ⟨full, uniform⟩ := uniform_cons.mp uniform
      rw [List.flatten_cons, List.length_append, ih uniform, full,
        List.length_cons]
      ring

/-- Reading one block from the front of a list of blocks. -/
theorem Uniform.uncons {block rest : List α} {blocks : List (List α)}
    (uniform : Uniform size blocks) (positive : 0 < size)
    (full : block.length = size) (taken : block ++ rest = blocks.flatten) :
    ∃ others, blocks = block :: others ∧ rest = others.flatten := by
  cases blocks with
  | nil =>
      have empty := congrArg List.length taken
      rw [List.length_append, full] at empty
      simp at empty
      omega
  | cons first others =>
      have same : block.length = first.length := by
        rw [full, (uniform_cons.mp uniform).1]
      obtain ⟨rfl, rfl⟩ := List.append_inj taken same
      exact ⟨others, rfl, rfl⟩

theorem firstBlocks_of_prefix {blocks : List (List α)} {elements : List α}
    (uniform : Uniform size blocks) (front : blocks.flatten <+: elements) :
    firstBlocks size blocks.length elements = blocks := by
  obtain ⟨rest, rfl⟩ := front
  induction blocks with
  | nil => rfl
  | cons block blocks ih =>
      obtain ⟨rfl, uniform⟩ := uniform_cons.mp uniform
      have cut := ih uniform
      rw [List.length_cons, firstBlocks]
      simp only [List.flatten_cons, List.append_assoc, List.take_left,
        List.drop_left]
      rw [cut]

/-- The complete blocks of the first elements of a list that starts with
enough blocks. -/
theorem completeBlocks_take {blocks : List (List α)} {elements : List α}
    {count : Nat} (uniform : Uniform size blocks)
    (front : blocks.flatten <+: elements) (inside : count ≤ elements.length)
    (enough : blocks.length = count / size) :
    completeBlocks size (elements.take count) = blocks := by
  have length : (elements.take count).length = count := by
    rw [List.length_take]
    omega
  have short : blocks.flatten.length ≤ count := by
    rw [uniform.length_flatten, enough]
    exact Nat.div_mul_le_self count size
  unfold completeBlocks
  rw [length, ← enough]
  exact firstBlocks_of_prefix uniform
    (List.prefix_take_iff.mpr ⟨front, short⟩)

theorem filterMap_cons_toList (select : α → Option β) (entry : α)
    (entries : List α) :
    (entry :: entries).filterMap select =
      (select entry).toList ++ entries.filterMap select := by
  cases selected : select entry <;> simp [selected]

/-- Replacing an entry of a list replaces what is selected from it. -/
theorem filterMap_set_perm {entries : List α} {index : Nat} {entry : α}
    (located : entries[index]? = some entry) (select : α → Option β)
    (replacement : α) :
    ((select entry).toList ++
        (entries.set index replacement).filterMap select).Perm
      ((select replacement).toList ++ entries.filterMap select) := by
  obtain ⟨inRange, rfl⟩ := List.getElem?_eq_some_iff.mp located
  have before := (List.getElem_cons_eraseIdx_perm inRange).filterMap select
  have after :=
    (List.set_perm_cons_eraseIdx inRange replacement).filterMap select
  rw [filterMap_cons_toList] at before after
  calc (select entries[index]).toList ++
        (entries.set index replacement).filterMap select
    _ ~ (select entries[index]).toList ++ ((select replacement).toList ++
          (entries.eraseIdx index).filterMap select) := after.append_left _
    _ ~ (select replacement).toList ++ ((select entries[index]).toList ++
          (entries.eraseIdx index).filterMap select) := by
        rw [← List.append_assoc, ← List.append_assoc]
        exact List.perm_append_comm.append_right _
    _ ~ (select replacement).toList ++ entries.filterMap select :=
        before.append_left _

end ListBlocks

end SpeechModules
