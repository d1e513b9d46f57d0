import Mathlib.Data.List.Basic
import Mathlib.Algebra.Group.Nat.Defs

/-!
# Chaining a step over the blocks of a list

A step that takes a state and a block of `size` items is applied to the blocks
of a list one after the other.  What is left over at the end waits for more
items.  The file says how the state and the remainder change when items are
added, which is what a buffered implementation has to follow.
-/

namespace SpeechModules

namespace BlockChain

variable {State Item : Type*} (step : State → List Item → State) (size : Nat)

/-- The state after the first blocks of a list. -/
def chain : Nat → State → List Item → State
  | 0, state, _ => state
  | count + 1, state, items =>
      chain count (step state (items.take size)) (items.drop size)

/-- The state after all whole blocks of a list. -/
def absorb (state : State) (items : List Item) : State :=
  chain step size (items.length / size) state items

/-- What follows the last whole block. -/
def remainder (items : List Item) : List Item :=
  items.drop (items.length / size * size)

section Counted

variable {step size} {state : State} {items more : List Item}

theorem chain_succ (count : Nat) (state : State) (items : List Item) :
    chain step size (count + 1) state items =
      chain step size count (step state (items.take size)) (items.drop size) :=
  rfl

theorem chain_append {count : Nat} (enough : count * size ≤ items.length) :
    chain step size count state (items ++ more) =
      chain step size count state items := by
  induction count generalizing state items with
  | zero => rfl
  | succ count ih =>
      rw [Nat.add_mul, Nat.one_mul] at enough
      have first : size ≤ items.length := by omega
      rw [chain_succ, chain_succ, List.take_append_of_le_length first,
        List.drop_append_of_le_length first]
      apply ih
      rw [List.length_drop]
      omega

theorem chain_add (first second : Nat) (state : State) (items : List Item) :
    chain step size (first + second) state items =
      chain step size second (chain step size first state items)
        (items.drop (first * size)) := by
  induction first generalizing state items with
  | zero => simp [chain]
  | succ first ih =>
      rw [Nat.add_right_comm, chain_succ, ih, chain_succ, List.drop_drop,
        Nat.add_mul, Nat.one_mul, Nat.add_comm size]

end Counted

section Added

variable {step size} {state : State} {items more : List Item}

theorem length_remainder (items : List Item) :
    (remainder size items).length = items.length % size := by
  unfold remainder
  rw [List.length_drop]
  have split := Nat.div_add_mod' items.length size
  omega

/-- Less than a block. -/
theorem absorb_short (short : items.length < size) :
    absorb step size state items = state := by
  unfold absorb
  rw [Nat.div_eq_of_lt short]
  rfl

theorem remainder_short (short : items.length < size) :
    remainder size items = items := by
  unfold remainder
  rw [Nat.div_eq_of_lt short, Nat.zero_mul, List.drop_zero]

/-- A first block. -/
theorem absorb_block (positive : 0 < size) (block : items.length = size) :
    absorb step size state (items ++ more) =
      absorb step size (step state items) more := by
  unfold absorb
  rw [List.length_append, block, Nat.add_div_left _ positive, chain_succ]
  rw [← block, List.take_left, List.drop_left]

theorem remainder_block (positive : 0 < size) (block : items.length = size) :
    remainder size (items ++ more) = remainder size more := by
  have dropped : (items ++ more).drop size = more := by
    rw [← block, List.drop_left]
  unfold remainder
  rw [List.length_append, block, Nat.add_div_left _ positive, Nat.succ_mul,
    Nat.add_comm, ← List.drop_drop, dropped]

theorem blocks_append (positive : 0 < size) (items more : List Item) :
    (items ++ more).length / size =
      items.length / size + (remainder size items ++ more).length / size := by
  have split := Nat.div_add_mod' items.length size
  rw [List.length_append, List.length_append, length_remainder]
  nth_rewrite 1 [← split]
  rw [Nat.add_assoc, Nat.mul_comm, Nat.mul_add_div positive]

theorem drop_blocks_append (items more : List Item) :
    (items ++ more).drop (items.length / size * size) =
      remainder size items ++ more :=
  List.drop_append_of_le_length (Nat.div_mul_le_self _ _)

/-- Items added to a list whose last block may not be full. -/
theorem absorb_append (positive : 0 < size) (state : State)
    (items more : List Item) :
    absorb step size state (items ++ more) =
      absorb step size (absorb step size state items)
        (remainder size items ++ more) := by
  unfold absorb
  rw [blocks_append positive, chain_add,
    chain_append (Nat.div_mul_le_self _ _), drop_blocks_append]

theorem remainder_append (positive : 0 < size) (items more : List Item) :
    remainder size (items ++ more) =
      remainder size (remainder size items ++ more) := by
  nth_rewrite 1 [remainder]
  rw [blocks_append positive, Nat.add_mul, ← List.drop_drop,
    drop_blocks_append]
  rfl

end Added

end BlockChain

end SpeechModules
