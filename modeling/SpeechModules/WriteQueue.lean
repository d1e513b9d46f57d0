import Mathlib.Algebra.Group.Nat.Defs
import Mathlib.Data.List.Basic

/-!
# The array behind a queue

`QUEUE_DECL` of `libs/libhv/base/queue.h`: a queue in an array that grows by
doubling, whose live slots move to the front when the end of the array is
reached.  The write queue of a connection is one.
-/

namespace SpeechModules

/-- The `struct qtype` of `QUEUE_DECL`: the slots from `offset` on hold the
queue, the others hold whatever was there before. -/
structure ArrayQueue (α : Type) where
  ptr : List α
  size : Nat
  offset : Nat
  inside : offset + size ≤ ptr.length

namespace ArrayQueue

variable {α : Type} [Inhabited α]

/-- The capacity of the array. -/
def maxsize (queue : ArrayQueue α) : Nat :=
  queue.ptr.length

/-- The array before the first `_init`. -/
def unallocated : ArrayQueue α :=
  ⟨[], 0, 0, Nat.le_refl 0⟩

/-- `_init`: zeroed slots. -/
def init (maxsize : Nat) : ArrayQueue α :=
  ⟨List.replicate maxsize default, 0, 0, Nat.zero_le _⟩

/-- `_empty`. -/
def empty (queue : ArrayQueue α) : Bool :=
  queue.size == 0

/-- `_front`. -/
def front (queue : ArrayQueue α) : Option α :=
  if queue.size = 0 then none else queue.ptr[queue.offset]?

/-- The capacity `_double_resize` asks for. -/
def doubled (maxsize : Nat) : Nat :=
  if maxsize * 2 = 0 then 16 else maxsize * 2

theorem lt_doubled (maxsize : Nat) : maxsize < doubled maxsize := by
  unfold doubled
  by_cases zero : maxsize * 2 = 0
  · rw [if_pos zero]
    omega
  · rw [if_neg zero]
    omega

/-- `_push_back`. -/
def pushBack (queue : ArrayQueue α) (element : α) : ArrayQueue α :=
  if full : queue.size = queue.maxsize then
    { ptr :=
        (queue.ptr ++ List.replicate (doubled queue.maxsize - queue.maxsize)
          default).set (queue.offset + queue.size) element
      size := queue.size + 1
      offset := queue.offset
      inside := by
        have := queue.inside
        have := lt_doubled queue.maxsize
        simp only [maxsize] at full this
        simp only [List.length_set, List.length_append, List.length_replicate,
          maxsize]
        omega }
  else if atEnd : queue.offset + queue.size = queue.maxsize then
    { ptr :=
        ((queue.ptr.drop queue.offset).take queue.size ++
          queue.ptr.drop queue.size).set queue.size element
      size := queue.size + 1
      offset := 0
      inside := by
        have := queue.inside
        simp only [maxsize] at full atEnd
        simp only [List.length_set, List.length_append, List.length_take,
          List.length_drop]
        omega }
  else
    { ptr := queue.ptr.set (queue.offset + queue.size) element
      size := queue.size + 1
      offset := queue.offset
      inside := by
        have := queue.inside
        simp only [maxsize] at atEnd
        simp only [List.length_set]
        omega }

/-- `_pop_front`, which asserts that there is an element. -/
def popFront (queue : ArrayQueue α) : Option (ArrayQueue α) :=
  if some : 0 < queue.size then
    if wraps : queue.offset + 1 = queue.maxsize then
      Option.some
        { ptr := queue.ptr
          size := queue.size - 1
          offset := 0
          inside := by
            have := queue.inside
            simp only [maxsize] at wraps
            omega }
    else
      Option.some
        { ptr := queue.ptr
          size := queue.size - 1
          offset := queue.offset + 1
          inside := by
            have := queue.inside
            omega }
  else
    none

/-- An element of the queue changed in place through the pointer `_front`
returns. -/
def setFront (queue : ArrayQueue α) (element : α) : ArrayQueue α :=
  { queue with
    ptr := queue.ptr.set queue.offset element
    inside := by
      simpa using queue.inside }

/-- The queue as a list, the next element first. -/
def toList (queue : ArrayQueue α) : List α :=
  (queue.ptr.drop queue.offset).take queue.size

section FirstInFirstOut

variable (queue : ArrayQueue α)

omit [Inhabited α] in
@[simp]
theorem toList_length : queue.toList.length = queue.size := by
  have := queue.inside
  simp only [toList, List.length_take, List.length_drop]
  omega

omit [Inhabited α] in
theorem toList_eq_nil : queue.toList = [] ↔ queue.size = 0 := by
  rw [← List.length_eq_zero_iff, toList_length]

omit [Inhabited α] in
@[simp]
theorem toList_unallocated : (unallocated : ArrayQueue α).toList = [] := rfl

@[simp]
theorem toList_init (maxsize : Nat) :
    (init maxsize : ArrayQueue α).toList = [] := by
  simp [toList, init]

omit [Inhabited α] in
theorem front_eq : queue.front = queue.toList.head? := by
  have := queue.inside
  unfold front toList
  by_cases none : queue.size = 0
  · simp [none]
  · rw [if_neg none, List.head?_take, if_neg none, List.head?_drop]

omit [Inhabited α] in
/-- Writing the slot behind a window of an array appends to the window. -/
theorem window_set {slots : List α} {offset size : Nat} (element : α)
    (room : offset + size < slots.length) :
    ((slots.set (offset + size) element).drop offset).take (size + 1) =
      (slots.drop offset).take size ++ [element] := by
  rw [List.drop_set, if_neg (by omega), Nat.add_sub_cancel_left,
    List.take_add_one, List.getElem?_set_self, List.take_set_of_le (Nat.le_refl _)]
  · rfl
  · rw [List.length_drop]
    omega

/-- An element is appended, whether the array has room, the live slots move or
the array grows. -/
@[simp]
theorem toList_pushBack (element : α) :
    (queue.pushBack element).toList = queue.toList ++ [element] := by
  have inside := queue.inside
  unfold pushBack toList
  split
  case isTrue full =>
      have larger := lt_doubled queue.maxsize
      simp only [maxsize] at full larger
      dsimp only
      rw [window_set]
      · rw [List.drop_append_of_le_length (by omega), List.take_append_of_le_length]
        rw [List.length_drop]
        omega
      · rw [List.length_append, List.length_replicate]
        simp only [maxsize]
        omega
  case isFalse notFull =>
      simp only [maxsize] at notFull
      split
      case isTrue atEnd =>
          simp only [maxsize] at atEnd
          have live : ((queue.ptr.drop queue.offset).take queue.size).length =
              queue.size := queue.toList_length
          have moved := @window_set α
            ((queue.ptr.drop queue.offset).take queue.size ++
              queue.ptr.drop queue.size) 0 queue.size element (by
                rw [List.length_append, live, List.length_drop]
                omega)
          rw [Nat.zero_add] at moved
          dsimp only
          rw [moved, List.drop_zero,
            List.take_append_of_le_length (Nat.le_of_eq live.symm),
            List.take_of_length_le (Nat.le_of_eq live)]
      case isFalse room =>
          simp only [maxsize] at room
          dsimp only
          rw [window_set]
          omega

omit [Inhabited α] in
/-- The first element is removed, whether or not the offset wraps. -/
theorem toList_popFront {rest : ArrayQueue α}
    (popped : queue.popFront = some rest) : rest.toList = queue.toList.tail := by
  have inside := queue.inside
  unfold popFront at popped
  split at popped
  case isTrue some =>
      split at popped
      case isTrue wraps =>
          obtain rfl := Option.some.inj popped
          simp only [maxsize] at wraps
          have one : queue.size = 1 := by omega
          have single : queue.toList.length = 1 := queue.toList_length.trans one
          obtain ⟨element, only⟩ := List.length_eq_one_iff.mp single
          rw [only]
          simp [toList, one]
      case isFalse =>
          obtain rfl := Option.some.inj popped
          simp only [toList]
          rw [← List.drop_one, List.drop_take, List.drop_drop]
  case isFalse => cases popped

omit [Inhabited α] in
theorem popFront_isSome : queue.popFront.isSome ↔ queue.toList ≠ [] := by
  rw [Ne, toList_eq_nil]
  unfold popFront
  split
  · split <;> simp <;> omega
  · simp
    omega

omit [Inhabited α] in
theorem toList_setFront (element : α) :
    (queue.setFront element).toList = queue.toList.set 0 element := by
  simp only [toList, setFront]
  rw [List.drop_set, if_neg (Nat.lt_irrefl _), Nat.sub_self, List.take_set]

end FirstInFirstOut

section Runs

/-- The operations of a queue in use. -/
inductive Operation (α : Type)
  | pushBack (element : α)
  | popFront

/-- An operation on the array; taking from an empty queue fails its
assertion. -/
def apply (queue : ArrayQueue α) : Operation α → Option (ArrayQueue α)
  | .pushBack element => some (queue.pushBack element)
  | .popFront => queue.popFront

/-- The same operation on a list. -/
def applyToList (elements : List α) : Operation α → Option (List α)
  | .pushBack element => some (elements ++ [element])
  | .popFront =>
      match elements with
      | [] => none
      | _ :: rest => some rest

theorem apply_toList (queue : ArrayQueue α) (operation : Operation α) :
    (queue.apply operation).map toList =
      applyToList queue.toList operation := by
  cases operation with
  | pushBack element => simp [apply, applyToList]
  | popFront =>
      have some := queue.popFront_isSome
      unfold apply applyToList
      cases elements : queue.toList with
      | nil =>
          have none : queue.popFront = none := by
            simpa [elements] using some
          simp [none]
      | cons first rest =>
          have succeeds : queue.popFront.isSome := some.mpr (by simp [elements])
          obtain ⟨left, popped⟩ := Option.isSome_iff_exists.mp succeeds
          have tail := queue.toList_popFront popped
          rw [elements] at tail
          simp [popped, tail]

/-- Over any sequence of operations, from any array, the queue behaves as the
list of its elements. -/
theorem foldlM_apply_toList (queue : ArrayQueue α)
    (operations : List (Operation α)) :
    (operations.foldlM apply queue).map toList =
      operations.foldlM applyToList queue.toList := by
  induction operations generalizing queue with
  | nil => rfl
  | cons operation operations ih =>
      have first := apply_toList queue operation
      rw [List.foldlM_cons, List.foldlM_cons]
      cases applied : queue.apply operation with
      | none =>
          rw [applied] at first
          rw [← first]
          rfl
      | some next =>
          rw [applied] at first
          rw [← first]
          exact ih next

end Runs

end ArrayQueue

end SpeechModules
