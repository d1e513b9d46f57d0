import Mathlib.Data.List.Basic
import Mathlib.Data.List.TakeWhile
import Mathlib.Algebra.Group.Nat.Defs

/-!
# Zero-terminated strings in byte buffers

A buffer is the list of its bytes.  A write that does not lie inside the buffer
and a read that meets no terminating zero byte in it have no result.
-/

namespace SpeechModules

/-- The bytes of a string literal of the source. -/
def bytesOf (literal : String) : List UInt8 :=
  literal.toUTF8.data.toList

/-- A C string: the bytes before its terminating zero byte.  The string with
its terminator is an object, so its size is a `size_t`. -/
structure CString where
  bytes : List UInt8
  zeroFree : 0 ∉ bytes
  sizeLt : bytes.length + 1 < 2 ^ 64

namespace CBuffer

variable {buffer filled : List UInt8} {position : Nat}

/-- The bytes of the string that starts at `position`. -/
def stringAt (buffer : List UInt8) (position : Nat) : Option (List UInt8) :=
  if 0 ∈ buffer.drop position then
    some ((buffer.drop position).takeWhile (· ≠ 0))
  else none

/-- `strlen` of the string that starts at `position`. -/
def strlen (buffer : List UInt8) (position : Nat) : Option Nat :=
  (stringAt buffer position).map List.length

/-- Write consecutive bytes from `position` on. -/
def write (buffer : List UInt8) (position : Nat) (bytes : List UInt8) :
    Option (List UInt8) :=
  if position + bytes.length ≤ buffer.length then
    some (buffer.take position ++ bytes ++
      buffer.drop (position + bytes.length))
  else none

/-- Subtraction of two values of type `size_t`. -/
def sizeSub (left right : Nat) : Nat :=
  (left + 2 ^ 64 - right) % 2 ^ 64

/-- `snprintf(position, size, "%s", text)`: at most `size - 1` bytes and a
terminating zero byte, nothing for the size zero. -/
def snprintf (buffer : List UInt8) (position size : Nat)
    (text : List UInt8) : Option (List UInt8) :=
  if size = 0 then some buffer
  else write buffer position (text.take (size - 1) ++ [0])

/-- Nothing is cut off exactly when there is no zero byte. -/
theorem takeWhile_eq_self_iff {bytes : List UInt8} :
    bytes.takeWhile (· ≠ 0) = bytes ↔ 0 ∉ bytes := by
  rw [List.takeWhile_eq_self_iff]
  constructor
  · intro nonzero member
    have contra := nonzero 0 member
    simp at contra
  · intro zeroFree byte member
    apply decide_eq_true
    rintro rfl
    exact zeroFree member

/-- The bytes from `position` on are all zero. -/
def ZeroFrom (buffer : List UInt8) (position : Nat) : Prop :=
  buffer.drop position = List.replicate (buffer.length - position) 0

theorem zeroFrom_iff : ZeroFrom buffer position ↔
    buffer.drop position = List.replicate (buffer.length - position) 0 :=
  Iff.rfl

theorem zeroFrom_append_replicate (filled : List UInt8) (count : Nat) :
    ZeroFrom (filled ++ List.replicate count 0) filled.length := by
  rw [zeroFrom_iff, List.drop_left, List.length_append, List.length_replicate,
    Nat.add_sub_cancel_left]

theorem ZeroFrom.mono {later : Nat} (zero : ZeroFrom buffer position)
    (behind : position ≤ later) : ZeroFrom buffer later := by
  obtain ⟨distance, rfl⟩ := Nat.exists_eq_add_of_le behind
  rw [zeroFrom_iff, ← List.drop_drop, zero, List.drop_replicate, Nat.sub_sub]

theorem stringAt_of_mem (terminated : 0 ∈ buffer.drop position) :
    stringAt buffer position =
      some ((buffer.drop position).takeWhile (· ≠ 0)) :=
  if_pos terminated

theorem stringAt_of_notMem (unterminated : 0 ∉ buffer.drop position) :
    stringAt buffer position = none :=
  if_neg unterminated

theorem strlen_eq : strlen buffer position =
    (stringAt buffer position).map List.length :=
  rfl

theorem ZeroFrom.strlen_eq (zero : ZeroFrom buffer position)
    (inside : position < buffer.length) :
    strlen buffer position = some 0 := by
  obtain ⟨count, countEq⟩ :
      ∃ count, buffer.length - position = count + 1 :=
    ⟨buffer.length - position - 1, by omega⟩
  rw [zeroFrom_iff, countEq, List.replicate_succ] at zero
  rw [CBuffer.strlen_eq, stringAt_of_mem (by simp [zero]), zero]
  rfl

theorem strlen_eq_none (outside : buffer.length ≤ position) :
    strlen buffer position = none := by
  have empty := List.drop_eq_nil_of_le outside
  rw [CBuffer.strlen_eq, stringAt_of_notMem (by simp [empty])]
  rfl

theorem write_eq_some {bytes written : List UInt8} :
    write buffer position bytes = some written ↔
      position + bytes.length ≤ buffer.length ∧
        written = buffer.take position ++ bytes ++
          buffer.drop (position + bytes.length) := by
  rw [write, Option.ite_none_right_eq_some, Option.some.injEq, eq_comm]

theorem write_length {bytes written : List UInt8}
    (writes : write buffer position bytes = some written) :
    written.length = buffer.length := by
  obtain ⟨fits, rfl⟩ := write_eq_some.mp writes
  simp only [List.length_append, List.length_take, List.length_drop]
  omega

/-- What was before the written bytes stays. -/
theorem write_getElem?_of_lt {bytes written : List UInt8} {index : Nat}
    (writes : write buffer position bytes = some written)
    (before : index < position) :
    written[index]? = buffer[index]? := by
  obtain ⟨fits, rfl⟩ := write_eq_some.mp writes
  have inTake : index < (buffer.take position).length := by
    rw [List.length_take]
    omega
  rw [List.append_assoc, List.getElem?_append_left inTake,
    List.getElem?_take_of_lt before]

/-- A written byte is where it was written. -/
theorem write_getElem?_add {bytes written : List UInt8} {index : Nat}
    (writes : write buffer position bytes = some written)
    (inside : index < bytes.length) :
    written[position + index]? = bytes[index]? := by
  obtain ⟨fits, rfl⟩ := write_eq_some.mp writes
  have takeLength : (buffer.take position).length = position := by
    rw [List.length_take]
    omega
  rw [List.append_assoc, List.getElem?_append_right (by omega), takeLength,
    Nat.add_sub_cancel_left, List.getElem?_append_left inside]

/-- A write into the zero part leaves zeros behind it. -/
theorem ZeroFrom.write {bytes written : List UInt8} {next : Nat}
    (zero : ZeroFrom buffer position)
    (writes : CBuffer.write buffer position bytes = some written)
    (behind : position + bytes.length ≤ next) :
    ZeroFrom written next := by
  have lengthEq := write_length writes
  obtain ⟨fits, rfl⟩ := write_eq_some.mp writes
  have frontLength :
      (buffer.take position ++ bytes).length = position + bytes.length := by
    rw [List.length_append, List.length_take]
    omega
  rw [zeroFrom_iff] at zero ⊢
  rw [lengthEq, List.drop_append, frontLength,
    List.drop_eq_nil_of_le (by omega), List.nil_append, List.drop_drop]
  have split : position + bytes.length + (next - (position + bytes.length)) =
      position + (next - position) := by omega
  rw [split, ← List.drop_drop, zero, List.drop_replicate]
  congr 1
  omega

/-- A trailing zero byte is already in the zero part. -/
theorem ZeroFrom.write_terminated {bytes written : List UInt8}
    (zero : ZeroFrom buffer position)
    (writes : CBuffer.write buffer position (bytes ++ [0]) = some written) :
    ZeroFrom written (position + bytes.length) := by
  have lengthEq := write_length writes
  have zeroBehind : ZeroFrom written (position + bytes.length + 1) :=
    zero.write writes (by simp; omega)
  have terminator : written[position + bytes.length]? = some 0 := by
    rw [write_getElem?_add writes (by simp)]
    simp
  have inside : position + bytes.length < written.length :=
    (List.getElem?_eq_some_iff.mp terminator).1
  have value : written[position + bytes.length] = 0 :=
    (List.getElem?_eq_some_iff.mp terminator).2
  rw [zeroFrom_iff] at zeroBehind ⊢
  rw [List.drop_eq_getElem_cons inside, value, zeroBehind,
    ← List.replicate_succ]
  congr 1
  omega

/-- Writing into a filled front followed by zeros. -/
theorem write_replicate {bytes : List UInt8} {count : Nat}
    (fits : bytes.length ≤ count) :
    write (filled ++ List.replicate count 0) filled.length bytes =
      some (filled ++ bytes ++ List.replicate (count - bytes.length) 0) := by
  apply write_eq_some.mpr
  constructor
  · simpa using fits
  · simp [List.drop_append]

theorem stringAt_zero_replicate {count : Nat} (zeroFree : 0 ∉ filled)
    (positive : 0 < count) :
    stringAt (filled ++ List.replicate count 0) 0 = some filled := by
  obtain ⟨rest, rfl⟩ := Nat.exists_eq_succ_of_ne_zero positive.ne'
  have allNonzero : ∀ byte ∈ filled, decide (byte ≠ 0) = true := by
    intro byte member
    apply decide_eq_true
    rintro rfl
    exact zeroFree member
  rw [stringAt_of_mem (by simp), List.drop_zero, List.replicate_succ,
    List.takeWhile_append_of_pos allNonzero]
  simp

/-- The string at the start of a buffer ends at the first zero byte at the
latest. -/
theorem stringAt_zero_length_le {bytes : List UInt8} {index : Nat}
    (string : stringAt buffer 0 = some bytes)
    (zero : buffer[index]? = some 0) : bytes.length ≤ index := by
  by_cases terminated : 0 ∈ buffer.drop 0
  · rw [stringAt_of_mem terminated] at string
    obtain rfl := Option.some.inj string
    rw [List.drop_zero]
    by_contra longer
    obtain ⟨inside, value⟩ := List.getElem?_eq_some_iff.mp zero
    have inWhile : index < (buffer.takeWhile (· ≠ 0)).length := by omega
    have same : (buffer.takeWhile (· ≠ 0))[index] = buffer[index] :=
      (List.takeWhile_prefix _).getElem inWhile
    have nonzero := List.mem_takeWhile_imp (List.getElem_mem inWhile)
    rw [same, value] at nonzero
    simp at nonzero
  · rw [stringAt_of_notMem terminated] at string
    cases string

end CBuffer

end SpeechModules
