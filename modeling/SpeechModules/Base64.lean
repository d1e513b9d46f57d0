import Mathlib.Data.List.Basic
import Mathlib.Algebra.Group.Nat.Defs

/-!
# Base 64

`libs/libhv/util/base64.c`, with the output buffer of the decoder explicit: the
decoder has no result when it writes behind the end of the buffer, and the
encoder has none when it reads outside its input.  Texts are lists of bytes, and
`unsigned int` arithmetic wraps at `2 ^ 32`.
-/

namespace SpeechModules

namespace Base64

/-- `base64en`. -/
def base64en : List UInt8 :=
  "ABCDEFGHIJKLMNOPQRSTUVWXYZabcdefghijklmnopqrstuvwxyz0123456789+/".toList.map
    fun letter => UInt8.ofNat letter.toNat

/-- `BASE64_PAD`. -/
def base64Pad : UInt8 := 0x3D

/-- `BASE64DE_FIRST`. -/
def base64deFirst : UInt8 := 0x2B

/-- `BASE64DE_LAST`. -/
def base64deLast : UInt8 := 0x7A

/-- `base64de`, from `BASE64DE_FIRST` on. -/
def base64de : List Int :=
  [62, -1, -1, -1, 63, 52, 53, 54,
    55, 56, 57, 58, 59, 60, 61, -1,
    -1, -1, -1, -1, -1, -1, 0, 1,
    2, 3, 4, 5, 6, 7, 8, 9,
    10, 11, 12, 13, 14, 15, 16, 17,
    18, 19, 20, 21, 22, 23, 24, 25,
    -1, -1, -1, -1, -1, -1, 26, 27,
    28, 29, 30, 31, 32, 33, 34, 35,
    36, 37, 38, 39, 40, 41, 42, 43,
    44, 45, 46, 47, 48, 49, 50, 51]

/-- The letter of a value of six bits. -/
def letter (value : Nat) : UInt8 :=
  base64en.getD value 0

/-- The loop of `hv_base64_encode` from the index `i` on, after the byte
`previous`. -/
def encodeLoop : Nat → Nat → List UInt8 → List UInt8
  | _, _, [] => []
  | i, previous, byte :: rest =>
      let current := byte.toNat
      match i % 3 with
      | 0 =>
          letter (current >>> 2 &&& 0x3F) :: encodeLoop (i + 1) current rest
      | 1 =>
          letter (((previous &&& 0x3) <<< 4) + (current >>> 4 &&& 0xF)) ::
            encodeLoop (i + 1) current rest
      | _ =>
          letter (((previous &&& 0xF) <<< 2) + (current >>> 6 &&& 0x3)) ::
            letter (current &&& 0x3F) :: encodeLoop (i + 1) current rest

/-- What is added after the last byte, at the index `i`. -/
def encodeTail (i : Nat) (last : UInt8) : List UInt8 :=
  match i % 3 with
  | 0 => [letter ((last.toNat &&& 0x3) <<< 4), base64Pad, base64Pad]
  | 1 => [letter ((last.toNat &&& 0xF) <<< 2), base64Pad]
  | _ => []

/-- `hv_base64_encode`.  The index moved back wraps around on an empty input,
where the padding then reads far outside. -/
def hvBase64Encode (bytes : List UInt8) : Option (List UInt8) :=
  let i := (bytes.length + 2 ^ 32 - 1) % 2 ^ 32
  if i % 3 = 2 then
    some (encodeLoop 0 0 bytes)
  else
    bytes[i]?.map fun last => encodeLoop 0 0 bytes ++ encodeTail i last

/-- The value of a letter, if it has one. -/
def value? (byte : UInt8) : Option Nat :=
  if byte < base64deFirst ∨ base64deLast < byte then none
  else
    match base64de.getD (byte.toNat - base64deFirst.toNat) (-1) with
    | .ofNat value => some value
    | .negSucc _ => none

/-- A write into the output buffer, `out[j] = …` or `out[j] += …`. -/
def writeAt (out : List UInt8) (j : Nat) (write : UInt8 → UInt8) :
    Option (List UInt8) :=
  if j < out.length then some (out.modify j write) else none

/-- The loop of `hv_base64_decode` on the rest of `text` from the index `i` on,
with the value returned and the output buffer. -/
def decodeLoop (text : List UInt8) :
    List UInt8 → Nat → Nat → List UInt8 → Option (Int × List UInt8)
  | [], _, j, out => some (j, out)
  | byte :: rest, i, j, out =>
      if byte = base64Pad then some (j, out)
      else
        match value? byte with
        | none => some (-1, out)
        | some c =>
            match i % 4 with
            | 0 =>
                (writeAt out j fun _ => .ofNat (c <<< 2 &&& 0xFF)).bind
                  fun out => decodeLoop text rest (i + 1) j out
            | 1 =>
                (writeAt out j (· + .ofNat (c >>> 4 &&& 0x3))).bind fun out =>
                  if i < (text.length + 2 ^ 32 - 3) % 2 ^ 32 ∨
                      text.getD (text.length - 2) 0 ≠ base64Pad then
                    (writeAt out (j + 1) fun _ => .ofNat ((c &&& 0xF) <<< 4)).bind
                      fun out => decodeLoop text rest (i + 1) (j + 1) out
                  else
                    decodeLoop text rest (i + 1) (j + 1) out
            | 2 =>
                (writeAt out j (· + .ofNat (c >>> 2 &&& 0xF))).bind fun out =>
                  if i < (text.length + 2 ^ 32 - 2) % 2 ^ 32 ∨
                      text.getD (text.length - 1) 0 ≠ base64Pad then
                    (writeAt out (j + 1) fun _ => .ofNat ((c &&& 0x3) <<< 6)).bind
                      fun out => decodeLoop text rest (i + 1) (j + 1) out
                  else
                    decodeLoop text rest (i + 1) (j + 1) out
            | _ =>
                (writeAt out j (· + .ofNat c)).bind fun out =>
                  decodeLoop text rest (i + 1) (j + 1) out

/-- `hv_base64_decode` into a given buffer. -/
def hvBase64Decode (text out : List UInt8) : Option (Int × List UInt8) :=
  decodeLoop text text 0 0 out

section Encode

/-- The encoding block by block. -/
def encodeBlocks : List UInt8 → List UInt8
  | [] => []
  | [a] =>
      [letter (a.toNat / 4), letter (a.toNat % 4 * 16), base64Pad, base64Pad]
  | [a, b] =>
      [letter (a.toNat / 4), letter (a.toNat % 4 * 16 + b.toNat / 16),
        letter (b.toNat % 16 * 4), base64Pad]
  | a :: b :: c :: rest =>
      letter (a.toNat / 4) :: letter (a.toNat % 4 * 16 + b.toNat / 16) ::
        letter (b.toNat % 16 * 4 + c.toNat / 64) :: letter (c.toNat % 64) ::
        encodeBlocks rest

theorem encodeBlocks_one (a : UInt8) : encodeBlocks [a] =
    [letter (a.toNat / 4), letter (a.toNat % 4 * 16), base64Pad, base64Pad] :=
  rfl

theorem encodeBlocks_two (a b : UInt8) : encodeBlocks [a, b] =
    [letter (a.toNat / 4), letter (a.toNat % 4 * 16 + b.toNat / 16),
      letter (b.toNat % 16 * 4), base64Pad] :=
  rfl

theorem encodeBlocks_three (a b c : UInt8) (rest : List UInt8) :
    encodeBlocks (a :: b :: c :: rest) =
      letter (a.toNat / 4) :: letter (a.toNat % 4 * 16 + b.toNat / 16) ::
        letter (b.toNat % 16 * 4 + c.toNat / 64) :: letter (c.toNat % 64) ::
        encodeBlocks rest :=
  rfl

theorem and_three (n : Nat) : n &&& 0x3 = n % 4 := Nat.and_two_pow_sub_one_eq_mod n 2

theorem and_fifteen (n : Nat) : n &&& 0xF = n % 16 :=
  Nat.and_two_pow_sub_one_eq_mod n 4

theorem and_sixtyThree (n : Nat) : n &&& 0x3F = n % 64 :=
  Nat.and_two_pow_sub_one_eq_mod n 6

theorem and_byte (n : Nat) : n &&& 0xFF = n % 256 :=
  Nat.and_two_pow_sub_one_eq_mod n 8

theorem shiftRight_two_and (byte : UInt8) :
    byte.toNat >>> 2 &&& 0x3F = byte.toNat / 4 := by
  have small := byte.toNat_lt
  rw [and_sixtyThree, Nat.shiftRight_eq_div_pow]
  omega

theorem shiftRight_four_and (byte : UInt8) :
    byte.toNat >>> 4 &&& 0xF = byte.toNat / 16 := by
  have small := byte.toNat_lt
  rw [and_fifteen, Nat.shiftRight_eq_div_pow]
  omega

theorem shiftRight_six_and (byte : UInt8) :
    byte.toNat >>> 6 &&& 0x3 = byte.toNat / 64 := by
  have small := byte.toNat_lt
  rw [and_three, Nat.shiftRight_eq_div_pow]
  omega

theorem encodeLoop_nil (i previous : Nat) : encodeLoop i previous [] = [] :=
  rfl

theorem encodeLoop_cons (i previous : Nat) (byte : UInt8) (rest : List UInt8) :
    encodeLoop i previous (byte :: rest) =
      match i % 3 with
      | 0 =>
          letter (byte.toNat >>> 2 &&& 0x3F) ::
            encodeLoop (i + 1) byte.toNat rest
      | 1 =>
          letter (((previous &&& 0x3) <<< 4) + (byte.toNat >>> 4 &&& 0xF)) ::
            encodeLoop (i + 1) byte.toNat rest
      | _ =>
          letter (((previous &&& 0xF) <<< 2) + (byte.toNat >>> 6 &&& 0x3)) ::
            letter (byte.toNat &&& 0x3F) ::
            encodeLoop (i + 1) byte.toNat rest :=
  rfl

theorem encodeLoop_zero {i : Nat} (first : i % 3 = 0) (previous : Nat)
    (byte : UInt8) (rest : List UInt8) :
    encodeLoop i previous (byte :: rest) =
      letter (byte.toNat / 4) :: encodeLoop (i + 1) byte.toNat rest := by
  rw [encodeLoop_cons]
  simp only [first, shiftRight_two_and]

theorem encodeLoop_one {i : Nat} (second : i % 3 = 1) (previous : Nat)
    (byte : UInt8) (rest : List UInt8) :
    encodeLoop i previous (byte :: rest) =
      letter (previous % 4 * 16 + byte.toNat / 16) ::
        encodeLoop (i + 1) byte.toNat rest := by
  rw [encodeLoop_cons]
  simp only [second, shiftRight_four_and, and_three, Nat.shiftLeft_eq]

theorem encodeLoop_two {i : Nat} (third : i % 3 = 2) (previous : Nat)
    (byte : UInt8) (rest : List UInt8) :
    encodeLoop i previous (byte :: rest) =
      letter (previous % 16 * 4 + byte.toNat / 64) ::
        letter (byte.toNat % 64) :: encodeLoop (i + 1) byte.toNat rest := by
  rw [encodeLoop_cons]
  simp only [third, shiftRight_six_and, and_fifteen, and_sixtyThree,
    Nat.shiftLeft_eq]

theorem encodeTail_zero {i : Nat} (first : i % 3 = 0) (last : UInt8) :
    encodeTail i last =
      [letter (last.toNat % 4 * 16), base64Pad, base64Pad] := by
  unfold encodeTail
  simp only [first, and_three, Nat.shiftLeft_eq]

theorem encodeTail_one {i : Nat} (second : i % 3 = 1) (last : UInt8) :
    encodeTail i last = [letter (last.toNat % 16 * 4), base64Pad] := by
  unfold encodeTail
  simp only [second, and_fifteen, Nat.shiftLeft_eq]

/-- The loop from a block on, with what is added at its end. -/
theorem encodeLoop_append_encodeTail (bytes : List UInt8) (nonempty : bytes ≠ [])
    {i : Nat} (aligned : i % 3 = 0) (previous : Nat) :
    encodeLoop i previous bytes ++
        encodeTail (i + bytes.length - 1) (bytes.getLast nonempty) =
      encodeBlocks bytes := by
  induction bytes using encodeBlocks.induct generalizing i previous with
  | case1 => exact absurd rfl nonempty
  | case2 a =>
      rw [encodeLoop_zero aligned, encodeLoop_nil,
        encodeTail_zero (by simpa using aligned)]
      rfl
  | case3 a b =>
      have second : (i + 1) % 3 = 1 := by omega
      rw [encodeLoop_zero aligned, encodeLoop_one second, encodeLoop_nil,
        encodeTail_one (by simpa using second)]
      rfl
  | case4 a b c rest ih =>
      have second : (i + 1) % 3 = 1 := by omega
      have third : (i + 1 + 1) % 3 = 2 := by omega
      have next : (i + 1 + 1 + 1) % 3 = 0 := by omega
      rw [encodeLoop_zero aligned, encodeLoop_one second, encodeLoop_two third,
        encodeBlocks_three]
      by_cases more : rest = []
      · subst more
        have whole : (i + [a, b, c].length - 1) % 3 = 2 := by
          simpa using third
        rw [encodeLoop_nil]
        unfold encodeTail
        simp only [whole, List.append_nil]
        rfl
      · have others := ih more next c.toNat
        have index : i + (a :: b :: c :: rest).length - 1 =
            i + 1 + 1 + 1 + rest.length - 1 := by
          simp only [List.length_cons]
          omega
        have last : (a :: b :: c :: rest).getLast nonempty =
            rest.getLast more := by
          rw [List.getLast_cons (by simp), List.getLast_cons (by simp),
            List.getLast_cons more]
        rw [index, last, ← others]
        rfl

/-- The encoder computes the blocks, except on an empty input. -/
theorem hvBase64Encode_eq {bytes : List UInt8} (nonempty : bytes ≠ [])
    (short : bytes.length < 2 ^ 32) :
    hvBase64Encode bytes = some (encodeBlocks bytes) := by
  have positive := List.length_pos_iff.mpr nonempty
  have index : (bytes.length + 2 ^ 32 - 1) % 2 ^ 32 = bytes.length - 1 := by
    omega
  have blocks := encodeLoop_append_encodeTail bytes nonempty (i := 0) rfl 0
  rw [Nat.zero_add] at blocks
  unfold hvBase64Encode
  rw [index]
  dsimp only
  split
  case isTrue whole =>
      have none : encodeTail (bytes.length - 1) (bytes.getLast nonempty) = [] := by
        unfold encodeTail
        simp only [whole]
      rw [← blocks, none, List.append_nil]
  case isFalse =>
      rw [← List.getLast?_eq_getElem?, List.getLast?_eq_getLast_of_ne_nil nonempty,
        ← blocks]
      rfl

end Encode

section Decode

/-- The places of the letters among the characters. -/
def letterCodes : List Nat :=
  List.range' 65 26 ++ List.range' 97 26 ++ List.range' 48 10 ++ [43, 47]

theorem base64en_eq : base64en = letterCodes.map UInt8.ofNat := by
  have text :
      "ABCDEFGHIJKLMNOPQRSTUVWXYZabcdefghijklmnopqrstuvwxyz0123456789+/" =
        String.ofList (letterCodes.map Char.ofNat) := by
    rfl
  unfold base64en
  rw [text, String.toList_ofList]
  decide

theorem map_value?_base64en :
    base64en.map value? = (List.range 64).map some := by
  rw [base64en_eq]
  decide

theorem base64Pad_notMem : base64Pad ∉ base64en := by
  rw [base64en_eq]
  decide

theorem letter_getElem? {value : Nat} (small : value < 64) :
    base64en[value]? = some (letter value) := by
  have length : base64en.length = 64 := by
    rw [base64en_eq, List.length_map]
    rfl
  have inside : value < base64en.length := by omega
  unfold letter
  rw [List.getD_eq_getElem?_getD, List.getElem?_eq_getElem inside,
    Option.getD_some]

theorem value?_letter {value : Nat} (small : value < 64) :
    value? (letter value) = some value := by
  have values := congrArg (·[value]?) map_value?_base64en
  simpa [letter_getElem? small, small] using values

theorem letter_ne_pad {value : Nat} (small : value < 64) :
    letter value ≠ base64Pad := by
  intro pad
  have member := List.mem_of_getElem? (letter_getElem? small)
  rw [pad] at member
  exact base64Pad_notMem member

theorem writeAt_append (done : List UInt8) (byte : UInt8) (room : List UInt8)
    (write : UInt8 → UInt8) :
    writeAt (done ++ byte :: room) done.length write =
      some (done ++ write byte :: room) := by
  unfold writeAt
  rw [if_pos (by simp), List.modify_eq_take_cons_drop (by simp)]
  simp

theorem writeAt_append_succ (done : List UInt8) (first byte : UInt8)
    (room : List UInt8) (write : UInt8 → UInt8) :
    writeAt (done ++ first :: byte :: room) (done.length + 1) write =
      some (done ++ first :: write byte :: room) := by
  have written := writeAt_append (done ++ [first]) byte room write
  rw [List.length_append, List.append_assoc, List.append_assoc] at written
  exact written

theorem firstByte (a : UInt8) {low : Nat} (small : low < 16) :
    UInt8.ofNat ((a.toNat / 4) <<< 2 &&& 0xFF) +
        UInt8.ofNat ((a.toNat % 4 * 16 + low) >>> 4 &&& 0x3) = a := by
  have bound := a.toNat_lt
  apply UInt8.toNat_inj.mp
  rw [and_byte, and_three, Nat.shiftLeft_eq, Nat.shiftRight_eq_div_pow,
    UInt8.toNat_add, UInt8.toNat_ofNat', UInt8.toNat_ofNat']
  omega

theorem secondByte (b : UInt8) {high low : Nat} (small : low < 4) :
    UInt8.ofNat ((high * 16 + b.toNat / 16 &&& 0xF) <<< 4) +
        UInt8.ofNat ((b.toNat % 16 * 4 + low) >>> 2 &&& 0xF) = b := by
  have bound := b.toNat_lt
  apply UInt8.toNat_inj.mp
  rw [and_fifteen, and_fifteen, Nat.shiftLeft_eq, Nat.shiftRight_eq_div_pow,
    UInt8.toNat_add, UInt8.toNat_ofNat', UInt8.toNat_ofNat']
  omega

theorem thirdByte (c : UInt8) (high : Nat) :
    UInt8.ofNat ((high * 4 + c.toNat / 64 &&& 0x3) <<< 6) +
        UInt8.ofNat (c.toNat % 64) = c := by
  have bound := c.toNat_lt
  apply UInt8.toNat_inj.mp
  rw [and_three, Nat.shiftLeft_eq, UInt8.toNat_add, UInt8.toNat_ofNat',
    UInt8.toNat_ofNat']
  omega

variable {text done room rest : List UInt8} {i value : Nat} {x y z : UInt8}

/-- A letter is decoded by the place it has in its block. -/
theorem decodeLoop_letter {j : Nat} {out : List UInt8} (small : value < 64) :
    decodeLoop text (letter value :: rest) i j out =
      match i % 4 with
      | 0 =>
          (writeAt out j fun _ => .ofNat (value <<< 2 &&& 0xFF)).bind
            fun out => decodeLoop text rest (i + 1) j out
      | 1 =>
          (writeAt out j (· + .ofNat (value >>> 4 &&& 0x3))).bind fun out =>
            if i < (text.length + 2 ^ 32 - 3) % 2 ^ 32 ∨
                text.getD (text.length - 2) 0 ≠ base64Pad then
              (writeAt out (j + 1) fun _ => .ofNat ((value &&& 0xF) <<< 4)).bind
                fun out => decodeLoop text rest (i + 1) (j + 1) out
            else
              decodeLoop text rest (i + 1) (j + 1) out
      | 2 =>
          (writeAt out j (· + .ofNat (value >>> 2 &&& 0xF))).bind fun out =>
            if i < (text.length + 2 ^ 32 - 2) % 2 ^ 32 ∨
                text.getD (text.length - 1) 0 ≠ base64Pad then
              (writeAt out (j + 1) fun _ => .ofNat ((value &&& 0x3) <<< 6)).bind
                fun out => decodeLoop text rest (i + 1) (j + 1) out
            else
              decodeLoop text rest (i + 1) (j + 1) out
      | _ =>
          (writeAt out j (· + .ofNat value)).bind fun out =>
            decodeLoop text rest (i + 1) (j + 1) out := by
  rw [decodeLoop, if_neg (letter_ne_pad small), value?_letter small]

theorem decodeLoop_pad {j : Nat} {out : List UInt8} :
    decodeLoop text (base64Pad :: rest) i j out = some ((j : Int), out) :=
  rfl

theorem decodeLoop_zero (first : i % 4 = 0) (small : value < 64) :
    decodeLoop text (letter value :: rest) i done.length (done ++ x :: room) =
      decodeLoop text rest (i + 1) done.length
        (done ++ UInt8.ofNat (value <<< 2 &&& 0xFF) :: room) := by
  rw [decodeLoop_letter small]
  simp only [first, writeAt_append, Option.bind_some]

theorem decodeLoop_one {byte : UInt8} (second : i % 4 = 1) (small : value < 64)
    (more : i < (text.length + 2 ^ 32 - 3) % 2 ^ 32 ∨
      text.getD (text.length - 2) 0 ≠ base64Pad)
    (sum : x + UInt8.ofNat (value >>> 4 &&& 0x3) = byte) :
    decodeLoop text (letter value :: rest) i done.length
        (done ++ x :: y :: room) =
      decodeLoop text rest (i + 1) (done ++ [byte]).length
        ((done ++ [byte]) ++ UInt8.ofNat ((value &&& 0xF) <<< 4) :: room) := by
  rw [decodeLoop_letter small]
  simp only [second, writeAt_append, Option.bind_some, if_pos more,
    writeAt_append_succ, sum, List.length_append, List.length_singleton,
    List.append_assoc, List.singleton_append]

theorem decodeLoop_one_last {byte : UInt8} (second : i % 4 = 1)
    (small : value < 64)
    (last : ¬(i < (text.length + 2 ^ 32 - 3) % 2 ^ 32 ∨
      text.getD (text.length - 2) 0 ≠ base64Pad))
    (sum : x + UInt8.ofNat (value >>> 4 &&& 0x3) = byte) :
    decodeLoop text (letter value :: base64Pad :: rest) i done.length
        (done ++ x :: room) =
      some (((done.length + 1 : Nat) : Int), done ++ byte :: room) := by
  rw [decodeLoop_letter small]
  simp only [second, writeAt_append, Option.bind_some, if_neg last, sum]
  rw [decodeLoop_pad]

theorem decodeLoop_two {byte : UInt8} (third : i % 4 = 2) (small : value < 64)
    (more : i < (text.length + 2 ^ 32 - 2) % 2 ^ 32 ∨
      text.getD (text.length - 1) 0 ≠ base64Pad)
    (sum : x + UInt8.ofNat (value >>> 2 &&& 0xF) = byte) :
    decodeLoop text (letter value :: rest) i done.length
        (done ++ x :: y :: room) =
      decodeLoop text rest (i + 1) (done ++ [byte]).length
        ((done ++ [byte]) ++ UInt8.ofNat ((value &&& 0x3) <<< 6) :: room) := by
  rw [decodeLoop_letter small]
  simp only [third, writeAt_append, Option.bind_some, if_pos more,
    writeAt_append_succ, sum, List.length_append, List.length_singleton,
    List.append_assoc, List.singleton_append]

theorem decodeLoop_two_last {byte : UInt8} (third : i % 4 = 2)
    (small : value < 64)
    (last : ¬(i < (text.length + 2 ^ 32 - 2) % 2 ^ 32 ∨
      text.getD (text.length - 1) 0 ≠ base64Pad))
    (sum : x + UInt8.ofNat (value >>> 2 &&& 0xF) = byte) :
    decodeLoop text (letter value :: base64Pad :: rest) i done.length
        (done ++ x :: room) =
      some (((done.length + 1 : Nat) : Int), done ++ byte :: room) := by
  rw [decodeLoop_letter small]
  simp only [third, writeAt_append, Option.bind_some, if_neg last, sum]
  rw [decodeLoop_pad]

theorem decodeLoop_three {byte : UInt8} (fourth : i % 4 = 3)
    (small : value < 64) (sum : x + UInt8.ofNat value = byte) :
    decodeLoop text (letter value :: rest) i done.length (done ++ x :: room) =
      decodeLoop text rest (i + 1) (done ++ [byte]).length
        ((done ++ [byte]) ++ room) := by
  rw [decodeLoop_letter small]
  simp only [fourth, writeAt_append, Option.bind_some, sum, List.length_append,
    List.length_singleton, List.append_assoc, List.singleton_append]

/-- A last block of one byte. -/
theorem decodeLoop_one_byte (a : UInt8) (aligned : i % 4 = 0)
    (short : text.length < 2 ^ 32) (length : text.length = i + 4)
    (padded : text.getD (i + 2) 0 = base64Pad) :
    decodeLoop text (encodeBlocks [a]) i done.length (done ++ x :: room) =
      some (((done.length + 1 : Nat) : Int), done ++ a :: room) := by
  have bound := a.toNat_lt
  have last : ¬(i + 1 < (text.length + 2 ^ 32 - 3) % 2 ^ 32 ∨
      text.getD (text.length - 2) 0 ≠ base64Pad) := by
    rw [length] at short ⊢
    rintro (before | unpadded)
    · omega
    · exact unpadded padded
  have sum := firstByte a (show 0 < 16 by decide)
  rw [Nat.add_zero] at sum
  rw [encodeBlocks_one, decodeLoop_zero aligned (by omega),
    decodeLoop_one_last (by omega) (by omega) last sum]

/-- A last block of two bytes. -/
theorem decodeLoop_two_bytes (a b : UInt8) (aligned : i % 4 = 0)
    (short : text.length < 2 ^ 32) (length : text.length = i + 4)
    (unpadded : text.getD (i + 2) 0 ≠ base64Pad)
    (padded : text.getD (i + 3) 0 = base64Pad) :
    decodeLoop text (encodeBlocks [a, b]) i done.length
        (done ++ x :: y :: room) =
      some (((done.length + 2 : Nat) : Int), done ++ a :: b :: room) := by
  have bound := a.toNat_lt
  have boundSecond := b.toNat_lt
  have more : i + 1 < (text.length + 2 ^ 32 - 3) % 2 ^ 32 ∨
      text.getD (text.length - 2) 0 ≠ base64Pad := by
    rw [length]
    exact .inr unpadded
  have last : ¬(i + 1 + 1 < (text.length + 2 ^ 32 - 2) % 2 ^ 32 ∨
      text.getD (text.length - 1) 0 ≠ base64Pad) := by
    rw [length] at short ⊢
    rintro (before | other)
    · omega
    · exact other padded
  have sum := firstByte a (show b.toNat / 16 < 16 by omega)
  have sumSecond := @secondByte b (a.toNat % 4) 0 (by decide)
  rw [Nat.add_zero] at sumSecond
  rw [encodeBlocks_two, decodeLoop_zero aligned (by omega),
    decodeLoop_one (by omega) (by omega) more sum,
    decodeLoop_two_last (by omega) (by omega) last sumSecond]
  simp only [List.length_append, List.length_singleton, List.append_assoc,
    List.singleton_append]

/-- A whole block, which is the last one or not. -/
theorem decodeLoop_block (a b c : UInt8) {bytes : List UInt8}
    (aligned : i % 4 = 0) (short : text.length < 2 ^ 32)
    (length : i + 4 ≤ text.length)
    (unpadded : text.length = i + 4 →
      text.getD (i + 2) 0 ≠ base64Pad ∧ text.getD (i + 3) 0 ≠ base64Pad) :
    decodeLoop text (encodeBlocks (a :: b :: c :: bytes)) i done.length
        (done ++ x :: y :: z :: room) =
      decodeLoop text (encodeBlocks bytes) (i + 4) (done ++ [a, b, c]).length
        ((done ++ [a, b, c]) ++ room) := by
  have bound := a.toNat_lt
  have boundSecond := b.toNat_lt
  have boundThird := c.toNat_lt
  have more : i + 1 < (text.length + 2 ^ 32 - 3) % 2 ^ 32 ∨
      text.getD (text.length - 2) 0 ≠ base64Pad := by
    rcases Nat.eq_or_lt_of_le length with exact | longer
    · rw [← exact]
      exact .inr (unpadded exact.symm).1
    · left
      omega
  have moreSecond : i + 1 + 1 < (text.length + 2 ^ 32 - 2) % 2 ^ 32 ∨
      text.getD (text.length - 1) 0 ≠ base64Pad := by
    rcases Nat.eq_or_lt_of_le length with exact | longer
    · rw [← exact]
      exact .inr (unpadded exact.symm).2
    · left
      omega
  have sum := firstByte a (show b.toNat / 16 < 16 by omega)
  have sumSecond := @secondByte b (a.toNat % 4) (c.toNat / 64) (by omega)
  have sumThird := thirdByte c (b.toNat % 16)
  rw [encodeBlocks_three, decodeLoop_zero aligned (by omega),
    decodeLoop_one (by omega) (by omega) more sum,
    decodeLoop_two (by omega) (by omega) moreSecond sumSecond,
    decodeLoop_three (by omega) (by omega) sumThird]
  simp only [List.append_assoc, List.cons_append, List.nil_append]

/-- The decoder takes the encoding from a block on to the bytes, and leaves the
buffer behind them alone. -/
theorem decodeLoop_encodeBlocks (bytes : List UInt8) {front : List UInt8}
    (aligned : front.length % 4 = 0)
    (short : (front ++ encodeBlocks bytes).length < 2 ^ 32)
    (fits : bytes.length ≤ room.length) :
    decodeLoop (front ++ encodeBlocks bytes) (encodeBlocks bytes) front.length
        done.length (done ++ room) =
      some (((done.length + bytes.length : Nat) : Int),
        done ++ (bytes ++ room.drop bytes.length)) := by
  induction bytes using encodeBlocks.induct generalizing front done room with
  | case1 =>
      rfl
  | case2 a =>
      obtain ⟨x, room, rfl⟩ : ∃ x rest, room = x :: rest := by
        match room, fits with
        | x :: rest, _ => exact ⟨x, rest, rfl⟩
      apply decodeLoop_one_byte a aligned short
      · rw [List.length_append]
        rfl
      · simp [encodeBlocks_one]
  | case3 a b =>
      have bound := b.toNat_lt
      have small : b.toNat % 16 * 4 < 64 := by omega
      obtain ⟨x, y, room, rfl⟩ : ∃ x y rest, room = x :: y :: rest := by
        match room, fits with
        | x :: y :: rest, _ => exact ⟨x, y, rest, rfl⟩
      apply decodeLoop_two_bytes a b aligned short
      · rw [List.length_append]
        rfl
      · simpa [encodeBlocks_two] using letter_ne_pad small
      · simp [encodeBlocks_two]
  | case4 a b c bytes ih =>
      have bound := b.toNat_lt
      have boundThird := c.toNat_lt
      have small : b.toNat % 16 * 4 + c.toNat / 64 < 64 := by omega
      have smallThird : c.toNat % 64 < 64 := by omega
      obtain ⟨x, y, z, room, rfl⟩ : ∃ x y z rest, room = x :: y :: z :: rest := by
        match room, fits with
        | x :: y :: z :: rest, _ => exact ⟨x, y, z, rest, rfl⟩
      let block := [letter (a.toNat / 4),
        letter (a.toNat % 4 * 16 + b.toNat / 16),
        letter (b.toNat % 16 * 4 + c.toNat / 64), letter (c.toNat % 64)]
      have split : front ++ encodeBlocks (a :: b :: c :: bytes) =
          (front ++ block) ++ encodeBlocks bytes := by
        rw [List.append_assoc]
        rfl
      have length : (front ++ block).length = front.length + 4 := by
        rw [List.length_append]
        rfl
      rw [decodeLoop_block a b c aligned short]
      · rw [split] at short ⊢
        rw [← length, ih (by rw [length]; omega) short (by simpa using fits)]
        simp only [List.length_append, List.length_cons, List.length_nil,
          List.append_assoc, List.cons_append, List.nil_append,
          List.drop_succ_cons]
        rw [Nat.add_assoc, Nat.add_comm 3]
      · rw [List.length_append, encodeBlocks_three]
        simp only [List.length_cons]
        omega
      · intro _
        constructor
        · simpa [encodeBlocks_three] using letter_ne_pad small
        · simpa [encodeBlocks_three] using letter_ne_pad smallThird

theorem length_encodeBlocks (bytes : List UInt8) :
    (encodeBlocks bytes).length = 4 * ((bytes.length + 2) / 3) := by
  induction bytes using encodeBlocks.induct with
  | case1 => rfl
  | case2 a => simp [encodeBlocks_one]
  | case3 a b => simp [encodeBlocks_two]
  | case4 a b c bytes ih =>
      simp only [encodeBlocks_three, List.length_cons, ih]
      omega

theorem hvBase64Decode_encodeBlocks {bytes : List UInt8}
    (short : 4 * ((bytes.length + 2) / 3) < 2 ^ 32)
    (fits : bytes.length ≤ room.length) :
    hvBase64Decode (encodeBlocks bytes) room =
      some ((bytes.length : Int), bytes ++ room.drop bytes.length) := by
  have decoded := @decodeLoop_encodeBlocks [] room bytes [] rfl
    (by rw [List.nil_append, length_encodeBlocks]; exact short) fits
  rw [List.length_nil, Nat.zero_add] at decoded
  exact decoded

end Decode

end Base64

end SpeechModules
