import SpeechModules.BlockChain
import Mathlib.Tactic.IntervalCases
import Mathlib.Tactic.Linarith

/-!
# SHA-1 in pieces

`libs/libhv/util/sha1.c`: a context takes a message in pieces of any length,
keeps what does not fill a block in its buffer and counts the bits in two words.
`uint32_t` arithmetic of the counters and indices wraps at `2 ^ 32`; copying
behind the end of the buffer has no result.
-/

namespace SpeechModules

namespace Sha1

open BlockChain

/-- `rol`. -/
def rol (value bits : UInt32) : UInt32 :=
  value <<< bits ||| value >>> (32 - bits)

/-- Five words, of a context or the variables of a round. -/
structure Words where
  a : UInt32
  b : UInt32
  c : UInt32
  d : UInt32
  e : UInt32
  deriving DecidableEq, Repr

/-- A word of the block as the machine loads it. -/
def loadWord (buffer : List UInt8) (i : Nat) : UInt32 :=
  (List.range 4).foldl (fun word k =>
    word ||| (buffer.getD (4 * i + k) 0).toUInt32 <<< (8 * k).toUInt32) 0

/-- `blk0`. -/
def blk0 (block : List UInt32) (i : Nat) : UInt32 :=
  let word := block.getD i 0
  (rol word 24 &&& 0xFF00FF00) ||| (rol word 8 &&& 0x00FF00FF)

/-- `blk`. -/
def blk (block : List UInt32) (i : Nat) : UInt32 :=
  rol (block.getD ((i + 13) % 16) 0 ^^^ block.getD ((i + 8) % 16) 0 ^^^
    block.getD ((i + 2) % 16) 0 ^^^ block.getD (i % 16) 0) 1

/-- What `R0` to `R4` mix of the words, with their constants. -/
def mix (i : Nat) (w x y : UInt32) : UInt32 :=
  if i < 20 then ((w &&& (x ^^^ y)) ^^^ y) + 0x5A827999
  else if i < 40 then (w ^^^ x ^^^ y) + 0x6ED9EBA1
  else if i < 60 then (((w ||| x) &&& y) ||| (w &&& x)) + 0x8F1BBCDC
  else (w ^^^ x ^^^ y) + 0xCA62C1D6

/-- One operation.  The next one is called with the variables moved on by one
place. -/
def operation (work : List UInt32 × Words) (i : Nat) : List UInt32 × Words :=
  let word := if i < 16 then blk0 work.1 i else blk work.1 i
  let v := work.2.a
  let w := work.2.b
  let x := work.2.c
  let y := work.2.d
  let z := work.2.e
  (work.1.set (i % 16) word,
    { a := z + (mix i w x y + word + rol v 5), b := v, c := rol w 30, d := x,
      e := y })

/-- `HV_SHA1Transform`. -/
def transform (state : Words) (buffer : List UInt8) : Words :=
  let work := ((List.range 80).foldl operation
    ((List.range 16).map (loadWord buffer), state)).2
  { a := state.a + work.a, b := state.b + work.b, c := state.c + work.c,
    d := state.d + work.d, e := state.e + work.e }

/-- `HV_SHA1_CTX`. -/
structure Context where
  state : Words
  count0 : Nat
  count1 : Nat
  buffer : List UInt8
  deriving DecidableEq, Repr

/-- The constants of `HV_SHA1Init`. -/
def initialWords : Words :=
  { a := 0x67452301, b := 0xEFCDAB89, c := 0x98BADCFE, d := 0x10325476,
    e := 0xC3D2E1F0 }

/-- `HV_SHA1Init` on a context with any buffer. -/
def init (buffer : List UInt8) : Context :=
  { state := initialWords, count0 := 0, count1 := 0, buffer := buffer }

/-- `memcpy(&buffer[j], bytes, …)`. -/
def copyInto (buffer : List UInt8) (j : Nat) (bytes : List UInt8) :
    Option (List UInt8) :=
  if j + bytes.length ≤ buffer.length then
    some (buffer.take j ++ (bytes ++ buffer.drop (j + bytes.length)))
  else
    none

/-- The loop of `HV_SHA1Update` over the whole blocks in the data, from the
index `i` on. -/
def transformLoop (data : List UInt8) : Nat → Nat → Words → Words × Nat
  | 0, i, state => (state, i)
  | fuel + 1, i, state =>
      if (i + 63) % 2 ^ 32 < data.length then
        transformLoop data fuel (i + 64)
          (transform state ((data.drop i).take 64))
      else
        (state, i)

/-- `HV_SHA1Update`. -/
def update (context : Context) (data : List UInt8) : Option Context :=
  let len := data.length
  let count0 := (context.count0 + len <<< 3 % 2 ^ 32) % 2 ^ 32
  let count1 := (context.count1 + (if count0 < context.count0 then 1 else 0) +
    len >>> 29) % 2 ^ 32
  let j := context.count0 >>> 3 &&& 63
  if 63 < (j + len) % 2 ^ 32 then
    (copyInto context.buffer j (data.take (64 - j))).bind fun filled =>
      let (state, i) :=
        transformLoop data len (64 - j) (transform context.state filled)
      (copyInto filled 0 (data.drop i)).map fun buffer =>
        { state := state, count0 := count0, count1 := count1, buffer := buffer }
  else
    (copyInto context.buffer j data).map fun buffer =>
      { state := context.state, count0 := count0, count1 := count1,
        buffer := buffer }

/-- `finalcount`. -/
def finalcount (context : Context) : List UInt8 :=
  (List.range 8).map fun i =>
    UInt8.ofNat ((if 4 ≤ i then context.count0 else context.count1) >>>
      ((3 - (i &&& 3)) * 8) &&& 255)

/-- The loop of `HV_SHA1Final` that fills up with zeros. -/
def padLoop : Nat → Context → Option Context
  | 0, _ => none
  | fuel + 1, context =>
      if context.count0 &&& 504 ≠ 448 then
        (update context [0]).bind (padLoop fuel)
      else
        some context

/-- The digest of a state. -/
def digest (state : Words) : List UInt8 :=
  (List.range 20).map fun i =>
    UInt8.ofNat (([state.a, state.b, state.c, state.d, state.e].getD
      (i >>> 2) 0).toNat >>> ((3 - (i &&& 3)) * 8) &&& 255)

/-- `HV_SHA1Final`.  There are 63 zeros at most. -/
def final (context : Context) : Option (List UInt8) :=
  (update context [0x80]).bind fun marked =>
    (padLoop 64 marked).bind fun padded =>
      (update padded (finalcount context)).map fun last => digest last.state

/-- A message that comes in pieces: `HV_SHA1Init`, any number of
`HV_SHA1Update` and `HV_SHA1Final`. -/
def hashPieces (buffer : List UInt8) (pieces : List (List UInt8)) :
    Option (List UInt8) :=
  (pieces.foldlM update (init buffer)).bind final

/-- `hv_sha1`. -/
def hvSha1 (buffer input : List UInt8) : Option (List UInt8) :=
  hashPieces buffer [input]

/-- `HV_SHA1`, which takes one byte at a time. -/
def hvSha1Bytes (buffer input : List UInt8) : Option (List UInt8) :=
  hashPieces buffer (input.map fun byte => [byte])

section Specification

/-- The number of bits of a message in eight bytes. -/
def bitLength (message : List UInt8) : List UInt8 :=
  (List.range 8).map fun i =>
    UInt8.ofNat (8 * message.length % 2 ^ 64 / 256 ^ (7 - i))

/-- The padded message. -/
def padded (message : List UInt8) : List UInt8 :=
  message ++ [0x80] ++
    List.replicate ((119 - message.length % 64) % 64) 0 ++ bitLength message

/-- The hash of a message. -/
def sha1 (message : List UInt8) : List UInt8 :=
  digest (absorb transform 64 initialWords (padded message))

end Specification

section Counters

theorem and_sixtyThree_shiftRight (n : Nat) : n >>> 3 &&& 63 = n / 8 % 64 := by
  rw [Nat.shiftRight_eq_div_pow]
  exact Nat.and_two_pow_sub_one_eq_mod (n / 2 ^ 3) 6

theorem and_fiveHundredFour (n : Nat) : n &&& 504 = n / 8 % 64 * 8 := by
  have masked : n &&& 504 = (n >>> 3 &&& 63) <<< 3 := by
    apply Nat.eq_of_testBit_eq
    intro i
    rw [Nat.testBit_and, Nat.testBit_shiftLeft, Nat.testBit_and,
      Nat.testBit_shiftRight]
    have mask : (504 : Nat) = 63 <<< 3 := rfl
    rw [mask, Nat.testBit_shiftLeft]
    by_cases low : 3 ≤ i
    · rw [Nat.add_sub_cancel' low]
      simp [low]
    · simp [low]
  rw [masked, and_sixtyThree_shiftRight, Nat.shiftLeft_eq]

/-- The two words count the bits of what has come. -/
def Counts (context : Context) (length : Nat) : Prop :=
  context.count0 < 2 ^ 32 ∧ context.count1 < 2 ^ 32 ∧
    context.count1 * 2 ^ 32 + context.count0 = 8 * length % 2 ^ 64

theorem Counts.waiting {context : Context} {length : Nat}
    (counts : Counts context length) :
    context.count0 >>> 3 &&& 63 = length % 64 := by
  obtain ⟨low, high, count⟩ := counts
  rw [and_sixtyThree_shiftRight]
  omega

/-- The counters after a piece. -/
theorem counts_add {c0 c1 length len : Nat} (low : c0 < 2 ^ 32)
    (count : c1 * 2 ^ 32 + c0 = 8 * length % 2 ^ 64) :
    (c1 + (if (c0 + len <<< 3 % 2 ^ 32) % 2 ^ 32 < c0 then 1 else 0) +
        len >>> 29) % 2 ^ 32 * 2 ^ 32 + (c0 + len <<< 3 % 2 ^ 32) % 2 ^ 32 =
      8 * (length + len) % 2 ^ 64 := by
  rw [Nat.shiftLeft_eq, Nat.shiftRight_eq_div_pow]
  have bits : len * 2 ^ 3 = len / 2 ^ 29 * 2 ^ 32 + len * 2 ^ 3 % 2 ^ 32 := by
    omega
  have small : len * 2 ^ 3 % 2 ^ 32 < 2 ^ 32 := Nat.mod_lt _ (by decide)
  generalize len * 2 ^ 3 % 2 ^ 32 = added at bits small
  generalize len / 2 ^ 29 = upper at bits
  -- The comparison finds out whether the lower word has overflowed.
  have carried :
      c0 + added = (if (c0 + added) % 2 ^ 32 < c0 then 1 else 0) * 2 ^ 32 +
        (c0 + added) % 2 ^ 32 := by
    split <;> omega
  generalize (if (c0 + added) % 2 ^ 32 < c0 then 1 else 0) = carry at carried
  have lowerSmall : (c0 + added) % 2 ^ 32 < 2 ^ 32 := Nat.mod_lt _ (by decide)
  generalize (c0 + added) % 2 ^ 32 = lower at carried lowerSmall
  have upperSplit := Nat.div_add_mod' (c1 + carry + upper) (2 ^ 32)
  have upperSmall : (c1 + carry + upper) % 2 ^ 32 < 2 ^ 32 :=
    Nat.mod_lt _ (by decide)
  generalize (c1 + carry + upper) % 2 ^ 32 = higher at upperSplit upperSmall
  generalize (c1 + carry + upper) / 2 ^ 32 = lost at upperSplit
  have value : higher * 2 ^ 32 + lower + lost * 2 ^ 64 =
      8 * length % 2 ^ 64 + 8 * len := by
    linarith
  calc higher * 2 ^ 32 + lower
      = (higher * 2 ^ 32 + lower + lost * 2 ^ 64) % 2 ^ 64 := by
        rw [Nat.add_mul_mod_self_right, Nat.mod_eq_of_lt (by omega)]
    _ = 8 * (length + len) % 2 ^ 64 := by
        rw [value, Nat.mod_add_mod, Nat.mul_add]

end Counters

section Pieces

/-- A context that has taken a message. -/
structure Holds (context : Context) (message : List UInt8) : Prop where
  state : context.state = absorb transform 64 initialWords message
  buffer : context.buffer.length = 64
  waiting : context.buffer.take (message.length % 64) = remainder 64 message
  counts : Counts context message.length

theorem holds_init {buffer : List UInt8} (room : buffer.length = 64) :
    Holds (init buffer) [] :=
  { state := (absorb_short (by decide)).symm
    buffer := room
    waiting := rfl
    counts := ⟨Nat.two_pow_pos 32, Nat.two_pow_pos 32, by simp [init]⟩ }

theorem copyInto_eq {buffer bytes : List UInt8} {j : Nat}
    (fits : j + bytes.length ≤ buffer.length) :
    copyInto buffer j bytes =
      some (buffer.take j ++ (bytes ++ buffer.drop (j + bytes.length))) := by
  unfold copyInto
  rw [if_pos fits]

/-- The loop over whole blocks absorbs them and stops before the rest. -/
theorem transformLoop_eq {data : List UInt8} {fuel i : Nat} (state : Words)
    (enough : data.length ≤ i + fuel) (inside : i ≤ data.length)
    (short : data.length ≤ 2 ^ 32 - 64) :
    transformLoop data fuel i state =
      (absorb transform 64 state (data.drop i),
        i + (data.length - i) / 64 * 64) := by
  have length : (data.drop i).length = data.length - i := List.length_drop
  induction fuel generalizing i state with
  | zero =>
      obtain rfl : i = data.length := by omega
      rw [transformLoop, List.drop_length, absorb_short (by decide),
        Nat.sub_self, Nat.zero_div, Nat.zero_mul, Nat.add_zero]
  | succ fuel ih =>
      rw [transformLoop]
      split
      case isTrue whole =>
          have block : i + 64 ≤ data.length := by omega
          have taken : ((data.drop i).take 64).length = 64 := by
            rw [List.length_take]
            omega
          have parts : data.drop i =
              (data.drop i).take 64 ++ data.drop (i + 64) := by
            rw [← List.drop_drop, List.take_append_drop]
          have absorbed : absorb transform 64 state (data.drop i) =
              absorb transform 64 (transform state ((data.drop i).take 64))
                (data.drop (i + 64)) := by
            nth_rewrite 1 [parts]
            exact absorb_block (by decide) taken
          rw [ih _ (by omega) block List.length_drop, absorbed]
          congr 1
          omega
      case isFalse last =>
          rw [absorb_short (by omega)]
          congr 1
          omega

/-- A piece that does not fill the block. -/
theorem Holds.update_short {context : Context} {message data : List UInt8}
    (holds : Holds context message)
    (short : message.length % 64 + data.length < 64) :
    ∃ next, update context data = some next ∧ Holds next (message ++ data) := by
  have index := holds.counts.waiting
  have left : (remainder 64 message ++ data).length < 64 := by
    rw [List.length_append, length_remainder]
    exact short
  have fits : message.length % 64 + data.length ≤ context.buffer.length := by
    rw [holds.buffer]
    omega
  unfold update
  dsimp only
  rw [index, if_neg (by omega), copyInto_eq fits]
  refine ⟨_, rfl, ?_⟩
  exact
    { state := by
        rw [absorb_append (by decide), absorb_short left]
        exact holds.state
      buffer := by
        have buffer := holds.buffer
        simp only [List.length_append, List.length_take, List.length_drop]
        omega
      waiting := by
        have total : (message ++ data).length % 64 =
            (remainder 64 message ++ data).length := by
          rw [List.length_append, List.length_append, length_remainder]
          omega
        rw [remainder_append (by decide), remainder_short left, total,
          holds.waiting, ← List.append_assoc, List.take_left]
      counts := by
        obtain ⟨low, high, count⟩ := holds.counts
        refine ⟨Nat.mod_lt _ (by decide), Nat.mod_lt _ (by decide), ?_⟩
        rw [List.length_append]
        exact counts_add low count }

/-- A piece that fills the block. -/
theorem Holds.update_long {context : Context} {message data : List UInt8}
    (holds : Holds context message)
    (long : 64 ≤ message.length % 64 + data.length)
    (short : data.length ≤ 2 ^ 32 - 64) :
    ∃ next, update context data = some next ∧ Holds next (message ++ data) := by
  have index := holds.counts.waiting
  have below : message.length % 64 < 64 := Nat.mod_lt _ (by decide)
  have taken : (data.take (64 - message.length % 64)).length =
      64 - message.length % 64 := by
    rw [List.length_take]
    omega
  have fits : message.length % 64 +
      (data.take (64 - message.length % 64)).length ≤ context.buffer.length := by
    rw [taken, holds.buffer]
    omega
  have filled : context.buffer.take (message.length % 64) ++
      (data.take (64 - message.length % 64) ++
        context.buffer.drop (message.length % 64 +
          (data.take (64 - message.length % 64)).length)) =
      remainder 64 message ++ data.take (64 - message.length % 64) := by
    have none : context.buffer.drop (message.length % 64 +
        (data.take (64 - message.length % 64)).length) = [] := by
      apply List.drop_eq_nil_of_le
      rw [taken, holds.buffer]
      omega
    rw [none, List.append_nil, holds.waiting]
  have block : (remainder 64 message ++
      data.take (64 - message.length % 64)).length = 64 := by
    rw [List.length_append, length_remainder, taken]
    omega
  have parts : remainder 64 message ++ data =
      (remainder 64 message ++ data.take (64 - message.length % 64)) ++
        data.drop (64 - message.length % 64) := by
    rw [List.append_assoc, List.take_append_drop]
  have rest : data.drop (64 - message.length % 64 +
      (data.length - (64 - message.length % 64)) / 64 * 64) =
        remainder 64 (data.drop (64 - message.length % 64)) := by
    unfold remainder
    rw [List.length_drop, List.drop_drop]
  have restLength : (remainder 64
      (data.drop (64 - message.length % 64))).length =
        (message ++ data).length % 64 := by
    rw [length_remainder, List.length_drop, List.length_append]
    omega
  have restFits : 0 + (remainder 64
      (data.drop (64 - message.length % 64))).length ≤
        (remainder 64 message ++
          data.take (64 - message.length % 64)).length := by
    rw [block, restLength]
    omega
  unfold update
  dsimp only
  rw [index, if_pos (by omega), copyInto_eq fits, filled]
  dsimp only [Option.bind_some]
  rw [transformLoop_eq _ (by omega) (by omega) short]
  dsimp only
  rw [rest, copyInto_eq restFits]
  refine ⟨_, rfl, ?_⟩
  exact
    { state := by
        rw [absorb_append (by decide), parts, absorb_block (by decide) block,
          holds.state]
      buffer := by
        simp only [List.length_append, List.length_take, List.length_drop]
        rw [List.length_append] at block
        omega
      waiting := by
        rw [remainder_append (by decide), parts,
          remainder_block (by decide) block, ← restLength, List.take_zero,
          List.nil_append, List.take_left]
      counts := by
        obtain ⟨low, high, count⟩ := holds.counts
        refine ⟨Nat.mod_lt _ (by decide), Nat.mod_lt _ (by decide), ?_⟩
        rw [List.length_append]
        exact counts_add low count }

theorem Holds.update {context : Context} {message data : List UInt8}
    (holds : Holds context message) (short : data.length ≤ 2 ^ 32 - 64) :
    ∃ next, update context data = some next ∧ Holds next (message ++ data) := by
  by_cases fills : message.length % 64 + data.length < 64
  · exact holds.update_short fills
  · exact holds.update_long (by omega) short

end Pieces

section Final

theorem Holds.padLoop {context : Context} {message : List UInt8}
    {zeros fuel : Nat} (holds : Holds context message) (few : zeros < 64)
    (reaches : (message.length + zeros) % 64 = 56) (enough : zeros < fuel) :
    ∃ next, padLoop fuel context = some next ∧
      Holds next (message ++ List.replicate zeros 0) := by
  obtain ⟨fuel, rfl⟩ : ∃ less, fuel = less + 1 := ⟨fuel - 1, by omega⟩
  have index := holds.counts.waiting
  rw [and_sixtyThree_shiftRight] at index
  induction zeros generalizing context message fuel with
  | zero =>
      refine ⟨context, ?_, ?_⟩
      · rw [Sha1.padLoop, and_fiveHundredFour, index, if_neg (by omega)]
      · rw [List.replicate_zero, List.append_nil]
        exact holds
  | succ zeros ih =>
      obtain ⟨next, updated, holdsNext⟩ := @Holds.update _ _ [0] holds (by decide)
      have nextIndex := holdsNext.counts.waiting
      rw [and_sixtyThree_shiftRight] at nextIndex
      obtain ⟨fuel, rfl⟩ : ∃ less, fuel = less + 1 := ⟨fuel - 1, by omega⟩
      have length : (message ++ [0]).length = message.length + 1 := by simp
      obtain ⟨last, padded, holdsLast⟩ :=
        ih holdsNext (by omega) (by rw [length]; omega) fuel (by omega) nextIndex
      refine ⟨last, ?_, ?_⟩
      · rw [Sha1.padLoop, and_fiveHundredFour, index, if_pos (by omega),
          updated]
        exact padded
      · rw [List.append_assoc] at holdsLast
        exact holdsLast

theorem ofNat_eq_of_mod {m n : Nat} (same : m % 256 = n % 256) :
    UInt8.ofNat m = UInt8.ofNat n := by
  apply UInt8.toNat_inj.mp
  rw [UInt8.toNat_ofNat', UInt8.toNat_ofNat']
  exact same

/-- The counters give the number of bits in eight bytes. -/
theorem finalcount_eq {context : Context} {message : List UInt8}
    (counts : Counts context message.length) :
    finalcount context = bitLength message := by
  obtain ⟨low, high, count⟩ := counts
  unfold finalcount bitLength
  rw [← count]
  apply List.map_congr_left
  intro i member
  have bound : i < 8 := List.mem_range.mp member
  apply ofNat_eq_of_mod
  have byte (n : Nat) : n &&& 255 = n % 256 :=
    Nat.and_two_pow_sub_one_eq_mod n 8
  rw [byte, Nat.shiftRight_eq_div_pow]
  interval_cases i <;> simp <;> omega

theorem length_bitLength (message : List UInt8) :
    (bitLength message).length = 8 := by
  simp [bitLength]

theorem Holds.final {context : Context} {message : List UInt8}
    (holds : Holds context message) : final context = some (sha1 message) := by
  have below : message.length % 64 < 64 := Nat.mod_lt _ (by decide)
  have count := finalcount_eq holds.counts
  obtain ⟨marked, update, holdsMarked⟩ :=
    @Holds.update _ _ [0x80] holds (by decide)
  obtain ⟨full, padded, holdsFull⟩ := @Holds.padLoop _ _
    ((119 - message.length % 64) % 64) 64 holdsMarked
    (Nat.mod_lt _ (by decide))
    (by rw [List.length_append, List.length_singleton]; omega)
    (Nat.mod_lt _ (by decide))
  obtain ⟨last, counted, holdsLast⟩ := @Holds.update _ _ (bitLength message)
    holdsFull (by rw [length_bitLength]; decide)
  unfold Sha1.final
  rw [update, Option.bind_some, padded, Option.bind_some, count, counted,
    Option.map_some, holdsLast.state]
  rfl

theorem Holds.foldlM {context : Context} {message : List UInt8}
    (holds : Holds context message) {pieces : List (List UInt8)}
    (short : ∀ piece ∈ pieces, piece.length ≤ 2 ^ 32 - 64) :
    ∃ next, pieces.foldlM Sha1.update context = some next ∧
      Holds next (message ++ pieces.flatten) := by
  induction pieces generalizing context message with
  | nil => exact ⟨context, rfl, by simpa using holds⟩
  | cons piece pieces ih =>
      obtain ⟨next, updated, holdsNext⟩ :=
        holds.update (short piece List.mem_cons_self)
      obtain ⟨last, folded, holdsLast⟩ := ih holdsNext
        fun later member => short later (List.mem_cons_of_mem piece member)
      refine ⟨last, ?_, ?_⟩
      · rw [List.foldlM_cons, updated]
        exact folded
      · rw [List.append_assoc] at holdsLast
        exact holdsLast

theorem hashPieces_eq {buffer : List UInt8} {pieces : List (List UInt8)}
    (room : buffer.length = 64)
    (short : ∀ piece ∈ pieces, piece.length ≤ 2 ^ 32 - 64) :
    hashPieces buffer pieces = some (sha1 pieces.flatten) := by
  obtain ⟨last, folded, holds⟩ := (holds_init room).foldlM short
  unfold hashPieces
  rw [folded]
  exact holds.final

/-- However a message is cut into pieces, and whatever the buffer of the context
held before, the result is the hash of the whole padded message; taking byte
after byte makes no difference. -/
theorem sha1_in_pieces {buffer : List UInt8} {pieces : List (List UInt8)}
    (room : buffer.length = 64)
    (short : ∀ piece ∈ pieces, piece.length ≤ 2 ^ 32 - 64) :
    hashPieces buffer pieces = some (sha1 pieces.flatten) ∧
      hvSha1Bytes buffer pieces.flatten = some (sha1 pieces.flatten) := by
  refine ⟨hashPieces_eq room short, ?_⟩
  have bytes : ∀ piece ∈ pieces.flatten.map fun byte => [byte],
      piece.length ≤ 2 ^ 32 - 64 := by
    intro piece member
    obtain ⟨byte, _, rfl⟩ := List.mem_map.mp member
    exact show 1 ≤ 2 ^ 32 - 64 by decide
  have whole : (pieces.flatten.map fun byte => [byte]).flatten =
      pieces.flatten := by
    rw [← List.flatMap_def, List.flatMap_singleton']
  unfold hvSha1Bytes
  rw [hashPieces_eq room bytes, whole]

theorem sha1_in_two_pieces :
    hashPieces (List.replicate 64 7) [[0x61], [0x62, 0x63]] =
      some [169, 153, 62, 54, 71, 6, 129, 106, 186, 62, 37, 113, 120, 80, 194,
        108, 156, 208, 216, 157] := by
  have digest : sha1 [0x61, 0x62, 0x63] =
      [169, 153, 62, 54, 71, 6, 129, 106, 186, 62, 37, 113, 120, 80, 194, 108,
        156, 208, 216, 157] := by
    decide +kernel
  have pieces := (@sha1_in_pieces (List.replicate 64 7) [[0x61], [0x62, 0x63]]
    rfl (by decide)).1
  rw [pieces]
  exact congrArg some digest

end Final

end Sha1

end SpeechModules
