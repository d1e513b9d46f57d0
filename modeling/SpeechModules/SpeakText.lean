import SpeechModules.CBuffer
import Mathlib.Algebra.Order.Ring.Nat
import Mathlib.Tactic.Ring

/-!
# Replacement of star and pound in spoken text

`switch_ivr_speak_text_handle` counts the extra bytes of the replacements,
allocates a zeroed buffer and fills it with single bytes and bounded prints.
The print bound is the size of the pointer `tp`, not of the buffer, so the
expansion is complete exactly for replacements of at most seven bytes.
-/

namespace SpeechModules

namespace SpeakText

open CBuffer

/-- `sizeof(tp)` on a platform with 8-byte pointers. -/
def pointerSize : Nat := 8

def starByte : UInt8 := 42

def poundByte : UInt8 := 35

/-- The default of the channel variable `star_replace`. -/
def defaultStar : CString where
  bytes := bytesOf "star"
  zeroFree := by decide
  sizeLt := by decide

/-- The default of the channel variable `pound_replace`. -/
def defaultPound : CString where
  bytes := bytesOf "pound"
  zeroFree := by decide
  sizeLt := by decide

/-- The first pass: the value of `extra`, a `size_t`. -/
def countExtra (starLength poundLength : Nat) : List UInt8 → Nat → Nat
  | [], extra => extra
  | byte :: rest, extra =>
      if byte = starByte then
        countExtra starLength poundLength rest ((extra + starLength) % 2 ^ 64)
      else if byte = poundByte then
        countExtra starLength poundLength rest ((extra + poundLength) % 2 ^ 64)
      else countExtra starLength poundLength rest extra

/-- One bounded print of a replacement at `tp`. -/
def printReplacement (buffer : List UInt8) (tp : Nat) (text : List UInt8) :
    Option (List UInt8) := do
  let length ← strlen buffer tp
  snprintf buffer (tp + length) (sizeSub pointerSize length) text

/-- The second pass: fill the buffer from `tp` on.  There is no result when
memory outside the buffer is accessed. -/
def fill (star pound : List UInt8) :
    List UInt8 → List UInt8 → Nat → Option (List UInt8)
  | [], buffer, _ => some buffer
  | byte :: rest, buffer, tp =>
      if byte = starByte then do
        fill star pound rest (← printReplacement buffer tp star)
          (tp + star.length)
      else if byte = poundByte then do
        fill star pound rest (← printReplacement buffer tp pound)
          (tp + pound.length)
      else do
        fill star pound rest (← write buffer tp [byte]) (tp + 1)

/-- What happens up to the call of `switch_core_speech_feed_tts`. -/
inductive Outcome where
  | fed (text : List UInt8)
  | memoryError
  | outOfBounds
  deriving DecidableEq, Repr

/-- The text handling of `switch_ivr_speak_text_handle`.  The two variables
are absent when the channel does not set them, and `allocated` says whether
`malloc` returned a buffer. -/
def switchIvrSpeakTextHandle (starReplace poundReplace : Option CString)
    (text : CString) (allocated : Bool) : Outcome :=
  let star := (starReplace.getD defaultStar).bytes
  let pound := (poundReplace.getD defaultPound).bytes
  let extra := countExtra star.length pound.length text.bytes 0
  if extra = 0 then .fed text.bytes
  else if allocated = false then .memoryError
  else
    let size := (text.bytes.length + extra + 1) % 2 ^ 64
    match fill star pound text.bytes (List.replicate size 0) 0 with
    | none => .outOfBounds
    | some buffer =>
        match stringAt buffer 0 with
        | some bytes => .fed bytes
        | none => .outOfBounds

/-! ## The specified expansion -/

/-- What one byte of the text stands for. -/
def expandByte (star pound : List UInt8) (byte : UInt8) : List UInt8 :=
  if byte = starByte then star
  else if byte = poundByte then pound
  else [byte]

/-- The text with every star and every pound replaced. -/
def expansion (star pound text : List UInt8) : List UInt8 :=
  text.flatMap (expandByte star pound)

/-- The length of all replacements together, as a number. -/
def extraLength (starLength poundLength : Nat) (text : List UInt8) : Nat :=
  text.count starByte * starLength + text.count poundByte * poundLength

/-- Whatever `malloc` answers, no memory outside the buffer is accessed and the
text that is fed is the expansion. -/
def FeedsExpansion (starReplace poundReplace : Option CString)
    (text : CString) : Prop :=
  ∀ allocated,
    switchIvrSpeakTextHandle starReplace poundReplace text allocated ≠
        .outOfBounds ∧
      ∀ fed,
        switchIvrSpeakTextHandle starReplace poundReplace text allocated =
            .fed fed →
          fed = expansion (starReplace.getD defaultStar).bytes
            (poundReplace.getD defaultPound).bytes text.bytes

/-- Every replacement the text uses fits into one bounded print. -/
def ReplacementsFit (star pound text : List UInt8) : Prop :=
  (starByte ∈ text → star.length < pointerSize) ∧
    (poundByte ∈ text → pound.length < pointerSize)

instance (star pound text : List UInt8) :
    Decidable (ReplacementsFit star pound text) :=
  inferInstanceAs (Decidable (_ ∧ _))

variable {star pound text buffer result : List UInt8} {tp : Nat}

/-! ## The counting pass -/

theorem extraLength_cons (starLength poundLength : Nat) (byte : UInt8) :
    extraLength starLength poundLength (byte :: text) =
      (if byte = starByte then starLength
        else if byte = poundByte then poundLength else 0) +
        extraLength starLength poundLength text := by
  unfold extraLength
  by_cases isStar : byte = starByte
  · subst byte
    rw [List.count_cons_self, List.count_cons_of_ne (by decide), if_pos rfl]
    ring
  · by_cases isPound : byte = poundByte
    · subst byte
      rw [List.count_cons_self, List.count_cons_of_ne (by decide),
        if_neg isStar, if_pos rfl]
      ring
    · rw [List.count_cons_of_ne isStar, List.count_cons_of_ne isPound,
        if_neg isStar, if_neg isPound, Nat.zero_add]

/-- The counter holds the exact sum modulo the size of a `size_t`. -/
theorem countExtra_eq (starLength poundLength : Nat) (extra : Nat)
    (small : extra < 2 ^ 64) :
    countExtra starLength poundLength text extra =
      (extra + extraLength starLength poundLength text) % 2 ^ 64 := by
  induction text generalizing extra with
  | nil =>
      rw [countExtra, extraLength, List.count_nil, List.count_nil, Nat.zero_mul,
        Nat.zero_mul, Nat.add_zero, Nat.mod_eq_of_lt small]
  | cons byte text ih =>
      rw [countExtra, extraLength_cons]
      split
      · rw [ih _ (Nat.mod_lt _ (by decide)), Nat.mod_add_mod, Nat.add_assoc]
      · split
        · rw [ih _ (Nat.mod_lt _ (by decide)), Nat.mod_add_mod, Nat.add_assoc]
        · rw [ih _ small, Nat.zero_add]

theorem count_add_count_le (text : List UInt8) :
    text.count starByte + text.count poundByte ≤ text.length := by
  induction text with
  | nil => simp
  | cons byte text ih =>
      rw [List.count_cons, List.count_cons, List.length_cons]
      by_cases isStar : byte = starByte
      · have notPound : ¬ starByte = poundByte := by decide
        simp only [beq_iff_eq, isStar, if_true, notPound, if_false]
        omega
      · simp only [beq_iff_eq, isStar, if_false]
        split <;> omega

theorem expansion_cons (byte : UInt8) :
    expansion star pound (byte :: text) =
      expandByte star pound byte ++ expansion star pound text :=
  List.flatMap_cons

theorem expansion_length :
    (expansion star pound text).length + text.count starByte +
        text.count poundByte =
      text.length + extraLength star.length pound.length text := by
  induction text with
  | nil => simp [expansion, extraLength]
  | cons byte text ih =>
      rw [expansion_cons, List.length_append, extraLength_cons, expandByte,
        List.count_cons, List.count_cons, List.length_cons]
      by_cases isStar : byte = starByte
      · have notPound : ¬ starByte = poundByte := by decide
        simp only [isStar, if_true, beq_self_eq_true, beq_iff_eq, notPound,
          if_false]
        omega
      · by_cases isPound : byte = poundByte
        · have notStar : ¬ poundByte = starByte := by decide
          simp only [isPound, notStar, beq_self_eq_true, if_true, beq_iff_eq,
            if_false]
          omega
        · simp only [isStar, isPound, beq_iff_eq, if_false,
            List.length_singleton]
          omega

/-! ## The filling pass -/

/-- The bytes that are stored for one byte of the text. -/
def printedByte (star pound : List UInt8) (byte : UInt8) : List UInt8 :=
  if byte = starByte then star.take (pointerSize - 1) ++ [0]
  else if byte = poundByte then pound.take (pointerSize - 1) ++ [0]
  else [byte]

/-- A print at the start of the zero part is bounded by the pointer size. -/
theorem printReplacement_eq (zero : ZeroFrom buffer tp) :
    printReplacement buffer tp text =
      write buffer tp (text.take (pointerSize - 1) ++ [0]) := by
  by_cases inside : tp < buffer.length
  · simp [printReplacement, zero.strlen_eq inside, snprintf, sizeSub,
      pointerSize]
  · have outside : ¬ tp + (text.take (pointerSize - 1) ++ [0]).length ≤
        buffer.length := by
      rw [List.length_append, List.length_singleton]
      omega
    simp only [printReplacement, strlen_eq_none (Nat.le_of_not_lt inside),
      write, if_neg outside]
    rfl

/-- One round of the loop. -/
theorem fill_cons (zero : ZeroFrom buffer tp) (byte : UInt8) :
    fill star pound (byte :: text) buffer tp =
      (write buffer tp (printedByte star pound byte)).bind fun written =>
        fill star pound text written
          (tp + (expandByte star pound byte).length) := by
  rw [fill, printedByte, expandByte]
  split
  · rw [printReplacement_eq zero]
    rfl
  · split
    · rw [printReplacement_eq zero]
      rfl
    · rfl

/-- Behind the new position there are only zeros. -/
theorem zeroFrom_next (zero : ZeroFrom buffer tp) {byte : UInt8}
    (writes : write buffer tp (printedByte star pound byte) = some result) :
    ZeroFrom result (tp + (expandByte star pound byte).length) := by
  have replaced : ∀ replacement : List UInt8,
      write buffer tp (replacement.take (pointerSize - 1) ++ [0]) =
          some result →
        ZeroFrom result (tp + replacement.length) := by
    intro replacement prints
    apply (zero.write_terminated prints).mono
    rw [List.length_take]
    omega
  unfold printedByte at writes
  unfold expandByte
  split
  · next isStar =>
      rw [if_pos isStar] at writes
      exact replaced star writes
  · next notStar =>
      rw [if_neg notStar] at writes
      split
      · next isPound =>
          rw [if_pos isPound] at writes
          exact replaced pound writes
      · next notPound =>
          rw [if_neg notPound] at writes
          exact zero.write writes le_rfl

/-- The loop goes on from the buffer of its first round. -/
theorem fill_cons_eq_some (zero : ZeroFrom buffer tp) {byte : UInt8}
    (fills : fill star pound (byte :: text) buffer tp = some result) :
    ∃ written,
      write buffer tp (printedByte star pound byte) = some written ∧
        ZeroFrom written (tp + (expandByte star pound byte).length) ∧
        fill star pound text written
          (tp + (expandByte star pound byte).length) = some result := by
  rw [fill_cons zero, Option.bind_eq_some_iff] at fills
  obtain ⟨written, writes, fills⟩ := fills
  exact ⟨written, writes, zeroFrom_next zero writes, fills⟩

/-- The prefix that is already filled is not touched again. -/
theorem fill_getElem?_of_lt (zero : ZeroFrom buffer tp) {index : Nat}
    (before : index < tp)
    (fills : fill star pound text buffer tp = some result) :
    result[index]? = buffer[index]? := by
  induction text generalizing buffer tp with
  | nil =>
      obtain rfl := Option.some.inj fills
      rfl
  | cons byte text ih =>
      obtain ⟨written, writes, zeroNext, fills⟩ :=
        fill_cons_eq_some zero fills
      rw [ih zeroNext (by omega) fills, write_getElem?_of_lt writes before]

/-- A replacement that is cut off leaves a zero byte before the position that
the loop goes on with. -/
theorem printedByte_cut {byte : UInt8}
    (writes : write buffer tp (printedByte star pound byte) = some result)
    (long : (byte = starByte ∧ pointerSize ≤ star.length) ∨
      (byte = poundByte ∧ pointerSize ≤ pound.length)) :
    ∃ index < tp + (expandByte star pound byte).length,
      result[index]? = some 0 := by
  have cut : ∀ replacement : List UInt8, pointerSize ≤ replacement.length →
      write buffer tp (replacement.take (pointerSize - 1) ++ [0]) =
          some result →
        ∃ index < tp + replacement.length, result[index]? = some 0 := by
    intro replacement long prints
    have takeLength :
        (replacement.take (pointerSize - 1)).length = pointerSize - 1 := by
      rw [List.length_take]
      omega
    refine ⟨tp + (pointerSize - 1), ?_, ?_⟩
    · unfold pointerSize at long ⊢
      omega
    · rw [write_getElem?_add prints (by simp [takeLength])]
      simp [takeLength]
  rcases long with ⟨rfl, long⟩ | ⟨rfl, long⟩
  · exact cut star long writes
  · have notStar : ¬ poundByte = starByte := by decide
    rw [printedByte, if_neg notStar, if_pos rfl] at writes
    rw [expandByte, if_neg notStar, if_pos rfl]
    exact cut pound long writes

/-- A long replacement leaves a zero byte inside the place of the expansion. -/
theorem fill_cut (zero : ZeroFrom buffer tp)
    (fills : fill star pound text buffer tp = some result)
    (long : (starByte ∈ text ∧ pointerSize ≤ star.length) ∨
      (poundByte ∈ text ∧ pointerSize ≤ pound.length)) :
    ∃ index < tp + (expansion star pound text).length,
      result[index]? = some 0 := by
  induction text generalizing buffer tp with
  | nil => simp at long
  | cons byte text ih =>
      obtain ⟨written, writes, zeroNext, fills⟩ :=
        fill_cons_eq_some zero fills
      rw [expansion_cons, List.length_append]
      by_cases here : (byte = starByte ∧ pointerSize ≤ star.length) ∨
          (byte = poundByte ∧ pointerSize ≤ pound.length)
      · obtain ⟨index, before, isZero⟩ := printedByte_cut writes here
        refine ⟨index, by omega, ?_⟩
        rw [fill_getElem?_of_lt zeroNext before fills, isZero]
      · have later : (starByte ∈ text ∧ pointerSize ≤ star.length) ∨
            (poundByte ∈ text ∧ pointerSize ≤ pound.length) := by
          rw [not_or] at here
          rcases long with ⟨member, long⟩ | ⟨member, long⟩
          · rcases List.mem_cons.mp member with isStar | member
            · exact (here.1 ⟨isStar.symm, long⟩).elim
            · exact Or.inl ⟨member, long⟩
          · rcases List.mem_cons.mp member with isPound | member
            · exact (here.2 ⟨isPound.symm, long⟩).elim
            · exact Or.inr ⟨member, long⟩
        obtain ⟨index, before, isZero⟩ := ih zeroNext fills later
        exact ⟨index, by omega, isZero⟩

theorem ReplacementsFit.tail {byte : UInt8}
    (fit : ReplacementsFit star pound (byte :: text)) :
    ReplacementsFit star pound text :=
  ⟨fun member => fit.1 (List.mem_cons_of_mem _ member),
    fun member => fit.2 (List.mem_cons_of_mem _ member)⟩

/-- A replacement that fits is stored as a whole, with a terminator behind it
if it was printed. -/
theorem ReplacementsFit.printedByte_eq {byte : UInt8}
    (fit : ReplacementsFit star pound (byte :: text)) :
    printedByte star pound byte = expandByte star pound byte ∨
      printedByte star pound byte = expandByte star pound byte ++ [0] := by
  have whole : ∀ replacement : List UInt8,
      replacement.length < pointerSize →
        replacement.take (pointerSize - 1) = replacement := by
    intro replacement short
    exact List.take_of_length_le (by omega)
  unfold printedByte expandByte
  split
  · next isStar =>
      right
      rw [whole star (fit.1 (by simp [isStar]))]
  · split
    · next isPound =>
        right
        rw [whole pound (fit.2 (by simp [isPound]))]
    · exact Or.inl rfl

/-- Replacements that fit fill the buffer with the expansion. -/
theorem fill_eq_expansion {filled : List UInt8} {count : Nat}
    (fit : ReplacementsFit star pound text)
    (room : (expansion star pound text).length < count) :
    fill star pound text (filled ++ List.replicate count 0) filled.length =
      some (filled ++ expansion star pound text ++
        List.replicate (count - (expansion star pound text).length) 0) := by
  induction text generalizing filled count with
  | nil => simp [fill, expansion]
  | cons byte text ih =>
      rw [expansion_cons, List.length_append] at room
      have step : write (filled ++ List.replicate count 0) filled.length
          (printedByte star pound byte) =
          some ((filled ++ expandByte star pound byte) ++
            List.replicate (count - (expandByte star pound byte).length) 0) := by
        rcases fit.printedByte_eq with printed | printed
        · rw [printed, write_replicate (by omega)]
        · rw [printed, write_replicate (by simp; omega), List.length_append,
            List.length_singleton, List.append_assoc, List.append_assoc,
            List.append_assoc, List.singleton_append, ← List.replicate_succ]
          congr 4
          omega
      rw [fill_cons (zeroFrom_append_replicate filled count), step,
        Option.bind_some, ← List.length_append, ih fit.tail (by omega),
        expansion_cons, List.length_append, Nat.sub_sub]
      simp only [List.append_assoc]

/-- Replacements that fit leave the position inside the buffer. -/
theorem add_expansion_length_le (zero : ZeroFrom buffer tp)
    (inside : tp ≤ buffer.length) (fit : ReplacementsFit star pound text)
    (fills : fill star pound text buffer tp = some result) :
    tp + (expansion star pound text).length ≤ buffer.length := by
  induction text generalizing buffer tp with
  | nil => simpa [expansion] using inside
  | cons byte text ih =>
      obtain ⟨written, writes, zeroNext, fills⟩ :=
        fill_cons_eq_some zero fills
      have stored : tp + (expandByte star pound byte).length ≤
          buffer.length := by
        have writeFits := (write_eq_some.mp writes).1
        rcases fit.printedByte_eq with printed | printed
        · rwa [printed] at writeFits
        · rw [printed, List.length_append] at writeFits
          omega
      have lengthEq := write_length writes
      have final := ih zeroNext (by omega) fit.tail fills
      rw [expansion_cons, List.length_append]
      omega

/-! ## The text that is fed -/

/-- Without extra bytes there is nothing to replace. -/
theorem not_mem_of_extraLength_eq_zero (starNonempty : star ≠ [])
    (poundNonempty : pound ≠ [])
    (none : extraLength star.length pound.length text = 0) :
    starByte ∉ text ∧ poundByte ∉ text := by
  have starPositive := List.length_pos_iff.mpr starNonempty
  have poundPositive := List.length_pos_iff.mpr poundNonempty
  rw [extraLength, Nat.add_eq_zero_iff, Nat.mul_eq_zero, Nat.mul_eq_zero,
    List.count_eq_zero, List.count_eq_zero] at none
  exact ⟨none.1.resolve_right (by omega), none.2.resolve_right (by omega)⟩

theorem expansion_eq_self (noStar : starByte ∉ text)
    (noPound : poundByte ∉ text) : expansion star pound text = text := by
  induction text with
  | nil => rfl
  | cons byte text ih =>
      rw [List.mem_cons, not_or] at noStar noPound
      rw [expansion_cons, expandByte, if_neg (Ne.symm noStar.1),
        if_neg (Ne.symm noPound.1), ih noStar.2 noPound.2,
        List.singleton_append]

theorem zero_notMem_expansion (starZeroFree : 0 ∉ star)
    (poundZeroFree : 0 ∉ pound) (textZeroFree : 0 ∉ text) :
    0 ∉ expansion star pound text := by
  intro member
  obtain ⟨byte, byteMember, zeroMember⟩ := List.mem_flatMap.mp member
  unfold expandByte at zeroMember
  split at zeroMember
  · exact starZeroFree zeroMember
  · split at zeroMember
    · exact poundZeroFree zeroMember
    · rw [List.mem_singleton] at zeroMember
      rw [zeroMember] at textZeroFree
      exact textZeroFree byteMember

variable {starReplace poundReplace : Option CString} {spoken : CString}

/-- Replacements that fit are fed completely unless the size of the buffer
overflows. -/
theorem feedsExpansion_of_fit
    (starNonempty : (starReplace.getD defaultStar).bytes ≠ [])
    (poundNonempty : (poundReplace.getD defaultPound).bytes ≠ [])
    (fit : ReplacementsFit (starReplace.getD defaultStar).bytes
      (poundReplace.getD defaultPound).bytes spoken.bytes)
    (small : spoken.bytes.length +
      extraLength (starReplace.getD defaultStar).bytes.length
        (poundReplace.getD defaultPound).bytes.length spoken.bytes + 1 <
      2 ^ 64) :
    FeedsExpansion starReplace poundReplace spoken := by
  intro allocated
  unfold switchIvrSpeakTextHandle
  generalize starEq : starReplace.getD defaultStar = star at *
  generalize poundEq : poundReplace.getD defaultPound = pound at *
  have extraEq : countExtra star.bytes.length pound.bytes.length
      spoken.bytes 0 =
      extraLength star.bytes.length pound.bytes.length spoken.bytes := by
    rw [countExtra_eq _ _ _ (by decide), Nat.zero_add]
    exact Nat.mod_eq_of_lt (by omega)
  have lengthEq := @expansion_length star.bytes pound.bytes spoken.bytes
  simp only [extraEq]
  split
  · next none =>
      obtain ⟨noStar, noPound⟩ :=
        not_mem_of_extraLength_eq_zero starNonempty poundNonempty none
      refine ⟨Outcome.noConfusion, ?_⟩
      rintro fed ⟨⟩
      exact (expansion_eq_self noStar noPound).symm
  · split
    · exact ⟨Outcome.noConfusion, fun _ equation => Outcome.noConfusion equation⟩
    · have filled := @fill_eq_expansion star.bytes pound.bytes spoken.bytes []
        (spoken.bytes.length +
          extraLength star.bytes.length pound.bytes.length spoken.bytes + 1)
        fit (by omega)
      rw [List.nil_append, List.nil_append, List.length_nil] at filled
      rw [Nat.mod_eq_of_lt small, filled]
      simp only
      rw [stringAt_zero_replicate
        (zero_notMem_expansion star.zeroFree pound.zeroFree spoken.zeroFree)
        (by omega)]
      refine ⟨Outcome.noConfusion, ?_⟩
      rintro fed ⟨⟩
      rfl

/-- What is known when the expansion was fed from a buffer. -/
theorem fit_of_fill {size : Nat}
    (fills : fill star pound text (List.replicate size 0) 0 = some result)
    (string : stringAt result 0 = some (expansion star pound text)) :
    ReplacementsFit star pound text ∧
      (expansion star pound text).length ≤ size := by
  have zero : ZeroFrom (List.replicate size 0) 0 :=
    zeroFrom_append_replicate [] size
  have fit : ReplacementsFit star pound text := by
    by_contra misfit
    have long : (starByte ∈ text ∧ pointerSize ≤ star.length) ∨
        (poundByte ∈ text ∧ pointerSize ≤ pound.length) := by
      by_contra none
      push Not at none
      exact misfit none
    obtain ⟨index, before, isZero⟩ := fill_cut zero fills long
    have ends := stringAt_zero_length_le string isZero
    omega
  refine ⟨fit, ?_⟩
  have bound := add_expansion_length_le zero (Nat.zero_le _) fit fills
  rwa [Nat.zero_add, List.length_replicate] at bound

/-- The fed text is the expansion exactly when every replacement that the text
uses is shorter than a pointer and the size of the buffer does not overflow. -/
theorem feedsExpansion_iff (starReplace poundReplace : Option CString)
    (text : CString)
    (starNonempty : (starReplace.getD defaultStar).bytes ≠ [])
    (poundNonempty : (poundReplace.getD defaultPound).bytes ≠ []) :
    FeedsExpansion starReplace poundReplace text ↔
      ReplacementsFit (starReplace.getD defaultStar).bytes
          (poundReplace.getD defaultPound).bytes text.bytes ∧
        text.bytes.length +
          extraLength (starReplace.getD defaultStar).bytes.length
            (poundReplace.getD defaultPound).bytes.length text.bytes + 1 <
          2 ^ 64 := by
  refine ⟨?_, fun holds =>
    feedsExpansion_of_fit starNonempty poundNonempty holds.1 holds.2⟩
  intro feeds
  obtain ⟨inBounds, fedEq⟩ := feeds true
  unfold switchIvrSpeakTextHandle at inBounds fedEq
  generalize starReplace.getD defaultStar = star at *
  generalize poundReplace.getD defaultPound = pound at *
  have lengthEq := @expansion_length star.bytes pound.bytes text.bytes
  have countLe := count_add_count_le text.bytes
  have textSize := text.sizeLt
  have extraEq : countExtra star.bytes.length pound.bytes.length
      text.bytes 0 =
      extraLength star.bytes.length pound.bytes.length text.bytes % 2 ^ 64 := by
    rw [countExtra_eq _ _ _ (by decide), Nat.zero_add]
  simp only [extraEq, Bool.true_eq_false, if_false] at inBounds fedEq
  by_cases wrapped :
      extraLength star.bytes.length pound.bytes.length text.bytes % 2 ^ 64 = 0
  · -- the text itself was fed, so nothing was to be replaced
    rw [if_pos wrapped] at fedEq
    have same := congrArg List.length (fedEq text.bytes rfl)
    have none :
        extraLength star.bytes.length pound.bytes.length text.bytes = 0 := by
      omega
    obtain ⟨noStar, noPound⟩ :=
      not_mem_of_extraLength_eq_zero starNonempty poundNonempty none
    refine ⟨⟨fun member => absurd member noStar,
      fun member => absurd member noPound⟩, ?_⟩
    omega
  · rw [if_neg wrapped] at inBounds fedEq
    generalize sizeEq : (text.bytes.length +
      extraLength star.bytes.length pound.bytes.length text.bytes % 2 ^ 64 +
      1) % 2 ^ 64 = size at inBounds fedEq
    cases fills : fill star.bytes pound.bytes text.bytes
        (List.replicate size 0) 0 with
    | none => simp [fills] at inBounds
    | some result =>
        cases string : stringAt result 0 with
        | none => simp [fills, string] at inBounds
        | some bytes =>
            have expanded := fedEq bytes (by simp [fills, string])
            rw [expanded] at string
            obtain ⟨fit, bound⟩ := fit_of_fill fills string
            exact ⟨fit, by omega⟩

/-- The text `*`. -/
def singleStar : CString where
  bytes := bytesOf "*"
  zeroFree := by decide
  sizeLt := by decide

/-- A replacement of nine bytes, three characters of Chinese text. -/
def threeCharacters : CString where
  bytes := bytesOf "星号键"
  zeroFree := by decide
  sizeLt := by decide

theorem feedsExpansion_defaults :
    FeedsExpansion none none singleStar :=
  (feedsExpansion_iff none none singleStar (by decide) (by decide)).mpr
    (by decide)

/-- The buffer is fed with the first seven of the nine bytes. -/
theorem not_feedsExpansion_threeCharacters :
    ¬ FeedsExpansion (some threeCharacters) none singleStar := by
  intro feeds
  have cut := (feeds true).2 [230, 152, 159, 229, 143, 183, 233] (by decide)
  revert cut
  decide

end SpeakText

end SpeechModules
