import Mathlib.Data.List.Basic

/-!
# Percent-encoding and query strings

Bytes other than the unreserved ones of RFC 3986 are written as a percent sign
and two hexadecimal digits.  Nothing is assumed about the case of the digits, so
a code is any function with these properties.  Separators do not survive the
encoding, so a query string can be split and decoded again.
-/

namespace SpeechModules

/-- Letters, digits and the four marks that stand for themselves. -/
def isUnreserved (byte : UInt8) : Bool :=
  (65 ≤ byte && byte ≤ 90) || (97 ≤ byte && byte ≤ 122) ||
    (48 ≤ byte && byte ≤ 57) || byte == 45 || byte == 46 || byte == 95 ||
    byte == 126

/-- The value of a hexadecimal digit of either case. -/
def hexValue (byte : UInt8) : Option Nat :=
  if 48 ≤ byte ∧ byte ≤ 57 then some (byte.toNat - 48)
  else if 65 ≤ byte ∧ byte ≤ 70 then some (byte.toNat - 55)
  else if 97 ≤ byte ∧ byte ≤ 102 then some (byte.toNat - 87)
  else none

/-- A percent-encoding of single bytes. -/
structure PercentCode where
  encodeByte : UInt8 → List UInt8
  unreserved : ∀ byte, isUnreserved byte = true → encodeByte byte = [byte]
  reserved : ∀ byte, isUnreserved byte = false →
    ∃ high low, encodeByte byte = [37, high, low] ∧
      hexValue high = some (byte.toNat / 16) ∧
      hexValue low = some (byte.toNat % 16)

namespace PercentCode

/-- An upper-case hexadecimal digit. -/
def upperDigit (value : Nat) : UInt8 :=
  UInt8.ofNat (if value < 10 then 48 + value else 55 + value)

theorem hexValue_upperDigit :
    ∀ value < 16, hexValue (upperDigit value) = some value := by
  decide

/-- The code with upper-case digits. -/
def upperCase : PercentCode where
  encodeByte byte :=
    if isUnreserved byte then [byte]
    else [37, upperDigit (byte.toNat / 16), upperDigit (byte.toNat % 16)]
  unreserved byte isFree := if_pos isFree
  reserved byte notFree := by
    have bound := byte.toNat_lt
    refine ⟨_, _, if_neg (Bool.eq_false_iff.mp notFree), ?_, ?_⟩
    · exact hexValue_upperDigit _ (by omega)
    · exact hexValue_upperDigit _ (by omega)

variable (code : PercentCode)

/-- A byte string is encoded byte by byte. -/
def encode (bytes : List UInt8) : List UInt8 :=
  bytes.flatMap code.encodeByte

/-- Replace every percent sign and its two digits by the byte they denote. -/
def decode : List UInt8 → Option (List UInt8)
  | [] => some []
  | byte :: rest =>
      if byte = 37 then
        match rest with
        | high :: low :: rest => do
            let highValue ← hexValue high
            let lowValue ← hexValue low
            let decoded ← decode rest
            some (UInt8.ofNat (16 * highValue + lowValue) :: decoded)
        | _ => none
      else do
        let decoded ← decode rest
        some (byte :: decoded)

theorem decode_of_ne {byte : UInt8} (notPercent : byte ≠ 37)
    (rest : List UInt8) :
    decode (byte :: rest) = (decode rest).map (byte :: ·) := by
  rw [decode.eq_def]
  simp only [if_neg notPercent]
  cases decode rest <;> rfl

/-- A percent sign and two digits are the byte with the value of the digits. -/
theorem decode_escape {high low : UInt8} {highValue lowValue : Nat}
    (highEq : hexValue high = some highValue)
    (lowEq : hexValue low = some lowValue) (rest : List UInt8) :
    decode (37 :: high :: low :: rest) =
      (decode rest).map (UInt8.ofNat (16 * highValue + lowValue) :: ·) := by
  have escaped : decode (37 :: high :: low :: rest) =
      (hexValue high).bind fun highValue =>
        (hexValue low).bind fun lowValue =>
          (decode rest).bind fun decoded =>
            some (UInt8.ofNat (16 * highValue + lowValue) :: decoded) :=
    rfl
  rw [escaped, highEq, lowEq, Option.bind_some, Option.bind_some,
    Option.map_eq_bind]
  rfl

@[simp]
theorem encode_cons (byte : UInt8) (bytes : List UInt8) :
    code.encode (byte :: bytes) = code.encodeByte byte ++ code.encode bytes :=
  List.flatMap_cons

theorem decode_encodeByte_append (byte : UInt8) (rest : List UInt8) :
    decode (code.encodeByte byte ++ rest) =
      (decode rest).map (byte :: ·) := by
  cases isFree : isUnreserved byte with
  | true =>
      have notPercent : byte ≠ 37 := by
        rintro rfl
        revert isFree
        decide
      rw [code.unreserved byte isFree, List.singleton_append,
        decode_of_ne notPercent]
  | false =>
      obtain ⟨high, low, encoded, highEq, lowEq⟩ := code.reserved byte isFree
      have whole : UInt8.ofNat (16 * (byte.toNat / 16) + byte.toNat % 16) =
          byte := by
        rw [Nat.div_add_mod]
        exact UInt8.ofNat_toNat
      rw [encoded, List.cons_append, List.cons_append, List.singleton_append,
        decode_escape highEq lowEq, whole]

/-- Decoding undoes encoding. -/
theorem decode_encode (bytes : List UInt8) :
    decode (code.encode bytes) = some bytes := by
  induction bytes with
  | nil => rfl
  | cons byte bytes ih =>
      rw [encode_cons, decode_encodeByte_append, ih]
      rfl

theorem encode_injective : Function.Injective code.encode := by
  intro first second same
  have decoded := congrArg decode same
  rw [decode_encode, decode_encode] at decoded
  exact Option.some.inj decoded

/-- The byte that a percent sign and two digits denote. -/
def escapedByte (byte high low : UInt8) : Option UInt8 :=
  if byte = 37 then do
    let highValue ← hexValue high
    let lowValue ← hexValue low
    some (UInt8.ofNat (16 * highValue + lowValue))
  else none

/-- Replace every percent sign that two digits follow by the byte they denote,
and keep every other byte. -/
def unescape : List UInt8 → List UInt8
  | byte :: high :: low :: rest =>
      match escapedByte byte high low with
      | some value => value :: unescape rest
      | none => byte :: unescape (high :: low :: rest)
  | bytes => bytes

/-- A separator is no unreserved byte, no digit and not the percent sign. -/
def Separates (separator : UInt8) : Prop :=
  isUnreserved separator = false ∧ hexValue separator = none ∧ separator ≠ 37

instance (separator : UInt8) : Decidable (Separates separator) :=
  inferInstanceAs (Decidable (_ ∧ _))

theorem Separates.notMem_encode {separator : UInt8}
    (separates : Separates separator) (bytes : List UInt8) :
    separator ∉ code.encode bytes := by
  obtain ⟨notFree, noDigit, notPercent⟩ := separates
  intro member
  obtain ⟨byte, -, member⟩ := List.mem_flatMap.mp member
  cases isFree : isUnreserved byte with
  | true =>
      rw [code.unreserved byte isFree, List.mem_singleton] at member
      rw [member, isFree] at notFree
      cases notFree
  | false =>
      obtain ⟨high, low, encoded, highEq, lowEq⟩ := code.reserved byte isFree
      rw [encoded] at member
      simp only [List.mem_cons, List.not_mem_nil, or_false] at member
      rcases member with same | same | same
      · exact notPercent same
      · rw [same, highEq] at noDigit
        cases noDigit
      · rw [same, lowEq] at noDigit
        cases noDigit

/-! ## Query strings -/

/-- The byte between two pairs. -/
def ampersand : UInt8 := 38

/-- The byte between the name and the value of a pair. -/
def equals : UInt8 := 61

theorem ampersand_separates : Separates ampersand := by decide

theorem equals_separates : Separates equals := by decide

def encodePair (pair : List UInt8 × List UInt8) : List UInt8 :=
  code.encode pair.1 ++ equals :: code.encode pair.2

/-- The pairs with their names and values encoded. -/
def encodeQuery (pairs : List (List UInt8 × List UInt8)) : List UInt8 :=
  [ampersand].intercalate (pairs.map code.encodePair)

/-- A piece of a query string has one name and one value. -/
def decodePair (piece : List UInt8) : Option (List UInt8 × List UInt8) :=
  match piece.splitOn equals with
  | [name, value] => do
      let name ← decode name
      let value ← decode value
      some (name, value)
  | _ => none

/-- Split a query string into its pieces and decode each of them. -/
def decodeQuery (query : List UInt8) :
    Option (List (List UInt8 × List UInt8)) :=
  (query.splitOn ampersand).mapM decodePair

theorem decodePair_encodePair (pair : List UInt8 × List UInt8) :
    decodePair (code.encodePair pair) = some pair := by
  have pieces : (code.encodePair pair).splitOn equals =
      [code.encode pair.1, code.encode pair.2] := by
    rw [encodePair, List.splitOn_append_cons_self_of_not_mem
      (equals_separates.notMem_encode code pair.1),
      List.splitOn_eq_singleton (equals_separates.notMem_encode code pair.2)]
  rw [decodePair, pieces]
  simp only [decode_encode, Option.bind_eq_bind, Option.bind_some]

theorem ampersand_notMem_encodePair (pair : List UInt8 × List UInt8) :
    ampersand ∉ code.encodePair pair := by
  unfold encodePair
  rw [List.mem_append, List.mem_cons]
  rintro (member | same | member)
  · exact ampersand_separates.notMem_encode code pair.1 member
  · revert same
    decide
  · exact ampersand_separates.notMem_encode code pair.2 member

theorem mapM_decodePair (pairs : List (List UInt8 × List UInt8)) :
    (pairs.map code.encodePair).mapM decodePair = some pairs := by
  induction pairs with
  | nil => rfl
  | cons pair pairs ih =>
      rw [List.map_cons, List.mapM_cons, decodePair_encodePair, ih]
      rfl

/-- Splitting and decoding gives back the pairs in their order. -/
theorem decodeQuery_encodeQuery {pairs : List (List UInt8 × List UInt8)}
    (nonempty : pairs ≠ []) :
    decodeQuery (code.encodeQuery pairs) = some pairs := by
  have pieces : (code.encodeQuery pairs).splitOn ampersand =
      pairs.map code.encodePair := by
    apply List.splitOn_intercalate
    · intro piece member
      obtain ⟨pair, -, rfl⟩ := List.mem_map.mp member
      exact code.ampersand_notMem_encodePair pair
    · intro empty
      exact nonempty (List.map_eq_nil_iff.mp empty)
  rw [decodeQuery, pieces, mapM_decodePair]

end PercentCode

end SpeechModules
