import SpeechModules.PercentCode
import Mathlib.Data.List.Basic
import Mathlib.Data.List.TakeWhile
import Mathlib.Algebra.Group.Int.Defs

/-!
# JSON texts as byte strings

A parser for the texts of RFC 8259.  A text is encoded in UTF-8; a string runs
to the first quotation mark that no backslash precedes and is then unescaped by
an automaton that reads one byte at a time; objects keep their members in the
order of the text, repeated names included.
-/

namespace SpeechModules

/-! ## UTF-8 -/

namespace Utf8

/-- The ranges of the bytes that have to follow the first byte of a
character. -/
def continuation (byte : UInt8) : Option (List (UInt8 × UInt8)) :=
  if byte < 0x80 then some []
  else if 0xC2 ≤ byte ∧ byte ≤ 0xDF then some [(0x80, 0xBF)]
  else if byte = 0xE0 then some [(0xA0, 0xBF), (0x80, 0xBF)]
  else if byte = 0xED then some [(0x80, 0x9F), (0x80, 0xBF)]
  else if 0xE1 ≤ byte ∧ byte ≤ 0xEF then some [(0x80, 0xBF), (0x80, 0xBF)]
  else if byte = 0xF0 then some [(0x90, 0xBF), (0x80, 0xBF), (0x80, 0xBF)]
  else if byte = 0xF4 then some [(0x80, 0x8F), (0x80, 0xBF), (0x80, 0xBF)]
  else if 0xF1 ≤ byte ∧ byte ≤ 0xF3 then
    some [(0x80, 0xBF), (0x80, 0xBF), (0x80, 0xBF)]
  else none

/-- The bytes complete the character that is being read, if any, and go on with
complete characters. -/
def validFrom : List (UInt8 × UInt8) → List UInt8 → Bool
  | owed, [] => owed.isEmpty
  | [], byte :: rest =>
      match continuation byte with
      | some owed => validFrom owed rest
      | none => false
  | (low, high) :: owed, byte :: rest =>
      decide (low ≤ byte ∧ byte ≤ high) && validFrom owed rest

def valid (bytes : List UInt8) : Bool :=
  validFrom [] bytes

/-- Every byte that can be owed is outside the ASCII range. -/
def NoAscii (owed : List (UInt8 × UInt8)) : Prop :=
  ∀ range ∈ owed, 0x80 ≤ range.1

theorem continuation_noAscii {byte : UInt8} {owed : List (UInt8 × UInt8)}
    (follows : continuation byte = some owed) : NoAscii owed := by
  unfold continuation at follows
  split_ifs at follows
  all_goals
    obtain rfl := Option.some.inj follows
    unfold NoAscii
    simp

/-- An ASCII byte stands between complete characters. -/
theorem validFrom_append_ascii {owed : List (UInt8 × UInt8)}
    (noAscii : NoAscii owed) {byte : UInt8} (ascii : byte < 0x80)
    (before rest : List UInt8) :
    validFrom owed (before ++ byte :: rest) =
      (validFrom owed before && valid rest) := by
  induction before generalizing owed with
  | nil =>
      cases owed with
      | nil =>
          have leads : continuation byte = some [] := by
            simp [continuation, ascii]
          simp [validFrom, leads, valid]
      | cons range owed =>
          have low : 0x80 ≤ range.1 := noAscii range (by simp)
          have outside : ¬ (range.1 ≤ byte ∧ byte ≤ range.2) := by
            rintro ⟨above, -⟩
            rw [UInt8.le_iff_toNat_le] at low above
            rw [UInt8.lt_iff_toNat_lt] at ascii
            omega
          simp [validFrom, outside]
  | cons first before ih =>
      cases owed with
      | nil =>
          rw [List.cons_append, validFrom, validFrom]
          cases follows : continuation first with
          | none => simp
          | some owed => exact ih (continuation_noAscii follows)
      | cons range owed =>
          have noAsciiRest : NoAscii owed :=
            fun other member => noAscii other (List.mem_cons_of_mem _ member)
          rw [List.cons_append, validFrom, validFrom, ih noAsciiRest,
            Bool.and_assoc]

theorem valid_append_ascii {byte : UInt8} (ascii : byte < 0x80)
    (before rest : List UInt8) :
    valid (before ++ byte :: rest) = (valid before && valid rest) := by
  apply validFrom_append_ascii
  · intro range member
    cases member
  · exact ascii

end Utf8

namespace JsonText

/-- A decoded value. -/
inductive Value where
  | null
  | bool (value : Bool)
  | int (value : Int)
  | double (literal : List UInt8)
  | string (bytes : List UInt8)
  | array (elements : List Value)
  | object (members : List (List UInt8 × Value))

/-! ## Strings -/

def quote : UInt8 := 34

def backslash : UInt8 := 92

/-- The body of a string up to its closing quotation mark, and the text behind
it.  A byte behind a backslash does not close the string. -/
def scanFrom : Bool → List UInt8 → Option (List UInt8 × List UInt8)
  | _, [] => none
  | true, byte :: rest =>
      (scanFrom false rest).map fun scanned => (byte :: scanned.1, scanned.2)
  | false, byte :: rest =>
      if byte = quote then some ([], rest)
      else
        (scanFrom (byte = backslash) rest).map
          fun scanned => (byte :: scanned.1, scanned.2)

def scan (text : List UInt8) : Option (List UInt8 × List UInt8) :=
  scanFrom false text

/-- Where the unescaping stands: between characters, behind a backslash, after
some digits of a code unit, or after a high surrogate.  The two states inside an
escape carry the high surrogate that came before it. -/
inductive Escape where
  | outside
  | backslash (high : Option Nat)
  | digits (high : Option Nat) (count value : Nat)
  | surrogate (high : Nat)
  deriving DecidableEq, Repr

/-- The UTF-8 encoding of a code point. -/
def encodeCodePoint (code : Nat) : List UInt8 :=
  if code < 0x80 then [UInt8.ofNat code]
  else if code < 0x800 then
    [UInt8.ofNat (0xC0 + code / 64), UInt8.ofNat (0x80 + code % 64)]
  else if code < 0x10000 then
    [UInt8.ofNat (0xE0 + code / 4096), UInt8.ofNat (0x80 + code / 64 % 64),
      UInt8.ofNat (0x80 + code % 64)]
  else
    [UInt8.ofNat (0xF0 + code / 262144), UInt8.ofNat (0x80 + code / 4096 % 64),
      UInt8.ofNat (0x80 + code / 64 % 64), UInt8.ofNat (0x80 + code % 64)]

/-- The character of a two-character escape. -/
def simpleEscape (byte : UInt8) : Option UInt8 :=
  if byte = 34 ∨ byte = 92 ∨ byte = 47 then some byte
  else if byte = 98 then some 8
  else if byte = 102 then some 12
  else if byte = 110 then some 10
  else if byte = 114 then some 13
  else if byte = 116 then some 9
  else none

/-- A complete code unit: a character, the second half of a pair, or a high
surrogate that waits for its second half. -/
def codeUnit (high : Option Nat) (value : Nat) :
    Option (Escape × List UInt8) :=
  match high with
  | some high =>
      if 0xDC00 ≤ value ∧ value ≤ 0xDFFF then
        some (.outside, encodeCodePoint
          (0x10000 + (high - 0xD800) * 1024 + (value - 0xDC00)))
      else none
  | none =>
      if 0xD800 ≤ value ∧ value ≤ 0xDBFF then some (.surrogate value, [])
      else if 0xDC00 ≤ value ∧ value ≤ 0xDFFF then none
      else some (.outside, encodeCodePoint value)

/-- Read one byte of the body of a string. -/
def unescapeByte (state : Escape) (byte : UInt8) :
    Option (Escape × List UInt8) :=
  match state with
  | .outside =>
      if byte = backslash then some (.backslash none, [])
      else if byte < 32 ∨ byte = quote then none
      else some (.outside, [byte])
  | .backslash high =>
      if byte = 117 then some (.digits high 0 0, [])
      else
        match high with
        | some _ => none
        | none => (simpleEscape byte).map fun value => (.outside, [value])
  | .digits high count value =>
      (hexValue byte).bind fun digit =>
        if count < 3 then some (.digits high (count + 1) (16 * value + digit), [])
        else codeUnit high (16 * value + digit)
  | .surrogate high =>
      if byte = backslash then some (.backslash (some high), []) else none

/-- Unescape the body of a string from a state on. -/
def unescapeFrom : Escape → List UInt8 → Option (List UInt8)
  | state, [] => if state = .outside then some [] else none
  | state, byte :: rest =>
      (unescapeByte state byte).bind fun step =>
        (unescapeFrom step.1 rest).map (step.2 ++ ·)

def unescape (body : List UInt8) : Option (List UInt8) :=
  unescapeFrom .outside body

/-- The string whose opening quotation mark has been read. -/
def parseString (text : List UInt8) : Option (List UInt8 × List UInt8) :=
  (scan text).bind fun scanned =>
    (unescape scanned.1).map fun bytes => (bytes, scanned.2)

/-! ## Strings that stand for themselves -/

/-- No byte of the string is escaped or has to be. -/
def Plain (bytes : List UInt8) : Prop :=
  ∀ byte ∈ bytes, 32 ≤ byte ∧ byte ≠ quote ∧ byte ≠ backslash

instance (bytes : List UInt8) : Decidable (Plain bytes) :=
  List.decidableBAll _ bytes

theorem plain_cons {byte : UInt8} {bytes : List UInt8} :
    Plain (byte :: bytes) ↔
      (32 ≤ byte ∧ byte ≠ quote ∧ byte ≠ backslash) ∧ Plain bytes :=
  List.forall_mem_cons

theorem scan_plain {bytes : List UInt8} (plain : Plain bytes)
    (behind : List UInt8) :
    scan (bytes ++ quote :: behind) = some (bytes, behind) := by
  unfold scan
  induction bytes with
  | nil => simp [scanFrom]
  | cons byte bytes ih =>
      obtain ⟨⟨-, notQuote, notBackslash⟩, plain⟩ := plain_cons.mp plain
      rw [List.cons_append, scanFrom, if_neg notQuote,
        decide_eq_false notBackslash, ih plain]
      rfl

theorem unescape_plain {bytes : List UInt8} (plain : Plain bytes) :
    unescape bytes = some bytes := by
  unfold unescape
  induction bytes with
  | nil => rfl
  | cons byte bytes ih =>
      obtain ⟨⟨printable, notQuote, notBackslash⟩, plain⟩ := plain_cons.mp plain
      have notControl : ¬ (byte < 32 ∨ byte = quote) := by
        rintro (control | isQuote)
        · exact UInt8.not_le.mpr control printable
        · exact notQuote isQuote
      have step : unescapeByte .outside byte = some (.outside, [byte]) := by
        simp only [unescapeByte, if_neg notBackslash, if_neg notControl]
      rw [unescapeFrom, step, Option.bind_some, ih plain]
      rfl

/-- A plain string is read as itself. -/
theorem parseString_plain {bytes : List UInt8} (plain : Plain bytes)
    (behind : List UInt8) :
    parseString (bytes ++ quote :: behind) = some (bytes, behind) := by
  rw [parseString, scan_plain plain, Option.bind_some, unescape_plain plain]
  rfl

/-- How far the unescaping is into the escape it is reading. -/
def Escape.depth : Escape → Nat
  | .outside => 0
  | .backslash none => 1
  | .backslash (some _) => 7
  | .digits none count _ => 2 + count
  | .digits (some _) count _ => 8 + count
  | .surrogate _ => 6

theorem encodeCodePoint_length_le (code : Nat) :
    (encodeCodePoint code).length ≤ 4 := by
  unfold encodeCodePoint
  split_ifs <;> simp

/-- An escape writes fewer bytes than it is long. -/
theorem unescapeByte_depth {state next : Escape} {byte : UInt8}
    {written : List UInt8} (inside : state ≠ .outside)
    (step : unescapeByte state byte = some (next, written)) :
    written.length + next.depth ≤ state.depth + 1 ∧
      (next = .outside → written.length < state.depth + 1) := by
  cases state with
  | outside => exact absurd rfl inside
  | backslash high =>
      simp only [unescapeByte] at step
      split at step
      · cases step
        cases high <;> simp [Escape.depth]
      · cases high with
        | some value => cases step
        | none =>
            obtain ⟨value, -, equation⟩ := Option.map_eq_some_iff.mp step
            cases equation
            simp [Escape.depth]
  | digits high count value =>
      obtain ⟨digit, -, step⟩ := Option.bind_eq_some_iff.mp step
      split at step
      · cases step
        cases high <;> simp [Escape.depth] <;> omega
      · cases high with
        | some high =>
            simp only [codeUnit] at step
            split at step
            · cases step
              have short := encodeCodePoint_length_le (0x10000 +
                (high - 0xD800) * 1024 + (16 * value + digit - 0xDC00))
              simp only [Escape.depth]
              omega
            · cases step
        | none =>
            simp only [codeUnit] at step
            split at step
            · cases step
              simp [Escape.depth]
              omega
            · split at step
              · cases step
              · cases step
                have short := encodeCodePoint_length_le (16 * value + digit)
                simp only [Escape.depth]
                omega
  | surrogate high =>
      simp only [unescapeByte] at step
      split at step
      · cases step
        simp [Escape.depth]
      · cases step

theorem unescapeByte_outside {next : Escape} {byte : UInt8}
    {written : List UInt8}
    (step : unescapeByte .outside byte = some (next, written)) :
    (32 ≤ byte ∧ byte ≠ quote ∧ byte ≠ backslash ∧ next = .outside ∧
        written = [byte]) ∨
      (next = .backslash none ∧ written = []) := by
  simp only [unescapeByte] at step
  split at step
  · cases step
    exact Or.inr ⟨rfl, rfl⟩
  · next notBackslash =>
      split at step
      · cases step
      · next notControl =>
          cases step
          rw [not_or] at notControl
          exact Or.inl ⟨UInt8.not_lt.mp notControl.1, notControl.2,
            notBackslash, rfl, rfl⟩

/-- Unescaping makes a string no longer, and shorter if it reads an escape. -/
theorem unescapeFrom_length {state : Escape} {text bytes : List UInt8}
    (result : unescapeFrom state text = some bytes) :
    bytes.length ≤ state.depth + text.length ∧
      (state ≠ .outside → bytes.length < state.depth + text.length) := by
  induction text generalizing state bytes with
  | nil =>
      unfold unescapeFrom at result
      split at result
      · next done =>
          cases result
          exact ⟨Nat.zero_le _, fun inside => absurd done inside⟩
      · cases result
  | cons byte text ih =>
      obtain ⟨⟨next, written⟩, step, result⟩ :=
        Option.bind_eq_some_iff.mp result
      obtain ⟨later, laterResult, rfl⟩ := Option.map_eq_some_iff.mp result
      obtain ⟨laterLe, laterLt⟩ := ih laterResult
      rw [List.length_append, List.length_cons]
      by_cases inside : state = .outside
      · subst inside
        refine ⟨?_, fun notOutside => absurd rfl notOutside⟩
        rcases unescapeByte_outside step with ⟨-, -, -, rfl, rfl⟩ | ⟨rfl, rfl⟩
        · simp only [Escape.depth, List.length_singleton] at laterLe ⊢
          omega
        · have strict := laterLt (by simp)
          simp only [Escape.depth, List.length_nil] at strict ⊢
          omega
      · obtain ⟨bound, strict⟩ := unescapeByte_depth inside step
        have total : written.length + later.length <
            state.depth + (text.length + 1) := by
          by_cases done : next = .outside
          · have short := strict done
            rw [done] at laterLe
            simp only [Escape.depth] at laterLe
            omega
          · have strictLater := laterLt done
            simp only at strictLater
            omega
        exact ⟨total.le, fun _ => total⟩

/-- A string that unescapes to itself has no escapes. -/
theorem plain_of_unescape_eq_self {bytes : List UInt8}
    (same : unescape bytes = some bytes) : Plain bytes := by
  unfold unescape at same
  induction bytes with
  | nil =>
      intro byte member
      cases member
  | cons byte bytes ih =>
      obtain ⟨⟨next, written⟩, step, result⟩ := Option.bind_eq_some_iff.mp same
      obtain ⟨later, laterResult, equation⟩ := Option.map_eq_some_iff.mp result
      rcases unescapeByte_outside step with
        ⟨printable, notQuote, notBackslash, rfl, rfl⟩ | ⟨rfl, rfl⟩
      · obtain rfl : later = bytes := (List.cons.inj equation).2
        exact plain_cons.mpr ⟨⟨printable, notQuote, notBackslash⟩, ih laterResult⟩
      · -- an escape leaves the result too short
        obtain rfl : later = byte :: bytes := equation
        have short := (unescapeFrom_length laterResult).2 (by simp)
        simp only [Escape.depth, List.length_cons] at short
        omega

/-- A comma is never part of an escape. -/
theorem unescapeByte_comma {state next : Escape} {written : List UInt8}
    (step : unescapeByte state 44 = some (next, written)) :
    written = [44] := by
  cases state with
  | outside =>
      cases step
      rfl
  | backslash high =>
      cases high <;> cases step
  | digits high count value => cases step
  | surrogate high => cases step

theorem unescapeFrom_getLast? {state : Escape} {text bytes : List UInt8}
    (last : text.getLast? = some 44)
    (result : unescapeFrom state text = some bytes) :
    bytes.getLast? = some 44 := by
  induction text generalizing state bytes with
  | nil => cases last
  | cons byte text ih =>
      obtain ⟨⟨next, written⟩, step, result⟩ :=
        Option.bind_eq_some_iff.mp result
      obtain ⟨later, laterResult, rfl⟩ := Option.map_eq_some_iff.mp result
      cases text with
      | nil =>
          obtain rfl : byte = 44 := by simpa using last
          obtain rfl := unescapeByte_comma step
          unfold unescapeFrom at laterResult
          split at laterResult
          · cases laterResult
            rfl
          · cases laterResult
      | cons second text =>
          rw [List.getLast?_cons_cons] at last
          rw [List.getLast?_append, ih last laterResult]
          rfl

/-- Where the scan of a string followed by a quotation mark can stop: inside the
string, at the mark, or behind it if a backslash precedes the mark. -/
theorem scanFrom_append_quote (escaped : Bool) (bytes behind : List UInt8) :
    (∃ body rest, scanFrom escaped (bytes ++ quote :: behind) =
        some (body, rest) ∧ body.length < bytes.length) ∨
      scanFrom escaped (bytes ++ quote :: behind) = some (bytes, behind) ∨
      ((bytes = [] ∧ escaped = true ∨ bytes.getLast? = some backslash) ∧
        scanFrom escaped (bytes ++ quote :: behind) =
          (scan behind).map fun scanned =>
            (bytes ++ quote :: scanned.1, scanned.2)) := by
  induction bytes generalizing escaped with
  | nil =>
      cases escaped with
      | false =>
          right
          left
          simp [scanFrom]
      | true =>
          right
          right
          exact ⟨Or.inl ⟨rfl, rfl⟩, rfl⟩
  | cons byte bytes ih =>
      by_cases closes : escaped = false ∧ byte = quote
      · obtain ⟨rfl, rfl⟩ := closes
        left
        exact ⟨[], bytes ++ quote :: behind, by simp [scanFrom], by simp⟩
      · have step : ∃ next, (next = true → byte = backslash) ∧
            scanFrom escaped (byte :: bytes ++ quote :: behind) =
              (scanFrom next (bytes ++ quote :: behind)).map
                fun scanned => (byte :: scanned.1, scanned.2) := by
          cases escaped with
          | true => exact ⟨false, by simp, rfl⟩
          | false =>
              refine ⟨decide (byte = backslash), of_decide_eq_true, ?_⟩
              rw [List.cons_append, scanFrom,
                if_neg fun isQuote => closes ⟨rfl, isQuote⟩]
        obtain ⟨next, nextEscaped, step⟩ := step
        rw [step]
        rcases ih next with ⟨body, rest, scanned, shorter⟩ | scanned |
          ⟨pending, scanned⟩
        · left
          exact ⟨byte :: body, rest, by rw [scanned]; rfl, by simpa using shorter⟩
        · right
          left
          rw [scanned]
          rfl
        · right
          right
          constructor
          · right
            rcases pending with ⟨rfl, isEscaped⟩ | last
            · rw [nextEscaped isEscaped]
              rfl
            · rw [List.getLast?_cons, last]
              rfl
          · rw [scanned, Option.map_map]
            rfl

/-- A string that is read as itself is plain, if what follows its closing
quotation mark offers no other end for it or one behind a comma. -/
theorem plain_of_parseString {bytes behind rest : List UInt8}
    (other : ∀ body rest, scan behind = some (body, rest) →
      body.getLast? = some 44)
    (same : parseString (bytes ++ quote :: behind) = some (bytes, rest)) :
    Plain bytes ∧ rest = behind := by
  obtain ⟨⟨body, scanRest⟩, scanned, result⟩ := Option.bind_eq_some_iff.mp same
  obtain ⟨decoded, unescaped, equation⟩ := Option.map_eq_some_iff.mp result
  obtain ⟨rfl, rfl⟩ := Prod.mk.inj equation
  rcases scanFrom_append_quote false decoded behind with
    ⟨shortBody, shortRest, short, shorter⟩ | exact | ⟨pending, longer⟩
  · -- the string was closed too early
    obtain ⟨rfl, -⟩ := Prod.mk.inj (Option.some.inj (scanned.symm.trans short))
    have bound := (unescapeFrom_length unescaped).1
    simp only [Escape.depth] at bound
    omega
  · obtain ⟨rfl, rfl⟩ := Prod.mk.inj (Option.some.inj (scanned.symm.trans exact))
    exact ⟨plain_of_unescape_eq_self unescaped, rfl⟩
  · -- the mark was escaped, so the last byte is a backslash and a comma
    obtain ⟨⟨laterBody, laterRest⟩, later, equation⟩ :=
      Option.map_eq_some_iff.mp (longer.symm.trans scanned)
    obtain ⟨rfl, -⟩ := Prod.mk.inj equation
    have lastBody := other laterBody laterRest later
    have last : (decoded ++ quote :: laterBody).getLast? = some 44 := by
      rw [List.getLast?_append, List.getLast?_cons, lastBody]
      rfl
    have comma := unescapeFrom_getLast? last unescaped
    rcases pending with ⟨-, impossible⟩ | isBackslash
    · cases impossible
    · rw [comma] at isBackslash
      exact absurd isBackslash (by decide)

/-! ## Values -/

def isSpace (byte : UInt8) : Bool :=
  byte == 32 || byte == 9 || byte == 10 || byte == 13

def skipSpace (text : List UInt8) : List UInt8 :=
  text.dropWhile isSpace

def isDigit (byte : UInt8) : Bool :=
  48 ≤ byte && byte ≤ 57

/-- The bytes that can stand in a number. -/
def isNumberByte (byte : UInt8) : Bool :=
  isDigit byte || byte == 43 || byte == 45 || byte == 46 || byte == 69 ||
    byte == 101

def decimalValue (digits : List UInt8) : Nat :=
  digits.foldl (fun value digit => 10 * value + (digit.toNat - 48)) 0

/-- The integer part of a number has no leading zero. -/
def isIntegerPart (digits : List UInt8) : Bool :=
  digits == [48] || (!digits.isEmpty && digits.head? != some 48)

/-- The exponent part of a number. -/
def isExponent (text : List UInt8) : Bool :=
  match text with
  | [] => true
  | mark :: rest =>
      let digits :=
        match rest with
        | sign :: digits => if sign = 43 ∨ sign = 45 then digits else rest
        | [] => []
      (mark == 69 || mark == 101) && !digits.isEmpty && digits.all isDigit

/-- Fraction and exponent of a number. -/
def isFraction (text : List UInt8) : Bool :=
  match text with
  | 46 :: rest =>
      !(rest.takeWhile isDigit).isEmpty && isExponent (rest.dropWhile isDigit)
  | _ => isExponent text

/-- The value of a number without its sign. -/
def unsignedNumber (literal : List UInt8) : Option (Option Nat) :=
  let digits := literal.takeWhile isDigit
  let rest := literal.dropWhile isDigit
  if isIntegerPart digits = false then none
  else if rest.isEmpty then some (some (decimalValue digits))
  else if isFraction rest then some none
  else none

def numberValue (literal : List UInt8) : Option Value :=
  match literal with
  | 45 :: rest =>
      (unsignedNumber rest).map fun
        | some value => .int (-(value : Int))
        | none => .double literal
  | _ =>
      (unsignedNumber literal).map fun
        | some value => .int value
        | none => .double literal

def parseNumber (text : List UInt8) : Option (Value × List UInt8) :=
  (numberValue (text.takeWhile isNumberByte)).map
    fun value => (value, text.dropWhile isNumberByte)

/-- The rest of the text behind an expected word. -/
def expect (word text : List UInt8) : Option (List UInt8) :=
  if word.isPrefixOf text then some (text.drop word.length) else none

/-- The elements of an array behind its first one.  `limit` bounds their
number. -/
def parseElements (value : List UInt8 → Option (Value × List UInt8)) :
    Nat → List UInt8 → Option (List Value × List UInt8)
  | 0, _ => none
  | limit + 1, text =>
      (value (skipSpace text)).bind fun (element, behind) =>
        match skipSpace behind with
        | 44 :: rest =>
            (parseElements value limit rest).map
              fun (elements, behind) => (element :: elements, behind)
        | 93 :: rest => some ([element], rest)
        | _ => none

/-- One member of an object. -/
def parseMember (value : List UInt8 → Option (Value × List UInt8))
    (text : List UInt8) : Option ((List UInt8 × Value) × List UInt8) :=
  match skipSpace text with
  | 34 :: rest =>
      (parseString rest).bind fun (name, behind) =>
        match skipSpace behind with
        | 58 :: rest =>
            (value (skipSpace rest)).map
              fun (member, behind) => ((name, member), behind)
        | _ => none
  | _ => none

/-- The members of an object behind its first one. -/
def parseMembers (value : List UInt8 → Option (Value × List UInt8)) :
    Nat → List UInt8 → Option (List (List UInt8 × Value) × List UInt8)
  | 0, _ => none
  | limit + 1, text =>
      (parseMember value text).bind fun (member, behind) =>
        match skipSpace behind with
        | 44 :: rest =>
            (parseMembers value limit rest).map
              fun (members, behind) => (member :: members, behind)
        | 125 :: rest => some ([member], rest)
        | _ => none

/-- A value of at most the given nesting depth. -/
def parseValue : Nat → List UInt8 → Option (Value × List UInt8)
  | 0, _ => none
  | depth + 1, text =>
      match text with
      | 34 :: rest =>
          (parseString rest).map fun (bytes, behind) => (.string bytes, behind)
      | 91 :: rest =>
          match skipSpace rest with
          | 93 :: behind => some (.array [], behind)
          | _ =>
              (parseElements (parseValue depth) rest.length rest).map
                fun (elements, behind) => (.array elements, behind)
      | 123 :: rest =>
          match skipSpace rest with
          | 125 :: behind => some (.object [], behind)
          | _ =>
              (parseMembers (parseValue depth) rest.length rest).map
                fun (members, behind) => (.object members, behind)
      | 116 :: _ =>
          (expect [116, 114, 117, 101] text).map fun rest => (.bool true, rest)
      | 102 :: _ =>
          (expect [102, 97, 108, 115, 101] text).map
            fun rest => (.bool false, rest)
      | 110 :: _ =>
          (expect [110, 117, 108, 108] text).map fun rest => (.null, rest)
      | _ => parseNumber text

/-! ## Members one after another -/

section Members

variable {value : List UInt8 → Option (Value × List UInt8)}
  {text name behind rest : List UInt8} {limit : Nat}

/-- A member with a plain name. -/
theorem parseMember_plain (plain : Plain name)
    (start : skipSpace text = quote :: (name ++ quote :: behind))
    (colon : skipSpace behind = 58 :: rest) :
    parseMember value text =
      (value (skipSpace rest)).map
        fun parsed => ((name, parsed.1), parsed.2) := by
  unfold parseMember
  rw [start]
  simp only [quote]
  rw [show (34 : UInt8) = quote from rfl, parseString_plain plain,
    Option.bind_some]
  simp only [colon]

/-- A member that is followed by another one. -/
theorem parseMembers_cons {member : List UInt8 × Value}
    (first : parseMember value text = some (member, behind))
    (comma : skipSpace behind = 44 :: rest) :
    parseMembers value (limit + 1) text =
      (parseMembers value limit rest).map
        fun parsed => (member :: parsed.1, parsed.2) := by
  rw [parseMembers, first, Option.bind_some]
  simp only [comma]

/-- The last member of an object. -/
theorem parseMembers_last {member : List UInt8 × Value}
    (first : parseMember value text = some (member, behind))
    (close : skipSpace behind = 125 :: rest) :
    parseMembers value (limit + 1) text = some ([member], rest) := by
  rw [parseMembers, first, Option.bind_some]
  simp only [close]

/-- The members of an object start with its first one. -/
theorem parseMembers_eq_some {members : List (List UInt8 × Value)}
    (parsed : parseMembers value (limit + 1) text = some (members, rest)) :
    ∃ member behind, parseMember value text = some (member, behind) ∧
      ((∃ later following, skipSpace behind = 44 :: later ∧
          parseMembers value limit later = some (following, rest) ∧
          members = member :: following) ∨
        (skipSpace behind = 125 :: rest ∧ members = [member])) := by
  rw [parseMembers] at parsed
  obtain ⟨⟨member, behind⟩, first, parsed⟩ := Option.bind_eq_some_iff.mp parsed
  refine ⟨member, behind, first, ?_⟩
  simp only at parsed
  split at parsed
  · next later comma =>
      obtain ⟨⟨following, end_⟩, later', equation⟩ :=
        Option.map_eq_some_iff.mp parsed
      cases equation
      exact Or.inl ⟨later, following, comma, later', rfl⟩
  · next later close =>
      cases parsed
      exact Or.inr ⟨close, rfl⟩
  · cases parsed

end Members

/-- A text is one value, with space around it.  No value is nested deeper than
its text is long. -/
def parse (text : List UInt8) : Option Value :=
  if Utf8.valid text = false then none
  else
    (parseValue (text.length + 1) (skipSpace text)).bind
      fun (value, behind) =>
        if (skipSpace behind).isEmpty then some value else none

end JsonText

end SpeechModules
