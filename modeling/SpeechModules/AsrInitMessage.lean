import SpeechModules.CBuffer
import SpeechModules.JsonText

/-!
# The init message of a recognition session

`onopen` of `mod_funasr` and of the relay `rnnoise_server` writes the same JSON
text around a uuid and a mode.  Both are pasted into the text as they are, so
the text says what it should exactly for strings that need no escaping.
-/

namespace SpeechModules

namespace AsrInitMessage

open JsonText

/-- `pram_begin` of both programs. -/
def pramBegin : List UInt8 :=
  bytesOf "\x7b\"chunk_size\":[5,10,5], \"audio_fs\" : 16000, \"wav_name\":\""

/-- `pram_end` of both programs. -/
def pramEnd (asrMode : List UInt8) : List UInt8 :=
  bytesOf "\",\"is_speaking\":true, \"wav_format\":\"pcm\", \"mode\":\"" ++
    asrMode ++ bytesOf "\"\x7d"

/-- `pramStr` of both programs. -/
def pramStr (uuid asrMode : List UInt8) : List UInt8 :=
  pramBegin ++ uuid ++ pramEnd asrMode

/-- The text `mod_funasr` sends: the mode is the configured `asr_mode`. -/
def funasrPramStr (asrMode uuid : CString) : List UInt8 :=
  pramStr uuid.bytes asrMode.bytes

/-- The member `mode` of the client's init request as a string.  The conversion
throws for anything else. -/
def requestMode : Value → Option (List UInt8)
  | .object members =>
      match members.lookup (bytesOf "mode") with
      | some (.string mode) => some mode
      | _ => none
  | _ => none

/-- The text `rnnoise_server` sends: the mode is taken from the client's
request. -/
def rnnoisePramStr (requestJson : Value) (uuid : CString) :
    Option (List UInt8) :=
  (requestMode requestJson).map (pramStr uuid.bytes)

/-- The names of the six members that the code writes. -/
def memberNames : List (List UInt8) :=
  [bytesOf "chunk_size", bytesOf "audio_fs", bytesOf "wav_name",
    bytesOf "is_speaking", bytesOf "wav_format", bytesOf "mode"]

/-- The text is a document that names the uuid and the mode, says that someone
is speaking and has the six members only. -/
def Encodes (text uuid mode : List UInt8) : Prop :=
  ∃ members, parse text = some (.object members) ∧
    members.lookup (bytesOf "wav_name") = some (.string uuid) ∧
    members.lookup (bytesOf "mode") = some (.string mode) ∧
    members.lookup (bytesOf "is_speaking") = some (.bool true) ∧
    (members.map Prod.fst).Perm memberNames

/-- A string that can be pasted between two quotation marks. -/
def Pastable (bytes : List UInt8) : Prop :=
  Utf8.valid bytes = true ∧ Plain bytes

instance (bytes : List UInt8) : Decidable (Pastable bytes) :=
  inferInstanceAs (Decidable (_ ∧ _))

/-! ## The text in pieces -/

/-- The text from the value of `wav_name` on. -/
def nameAndRest (uuid asrMode : List UInt8) : List UInt8 :=
  uuid ++ quote :: 44 ::
    (bytesOf "\"is_speaking\":true, \"wav_format\":\"pcm\", \"mode\":\"" ++
      (asrMode ++ quote :: [125]))

theorem pramStr_eq (uuid asrMode : List UInt8) :
    pramStr uuid asrMode = pramBegin ++ nameAndRest uuid asrMode := by
  simp only [pramStr, pramEnd, nameAndRest, List.append_assoc]
  rfl

theorem ascii_valid {before rest : List UInt8}
    (ascii : before.all (fun byte => byte < 0x80) = true) :
    Utf8.valid (before ++ rest) = Utf8.valid rest := by
  induction before with
  | nil => rfl
  | cons byte before ih =>
      simp only [List.all_cons, Bool.and_eq_true, decide_eq_true_eq] at ascii
      have first := Utf8.valid_append_ascii ascii.1 [] (before ++ rest)
      rw [List.nil_append] at first
      rw [List.cons_append, first, ih ascii.2]
      rfl

/-- The text is UTF-8 exactly when both strings are. -/
theorem valid_pramStr (uuid asrMode : List UInt8) :
    Utf8.valid (pramStr uuid asrMode) =
      (Utf8.valid uuid && Utf8.valid asrMode) := by
  rw [pramStr_eq, ascii_valid (by decide), nameAndRest,
    Utf8.valid_append_ascii (by decide)]
  congr 1
  have comma := @ascii_valid [44] (bytesOf
      "\"is_speaking\":true, \"wav_format\":\"pcm\", \"mode\":\"" ++
    (asrMode ++ quote :: [125])) (by decide)
  rw [List.singleton_append] at comma
  rw [comma, ascii_valid (by decide), Utf8.valid_append_ascii (by decide)]
  rw [show Utf8.valid [125] = true from by decide, Bool.and_true]

/-- The first two members, before the name. -/
def firstMembers : List (List UInt8 × Value) :=
  [(bytesOf "chunk_size", .array [.int 5, .int 10, .int 5]),
    (bytesOf "audio_fs", .int 16000)]

/-- The two members between the name and the mode. -/
def middleMembers : List (List UInt8 × Value) :=
  [(bytesOf "is_speaking", .bool true), (bytesOf "wav_format", .string (bytesOf "pcm"))]

/-- A member whose value is a string that has been opened. -/
def stringMember (name rest : List UInt8) : List UInt8 :=
  32 :: quote :: (name ++ quote :: 58 :: quote :: rest)

/-- The text behind the opening brace, up to the name. -/
theorem parseMembers_begin (depth limit : Nat) (rest : List UInt8) :
    parseMembers (parseValue (depth + 2)) (limit + 2)
        (pramBegin.tail ++ rest) =
      (parseMembers (parseValue (depth + 2)) limit
        (stringMember (bytesOf "wav_name") rest)).map
        fun parsed => (firstMembers ++ parsed.1, parsed.2) := by
  have chunkSize : parseMember (parseValue (depth + 2))
      (pramBegin.tail ++ rest) =
      some ((bytesOf "chunk_size", .array [.int 5, .int 10, .int 5]),
        bytesOf ", \"audio_fs\" : 16000, \"wav_name\":\"" ++ rest) := by
    rw [@parseMember_plain _ _ (bytesOf "chunk_size") (58 ::
        (bytesOf "[5,10,5], \"audio_fs\" : 16000, \"wav_name\":\"" ++ rest)) _
        (by decide) rfl rfl]
    rfl
  have audioFs : parseMember (parseValue (depth + 2))
      (bytesOf " \"audio_fs\" : 16000, \"wav_name\":\"" ++ rest) =
      some ((bytesOf "audio_fs", .int 16000),
        bytesOf ", \"wav_name\":\"" ++ rest) := by
    rw [@parseMember_plain _ _ (bytesOf "audio_fs")
        (bytesOf " : 16000, \"wav_name\":\"" ++ rest) _ (by decide) rfl rfl]
    rfl
  have first := @parseMembers_cons _ _ _
    (bytesOf " \"audio_fs\" : 16000, \"wav_name\":\"" ++ rest)
    (limit + 1) _ chunkSize rfl
  have second := @parseMembers_cons _ _ _
    (stringMember (bytesOf "wav_name") rest) limit _ audioFs rfl
  rw [first, second, Option.map_map]
  rfl

/-- The text behind the name, up to the mode. -/
theorem parseMembers_middle (depth limit : Nat) (rest : List UInt8) :
    parseMembers (parseValue (depth + 2)) (limit + 2)
        (bytesOf "\"is_speaking\":true, \"wav_format\":\"pcm\", \"mode\":\"" ++
          rest) =
      (parseMembers (parseValue (depth + 2)) limit
        (stringMember (bytesOf "mode") rest)).map
        fun parsed => (middleMembers ++ parsed.1, parsed.2) := by
  have isSpeaking : parseMember (parseValue (depth + 2))
      (bytesOf "\"is_speaking\":true, \"wav_format\":\"pcm\", \"mode\":\"" ++
        rest) =
      some ((bytesOf "is_speaking", .bool true),
        bytesOf ", \"wav_format\":\"pcm\", \"mode\":\"" ++ rest) := by
    rw [@parseMember_plain _ _ (bytesOf "is_speaking")
        (bytesOf ":true, \"wav_format\":\"pcm\", \"mode\":\"" ++ rest) _
        (by decide) rfl rfl]
    rfl
  have wavFormat : parseMember (parseValue (depth + 2))
      (bytesOf " \"wav_format\":\"pcm\", \"mode\":\"" ++ rest) =
      some ((bytesOf "wav_format", .string (bytesOf "pcm")),
        bytesOf ", \"mode\":\"" ++ rest) := by
    rw [@parseMember_plain _ _ (bytesOf "wav_format")
        (bytesOf ":\"pcm\", \"mode\":\"" ++ rest) _ (by decide) rfl rfl]
    rfl
  have first := @parseMembers_cons _ _ _
    (bytesOf " \"wav_format\":\"pcm\", \"mode\":\"" ++ rest)
    (limit + 1) _ isSpeaking rfl
  have second := @parseMembers_cons _ _ _ (stringMember (bytesOf "mode") rest)
    limit _ wavFormat rfl
  rw [first, second, Option.map_map]
  rfl

theorem parseMember_string {name : List UInt8} (plain : Plain name)
    (depth : Nat) (rest : List UInt8) :
    parseMember (parseValue (depth + 1)) (stringMember name rest) =
      (parseString rest).map
        fun parsed => ((name, .string parsed.1), parsed.2) := by
  rw [@parseMember_plain _ _ name (58 :: quote :: rest) (quote :: rest) plain
    rfl rfl]
  have string : parseValue (depth + 1) (skipSpace (quote :: rest)) =
      (parseString rest).map fun parsed => (.string parsed.1, parsed.2) :=
    rfl
  rw [string, Option.map_map]
  rfl

/-- The whole text behind the opening brace. -/
theorem parse_pramStr (uuid asrMode : List UInt8)
    (valid : Utf8.valid (pramStr uuid asrMode) = true) :
    ∃ depth limit, parse (pramStr uuid asrMode) =
      ((parseMembers (parseValue (depth + 2)) (limit + 6)
        (pramBegin.tail ++ nameAndRest uuid asrMode)).bind fun parsed =>
          if (skipSpace parsed.2).isEmpty then some (.object parsed.1)
          else none) := by
  obtain ⟨depth, depthEq⟩ : ∃ depth, (pramStr uuid asrMode).length = depth + 2 :=
    ⟨(pramStr uuid asrMode).length - 2, by
      rw [pramStr_eq, List.length_append, show pramBegin.length = 56 from rfl]
      omega⟩
  obtain ⟨limit, limitEq⟩ :
      ∃ limit, (pramBegin.tail ++ nameAndRest uuid asrMode).length = limit + 6 :=
    ⟨(pramBegin.tail ++ nameAndRest uuid asrMode).length - 6, by
      rw [List.length_append, show pramBegin.tail.length = 55 from rfl]
      omega⟩
  have object : parseValue (depth + 3) (skipSpace (pramStr uuid asrMode)) =
      (parseMembers (parseValue (depth + 2))
        (pramBegin.tail ++ nameAndRest uuid asrMode).length
        (pramBegin.tail ++ nameAndRest uuid asrMode)).map
        fun parsed => (.object parsed.1, parsed.2) := by
    rw [pramStr_eq]
    rfl
  refine ⟨depth, limit, ?_⟩
  rw [parse, valid, depthEq, object, limitEq, Option.bind_map]
  rfl

/-! ## Which strings can be pasted -/

/-- The members of the text for strings that can be pasted. -/
def pramMembers (uuid asrMode : List UInt8) : List (List UInt8 × Value) :=
  firstMembers ++ (bytesOf "wav_name", .string uuid) ::
    (middleMembers ++ [(bytesOf "mode", .string asrMode)])

theorem parseMembers_plain {uuid asrMode : List UInt8} (plainUuid : Plain uuid)
    (plainMode : Plain asrMode) (depth limit : Nat) :
    parseMembers (parseValue (depth + 2)) (limit + 6)
        (pramBegin.tail ++ nameAndRest uuid asrMode) =
      some (pramMembers uuid asrMode, []) := by
  have wavName := @parseMember_string (bytesOf "wav_name") (by decide)
    (depth + 1) (nameAndRest uuid asrMode)
  rw [nameAndRest, parseString_plain plainUuid, Option.map_some] at wavName
  have mode := @parseMember_string (bytesOf "mode") (by decide) (depth + 1)
    (asrMode ++ quote :: [125])
  rw [parseString_plain plainMode, Option.map_some] at mode
  have third := @parseMembers_cons _ _ _ _ (limit + 3) _ wavName rfl
  have last := @parseMembers_last _ _ _ [] limit _ mode rfl
  rw [parseMembers_begin depth (limit + 4), nameAndRest, third,
    parseMembers_middle depth (limit + 1), last]
  rfl

/-- Strings that can be pasted are what the text says. -/
theorem encodes_of_pastable {uuid asrMode : List UInt8}
    (uuidPastable : Pastable uuid) (modePastable : Pastable asrMode) :
    Encodes (pramStr uuid asrMode) uuid asrMode := by
  have valid : Utf8.valid (pramStr uuid asrMode) = true := by
    rw [valid_pramStr, uuidPastable.1, modePastable.1]
    rfl
  obtain ⟨depth, limit, parsed⟩ := parse_pramStr uuid asrMode valid
  rw [parseMembers_plain uuidPastable.2 modePastable.2] at parsed
  refine ⟨pramMembers uuid asrMode, parsed, ?_, ?_, ?_, ?_⟩
  · rfl
  · rfl
  · rfl
  · exact List.Perm.refl _

/-- The first member of a list that starts with an opened string. -/
theorem parseMembers_stringMember {name rest behind : List UInt8}
    {members : List (List UInt8 × Value)} {depth limit : Nat}
    (plain : Plain name)
    (parsed : parseMembers (parseValue (depth + 1)) (limit + 1)
      (stringMember name rest) = some (members, behind)) :
    ∃ bytes after, parseString rest = some (bytes, after) ∧
      ((∃ later following, skipSpace after = 44 :: later ∧
          parseMembers (parseValue (depth + 1)) limit later =
            some (following, behind) ∧
          members = (name, .string bytes) :: following) ∨
        (skipSpace after = 125 :: behind ∧
          members = [(name, .string bytes)])) := by
  obtain ⟨member, after, first, next⟩ := parseMembers_eq_some parsed
  rw [parseMember_string plain] at first
  obtain ⟨⟨bytes, after'⟩, string, equation⟩ := Option.map_eq_some_iff.mp first
  obtain ⟨rfl, rfl⟩ := Prod.mk.inj equation
  exact ⟨bytes, after', string, next⟩

/-- The strings the text speaks about can be pasted. -/
theorem pastable_of_encodes {uuid asrMode : List UInt8}
    (encodes : Encodes (pramStr uuid asrMode) uuid asrMode) :
    Pastable uuid ∧ Pastable asrMode := by
  obtain ⟨members, parsed, nameEq, modeEq, -, -⟩ := encodes
  have valid : Utf8.valid (pramStr uuid asrMode) = true := by
    by_contra invalid
    rw [parse, Bool.eq_false_iff.mpr invalid] at parsed
    cases parsed
  have bothValid := valid
  rw [valid_pramStr, Bool.and_eq_true] at bothValid
  obtain ⟨depth, limit, parseEq⟩ := parse_pramStr uuid asrMode valid
  rw [parsed, parseMembers_begin depth (limit + 4)] at parseEq
  obtain ⟨⟨all, behind⟩, begins, closing⟩ :=
    Option.bind_eq_some_iff.mp parseEq.symm
  obtain ⟨⟨fromName, end_⟩, names, equation⟩ :=
    Option.map_eq_some_iff.mp begins
  obtain ⟨rfl, rfl⟩ := Prod.mk.inj equation
  obtain rfl : members = firstMembers ++ fromName := by
    split at closing
    · exact ((Value.object.injEq _ _).mp (Option.some.inj closing)).symm
    · cases closing
  -- the first member of the rest is the name, whatever the uuid is
  obtain ⟨bytes, after, string, next⟩ :=
    parseMembers_stringMember (by decide) names
  have isUuid : bytes = uuid := by
    rcases next with ⟨later, following, -, -, rfl⟩ | ⟨-, rfl⟩
    · exact (Value.string.injEq _ _).mp (Option.some.inj nameEq)
    · exact (Value.string.injEq _ _).mp (Option.some.inj nameEq)
  subst isUuid
  obtain ⟨plainUuid, rfl⟩ := plain_of_parseString (by
    intro body rest scanned
    cases scanned
    rfl) string
  rcases next with ⟨later, following, comma, middle, rfl⟩ | ⟨close, -⟩
  · obtain rfl := (List.cons.inj comma).2
    rw [parseMembers_middle depth (limit + 1)] at middle
    obtain ⟨⟨fromMode, end_⟩, modes, equation⟩ :=
      Option.map_eq_some_iff.mp middle
    obtain ⟨rfl, rfl⟩ := Prod.mk.inj equation
    obtain ⟨modeBytes, after, modeString, next⟩ :=
      parseMembers_stringMember (by decide) modes
    have isMode : modeBytes = asrMode := by
      rcases next with ⟨later, following, -, -, rfl⟩ | ⟨-, rfl⟩
      · exact (Value.string.injEq _ _).mp (Option.some.inj modeEq)
      · exact (Value.string.injEq _ _).mp (Option.some.inj modeEq)
    subst isMode
    obtain ⟨plainMode, -⟩ := plain_of_parseString (by
      intro body rest scanned
      cases scanned) modeString
    exact ⟨⟨bothValid.1, plainUuid⟩, ⟨bothValid.2, plainMode⟩⟩
  · cases close

/-- The text of either program says what it should exactly when the uuid and
the mode can be pasted. -/
theorem pramStr_encodes_iff (uuid : CString) :
    (∀ asrMode : CString,
      Encodes (funasrPramStr asrMode uuid) uuid.bytes asrMode.bytes ↔
        Pastable uuid.bytes ∧ Pastable asrMode.bytes) ∧
    (∀ requestJson mode, requestMode requestJson = some mode →
      ((∃ text, rnnoisePramStr requestJson uuid = some text ∧
          Encodes text uuid.bytes mode) ↔
        Pastable uuid.bytes ∧ Pastable mode)) := by
  have general : ∀ mode, Encodes (pramStr uuid.bytes mode) uuid.bytes mode ↔
      Pastable uuid.bytes ∧ Pastable mode := by
    intro mode
    constructor
    · exact pastable_of_encodes
    · rintro ⟨uuidPastable, modePastable⟩
      exact encodes_of_pastable uuidPastable modePastable
  constructor
  · intro asrMode
    exact general asrMode.bytes
  · intro requestJson mode requested
    rw [rnnoisePramStr, requested, Option.map_some]
    constructor
    · rintro ⟨text, sent, encodes⟩
      obtain rfl := Option.some.inj sent
      exact (general mode).mp encodes
    · intro pastable
      exact ⟨_, rfl, (general mode).mpr pastable⟩

def sampleUuid : CString where
  bytes := bytesOf "9264a7d6-6e1a-4e1a-a037-d09848f87a41"
  zeroFree := by decide
  sizeLt := by decide

def twoPass : CString where
  bytes := bytesOf "2pass"
  zeroFree := by decide
  sizeLt := by decide

/-- A mode that closes its string and goes on with another member. -/
def injectingMode : CString where
  bytes := bytesOf "2pass\",\"wav_name\":\"x"
  zeroFree := by decide
  sizeLt := by decide

theorem pramStr_encodes_twoPass :
    Encodes (funasrPramStr twoPass sampleUuid) sampleUuid.bytes
        twoPass.bytes ∧
      ∃ text, rnnoisePramStr
          (.object [(bytesOf "mode", .string twoPass.bytes)]) sampleUuid =
          some text ∧
        Encodes text sampleUuid.bytes twoPass.bytes :=
  ⟨((pramStr_encodes_iff sampleUuid).1 twoPass).mpr (by decide),
    ((pramStr_encodes_iff sampleUuid).2
      (.object [(bytesOf "mode", .string twoPass.bytes)]) twoPass.bytes
      rfl).mpr (by decide)⟩

/-- Neither program escapes the quotation marks of a mode. -/
theorem pramStr_not_encodes_injectingMode :
    ¬ Encodes (funasrPramStr injectingMode sampleUuid) sampleUuid.bytes
        injectingMode.bytes ∧
      ∀ text, rnnoisePramStr
          (.object [(bytesOf "mode", .string injectingMode.bytes)])
          sampleUuid = some text →
        ¬ Encodes text sampleUuid.bytes injectingMode.bytes := by
  have impossible : ¬ Encodes (pramStr sampleUuid.bytes injectingMode.bytes)
      sampleUuid.bytes injectingMode.bytes := by
    intro encodes
    have pastable := (pastable_of_encodes encodes).2
    revert pastable
    decide
  constructor
  · exact impossible
  · intro text sent encodes
    obtain rfl := Option.some.inj sent
    exact impossible encodes

end AsrInitMessage

end SpeechModules
