import SpeechModules.WebSocketParser
import Mathlib.Tactic.IntervalCases

/-!
# What a stream of frames delivers

The frames of `ws_build_frame` read back by the parser: one frame first, then
the frames of a stream.  What the parser keeps between frames is the message
assembled so far.
-/

namespace SpeechModules

namespace WebSocket

/-- What the receiving end keeps from one frame to the next. -/
structure Assembly where
  complete : Bool
  opcode : UInt8
  message : List UInt8
  delivered : List (UInt8 × List UInt8)
  deriving DecidableEq, Repr

/-- The assembly of a parser. -/
def WebSocketParser.assembly (receiver : WebSocketParser) : Assembly where
  complete :=
    decide (receiver.state = .wsFrameBegin ∨ receiver.state = .wsFrameFin)
  opcode := receiver.opcode
  message := receiver.message
  delivered := receiver.delivered

/-- The effect of a whole frame with the given flags: a continuation keeps the
opcode, the payload is added to an unfinished message, and the last frame
delivers it. -/
def Assembly.accept (assembly : Assembly) (flags : UInt8)
    (payload : List UInt8) : Assembly :=
  let opcode :=
    if flags &&& wsOpMask ≠ Opcode.continue_.value then flags &&& wsOpMask
    else assembly.opcode
  let message := (if assembly.complete then [] else assembly.message) ++ payload
  if flags &&& wsFin ≠ 0 then
    { complete := true
      opcode := opcode
      message := message
      delivered := assembly.delivered ++ [(opcode, message)] }
  else
    { complete := false
      opcode := opcode
      message := message
      delivered := assembly.delivered }

/-- The automaton gets through the bytes, and no header among them announces
too much. -/
structure Feeds (receiver : WebSocketParser) (bytes : List UInt8)
    (reached : WebSocketParser) : Prop where
  fed : feedBytes receiver bytes = some reached
  below : AnnouncesBelow receiver bytes

namespace Feeds

variable {receiver middle reached : WebSocketParser}

theorem nil (tame : receiver.Tame) : Feeds receiver [] receiver := by
  refine ⟨rfl, ?_⟩
  intro front isPrefix last fed
  obtain rfl := List.prefix_nil.mp isPrefix
  obtain rfl := Option.some.inj fed
  exact tame

theorem trans {front back : List UInt8} (first : Feeds receiver front middle)
    (second : Feeds middle back reached) :
    Feeds receiver (front ++ back) reached := by
  constructor
  · rw [feedBytes_append, first.fed]
    exact second.fed
  · intro part isPrefix last fed
    rcases List.prefix_or_prefix_of_prefix isPrefix
        (List.prefix_append front back) with inFront | ⟨later, rfl⟩
    · exact first.below part inFront last fed
    · rw [feedBytes_append, first.fed] at fed
      exact second.below later ((List.prefix_append_right_inj front).mp isPrefix)
        last fed

theorem cons {byte : UInt8} {rest : List UInt8} (tame : receiver.Tame)
    (first : feedByte receiver byte = some middle)
    (others : Feeds middle rest reached) :
    Feeds receiver (byte :: rest) reached := by
  constructor
  · rw [feedBytes_cons, first]
    exact others.fed
  · intro part isPrefix last fed
    cases part with
    | nil =>
        obtain rfl := Option.some.inj fed
        exact tame
    | cons head part =>
        obtain ⟨rfl, later⟩ := List.cons_prefix_cons.mp isPrefix
        rw [feedBytes_cons, first] at fed
        exact others.below part later last fed

end Feeds

section Body

variable {receiver : WebSocketParser}

/-- The body of a frame goes through, whatever its length. -/
theorem feeds_body {bytes : List UInt8} (tame : receiver.Tame)
    (body : receiver.parser.state = .sBody) (some : bytes ≠ [])
    (exactly : receiver.parser.require = bytes.length) :
    Feeds receiver bytes (endBody (takeBody receiver bytes)) := by
  obtain ⟨_, _, requireAll⟩ := parser_takeBody receiver bytes
  constructor
  · rw [feedBytes_body body some (le_of_eq exactly.symm)]
    unfold endBodyIfDone
    rw [if_pos (by omega)]
  · intro part isPrefix last fed
    by_cases empty : part = []
    · subst empty
      obtain rfl := Option.some.inj fed
      exact tame
    · have shorter := isPrefix.length_le
      rw [feedBytes_body body empty (by omega)] at fed
      obtain rfl := Option.some.inj fed
      obtain ⟨_, length, _⟩ := parser_takeBody receiver part
      intro stays
      unfold endBodyIfDone at stays ⊢
      split at stays
      · unfold endBody at stays
        rw [parser_onFrameEnd] at stays
        cases stays
      case isFalse left =>
          rw [if_neg left, length]
          exact tame body

/-- The payload of a body as the parser's mask gives it. -/
def Parser.payload (parser : Parser) (body : List UInt8) : List UInt8 :=
  if parser.flags &&& wsHasMask ≠ 0 then
    (websocketDecode body parser.mask parser.maskOffset).1
  else
    body

theorem endBody_takeBody_assembly (bytes : List UInt8) :
    (endBody (takeBody receiver bytes)).assembly =
      if receiver.parser.flags &&& wsFin ≠ 0 then
        { complete := true
          opcode := receiver.opcode
          message := receiver.message ++ receiver.parser.payload bytes
          delivered := receiver.delivered ++
            [(receiver.opcode,
              receiver.message ++ receiver.parser.payload bytes)] }
      else
        { complete := false
          opcode := receiver.opcode
          message := receiver.message ++ receiver.parser.payload bytes
          delivered := receiver.delivered } := by
  by_cases masked : receiver.parser.flags &&& wsHasMask = 0 <;>
    by_cases last : receiver.parser.flags &&& wsFin = 0 <;>
    simp [endBody, takeBody, onFrameBody, onFrameEnd, Parser.payload,
      WebSocketParser.assembly, masked, last]

theorem reserveLength_nonneg {length : Nat} (short : length < 2 ^ 31 - 1) :
    ¬reserveLength length < 0 := by
  have narrow : Int.bmod (length + 1) (2 ^ 32) = length + 1 := by
    apply Int.bmod_eq_of_le <;> omega
  unfold reserveLength
  rw [narrow]
  omega

/-- The receiver after a header callback that did not throw. -/
def headed (receiver : WebSocketParser) : WebSocketParser :=
  { receiver with
    opcode :=
      if receiver.parser.flags &&& wsOpMask ≠ Opcode.continue_.value then
        receiver.parser.flags &&& wsOpMask
      else receiver.opcode
    message :=
      if receiver.state = .wsFrameBegin ∨ receiver.state = .wsFrameFin then []
      else receiver.message
    state := .wsFrameHeader }

theorem onFrameHeader_eq (short : receiver.parser.length < 2 ^ 31 - 1) :
    onFrameHeader receiver = some (headed receiver) := by
  unfold onFrameHeader
  rw [if_neg (reserveLength_nonneg short)]
  rfl

/-- From the end of a header the body completes the frame. -/
theorem afterHeader_feeds {body : List UInt8}
    (announced : receiver.parser.length = body.length)
    (short : body.length < 2 ^ 31 - 1) :
    ∃ entered reached, afterHeader receiver = some entered ∧
      Feeds entered body reached ∧ reached.parser.state = .sStart ∧
      reached.assembly =
        receiver.assembly.accept receiver.parser.flags
          (receiver.parser.payload body) := by
  by_cases empty : body = []
  · subst empty
    let entered := onFrameEnd (headed { receiver with
      parser := { receiver.parser with state := .sStart } })
    have state : entered.parser.state = .sStart := by
      simp only [entered, parser_onFrameEnd, headed]
    refine ⟨entered, entered, ?_, Feeds.nil ?_, state, ?_⟩
    · unfold afterHeader
      have zero : receiver.parser.length = 0 := announced
      rw [if_neg (not_not.mpr zero), onFrameHeader_eq (announced ▸ short)]
      rfl
    · intro body
      rw [state] at body
      cases body
    · by_cases last : receiver.parser.flags &&& wsFin = 0 <;>
        simp [entered, onFrameEnd, headed, WebSocketParser.assembly,
          Assembly.accept, Parser.payload, websocketDecode, last]
  · have some : receiver.parser.length ≠ 0 := by
      rw [announced]
      exact Nat.ne_of_gt (List.length_pos_of_ne_nil empty)
    let entered := headed { receiver with
      parser := { receiver.parser with
        state := .sBody, require := receiver.parser.length } }
    refine ⟨entered, endBody (takeBody entered body), ?_, ?_, ?_, ?_⟩
    · unfold afterHeader
      rw [if_pos some, onFrameHeader_eq]
      exact announced ▸ short
    · apply feeds_body _ rfl empty announced
      intro _
      change receiver.parser.length < 2 ^ 63
      omega
    · simp [endBody]
    · rw [endBody_takeBody_assembly]
      by_cases last : receiver.parser.flags &&& wsFin = 0 <;>
        simp [entered, headed, WebSocketParser.assembly, Assembly.accept,
          Parser.payload, last]

end Body

section Header

variable {receiver : WebSocketParser}

theorem tame_of_state (other : receiver.parser.state ≠ .sBody) :
    receiver.Tame := fun body => absurd body other

/-- The first byte of a frame read back. -/
theorem readStart_firstByte (receiver : WebSocketParser) (opcode : Opcode)
    (fin hasMask : Bool) :
    readStart receiver (firstByte (frameFlags opcode fin hasMask)) =
      { receiver with
        parser := { receiver.parser with
          length := 0
          maskOffset := 0
          flags := frameFlags opcode fin false
          state := .sHead } } := by
  have flags :
      (firstByte (frameFlags opcode fin hasMask) &&& wsOpMask) |||
          (if firstByte (frameFlags opcode fin hasMask) &&& 0x80 ≠ 0 then wsFin
            else 0) =
        frameFlags opcode fin false := by
    cases opcode <;> cases fin <;> cases hasMask <;> decide
  unfold readStart
  rw [flags]

theorem secondByte_length (flags shortLength : UInt8) (short : shortLength < 128) :
    secondByte flags shortLength &&& 0x7F = shortLength := by
  have all : ∀ length : Fin 128,
      ((0x80 ||| UInt8.ofNat length) &&& 0x7F = UInt8.ofNat length) ∧
        ((0 ||| UInt8.ofNat length) &&& 0x7F = UInt8.ofNat length) := by
    decide
  have bound : shortLength.toNat < 128 := short
  have this := all ⟨shortLength.toNat, bound⟩
  simp only [UInt8.ofNat_toNat] at this
  unfold secondByte
  split
  · exact this.1
  · exact this.2

theorem secondByte_flags (opcode : Opcode) (fin hasMask : Bool)
    (shortLength : UInt8) (short : shortLength < 128) :
    frameFlags opcode fin false |||
        (if secondByte (frameFlags opcode fin hasMask) shortLength &&& 0x80 ≠ 0
          then wsHasMask else 0) =
      frameFlags opcode fin hasMask := by
  have all : ∀ length : Fin 128,
      ((0x80 ||| UInt8.ofNat length) &&& 0x80 ≠ 0) ∧
        ((0 ||| UInt8.ofNat length) &&& 0x80 = 0) := by
    decide
  have bound : shortLength.toNat < 128 := short
  have this := all ⟨shortLength.toNat, bound⟩
  simp only [UInt8.ofNat_toNat] at this
  unfold secondByte
  cases hasMask with
  | true =>
      rw [if_pos ((frameFlags_hasMask opcode fin true).mpr rfl), if_pos this.1]
      cases opcode <;> cases fin <;> decide
  | false =>
      have unmasked : ¬(frameFlags opcode fin false &&& wsHasMask ≠ 0) := by
        rw [frameFlags_hasMask]
        exact Bool.false_ne_true
      rw [if_neg unmasked, if_neg (not_not.mpr this.2), UInt8.or_zero]

/-- The bytes the parser waits for, pushed one after the other. -/
theorem feeds_pushed {push : Parser → UInt8 → Parser}
    {after : WebSocketParser → Option WebSocketParser} {state : FrameState}
    (notBody : state ≠ .sBody)
    (pushState : ∀ parser byte, (push parser byte).state = parser.state)
    (pushRequire :
      ∀ parser byte, (push parser byte).require = parser.require - 1)
    (pushed : ∀ receiver byte, receiver.parser.state = state →
      feedByte receiver byte =
        if (push receiver.parser byte).require = 0 then
          after { receiver with parser := push receiver.parser byte }
        else
          some { receiver with parser := push receiver.parser byte })
    {bytes rest : List UInt8} {entered reached : WebSocketParser}
    (here : receiver.parser.state = state) (nonempty : bytes ≠ [])
    (exactly : receiver.parser.require = bytes.length)
    (enters :
      after { receiver with parser := bytes.foldl push receiver.parser } =
        some entered)
    (feeds : Feeds entered rest reached) :
    Feeds receiver (bytes ++ rest) reached := by
  induction bytes generalizing receiver with
  | nil => exact absurd rfl nonempty
  | cons byte others ih =>
      have first := pushed receiver byte here
      have tame : receiver.Tame := tame_of_state (here ▸ notBody)
      rw [List.length_cons] at exactly
      by_cases last : others = []
      · subst last
        have done : (push receiver.parser byte).require = 0 := by
          rw [pushRequire, exactly]
          rfl
        rw [if_pos done] at first
        exact Feeds.cons tame (first.trans enters) feeds
      · have more : (push receiver.parser byte).require ≠ 0 := by
          have := List.length_pos_of_ne_nil last
          rw [pushRequire]
          omega
        rw [if_neg more] at first
        apply Feeds.cons tame first
        apply ih
        · exact (pushState _ _).trans here
        · exact last
        · dsimp only
          rw [pushRequire]
          omega
        · exact enters

/-- The bytes of an extended length. -/
theorem feeds_length {bytes rest : List UInt8}
    {entered reached : WebSocketParser}
    (here : receiver.parser.state = .sLength) (nonempty : bytes ≠ [])
    (exactly : receiver.parser.require = bytes.length)
    (enters :
      afterLength { receiver with
        parser := bytes.foldl Parser.pushLength receiver.parser } = some entered)
    (feeds : Feeds entered rest reached) :
    Feeds receiver (bytes ++ rest) reached := by
  apply feeds_pushed _ _ _ _ here nonempty exactly enters feeds
  · decide
  · intro parser byte
    rfl
  · intro parser byte
    rfl
  · intro other byte state
    simp only [feedByte, state]

theorem foldl_pushMask {parser : Parser} (four : parser.require = 4)
    (mask : Mask) :
    mask.toList.foldl Parser.pushMask parser =
      { parser with mask := mask, require := 0 } := by
  have spelled : mask.toList = [mask[0], mask[1], mask[2], mask[3]] := by
    apply List.ext_getElem
    · simp
    · intro index inside _
      have small : index < 4 := by simpa using inside
      interval_cases index <;> simp
  have filled :
      (((parser.mask.setIfInBounds 0 mask[0]).setIfInBounds 1
          mask[1]).setIfInBounds 2 mask[2]).setIfInBounds 3 mask[3] = mask := by
    apply Vector.ext
    intro index inside
    interval_cases index <;> simp
  rw [spelled]
  simp only [List.foldl_cons, List.foldl_nil, Parser.pushMask, four]
  simp only [Nat.sub_self, Nat.add_one_sub_one, Nat.reduceSub, filled]

/-- The bytes of a mask. -/
theorem feeds_mask {rest : List UInt8} {entered reached : WebSocketParser}
    (mask : Mask) (here : receiver.parser.state = .sMask)
    (four : receiver.parser.require = 4)
    (enters :
      afterHeader { receiver with
        parser := { receiver.parser with mask := mask, require := 0 } } =
          some entered)
    (feeds : Feeds entered rest reached) :
    Feeds receiver (mask.toList ++ rest) reached := by
  rw [← foldl_pushMask four] at enters
  apply feeds_pushed _ _ _ _ here _ _ enters feeds
  · decide
  · intro parser byte
    rfl
  · intro parser byte
    rfl
  · intro other byte state
    simp only [feedByte, state]
  · intro empty
    have := congrArg List.length empty
    simp at this
  · simp [four]

/-- The second byte of a frame read back. -/
theorem readHead_secondByte {opcode : Opcode} {fin : Bool} (hasMask : Bool)
    {shortLength : UInt8}
    (flags : receiver.parser.flags = frameFlags opcode fin false)
    (short : shortLength < 128) :
    readHead receiver (secondByte (frameFlags opcode fin hasMask) shortLength) =
      if 126 ≤ shortLength.toNat then
        some { receiver with
          parser := { receiver.parser with
            flags := frameFlags opcode fin hasMask
            require := if shortLength.toNat = 127 then 8 else 2
            length := 0
            state := .sLength } }
      else
        afterLength { receiver with
          parser := { receiver.parser with
            flags := frameFlags opcode fin hasMask
            length := shortLength.toNat } } := by
  unfold readHead
  rw [secondByte_length _ _ short, flags,
    secondByte_flags opcode fin hasMask shortLength short]

theorem foldl_pushLength_fields (bytes : List UInt8) (parser : Parser) :
    (bytes.foldl Parser.pushLength parser).flags = parser.flags ∧
      (bytes.foldl Parser.pushLength parser).maskOffset = parser.maskOffset := by
  induction bytes generalizing parser with
  | nil => exact ⟨rfl, rfl⟩
  | cons byte rest ih => exact ih (parser.pushLength byte)

/-- A byte of the length read behind those above it. -/
theorem Parser.pushLength_shift {parser : Parser} {number : Nat} (shift : Nat)
    (small : number < 2 ^ 64) (before : parser.length = number >>> (shift + 8)) :
    (parser.pushLength (number >>> shift).toUInt8).length = number >>> shift := by
  have shifted : number >>> shift < 2 ^ 64 :=
    Nat.lt_of_le_of_lt (Nat.shiftRight_le _ _) small
  rw [Parser.pushLength, before, Nat.shiftRight_add, Nat.toUInt8_eq,
    UInt8.toNat_ofNat', Nat.shiftRight_eq_div_pow (number >>> shift)]
  generalize number >>> shift = rest at shifted
  dsimp only
  omega

/-- A length from 126 on is spelled by as many bytes as its mark says, and read
back from them. -/
theorem lengthBytes_long {length : Nat} (long : ¬length < 126)
    (small : length < 2 ^ 64) :
    (lengthBytes length).1 < 128 ∧ 126 ≤ (lengthBytes length).1.toNat ∧
      (lengthBytes length).2.length =
        (if (lengthBytes length).1.toNat = 127 then 8 else 2) ∧
      ∀ parser : Parser, parser.length = 0 →
        ((lengthBytes length).2.foldl Parser.pushLength parser).length =
          length := by
  unfold lengthBytes
  rw [if_neg long]
  by_cases medium : length ≤ 0xFFFF
  · rw [if_pos medium]
    refine ⟨by dsimp only; decide, by dsimp only; decide, rfl, ?_⟩
    intro parser empty
    have none : length >>> 16 = 0 := by
      rw [Nat.shiftRight_eq_div_pow]
      omega
    have first := Parser.pushLength_shift 8 small (empty.trans none.symm)
    exact Parser.pushLength_shift 0 small first
  · rw [if_neg medium]
    refine ⟨by dsimp only; decide, by dsimp only; decide, rfl, ?_⟩
    intro parser empty
    have none : length >>> 64 = 0 := by
      rw [Nat.shiftRight_eq_div_pow]
      omega
    have first := Parser.pushLength_shift 56 small (empty.trans none.symm)
    have second := Parser.pushLength_shift 48 small first
    have third := Parser.pushLength_shift 40 small second
    have fourth := Parser.pushLength_shift 32 small third
    have fifth := Parser.pushLength_shift 24 small fourth
    have sixth := Parser.pushLength_shift 16 small fifth
    have seventh := Parser.pushLength_shift 8 small sixth
    exact Parser.pushLength_shift 0 small seventh

/-- The second byte of a frame and the bytes of its length. -/
theorem feeds_head {rest : List UInt8} {holds : WebSocketParser → Prop}
    {opcode : Opcode} {fin : Bool} (hasMask : Bool) {length : Nat}
    (here : receiver.parser.state = .sHead)
    (flags : receiver.parser.flags = frameFlags opcode fin false)
    (small : length < 2 ^ 64)
    (continues : ∀ parser : Parser,
      parser.flags = frameFlags opcode fin hasMask → parser.length = length →
      parser.maskOffset = receiver.parser.maskOffset →
      ∃ entered reached,
        afterLength { receiver with parser := parser } = some entered ∧
          Feeds entered rest reached ∧ holds reached) :
    ∃ reached,
      Feeds receiver
        (secondByte (frameFlags opcode fin hasMask) (lengthBytes length).1 ::
          ((lengthBytes length).2 ++ rest)) reached ∧
        holds reached := by
  have tame : receiver.Tame := tame_of_state (by rw [here]; decide)
  have first (shortLength : UInt8) :
      feedByte receiver (secondByte (frameFlags opcode fin hasMask) shortLength) =
        readHead receiver
          (secondByte (frameFlags opcode fin hasMask) shortLength) := by
    simp only [feedByte, here]
  by_cases short : length < 126
  · have spelled : lengthBytes length = (length.toUInt8, []) := by
      simp [lengthBytes, short]
    have value : length.toUInt8.toNat = length := by
      rw [Nat.toUInt8_eq, UInt8.toNat_ofNat']
      omega
    have below : length.toUInt8 < 128 := by
      rw [UInt8.lt_iff_toNat_lt, value]
      exact Nat.lt_trans short (by decide)
    obtain ⟨entered, reached, enters, feeds, there⟩ := continues
      { receiver.parser with
        flags := frameFlags opcode fin hasMask, length := length } rfl rfl rfl
    rw [spelled]
    refine ⟨reached, ?_, there⟩
    apply Feeds.cons tame _ feeds
    rw [first, readHead_secondByte hasMask flags below, value,
      if_neg (by omega)]
    exact enters
  · obtain ⟨below, extended, count, readBack⟩ := lengthBytes_long short small
    have headed := readHead_secondByte hasMask flags below
    rw [if_pos extended] at headed
    let waiting : Parser :=
      { receiver.parser with
        flags := frameFlags opcode fin hasMask
        require := if (lengthBytes length).1.toNat = 127 then 8 else 2
        length := 0
        state := .sLength }
    obtain ⟨sameFlags, sameOffset⟩ :=
      foldl_pushLength_fields (lengthBytes length).2 waiting
    obtain ⟨entered, reached, enters, feeds, there⟩ :=
      continues ((lengthBytes length).2.foldl Parser.pushLength waiting)
        sameFlags (readBack waiting rfl) sameOffset
    have some : (lengthBytes length).2 ≠ [] := by
      intro none
      rw [none] at count
      split at count <;> cases count
    have others := @feeds_length { receiver with parser := waiting }
      (lengthBytes length).2 rest entered reached rfl some count.symm enters feeds
    exact ⟨reached, Feeds.cons tame ((first _).trans headed) others, there⟩

end Header

section Frames

variable {receiver : WebSocketParser}

theorem payload_masked {parser : Parser} {opcode : Opcode} {fin : Bool}
    (flags : parser.flags = frameFlags opcode fin true)
    (offset : parser.maskOffset = 0) (data : List UInt8) :
    parser.payload (websocketDecode data parser.mask 0).1 = data := by
  unfold Parser.payload
  rw [flags, if_pos ((frameFlags_hasMask opcode fin true).mpr rfl), offset]
  exact websocketDecode_involutive parser.mask data 0

theorem payload_unmasked {parser : Parser} {opcode : Opcode} {fin : Bool}
    (flags : parser.flags = frameFlags opcode fin false) (data : List UInt8) :
    parser.payload data = data := by
  unfold Parser.payload
  rw [flags, if_neg]
  rw [frameFlags_hasMask]
  exact Bool.false_ne_true

/-- What follows the length in a frame. -/
def bodyBytes (data : List UInt8) (mask : Mask) (hasMask : Bool) : List UInt8 :=
  if hasMask then mask.toList ++ (websocketDecode data mask 0).1 else data

theorem wsBuildFrame_eq (data : List UInt8) (mask : Mask) (hasMask : Bool)
    (opcode : Opcode) (fin : Bool) :
    wsBuildFrame data mask hasMask opcode fin =
      firstByte (frameFlags opcode fin hasMask) ::
        secondByte (frameFlags opcode fin hasMask) (lengthBytes data.length).1 ::
          ((lengthBytes data.length).2 ++ bodyBytes data mask hasMask) := by
  simp only [wsBuildFrame, websocketBuildFrame, frameFlags_hasMask, bodyBytes]
  split <;> simp

/-- Once the length of a frame is known, the rest of it completes the frame. -/
theorem afterLength_feeds {opcode : Opcode} {fin hasMask : Bool}
    {data : List UInt8} (mask : Mask)
    (flags : receiver.parser.flags = frameFlags opcode fin hasMask)
    (length : receiver.parser.length = data.length)
    (offset : receiver.parser.maskOffset = 0)
    (short : data.length < 2 ^ 31 - 1) :
    ∃ entered reached, afterLength receiver = some entered ∧
      Feeds entered (bodyBytes data mask hasMask) reached ∧
      reached.parser.state = .sStart ∧
      reached.assembly =
        receiver.assembly.accept (frameFlags opcode fin hasMask) data := by
  cases hasMask with
  | true =>
      let waiting : WebSocketParser := { receiver with
        parser := { receiver.parser with state := .sMask, require := 4 } }
      let filled : WebSocketParser := { receiver with
        parser := { receiver.parser with
          state := .sMask, mask := mask, require := 0 } }
      have announced :
          filled.parser.length = (websocketDecode data mask 0).1.length := by
        rw [websocketDecode_length]
        exact length
      obtain ⟨entered, reached, enters, feeds, ends, assembled⟩ :=
        afterHeader_feeds announced (by rw [websocketDecode_length]; exact short)
      refine ⟨waiting, reached, ?_, ?_, ends, ?_⟩
      · unfold afterLength
        rw [flags, if_pos ((frameFlags_hasMask opcode fin true).mpr rfl)]
      · exact feeds_mask mask rfl rfl enters feeds
      · have payload :
            filled.parser.payload (websocketDecode data mask 0).1 = data :=
          @payload_masked filled.parser opcode fin flags offset data
        rw [assembled, payload]
        exact congrArg (receiver.assembly.accept · data) flags
  | false =>
      obtain ⟨entered, reached, enters, feeds, ends, assembled⟩ :=
        afterHeader_feeds length short
      refine ⟨entered, reached, ?_, feeds, ends, ?_⟩
      · have unmasked : ¬(frameFlags opcode fin false &&& wsHasMask ≠ 0) := by
          rw [frameFlags_hasMask]
          exact Bool.false_ne_true
        unfold afterLength
        rw [flags, if_neg unmasked]
        exact enters
      · rw [assembled, payload_unmasked flags, flags]

/-- A frame of `ws_build_frame` read back from the start of a frame: whatever
its opcode, marks, mask and payload, it is taken as one whole frame. -/
theorem feeds_wsBuildFrame (start : receiver.parser.state = .sStart)
    (data : List UInt8) (mask : Mask) (hasMask : Bool) (opcode : Opcode)
    (fin : Bool) (short : data.length < 2 ^ 31 - 1) :
    ∃ reached, Feeds receiver (wsBuildFrame data mask hasMask opcode fin) reached ∧
      reached.parser.state = .sStart ∧
      reached.assembly =
        receiver.assembly.accept (frameFlags opcode fin hasMask) data := by
  have tame : receiver.Tame := tame_of_state (by rw [start]; decide)
  let started : WebSocketParser := { receiver with
    parser := { receiver.parser with
      length := 0
      maskOffset := 0
      flags := frameFlags opcode fin false
      state := .sHead } }
  have first :
      feedByte receiver (firstByte (frameFlags opcode fin hasMask)) =
        some started := by
    simp only [feedByte, start, readStart_firstByte, started]
  have small : data.length < 2 ^ 64 := by omega
  have others :=
    @feeds_head started (bodyBytes data mask hasMask)
      (fun reached => reached.parser.state = .sStart ∧
        reached.assembly =
          receiver.assembly.accept (frameFlags opcode fin hasMask) data)
      opcode fin hasMask data.length rfl rfl small
      (fun _ flags length offset =>
        afterLength_feeds mask flags length offset short)
  obtain ⟨reached, feeds, there⟩ := others
  rw [wsBuildFrame_eq]
  exact ⟨reached, Feeds.cons tame first feeds, there⟩

/-- A frame as it is written: the arguments of `ws_build_frame`. -/
structure WireFrame where
  data : List UInt8
  mask : Mask
  hasMask : Bool
  opcode : Opcode
  fin : Bool
  deriving DecidableEq, Repr

/-- The bytes of a frame. -/
def WireFrame.bytes (frame : WireFrame) : List UInt8 :=
  wsBuildFrame frame.data frame.mask frame.hasMask frame.opcode frame.fin

/-- What a frame adds to the assembly. -/
def Assembly.acceptFrame (assembly : Assembly) (frame : WireFrame) : Assembly :=
  assembly.accept (frameFlags frame.opcode frame.fin frame.hasMask) frame.data

/-- The frames of a stream are taken one after the other. -/
theorem feeds_frames (start : receiver.parser.state = .sStart)
    (frames : List WireFrame)
    (short : ∀ frame ∈ frames, frame.data.length < 2 ^ 31 - 1) :
    ∃ reached, Feeds receiver (frames.flatMap WireFrame.bytes) reached ∧
      reached.parser.state = .sStart ∧
      reached.assembly = frames.foldl Assembly.acceptFrame receiver.assembly := by
  induction frames generalizing receiver with
  | nil =>
      refine ⟨receiver, Feeds.nil (tame_of_state ?_), start, rfl⟩
      rw [start]
      decide
  | cons frame frames ih =>
      obtain ⟨middle, first, between, assembled⟩ :=
        feeds_wsBuildFrame start frame.data frame.mask frame.hasMask frame.opcode
          frame.fin (short frame List.mem_cons_self)
      obtain ⟨reached, others, ends, assembledAll⟩ := ih between
        (fun other member => short other (List.mem_cons_of_mem frame member))
      refine ⟨reached, ?_, ends, ?_⟩
      · rw [List.flatMap_cons]
        exact first.trans others
      · rw [assembledAll, assembled]
        rfl

end Frames

section Prefixes

variable {receiver next : WebSocketParser}

theorem onFrameEnd_delivered (receiver : WebSocketParser) :
    receiver.delivered <+: (onFrameEnd receiver).delivered := by
  unfold onFrameEnd
  split
  · exact List.prefix_append _ _
  · exact List.prefix_refl _

theorem onFrameHeader_delivered (header : onFrameHeader receiver = some next) :
    next.delivered = receiver.delivered := by
  unfold onFrameHeader at header
  rw [Option.ite_none_left_eq_some] at header
  rw [← Option.some.inj header.2]

theorem afterHeader_delivered (after : afterHeader receiver = some next) :
    receiver.delivered <+: next.delivered := by
  unfold afterHeader at after
  split at after
  · rw [onFrameHeader_delivered after]
  · obtain ⟨headed, header, rfl⟩ := Option.map_eq_some_iff.mp after
    have same := onFrameHeader_delivered header
    have grows := onFrameEnd_delivered headed
    rw [same] at grows
    exact grows

theorem afterLength_delivered (after : afterLength receiver = some next) :
    receiver.delivered <+: next.delivered := by
  unfold afterLength at after
  split at after
  · obtain rfl := Option.some.inj after
    exact List.prefix_refl _
  · exact afterHeader_delivered after

theorem endBodyIfDone_takeBody_delivered (receiver : WebSocketParser)
    (bytes : List UInt8) :
    receiver.delivered <+:
      (endBodyIfDone (takeBody receiver bytes)).delivered := by
  have same : (takeBody receiver bytes).delivered = receiver.delivered := by
    unfold takeBody onFrameBody
    dsimp only
    split <;> rfl
  rw [← same]
  unfold endBodyIfDone
  split
  · exact onFrameEnd_delivered { takeBody receiver bytes with
      parser := { (takeBody receiver bytes).parser with state := .sStart } }
  · exact List.prefix_refl _

/-- What is delivered stays delivered. -/
theorem feedByte_delivered {byte : UInt8}
    (fed : feedByte receiver byte = some next) :
    receiver.delivered <+: next.delivered := by
  unfold feedByte at fed
  split at fed
  case h_1 =>
      obtain rfl := Option.some.inj fed
      exact List.prefix_refl _
  case h_2 =>
      unfold readHead at fed
      dsimp only at fed
      split at fed
      · obtain rfl := Option.some.inj fed
        exact List.prefix_refl _
      · have grows := afterLength_delivered fed
        exact grows
  case h_3 =>
      dsimp only at fed
      split at fed
      · have grows := afterLength_delivered fed
        exact grows
      · obtain rfl := Option.some.inj fed
        exact List.prefix_refl _
  case h_4 =>
      dsimp only at fed
      split at fed
      · have grows := afterHeader_delivered fed
        exact grows
      · obtain rfl := Option.some.inj fed
        exact List.prefix_refl _
  case h_5 =>
      obtain rfl := Option.some.inj fed
      exact endBodyIfDone_takeBody_delivered receiver [byte]

theorem feedBytes_delivered {bytes : List UInt8}
    (fed : feedBytes receiver bytes = some next) :
    receiver.delivered <+: next.delivered := by
  induction bytes generalizing receiver with
  | nil =>
      obtain rfl := Option.some.inj fed
      exact List.prefix_refl _
  | cons byte rest ih =>
      rw [feedBytes_cons, Option.bind_eq_some_iff] at fed
      obtain ⟨middle, first, others⟩ := fed
      exact (feedByte_delivered first).trans (ih others)

theorem endBody_delivered (receiver : WebSocketParser) :
    receiver.delivered <+: (endBody receiver).delivered :=
  onFrameEnd_delivered { receiver with
    parser := { receiver.parser with state := .sStart } }

/-- The same for an iteration of the loop, whatever lengths are announced. -/
theorem iterate_delivered {p : Nat} {byte : UInt8} {rest left : List UInt8}
    (iterated : iterate p receiver byte rest = some (next, left)) :
    receiver.delivered <+: next.delivered := by
  unfold iterate at iterated
  split at iterated
  case h_1 =>
      obtain ⟨rfl, _⟩ := Prod.mk.inj (Option.some.inj iterated)
      exact List.prefix_refl _
  case h_2 state =>
      obtain ⟨headed, head, pair⟩ := Option.map_eq_some_iff.mp iterated
      obtain ⟨rfl, _⟩ := Prod.mk.inj pair
      apply @feedByte_delivered receiver headed byte
      simp only [feedByte, state]
      exact head
  case h_3 =>
      dsimp only at iterated
      split at iterated
      · obtain ⟨reached, after, pair⟩ := Option.map_eq_some_iff.mp iterated
        obtain ⟨rfl, _⟩ := Prod.mk.inj pair
        have grows := afterLength_delivered after
        exact grows
      · obtain ⟨rfl, _⟩ := Prod.mk.inj (Option.some.inj iterated)
        exact List.prefix_refl _
  case h_4 =>
      dsimp only at iterated
      split at iterated
      · obtain ⟨reached, after, pair⟩ := Option.map_eq_some_iff.mp iterated
        obtain ⟨rfl, _⟩ := Prod.mk.inj pair
        have grows := afterHeader_delivered after
        exact grows
      · obtain ⟨rfl, _⟩ := Prod.mk.inj (Option.some.inj iterated)
        exact List.prefix_refl _
  case h_5 =>
      dsimp only at iterated
      split at iterated
      · obtain ⟨rfl, _⟩ := Prod.mk.inj (Option.some.inj iterated)
        exact endBody_delivered receiver
      · split at iterated
        · split at iterated
          · cases iterated
          · obtain ⟨rfl, _⟩ := Prod.mk.inj (Option.some.inj iterated)
            exact endBodyIfDone_takeBody_delivered receiver _
        · obtain ⟨rfl, _⟩ := Prod.mk.inj (Option.some.inj iterated)
          exact endBodyIfDone_takeBody_delivered receiver _

theorem websocketParserExecute_delivered {address : Nat} {data : List UInt8}
    (executed : websocketParserExecute address receiver data = some next) :
    receiver.delivered <+: next.delivered := by
  unfold websocketParserExecute at executed
  generalize data.length = fuel at executed
  induction fuel generalizing address receiver data with
  | zero =>
      cases data with
      | nil =>
          obtain rfl := Option.some.inj executed
          exact List.prefix_refl _
      | cons byte rest => cases executed
  | succ fuel ih =>
      cases data with
      | nil =>
          obtain rfl := Option.some.inj executed
          exact List.prefix_refl _
      | cons byte rest =>
          rw [executeLoop, Option.bind_eq_some_iff] at executed
          obtain ⟨⟨middle, left⟩, first, others⟩ := executed
          exact (iterate_delivered first).trans (ih others)

/-- A fresh parser fed with the first bytes of a stream of frames, in any
buffers: what it delivers is the beginning of what the whole stream delivers,
and all of it when all bytes have come. -/
theorem feedRecvData_frames {frames : List WireFrame}
    {buffers : List (Nat × List UInt8)}
    (short : ∀ frame ∈ frames, frame.data.length < 2 ^ 31 - 1)
    (fits : ∀ buffer ∈ buffers, buffer.1 + buffer.2.length ≤ 2 ^ 63)
    (front : buffers.flatMap Prod.snd <+: frames.flatMap WireFrame.bytes) :
    ∃ reached, feedRecvData {} buffers = some reached ∧
      reached.delivered <+:
        (frames.foldl Assembly.acceptFrame
          ({} : WebSocketParser).assembly).delivered ∧
      (buffers.flatMap Prod.snd = frames.flatMap WireFrame.bytes →
        reached.parser.state = .sStart ∧
        reached.assembly =
          frames.foldl Assembly.acceptFrame ({} : WebSocketParser).assembly) := by
  obtain ⟨whole, feeds, start, assembled⟩ :=
    @feeds_frames ({} : WebSocketParser) rfl frames short
  obtain ⟨back, stream⟩ := front
  have fed := feeds.fed
  have below := feeds.below
  rw [← stream] at fed below
  rw [feedBytes_append, Option.bind_eq_some_iff] at fed
  obtain ⟨reached, first, rest⟩ := fed
  have delivered := feedBytes_delivered rest
  refine ⟨reached, ?_, ?_, ?_⟩
  · rw [feedRecvData_eq wellFormed_initial fits below.append_left]
    exact first
  · rw [← assembled]
    exact delivered
  · intro all
    have none : back = [] := by
      rw [← all] at stream
      simpa using stream
    subst none
    obtain rfl := Option.some.inj rest
    exact ⟨start, assembled⟩

end Prefixes

section Cuts

/-- Where the network cuts a stream into buffers makes no difference: for two
cuts of one stream a fresh parser delivers the same messages and stops in the
same state, or throws for both. -/
theorem feedRecvData_cut_irrelevant {buffers others : List (Nat × List UInt8)}
    (sameStream : buffers.flatMap Prod.snd = others.flatMap Prod.snd)
    (fits : ∀ buffer ∈ buffers, buffer.1 + buffer.2.length ≤ 2 ^ 63)
    (othersFit : ∀ buffer ∈ others, buffer.1 + buffer.2.length ≤ 2 ^ 63)
    (below : AnnouncesBelow {} (buffers.flatMap Prod.snd)) :
    feedRecvData {} buffers = feedRecvData {} others := by
  rw [feedRecvData_eq wellFormed_initial fits below]
  rw [sameStream] at below ⊢
  rw [feedRecvData_eq wellFormed_initial othersFit below]

theorem feedRecvData_cut_irrelevant_pong :
    feedRecvData {} [(4096, [0x8A]), (64, [0x02, 7]), (9, [8])] =
      feedRecvData {} [(128, [0x8A, 0x02, 7, 8])] := by
  obtain ⟨_, feeds, _⟩ :=
    @feeds_wsBuildFrame ({} : WebSocketParser) rfl [7, 8]
      (Vector.replicate 4 0) false .pong true (by decide)
  have bytes :
      wsBuildFrame [7, 8] (Vector.replicate 4 0) false .pong true =
        [0x8A, 0x02, 7, 8] := by decide
  rw [bytes] at feeds
  exact feedRecvData_cut_irrelevant rfl (by decide) (by decide) feeds.below

/-- A ping between the fragments of a text, which other endpoints may send, is
glued to the text: whatever the payloads, masks and buffers, the parser delivers
two pings, the first with the text so far before the payload of the ping, and
no text. -/
theorem ping_between_fragments_swallows_text
    {first payload last : List UInt8} {masks : Fin 3 → Mask} {hasMask : Bool}
    {buffers : List (Nat × List UInt8)}
    (firstShort : first.length < 2 ^ 31 - 1)
    (payloadShort : payload.length < 2 ^ 31 - 1)
    (lastShort : last.length < 2 ^ 31 - 1)
    (fits : ∀ buffer ∈ buffers, buffer.1 + buffer.2.length ≤ 2 ^ 63)
    (cut : buffers.flatMap Prod.snd =
      wsBuildFrame first (masks 0) hasMask .text false ++
        (wsBuildFrame payload (masks 1) hasMask .ping true ++
          wsBuildFrame last (masks 2) hasMask .continue_ true)) :
    ∃ receiver, feedRecvData {} buffers = some receiver ∧
      receiver.delivered =
        [(Opcode.ping.value, first ++ payload), (Opcode.ping.value, last)] := by
  let frames : List WireFrame :=
    [⟨first, masks 0, hasMask, .text, false⟩,
      ⟨payload, masks 1, hasMask, .ping, true⟩,
      ⟨last, masks 2, hasMask, .continue_, true⟩]
  have stream : buffers.flatMap Prod.snd = frames.flatMap WireFrame.bytes := by
    simpa [frames, WireFrame.bytes] using cut
  have short : ∀ frame ∈ frames, frame.data.length < 2 ^ 31 - 1 := by
    simpa [frames] using ⟨firstShort, payloadShort, lastShort⟩
  obtain ⟨receiver, fed, _, all⟩ := feedRecvData_frames short fits
    ⟨[], by rw [List.append_nil, stream]⟩
  refine ⟨receiver, fed, ?_⟩
  have assembled : receiver.delivered =
      (frames.foldl Assembly.acceptFrame ({} : WebSocketParser).assembly).delivered :=
    congrArg Assembly.delivered (all stream).2
  rw [assembled]
  simp only [frames, List.foldl_cons, List.foldl_nil, Assembly.acceptFrame,
    Assembly.accept, frameFlags_opcode, frameFlags_fin, WebSocketParser.assembly]
  rfl

theorem ping_between_two_fragments :
    ∃ receiver,
      feedRecvData {} [(4096, [0x01, 0x01, 104, 0x89]),
        (4096, [0x00, 0x80, 0x01, 105])] = some receiver ∧
      receiver.delivered = [(0x9, [104]), (0x9, [105])] :=
  @ping_between_fragments_swallows_text [104] [] [105]
    (fun _ => Vector.replicate 4 0) false _ (by decide) (by decide) (by decide)
    (by decide) (by decide)

end Cuts

end WebSocket

end SpeechModules
