import SpeechModules.WebSocketFrame
import Mathlib.Algebra.Group.Int.Defs
import Mathlib.Data.List.Infix

/-!
# Reading frames from received buffers

`websocket_parser_execute` of `libs/libhv/http/websocket_parser.c` with the
callbacks of `libs/libhv/http/WebSocketParser.cpp`.  The function walks over one
received buffer and takes several bytes in a step where it can.  It is compared
with an automaton that takes the bytes of the connection one by one, so that
where the network cuts the stream into buffers does not matter.
-/

namespace SpeechModules

namespace WebSocket

/-- `enum state` of the frame parser. -/
inductive FrameState
  | sStart
  | sHead
  | sLength
  | sMask
  | sBody
  deriving DecidableEq, Repr

/-- `struct websocket_parser`.  The field `offset` is written and never read. -/
structure Parser where
  state : FrameState := .sStart
  flags : UInt8 := 0
  mask : Mask := Vector.replicate 4 0
  maskOffset : Nat := 0
  length : Nat := 0
  require : Nat := 0
  deriving DecidableEq, Repr

/-- `enum websocket_parser_state`. -/
inductive MessageState
  | wsFrameBegin
  | wsFrameHeader
  | wsFrameBody
  | wsFrameEnd
  | wsFrameFin
  deriving DecidableEq, Repr

/-- The class `WebSocketParser`, with the arguments of the calls of `onMessage`
so far. -/
structure WebSocketParser where
  parser : Parser := {}
  state : MessageState := .wsFrameBegin
  opcode : UInt8 := Opcode.close.value
  message : List UInt8 := []
  delivered : List (UInt8 × List UInt8) := []
  deriving DecidableEq, Repr

/-- The number of bytes the header callback reserves: an announced length is
narrowed to an `int` before one is added and the limit of 16 MB applies. -/
def reserveLength (length : Nat) : Int :=
  min (Int.bmod (length + 1) (2 ^ 32)) (2 ^ 24)

/-- `on_frame_header`.  A negative number to reserve is compared and passed on
as an unsigned one, and `std::string::reserve` throws. -/
def onFrameHeader (receiver : WebSocketParser) : Option WebSocketParser :=
  let opcode := receiver.parser.flags &&& wsOpMask
  if reserveLength receiver.parser.length < 0 then
    none
  else
    some { receiver with
      opcode := if opcode ≠ Opcode.continue_.value then opcode else receiver.opcode
      message :=
        if receiver.state = .wsFrameBegin ∨ receiver.state = .wsFrameFin then []
        else receiver.message
      state := .wsFrameHeader }

/-- `on_frame_body`, with `websocket_parser_decode` on masked frames. -/
def onFrameBody (receiver : WebSocketParser) (bytes : List UInt8) :
    WebSocketParser :=
  if receiver.parser.flags &&& wsHasMask ≠ 0 then
    let (unmasked, offset) :=
      websocketDecode bytes receiver.parser.mask receiver.parser.maskOffset
    { receiver with
      state := .wsFrameBody
      parser := { receiver.parser with maskOffset := offset }
      message := receiver.message ++ unmasked }
  else
    { receiver with
      state := .wsFrameBody
      message := receiver.message ++ bytes }

/-- `on_frame_end`. -/
def onFrameEnd (receiver : WebSocketParser) : WebSocketParser :=
  if receiver.parser.flags &&& wsFin ≠ 0 then
    { receiver with
      state := .wsFrameFin
      delivered := receiver.delivered ++ [(receiver.opcode, receiver.message)] }
  else
    { receiver with state := .wsFrameEnd }

/-- The parser after the last byte of a header. -/
def afterHeader (receiver : WebSocketParser) : Option WebSocketParser :=
  if receiver.parser.length ≠ 0 then
    onFrameHeader { receiver with
      parser := { receiver.parser with
        state := .sBody, require := receiver.parser.length } }
  else
    (onFrameHeader { receiver with
      parser := { receiver.parser with state := .sStart } }).map onFrameEnd

/-- The parser once the length is known. -/
def afterLength (receiver : WebSocketParser) : Option WebSocketParser :=
  if receiver.parser.flags &&& wsHasMask ≠ 0 then
    some { receiver with
      parser := { receiver.parser with state := .sMask, require := 4 } }
  else
    afterHeader receiver

/-- `case s_start`. -/
def readStart (receiver : WebSocketParser) (byte : UInt8) : WebSocketParser :=
  { receiver with
    parser := { receiver.parser with
      length := 0
      maskOffset := 0
      flags := (byte &&& wsOpMask) ||| (if byte &&& 0x80 ≠ 0 then wsFin else 0)
      state := .sHead } }

/-- `case s_head`. -/
def readHead (receiver : WebSocketParser) (byte : UInt8) :
    Option WebSocketParser :=
  let length := (byte &&& 0x7F).toNat
  let flags :=
    receiver.parser.flags ||| (if byte &&& 0x80 ≠ 0 then wsHasMask else 0)
  if 126 ≤ length then
    some { receiver with
      parser := { receiver.parser with
        flags := flags
        require := if length = 127 then 8 else 2
        length := 0
        state := .sLength } }
  else
    afterLength { receiver with
      parser := { receiver.parser with flags := flags, length := length } }

/-- One byte of the extended length. -/
def Parser.pushLength (parser : Parser) (byte : UInt8) : Parser :=
  { parser with
    length := parser.length * 256 % 2 ^ 64 + byte.toNat
    require := parser.require - 1 }

/-- One byte of the mask. -/
def Parser.pushMask (parser : Parser) (byte : UInt8) : Parser :=
  { parser with
    mask := parser.mask.setIfInBounds (4 - parser.require) byte
    require := parser.require - 1 }

/-- A loop of the parser that takes bytes while some are required, with the
bytes it leaves. -/
def readWhile (push : Parser → UInt8 → Parser) :
    Parser → List UInt8 → Parser × List UInt8
  | parser, [] => (parser, [])
  | parser, byte :: rest =>
      if parser.require ≠ 0 then
        readWhile push (push parser byte) rest
      else
        (parser, byte :: rest)

/-- The parser after the last byte of a body. -/
def endBody (receiver : WebSocketParser) : WebSocketParser :=
  onFrameEnd { receiver with parser := { receiver.parser with state := .sStart } }

/-- A body callback with the bytes it is given taken off the required ones. -/
def takeBody (receiver : WebSocketParser) (bytes : List UInt8) :
    WebSocketParser :=
  let fed := onFrameBody receiver bytes
  { fed with
    parser := { fed.parser with
      require := receiver.parser.require - bytes.length } }

/-- The end of a frame is noted when nothing is required any more. -/
def endBodyIfDone (receiver : WebSocketParser) : WebSocketParser :=
  if receiver.parser.require = 0 then endBody receiver else receiver

/-- One iteration of the loop of `websocket_parser_execute` at the address `p`,
with the bytes still to be read after it.  An announced length near `2 ^ 64`
makes `p + require` wrap around, and the body callback is then asked for bytes
that lie outside the buffer. -/
def iterate (p : Nat) (receiver : WebSocketParser) (byte : UInt8)
    (rest : List UInt8) : Option (WebSocketParser × List UInt8) :=
  match receiver.parser.state with
  | .sStart => some (readStart receiver byte, rest)
  | .sHead => (readHead receiver byte).map fun next => (next, rest)
  | .sLength =>
      let (parser, left) :=
        readWhile Parser.pushLength receiver.parser (byte :: rest)
      if parser.require = 0 then
        (afterLength { receiver with parser := parser }).map
          fun next => (next, left)
      else
        some ({ receiver with parser := parser }, left)
  | .sMask =>
      let (parser, left) :=
        readWhile Parser.pushMask receiver.parser (byte :: rest)
      if parser.require = 0 then
        (afterHeader { receiver with parser := parser }).map
          fun next => (next, left)
      else
        some ({ receiver with parser := parser }, left)
  | .sBody =>
      let bytes := byte :: rest
      let require := receiver.parser.require
      if require = 0 then
        some (endBody receiver, rest)
      else if (p + require) % 2 ^ 64 ≤ p + bytes.length then
        if bytes.length < require then
          none
        else
          some (endBodyIfDone (takeBody receiver (bytes.take require)),
            bytes.drop require)
      else
        some (endBodyIfDone (takeBody receiver bytes), [])

/-- The loop of `websocket_parser_execute`. -/
def executeLoop : Nat → Nat → WebSocketParser → List UInt8 →
    Option WebSocketParser
  | _, _, receiver, [] => some receiver
  | 0, _, _, _ :: _ => none
  | fuel + 1, p, receiver, byte :: rest =>
      (iterate p receiver byte rest).bind fun next =>
        executeLoop fuel (p + ((byte :: rest).length - next.2.length))
          next.1 next.2

/-- `websocket_parser_execute` on a buffer at the given address.  Every
iteration takes a byte, so one iteration per byte is enough. -/
def websocketParserExecute (address : Nat) (receiver : WebSocketParser)
    (data : List UInt8) : Option WebSocketParser :=
  executeLoop data.length address receiver data

/-- `FeedRecvData` on the buffers of a connection, one after the other. -/
def feedRecvData (receiver : WebSocketParser)
    (buffers : List (Nat × List UInt8)) : Option WebSocketParser :=
  buffers.foldlM
    (fun current buffer => websocketParserExecute buffer.1 current buffer.2)
    receiver

/-- The automaton that takes one byte at a time. -/
def feedByte (receiver : WebSocketParser) (byte : UInt8) :
    Option WebSocketParser :=
  match receiver.parser.state with
  | .sStart => some (readStart receiver byte)
  | .sHead => readHead receiver byte
  | .sLength =>
      let parser := receiver.parser.pushLength byte
      if parser.require = 0 then
        afterLength { receiver with parser := parser }
      else
        some { receiver with parser := parser }
  | .sMask =>
      let parser := receiver.parser.pushMask byte
      if parser.require = 0 then
        afterHeader { receiver with parser := parser }
      else
        some { receiver with parser := parser }
  | .sBody => some (endBodyIfDone (takeBody receiver [byte]))

/-- The automaton on a stream of bytes. -/
def feedBytes (receiver : WebSocketParser) (bytes : List UInt8) :
    Option WebSocketParser :=
  bytes.foldlM feedByte receiver

@[simp]
theorem feedBytes_nil (receiver : WebSocketParser) :
    feedBytes receiver [] = some receiver := rfl

@[simp]
theorem feedBytes_cons (receiver : WebSocketParser) (byte : UInt8)
    (rest : List UInt8) :
    feedBytes receiver (byte :: rest) =
      (feedByte receiver byte).bind fun next => feedBytes next rest := by
  simp [feedBytes, List.foldlM_cons, Option.bind_eq_bind]

theorem feedBytes_append (receiver : WebSocketParser) (front back : List UInt8) :
    feedBytes receiver (front ++ back) =
      (feedBytes receiver front).bind fun next => feedBytes next back := by
  simp [feedBytes, List.foldlM_append, Option.bind_eq_bind]

section Invariant

/-- Something is required in the states that wait for it, and no more of a body
than its frame announced. -/
structure Parser.WellFormed (parser : Parser) : Prop where
  length : parser.state = .sLength → 0 < parser.require
  mask : parser.state = .sMask → 0 < parser.require
  body : parser.state = .sBody →
    0 < parser.require ∧ parser.require ≤ parser.length

theorem wellFormed_initial : (({} : WebSocketParser)).parser.WellFormed := by
  constructor <;> intro state <;> simp at state

variable {receiver next : WebSocketParser}

@[simp]
theorem parser_onFrameEnd (receiver : WebSocketParser) :
    (onFrameEnd receiver).parser = receiver.parser := by
  unfold onFrameEnd
  split <;> rfl

theorem parser_onFrameHeader (header : onFrameHeader receiver = some next) :
    next.parser = receiver.parser := by
  unfold onFrameHeader at header
  rw [Option.ite_none_left_eq_some] at header
  rw [← Option.some.inj header.2]

theorem afterHeader_wellFormed (after : afterHeader receiver = some next) :
    next.parser.WellFormed := by
  unfold afterHeader at after
  split at after
  case isTrue announced =>
      have parser := parser_onFrameHeader after
      rw [parser]
      constructor
      · intro state
        cases state
      · intro state
        cases state
      · intro _
        exact ⟨Nat.pos_of_ne_zero announced, le_refl _⟩
  case isFalse empty =>
      obtain ⟨headed, header, rfl⟩ := Option.map_eq_some_iff.mp after
      have parser := parser_onFrameHeader header
      rw [parser_onFrameEnd, parser]
      constructor <;> intro state <;> cases state

theorem afterLength_wellFormed (after : afterLength receiver = some next) :
    next.parser.WellFormed := by
  unfold afterLength at after
  split at after
  case isTrue masked =>
      obtain rfl := Option.some.inj after
      constructor
      · intro state
        cases state
      · intro _
        exact Nat.succ_pos 3
      · intro state
        cases state
  case isFalse => exact afterHeader_wellFormed after

theorem readStart_wellFormed (receiver : WebSocketParser) (byte : UInt8) :
    (readStart receiver byte).parser.WellFormed := by
  constructor <;> intro state <;> cases state

theorem readHead_wellFormed {byte : UInt8}
    (read : readHead receiver byte = some next) : next.parser.WellFormed := by
  unfold readHead at read
  dsimp only at read
  split at read
  case isTrue extended =>
      obtain rfl := Option.some.inj read
      constructor
      · intro _
        dsimp only
        split <;> omega
      · intro state
        cases state
      · intro state
        cases state
  case isFalse => exact afterLength_wellFormed read

/-- What the body callback leaves of the frame parser. -/
theorem parser_takeBody (receiver : WebSocketParser) (bytes : List UInt8) :
    (takeBody receiver bytes).parser.state = receiver.parser.state ∧
      (takeBody receiver bytes).parser.length = receiver.parser.length ∧
      (takeBody receiver bytes).parser.require =
        receiver.parser.require - bytes.length := by
  unfold takeBody onFrameBody
  dsimp only
  split <;> exact ⟨rfl, rfl, rfl⟩

theorem endBodyIfDone_wellFormed {bytes : List UInt8}
    (body : receiver.parser.state = .sBody)
    (short : receiver.parser.require ≤ receiver.parser.length) :
    (endBodyIfDone (takeBody receiver bytes)).parser.WellFormed := by
  obtain ⟨state, length, require⟩ := parser_takeBody receiver bytes
  unfold endBodyIfDone
  split
  case isTrue =>
      unfold endBody
      rw [parser_onFrameEnd]
      constructor <;> intro ended <;> cases ended
  case isFalse left =>
      rw [body] at state
      constructor
      · intro other
        cases state.symm.trans other
      · intro other
        cases state.symm.trans other
      · intro _
        omega

/-- One byte keeps the parser well formed. -/
theorem feedByte_wellFormed {byte : UInt8}
    (wellFormed : receiver.parser.WellFormed)
    (fed : feedByte receiver byte = some next) : next.parser.WellFormed := by
  unfold feedByte at fed
  split at fed
  case h_1 =>
      obtain rfl := Option.some.inj fed
      exact readStart_wellFormed receiver byte
  case h_2 => exact readHead_wellFormed fed
  case h_3 state =>
      dsimp only at fed
      split at fed
      · exact afterLength_wellFormed fed
      case isFalse left =>
          obtain rfl := Option.some.inj fed
          constructor
          · intro _
            exact Nat.pos_of_ne_zero left
          · intro other
            cases state.symm.trans other
          · intro other
            cases state.symm.trans other
  case h_4 state =>
      dsimp only at fed
      split at fed
      · exact afterHeader_wellFormed fed
      case isFalse left =>
          obtain rfl := Option.some.inj fed
          constructor
          · intro other
            cases state.symm.trans other
          · intro _
            exact Nat.pos_of_ne_zero left
          · intro other
            cases state.symm.trans other
  case h_5 state =>
      obtain rfl := Option.some.inj fed
      exact endBodyIfDone_wellFormed state (wellFormed.body state).2

theorem feedBytes_wellFormed {bytes : List UInt8}
    (wellFormed : receiver.parser.WellFormed)
    (fed : feedBytes receiver bytes = some next) : next.parser.WellFormed := by
  induction bytes generalizing receiver with
  | nil =>
      obtain rfl := Option.some.inj fed
      exact wellFormed
  | cons byte rest ih =>
      rw [feedBytes_cons, Option.bind_eq_some_iff] at fed
      obtain ⟨middle, first, others⟩ := fed
      exact ih (feedByte_wellFormed wellFormed first) others

end Invariant

section Iterations

variable {receiver : WebSocketParser}

/-- A body that is being read has fewer than `2 ^ 63` bytes. -/
def WebSocketParser.Tame (receiver : WebSocketParser) : Prop :=
  receiver.parser.state = .sBody → receiver.parser.length < 2 ^ 63

/-- The bytes a loop of the parser takes lead the automaton to the same
place. -/
theorem readWhile_eq {push : Parser → UInt8 → Parser}
    {after : WebSocketParser → Option WebSocketParser} {state : FrameState}
    (pushState : ∀ parser byte, (push parser byte).state = parser.state)
    (pushed : ∀ receiver byte, receiver.parser.state = state →
      feedByte receiver byte =
        if (push receiver.parser byte).require = 0 then
          after { receiver with parser := push receiver.parser byte }
        else
          some { receiver with parser := push receiver.parser byte })
    (bytes : List UInt8) (here : receiver.parser.state = state)
    (waits : 0 < receiver.parser.require) :
    ∃ taken, bytes = taken ++ (readWhile push receiver.parser bytes).2 ∧
      (bytes ≠ [] → taken ≠ []) ∧
      feedBytes receiver taken =
        if (readWhile push receiver.parser bytes).1.require = 0 then
          after { receiver with
            parser := (readWhile push receiver.parser bytes).1 }
        else
          some { receiver with
            parser := (readWhile push receiver.parser bytes).1 } := by
  induction bytes generalizing receiver with
  | nil =>
      refine ⟨[], rfl, fun some => absurd rfl some, ?_⟩
      rw [readWhile, feedBytes_nil, if_neg (Nat.ne_of_gt waits)]
  | cons byte rest ih =>
      rw [readWhile, if_pos (Nat.ne_of_gt waits)]
      have first := pushed receiver byte here
      by_cases last : (push receiver.parser byte).require = 0
      · have stops :
            readWhile push (push receiver.parser byte) rest =
              (push receiver.parser byte, rest) := by
          cases rest with
          | nil => rfl
          | cons other rest => simp [readWhile, last]
        refine ⟨[byte], ?_, fun _ => List.cons_ne_nil byte [], ?_⟩
        · rw [stops]
          rfl
        · rw [stops, feedBytes_cons, first]
          simp [last]
      · rw [if_neg last] at first
        obtain ⟨taken, split, _, fed⟩ :=
          @ih { receiver with parser := push receiver.parser byte }
            ((pushState _ _).trans here) (Nat.pos_of_ne_zero last)
        refine ⟨byte :: taken, ?_, fun _ => List.cons_ne_nil byte taken, ?_⟩
        · rw [List.cons_append]
          exact congrArg (byte :: ·) split
        · rw [feedBytes_cons, first]
          exact fed

/-- A body handed over in two pieces. -/
theorem takeBody_append (receiver : WebSocketParser) (front back : List UInt8) :
    takeBody (takeBody receiver front) back =
      takeBody receiver (front ++ back) := by
  by_cases masked : receiver.parser.flags &&& wsHasMask = 0
  · simp [takeBody, onFrameBody, masked, Nat.sub_sub]
  · simp [takeBody, onFrameBody, masked, Nat.sub_sub, websocketDecode_append]

/-- The automaton takes the bytes of a body as the callback does. -/
theorem feedBytes_body {bytes : List UInt8}
    (body : receiver.parser.state = .sBody) (some : bytes ≠ [])
    (enough : bytes.length ≤ receiver.parser.require) :
    feedBytes receiver bytes =
      Option.some (endBodyIfDone (takeBody receiver bytes)) := by
  induction bytes generalizing receiver with
  | nil => exact absurd rfl some
  | cons byte rest ih =>
      have first :
          feedByte receiver byte =
            Option.some (endBodyIfDone (takeBody receiver [byte])) := by
        simp only [feedByte, body]
      rw [feedBytes_cons, first]
      by_cases last : rest = []
      · subst last
        rfl
      · have restPositive : 0 < rest.length := List.length_pos_of_ne_nil last
        rw [List.length_cons] at enough
        obtain ⟨state, _, require⟩ := parser_takeBody receiver [byte]
        rw [List.length_singleton] at require
        have more : endBodyIfDone (takeBody receiver [byte]) =
            takeBody receiver [byte] := by
          unfold endBodyIfDone
          rw [if_neg]
          omega
        rw [Option.bind_some, more,
          ih (state.trans body) last (by omega), takeBody_append,
          List.singleton_append]

/-- One iteration of the loop takes some bytes from the buffer and leads where
the automaton leads on these. -/
theorem iterate_eq {p : Nat} {byte : UInt8} {rest : List UInt8}
    (wellFormed : receiver.parser.WellFormed)
    (fits : p + (byte :: rest).length ≤ 2 ^ 63)
    (tame : receiver.Tame) :
    ∃ taken left, byte :: rest = taken ++ left ∧ taken ≠ [] ∧
      iterate p receiver byte rest =
        (feedBytes receiver taken).map fun next => (next, left) := by
  have first (next : Option WebSocketParser)
      (same : feedByte receiver byte = next) :
      feedBytes receiver [byte] = next := by
    rw [feedBytes_cons, same]
    cases next <;> rfl
  cases state : receiver.parser.state with
  | sStart =>
      refine ⟨[byte], rest, rfl, List.cons_ne_nil byte [], ?_⟩
      rw [first (some (readStart receiver byte)) (by simp only [feedByte, state])]
      simp only [iterate, state, Option.map_some]
  | sHead =>
      refine ⟨[byte], rest, rfl, List.cons_ne_nil byte [], ?_⟩
      rw [first (readHead receiver byte) (by simp only [feedByte, state])]
      simp only [iterate, state]
  | sLength =>
      obtain ⟨taken, split, nonempty, fed⟩ :=
        @readWhile_eq receiver Parser.pushLength afterLength .sLength
          (fun _ _ => rfl)
          (fun other byte here => by simp only [feedByte, here])
          (byte :: rest) state (wellFormed.length state)
      refine ⟨taken, _, split, nonempty (List.cons_ne_nil byte rest), ?_⟩
      rw [fed]
      simp only [iterate, state]
      split <;> simp
  | sMask =>
      obtain ⟨taken, split, nonempty, fed⟩ :=
        @readWhile_eq receiver Parser.pushMask afterHeader .sMask
          (fun _ _ => rfl)
          (fun other byte here => by simp only [feedByte, here])
          (byte :: rest) state (wellFormed.mask state)
      refine ⟨taken, _, split, nonempty (List.cons_ne_nil byte rest), ?_⟩
      rw [fed]
      simp only [iterate, state]
      split <;> simp
  | sBody =>
      obtain ⟨waits, short⟩ := wellFormed.body state
      have below := tame state
      have noWrap :
          (p + receiver.parser.require) % 2 ^ 64 =
            p + receiver.parser.require := by
        apply Nat.mod_eq_of_lt
        omega
      by_cases whole : receiver.parser.require ≤ (byte :: rest).length
      · refine ⟨(byte :: rest).take receiver.parser.require,
          (byte :: rest).drop receiver.parser.require,
          (List.take_append_drop _ _).symm, ?_, ?_⟩
        · apply List.ne_nil_of_length_pos
          rw [List.length_take]
          omega
        · rw [feedBytes_body state _ (by rw [List.length_take]; omega)]
          · simp only [iterate, state, noWrap, Nat.ne_of_gt waits, if_false,
              Nat.add_le_add_left whole p, if_true, Nat.not_lt.mpr whole,
              Option.map_some]
          · apply List.ne_nil_of_length_pos
            rw [List.length_take]
            omega
      · have partly : ¬p + receiver.parser.require ≤ p + (byte :: rest).length := by
          omega
        refine ⟨byte :: rest, [], (List.append_nil _).symm,
          List.cons_ne_nil byte rest, ?_⟩
        rw [feedBytes_body state (List.cons_ne_nil byte rest) (by omega)]
        simp only [iterate, state, noWrap, Nat.ne_of_gt waits, if_false, partly,
          Option.map_some]

end Iterations

section Buffers

variable {receiver : WebSocketParser}

/-- No header on the way through a stream announces a body of `2 ^ 63` bytes or
more. -/
def AnnouncesBelow (receiver : WebSocketParser) (stream : List UInt8) : Prop :=
  ∀ front, front <+: stream →
    ∀ reached, feedBytes receiver front = some reached → reached.Tame

theorem AnnouncesBelow.append_right {front back : List UInt8}
    {reached : WebSocketParser}
    (below : AnnouncesBelow receiver (front ++ back))
    (fed : feedBytes receiver front = some reached) :
    AnnouncesBelow reached back := by
  intro later isPrefix last fedLater
  apply below (front ++ later)
  · exact (List.prefix_append_right_inj front).mpr isPrefix
  · rw [feedBytes_append, fed]
    exact fedLater

theorem AnnouncesBelow.append_left {front back : List UInt8}
    (below : AnnouncesBelow receiver (front ++ back)) :
    AnnouncesBelow receiver front := by
  intro earlier isPrefix last fed
  exact below earlier (isPrefix.trans (List.prefix_append front back)) last fed

/-- The loop leads where the automaton leads. -/
theorem executeLoop_eq {fuel p : Nat} {bytes : List UInt8}
    (enough : bytes.length ≤ fuel) (wellFormed : receiver.parser.WellFormed)
    (fits : p + bytes.length ≤ 2 ^ 63) (below : AnnouncesBelow receiver bytes) :
    executeLoop fuel p receiver bytes = feedBytes receiver bytes := by
  induction fuel generalizing p receiver bytes with
  | zero =>
      obtain rfl := List.length_eq_zero_iff.mp (Nat.le_zero.mp enough)
      rfl
  | succ fuel ih =>
      cases bytes with
      | nil => rfl
      | cons byte rest =>
          have tame : receiver.Tame := below [] List.nil_prefix receiver rfl
          obtain ⟨taken, left, split, nonempty, step⟩ :=
            iterate_eq wellFormed fits tame
          have takenPositive := List.length_pos_of_ne_nil nonempty
          have lengths := congrArg List.length split
          rw [List.length_append] at lengths
          rw [executeLoop, step]
          rw [split] at below ⊢
          rw [feedBytes_append]
          cases fed : feedBytes receiver taken with
          | none => rfl
          | some reached =>
              simp only [Option.map_some, Option.bind_some]
              rw [← split]
              apply ih
              · omega
              · exact feedBytes_wellFormed wellFormed fed
              · omega
              · exact below.append_right fed

/-- Reading the buffers of a connection, wherever the network cut the stream
and wherever the buffers lie, is taking the bytes of the stream one by one. -/
theorem feedRecvData_eq {buffers : List (Nat × List UInt8)}
    (wellFormed : receiver.parser.WellFormed)
    (fits : ∀ buffer ∈ buffers, buffer.1 + buffer.2.length ≤ 2 ^ 63)
    (below : AnnouncesBelow receiver (buffers.flatMap Prod.snd)) :
    feedRecvData receiver buffers =
      feedBytes receiver (buffers.flatMap Prod.snd) := by
  induction buffers generalizing receiver with
  | nil => rfl
  | cons buffer buffers ih =>
      rw [List.flatMap_cons] at below ⊢
      have first :
          websocketParserExecute buffer.1 receiver buffer.2 =
            feedBytes receiver buffer.2 :=
        executeLoop_eq (le_refl _) wellFormed
          (fits buffer List.mem_cons_self) below.append_left
      rw [feedBytes_append, ← first]
      unfold feedRecvData
      rw [List.foldlM_cons, Option.bind_eq_bind]
      cases fed : websocketParserExecute buffer.1 receiver buffer.2 with
      | none => rfl
      | some reached =>
          rw [first] at fed
          rw [Option.bind_some, Option.bind_some]
          apply ih
          · exact feedBytes_wellFormed wellFormed fed
          · intro other member
            exact fits other (List.mem_cons_of_mem buffer member)
          · exact below.append_right fed

end Buffers

end WebSocket

end SpeechModules
