import SpeechModules.Base64
import SpeechModules.Sha1
import SpeechModules.StepSystem
import SpeechModules.WebSocketDelivery

/-!
# The callbacks of a websocket client

`libs/libhv/http/client/WebSocketClient.cpp` over
`libs/libhv/evpp/TcpClient.h` and `libs/libhv/evpp/Channel.h`: one `open`, with
the redirects it follows, up to the end of the connection.  The thread of the
event loop runs the callbacks of the user; `close` may be called by any thread.
What the HTTP parser makes of the response of the server is a choice of the
environment.
-/

namespace SpeechModules

namespace WebSocket

/-- `WebSocketClient::State`. -/
inductive ClientState
  | connecting
  | connected
  | wsUpgrading
  | wsOpened
  | wsClosed
  deriving DecidableEq, Repr

/-- `Channel::Status`. -/
inductive ChannelStatus
  | opened
  | connecting
  | connected
  | closed
  deriving DecidableEq, Repr

/-- What a client does that is seen outside: the callbacks it runs and the
frames it sends, with the heartbeats and pongs it notices. -/
inductive Call
  | onopen
  | onclose
  | onmessage (opcode : UInt8) (msg : List UInt8)
  | send (opcode : Opcode) (msg : List UInt8)
  | heartbeat
  | ping
  | pong
  deriving DecidableEq, Repr

/-- A `WebSocketClient` with its current channel.  `fed` are the buffers the
parser of the session was given, `response` is the accepted response and `calls`
is what was seen outside. -/
structure Client where
  state : ClientState := .connecting
  status : ChannelStatus := .opened
  ioClosed : Bool := false
  closeLater : Bool := false
  reading : Bool := false
  reportsClose : Bool := false
  heartbeats : Bool := false
  pingCnt : Nat := 0
  receiver : WebSocketParser := {}
  fed : List (Nat × List UInt8) := []
  closeRequests : Nat := 0
  response : Option (Nat × List UInt8) := none
  calls : List Call := []

/-- `isOpened` of the channel. -/
def Client.isOpened (client : Client) : Bool :=
  !client.ioClosed && client.status != .closed

/-- The end of the connection: `on_close` of the channel, its `onclose` and the
`onConnection` of the client. -/
def Client.onClose (client : Client) : Client :=
  if client.reportsClose then
    { client with
      ioClosed := true
      status := .closed
      heartbeats := false
      state := .wsClosed
      calls := client.calls ++ [.onclose] }
  else
    { client with ioClosed := true, status := .closed, heartbeats := false }

/-- `Channel::close` on the thread of the event loop.  The connection is closed
at once, or later if something is still to be written. -/
def Client.closeChannel (client : Client) (queued : Bool) : Client :=
  if client.isOpened then
    if queued && !client.closeLater then
      { client with status := .closed, closeLater := true }
    else
      { client with status := .closed }.onClose
  else
    client

/-- `send` of the channel. -/
def Client.sendMessage (client : Client) (opcode : Opcode) (msg : List UInt8) :
    Client :=
  if client.isOpened then
    { client with calls := client.calls ++ [.send opcode msg] }
  else
    client

/-- The `onMessage` of the parser. -/
def Client.onParsed (queued : Bool) (client : Client)
    (delivered : UInt8 × List UInt8) : Client :=
  if delivered.1 = Opcode.close.value then
    (client.sendMessage .close delivered.2).closeChannel queued
  else if delivered.1 = Opcode.ping.value then
    client.sendMessage .pong delivered.2
  else if delivered.1 = Opcode.pong.value then
    { client with pingCnt := 0, calls := client.calls ++ [.pong] }
  else if delivered.1 = Opcode.text.value ∨
      delivered.1 = Opcode.binary.value then
    { client with
      calls := client.calls ++ [.onmessage delivered.1 delivered.2] }
  else
    client

/-- The last part of `onMessage`: an opened client feeds its parser, which calls
back for every message it completes.  There is no result when the parser
throws. -/
def Client.feed (client : Client) (address : Nat) (data : List UInt8)
    (queued : Bool) : Option Client :=
  if client.state = .wsOpened ∧ data ≠ [] then
    (websocketParserExecute address client.receiver data).map fun receiver =>
      (receiver.delivered.drop client.receiver.delivered.length).foldl
        (Client.onParsed queued) { client with
          receiver := receiver, fed := client.fed ++ [(address, data)] }
  else
    some client

/-- What the HTTP parser makes of a buffer: an error, no complete response yet,
or a response with its status code, its headers `Location` and
`Sec-WebSocket-Accept` and the number of bytes it took. -/
inductive HttpOutcome
  | error
  | incomplete
  | complete (statusCode : Nat) (location accept : List UInt8) (nparse : Nat)
  deriving DecidableEq, Repr

/-- `HTTP_STATUS_IS_REDIRECT`. -/
def isRedirect (statusCode : Nat) : Bool :=
  statusCode == 301 || statusCode == 302 || statusCode == 303 ||
    statusCode == 307 || statusCode == 308

/-- `open` on the thread of the event loop for a redirect: the old channel does
not report its end, and a new one takes its place if a socket can be made. -/
def Client.redirect (client : Client) (queued created : Bool) : Client :=
  let closing := { client with reportsClose := false }.closeChannel queued
  if created then
    { closing with
      state := .connecting
      status := .connecting
      ioClosed := false
      closeLater := false
      reading := false
      reportsClose := true
      heartbeats := false }
  else
    { closing with state := .wsClosed }

/-- The client once the response is accepted: a fresh parser, the heartbeats and
the `onopen` of the user. -/
def Client.upgraded (client : Client) (pingInterval : Nat)
    (response : Nat × List UInt8) : Client :=
  { client with
    receiver := {}
    fed := []
    state := .wsOpened
    pingCnt := if 0 < pingInterval then 0 else client.pingCnt
    heartbeats := client.heartbeats || decide (0 < pingInterval)
    response := some response
    calls := client.calls ++ [.onopen] }

section Key

/-- The `magic` of `ws_encode_key`. -/
def magic : List UInt8 :=
  "258EAFA5-E914-47DA-95CA-C5AB0DC85B11".toList.map
    fun letter => UInt8.ofNat letter.toNat

/-- `ws_encode_key`, whose context begins with whatever the stack holds. -/
def wsEncodeKey (stack key : List UInt8) : Option (List UInt8) :=
  (Sha1.update (Sha1.init stack) key).bind fun context =>
    (Sha1.update context magic).bind fun context =>
      (Sha1.final context).bind Base64.hvBase64Encode

/-- What a server is expected to answer to a key. -/
def acceptValue (key : List UInt8) : List UInt8 :=
  Base64.encodeBlocks (Sha1.sha1 (key ++ magic))

theorem length_magic : magic.length = 36 := by
  unfold magic
  simp only [String.reduceToList, List.length_map]
  rfl

theorem length_sha1 (message : List UInt8) :
    (Sha1.sha1 message).length = 20 := by
  simp [Sha1.sha1, Sha1.digest]

/-- The key and the magic text are hashed and encoded, whatever the stack held:
28 letters, which fit the 32 bytes for them, and they decode to the hash. -/
theorem wsEncodeKey_eq {stack key : List UInt8} (room : stack.length = 64)
    (short : key.length ≤ 2 ^ 32 - 64) :
    wsEncodeKey stack key = some (acceptValue key) ∧
      (acceptValue key).length = 28 ∧
      Base64.hvBase64Decode (acceptValue key) (List.replicate 20 0) =
        some (20, Sha1.sha1 (key ++ magic)) := by
  have hashed := @Sha1.hashPieces_eq stack [key, magic] room (by
    intro piece member
    rcases List.mem_pair.mp member with rfl | rfl
    · exact short
    · rw [length_magic]
      decide)
  have whole : [key, magic].flatten = key ++ magic := by simp
  rw [whole] at hashed
  have length := length_sha1 (key ++ magic)
  have nonempty : Sha1.sha1 (key ++ magic) ≠ [] := by
    apply List.ne_nil_of_length_pos
    rw [length]
    decide
  refine ⟨?_, ?_, ?_⟩
  · have encoded := Base64.hvBase64Encode_eq nonempty (by rw [length]; decide)
    have steps : wsEncodeKey stack key =
        (Sha1.hashPieces stack [key, magic]).bind Base64.hvBase64Encode := by
      unfold wsEncodeKey Sha1.hashPieces
      simp only [List.foldlM_cons, List.foldlM_nil, Option.bind_eq_bind,
        Option.bind_assoc, Option.pure_def, Option.bind_some]
    rw [steps, hashed, Option.bind_some, encoded, acceptValue]
  · unfold acceptValue
    rw [Base64.length_encodeBlocks, length]
  · have decoded := @Base64.hvBase64Decode_encodeBlocks
      (List.replicate 20 0) (Sha1.sha1 (key ++ magic))
      (by rw [length]; decide) (by rw [length]; decide)
    rw [length] at decoded
    simpa [acceptValue] using decoded

/-- A key of the websocket standard. -/
def sampleKey : List UInt8 :=
  "dGhlIHNhbXBsZSBub25jZQ==".toList.map fun letter => UInt8.ofNat letter.toNat

/-- What belongs to the sample key. -/
def sampleAccept : List UInt8 :=
  "s3pPLMBiTxaQ9kYGzzhZRbK+xOo=".toList.map
    fun letter => UInt8.ofNat letter.toNat

/-- The message that is hashed for the sample key. -/
theorem sampleMessage_eq : sampleKey ++ magic =
    [100, 71, 104, 108, 73, 72, 78, 104, 98, 88, 66, 115, 90, 83, 66, 117, 98,
      50, 53, 106, 90, 81, 61, 61, 50, 53, 56, 69, 65, 70, 65, 53, 45, 69, 57,
      49, 52, 45, 52, 55, 68, 65, 45, 57, 53, 67, 65, 45, 67, 53, 65, 66, 48,
      68, 67, 56, 53, 66, 49, 49] := by
  unfold sampleKey magic
  simp only [String.reduceToList, List.map_cons, List.map_nil]
  rfl

theorem sampleAccept_eq : sampleAccept =
    [115, 51, 112, 80, 76, 77, 66, 105, 84, 120, 97, 81, 57, 107, 89, 71, 122,
      122, 104, 90, 82, 98, 75, 43, 120, 79, 111, 61] := by
  unfold sampleAccept
  simp only [String.reduceToList, List.map_cons, List.map_nil]
  rfl

/-- The words after the first of the two blocks. -/
def sampleWords : Sha1.Words :=
  { a := 0x5BCF7727, b := 0x7327416A, c := 0xBE7BFBF9, d := 0x5A781878,
    e := 0x5E46A4E2 }

theorem transform_firstBlock :
    Sha1.transform Sha1.initialWords (sampleKey ++ magic ++ [0x80, 0, 0, 0]) =
      sampleWords := by
  rw [sampleMessage_eq]
  decide +kernel

theorem transform_secondBlock :
    Sha1.transform sampleWords (List.replicate 62 0 ++ [1, 0xE0]) =
      { a := 0xB37A4F2C, b := 0xC0624F16, c := 0x90F64606, d := 0xCF385945,
        e := 0xB2BEC4EA } := by
  decide +kernel

theorem acceptValue_sampleKey : acceptValue sampleKey = sampleAccept := by
  have length : (sampleKey ++ magic).length = 60 := by
    rw [sampleMessage_eq]
    rfl
  have filled : (sampleKey ++ magic ++ [0x80, 0, 0, 0]).length = 64 := by
    rw [List.length_append, length]
    rfl
  have last : (List.replicate 62 0 ++ [1, 0xE0] : List UInt8).length = 64 := rfl
  have blocks : Sha1.padded (sampleKey ++ magic) =
      (sampleKey ++ magic ++ [0x80, 0, 0, 0]) ++
        (List.replicate 62 0 ++ [1, 0xE0] ++ []) := by
    unfold Sha1.padded Sha1.bitLength
    rw [length]
    simp only [List.append_assoc]
    rfl
  have hash : Sha1.digest
      { a := 0xB37A4F2C, b := 0xC0624F16, c := 0x90F64606, d := 0xCF385945,
        e := 0xB2BEC4EA } =
      [179, 122, 79, 44, 192, 98, 79, 22, 144, 246, 70, 6, 207, 56, 89, 69, 178,
        190, 196, 234] := by
    decide +kernel
  unfold acceptValue Sha1.sha1
  rw [blocks, BlockChain.absorb_block (by decide) filled,
    BlockChain.absorb_block (by decide) last, transform_firstBlock,
    transform_secondBlock, BlockChain.absorb_short (by decide), hash,
    sampleAccept_eq]
  simp only [Base64.encodeBlocks, Base64.letter, Base64.base64en_eq]
  decide +kernel

theorem wsEncodeKey_sampleKey :
    wsEncodeKey (List.replicate 64 7) sampleKey = some sampleAccept := by
  have encoded := (@wsEncodeKey_eq (List.replicate 64 7) sampleKey rfl
    (by decide)).1
  rw [encoded, acceptValue_sampleKey]

end Key

section Steps

variable (encodeKey : List UInt8 → List UInt8) (key : List UInt8)
  (pingInterval : Nat) (redirects : Bool)

/-- `onMessage` of the channel: the response to the upgrade, then frames. -/
def Client.onRead (client : Client) (address : Nat) (data : List UInt8)
    (http : HttpOutcome) (queued created : Bool) : Option Client :=
  if client.state = .wsUpgrading then
    match http with
    | .error => some (client.closeChannel queued)
    | .incomplete => some client
    | .complete statusCode location accept nparse =>
        if statusCode ≠ 101 then
          if redirects && isRedirect statusCode && location != [] then
            some (client.redirect queued created)
          else
            some (client.closeChannel queued)
        else if encodeKey key ≠ accept then
          some (client.closeChannel queued)
        else
          (client.upgraded pingInterval (statusCode, accept)).feed
            (address + nparse) (data.drop nparse) queued
  else
    client.feed address data queued

/-- What can happen to a client after `open`. -/
inductive ClientAction
  | startConnect
  | connected
  | read (address : Nat) (data : List UInt8) (http : HttpOutcome)
      (queued created : Bool)
  | heartbeat (queued : Bool)
  | ioClosed
  | drained
  | close
  | runClose (queued : Bool)
  deriving DecidableEq, Repr

/-- One step of a client. -/
def clientStep (client : Client) : ClientAction → Option Client
  | .startConnect =>
      if client.status = .opened ∧ client.ioClosed = false then
        some { client with status := .connecting, reportsClose := true }
      else none
  | .connected =>
      if client.status = .connecting ∧ client.ioClosed = false then
        some { client with
          status := .connected, reading := true, state := .wsUpgrading }
      else none
  | .read address data http queued created =>
      if client.reading = true ∧ client.ioClosed = false then
        client.onRead encodeKey key pingInterval redirects address data http
          queued created
      else none
  | .heartbeat queued =>
      if client.heartbeats = true then
        let ticked := { client with
          pingCnt := client.pingCnt + 1
          calls := client.calls ++ [.heartbeat] }
        if client.pingCnt = 3 then
          some (ticked.closeChannel queued)
        else if client.isOpened then
          some { ticked with calls := ticked.calls ++ [.ping] }
        else
          some ticked
      else none
  | .ioClosed => if client.ioClosed then none else some client.onClose
  | .drained =>
      if client.closeLater = true ∧ client.ioClosed = false then
        some client.onClose
      else none
  | .close =>
      some { client with
        state := .wsClosed
        closeRequests :=
          if client.status = .closed then client.closeRequests
          else client.closeRequests + 1 }
  | .runClose queued =>
      if client.closeRequests = 0 then none
      else
        some ({ client with
          closeRequests := client.closeRequests - 1 }.closeChannel queued)

end Steps

section Order

/-- How far the callbacks of one `open` have come. -/
inductive Phase
  | before
  | session
  | ended
  | endedUnopened
  | broken
  deriving DecidableEq, Repr

/-- The order the callbacks keep: `onopen` first and once, `onmessage` after it,
`onclose` once.  A message may still follow `onclose`, when the server sent it
behind its close frame in one buffer. -/
def Phase.advance : Phase → Call → Phase
  | .before, .onopen => .session
  | .before, .onclose => .endedUnopened
  | .session, .onclose => .ended
  | .session, .onmessage _ _ => .session
  | .ended, .onmessage _ _ => .ended
  | _, .onopen => .broken
  | _, .onclose => .broken
  | _, .onmessage _ _ => .broken
  | phase, _ => phase

/-- The phase a client is in. -/
def Client.phase (client : Client) : Phase :=
  client.calls.foldl Phase.advance .before

/-- The messages handed to the user. -/
def Call.message? : Call → Option (UInt8 × List UInt8)
  | .onmessage opcode msg => some (opcode, msg)
  | _ => none

/-- The payload of a pong that is sent. -/
def Call.pong? : Call → Option (List UInt8)
  | .send .pong msg => some msg
  | _ => none

/-- The messages the user is meant to see. -/
def isData (delivered : UInt8 × List UInt8) : Bool :=
  delivered.1 == Opcode.text.value || delivered.1 == Opcode.binary.value

/-- The payload of a ping the parser delivered. -/
def ping? (delivered : UInt8 × List UInt8) : Option (List UInt8) :=
  if delivered.1 = Opcode.ping.value then some delivered.2 else none

/-- The calls since the last pong or since the session began, counted. -/
def sinceAnswer (counted : Call → Bool) (calls : List Call) : Nat :=
  calls.foldl (fun count call =>
    if call = .pong ∨ call = .onopen then 0
    else if counted call then count + 1 else count) 0

end Order

section OrderKept

variable {client : Client}

theorem foldl_advance_append (calls : List Call) (call : Call) :
    (calls ++ [call]).foldl Phase.advance .before =
      (calls.foldl Phase.advance .before).advance call := by
  rw [List.foldl_append]
  rfl

/-- Calls that are no callbacks of the user do not count for the order. -/
def Call.silent : Call → Bool
  | .onopen | .onclose | .onmessage _ _ => false
  | _ => true

theorem Phase.advance_silent {call : Call} (silent : call.silent = true)
    (phase : Phase) : phase.advance call = phase := by
  cases call with
  | onopen | onclose | onmessage => cases silent
  | send | heartbeat | ping | pong => cases phase <;> rfl

/-- What holds of the callbacks, the state of the client and its channel. -/
structure InPhase (client : Client) : Prop where
  unbroken : client.phase ≠ .broken
  finished : client.phase = .ended ∨ client.phase = .endedUnopened →
    client.ioClosed = true ∧ client.state = .wsClosed
  session : client.phase = .session →
    (client.status = .connected ∨ client.status = .closed) ∧
      (client.state = .wsOpened ∨ client.state = .wsClosed)
  opened : client.state = .wsOpened → client.phase = .session
  reads : client.reading = true →
    client.status = .connected ∨ client.status = .closed
  beats : client.heartbeats = true → client.phase = .session

theorem InPhase.phase_of_open (inPhase : InPhase client)
    (isOpen : client.ioClosed = false) :
    client.phase = .before ∨ client.phase = .session := by
  have notOver (ended : client.phase = .ended ∨ client.phase = .endedUnopened) :
      False := by
    have := (inPhase.finished ended).1
    rw [isOpen] at this
    cases this
  cases phase : client.phase with
  | before => exact .inl rfl
  | session => exact .inr rfl
  | ended => exact (notOver (.inl phase)).elim
  | endedUnopened => exact (notOver (.inr phase)).elim
  | broken => exact (inPhase.unbroken phase).elim

/-- A call that is no callback. -/
theorem InPhase.append {call : Call} (inPhase : InPhase client)
    (silent : call.silent = true) (pingCnt : Nat) :
    InPhase { client with
      pingCnt := pingCnt, calls := client.calls ++ [call] } := by
  have same : ({ client with
      pingCnt := pingCnt, calls := client.calls ++ [call] } : Client).phase =
        client.phase := by
    unfold Client.phase
    rw [foldl_advance_append, Phase.advance_silent silent]
  exact
    { unbroken := by rw [same]; exact inPhase.unbroken
      finished := by rw [same]; exact inPhase.finished
      session := by rw [same]; exact inPhase.session
      opened := by rw [same]; exact inPhase.opened
      reads := inPhase.reads
      beats := by rw [same]; exact inPhase.beats }

/-- The end of an open connection. -/
theorem InPhase.onClose (inPhase : InPhase client)
    (isOpen : client.ioClosed = false) : InPhase client.onClose := by
  have phase := inPhase.phase_of_open isOpen
  unfold Client.onClose
  split
  case isTrue reports =>
      have next : ({ client with
          ioClosed := true, status := .closed, heartbeats := false,
          state := .wsClosed, calls := client.calls ++ [.onclose] } :
            Client).phase = client.phase.advance .onclose := by
        unfold Client.phase
        rw [foldl_advance_append]
      have finished : client.phase.advance .onclose = .ended ∨
          client.phase.advance .onclose = .endedUnopened := by
        rcases phase with before | session
        · rw [before]
          exact .inr rfl
        · rw [session]
          exact .inl rfl
      exact
        { unbroken := by
            rw [next]
            rcases finished with ended | ended <;> rw [ended] <;> decide
          finished := fun _ => ⟨rfl, rfl⟩
          session := fun session => by
            rw [next] at session
            rcases finished with ended | ended <;> rw [ended] at session <;>
              cases session
          opened := fun opened => by cases opened
          reads := fun _ => .inr rfl
          beats := fun beats => by cases beats }
  case isFalse =>
      exact
        { unbroken := inPhase.unbroken
          finished := fun finished => ⟨rfl, (inPhase.finished finished).2⟩
          session := fun session => ⟨.inr rfl, (inPhase.session session).2⟩
          opened := inPhase.opened
          reads := fun _ => .inr rfl
          beats := fun beats => by cases beats }

theorem InPhase.statusClosed (inPhase : InPhase client) (later : Bool) :
    InPhase { client with status := .closed, closeLater := later } :=
  { unbroken := inPhase.unbroken
    finished := inPhase.finished
    session := fun session => ⟨.inr rfl, (inPhase.session session).2⟩
    opened := inPhase.opened
    reads := fun _ => .inr rfl
    beats := inPhase.beats }

theorem InPhase.closeChannel (inPhase : InPhase client) (queued : Bool) :
    InPhase (client.closeChannel queued) := by
  unfold Client.closeChannel
  split
  case isTrue opened =>
      have isOpen : client.ioClosed = false := by
        simp only [Client.isOpened, Bool.and_eq_true, Bool.not_eq_true'] at opened
        exact opened.1
      split
      · exact inPhase.statusClosed true
      · exact (inPhase.statusClosed client.closeLater).onClose isOpen
  case isFalse => exact inPhase

theorem InPhase.sendMessage (inPhase : InPhase client) (opcode : Opcode)
    (msg : List UInt8) : InPhase (client.sendMessage opcode msg) := by
  unfold Client.sendMessage
  split
  · exact inPhase.append rfl client.pingCnt
  · exact inPhase

/-- The session has begun, and may have ended. -/
def Client.Began (client : Client) : Prop :=
  client.phase = .session ∨ client.phase = .ended

theorem onClose_phase (client : Client) :
    client.onClose.phase = client.phase ∨
      client.onClose.phase = client.phase.advance .onclose := by
  unfold Client.onClose
  split
  · right
    unfold Client.phase
    rw [foldl_advance_append]
  · exact .inl rfl

theorem closeChannel_phase (client : Client) (queued : Bool) :
    (client.closeChannel queued).phase = client.phase ∨
      (client.closeChannel queued).phase = client.phase.advance .onclose := by
  unfold Client.closeChannel
  split
  · split
    · exact .inl rfl
    · exact onClose_phase { client with status := .closed }
  · exact .inl rfl

theorem InPhase.closeChannel_began (inPhase : InPhase client)
    (began : client.Began) (queued : Bool) :
    (client.closeChannel queued).Began := by
  have unbroken := (inPhase.closeChannel queued).unbroken
  rcases closeChannel_phase client queued with same | next
  · unfold Client.Began
    rw [same]
    exact began
  · rcases began with session | ended
    · rw [session] at next
      exact .inr next
    · rw [ended] at next
      exact absurd next unbroken

theorem append_phase {call : Call} (silent : call.silent = true)
    (pingCnt : Nat) :
    ({ client with pingCnt := pingCnt, calls := client.calls ++ [call] } :
        Client).phase = client.phase := by
  unfold Client.phase
  rw [foldl_advance_append, Phase.advance_silent silent]

theorem sendMessage_phase (client : Client) (opcode : Opcode)
    (msg : List UInt8) :
    (client.sendMessage opcode msg).phase = client.phase := by
  unfold Client.sendMessage
  split
  · exact append_phase rfl client.pingCnt
  · rfl

theorem onmessage_phase (began : client.Began) (opcode : UInt8)
    (msg : List UInt8) :
    ({ client with calls := client.calls ++ [.onmessage opcode msg] } :
        Client).phase = client.phase := by
  have next :
      ({ client with calls := client.calls ++ [.onmessage opcode msg] } :
          Client).phase = client.phase.advance (.onmessage opcode msg) := by
    unfold Client.phase
    rw [foldl_advance_append]
  rw [next]
  rcases began with session | ended
  · rw [session]
    rfl
  · rw [ended]
    rfl

/-- A message handed to the user. -/
theorem InPhase.onmessage (inPhase : InPhase client) (began : client.Began)
    (opcode : UInt8) (msg : List UInt8) :
    InPhase { client with
      calls := client.calls ++ [.onmessage opcode msg] } := by
  have same := onmessage_phase began opcode msg
  exact
    { unbroken := by rw [same]; exact inPhase.unbroken
      finished := by rw [same]; exact inPhase.finished
      session := by rw [same]; exact inPhase.session
      opened := by rw [same]; exact inPhase.opened
      reads := inPhase.reads
      beats := by rw [same]; exact inPhase.beats }

/-- What a message of the parser sets off, once the session has begun. -/
theorem InPhase.onParsed (inPhase : InPhase client) (began : client.Began)
    (queued : Bool) (delivered : UInt8 × List UInt8) :
    InPhase (client.onParsed queued delivered) ∧
      (client.onParsed queued delivered).Began := by
  unfold Client.onParsed
  split
  · have sent : (client.sendMessage .close delivered.2).Began := by
      unfold Client.Began
      rw [sendMessage_phase]
      exact began
    have keeps := inPhase.sendMessage .close delivered.2
    exact ⟨keeps.closeChannel queued, keeps.closeChannel_began sent queued⟩
  · split
    · refine ⟨inPhase.sendMessage .pong delivered.2, ?_⟩
      unfold Client.Began
      rw [sendMessage_phase]
      exact began
    · split
      · refine ⟨inPhase.append rfl 0, ?_⟩
        unfold Client.Began
        rw [append_phase rfl 0]
        exact began
      · split
        · refine ⟨inPhase.onmessage began delivered.1 delivered.2, ?_⟩
          unfold Client.Began
          rw [onmessage_phase began]
          exact began
        · exact ⟨inPhase, began⟩

theorem InPhase.foldl_onParsed (inPhase : InPhase client) (began : client.Began)
    (queued : Bool) (messages : List (UInt8 × List UInt8)) :
    InPhase (messages.foldl (Client.onParsed queued) client) ∧
      (messages.foldl (Client.onParsed queued) client).Began := by
  induction messages generalizing client with
  | nil => exact ⟨inPhase, began⟩
  | cons message messages ih =>
      obtain ⟨keeps, goesOn⟩ := inPhase.onParsed began queued message
      exact ih keeps goesOn

/-- Fields the phases do not depend on. -/
theorem InPhase.withFields (inPhase : InPhase client)
    (receiver : WebSocketParser) (fed : List (Nat × List UInt8))
    (reportsClose : Bool) (closeRequests : Nat) :
    InPhase { client with
      receiver := receiver
      fed := fed
      reportsClose := reportsClose
      closeRequests := closeRequests } :=
  ⟨inPhase.unbroken, inPhase.finished, inPhase.session, inPhase.opened,
    inPhase.reads, inPhase.beats⟩

theorem InPhase.feed {after : Client} {address : Nat} {data : List UInt8}
    {queued : Bool} (inPhase : InPhase client)
    (fed : client.feed address data queued = some after) : InPhase after := by
  unfold Client.feed at fed
  split at fed
  case isTrue opened =>
      obtain ⟨receiver, _, rfl⟩ := Option.map_eq_some_iff.mp fed
      exact ((inPhase.withFields receiver _ client.reportsClose
        client.closeRequests).foldl_onParsed
          (.inl (inPhase.opened opened.1)) queued _).1
  case isFalse =>
      obtain rfl := Option.some.inj fed
      exact inPhase

theorem upgraded_phase (before : client.phase = .before) (pingInterval : Nat)
    (response : Nat × List UInt8) :
    (client.upgraded pingInterval response).phase = .session := by
  have next : (client.upgraded pingInterval response).phase =
      client.phase.advance .onopen := by
    unfold Client.upgraded Client.phase
    rw [foldl_advance_append]
  rw [next, before]
  rfl

/-- The response is accepted. -/
theorem InPhase.upgraded (inPhase : InPhase client)
    (reading : client.reading = true) (before : client.phase = .before)
    (pingInterval : Nat) (response : Nat × List UInt8) :
    InPhase (client.upgraded pingInterval response) := by
  have next := upgraded_phase before pingInterval response
  exact
    { unbroken := by rw [next]; decide
      finished := by
        rw [next]
        intro finished
        rcases finished with ended | ended <;> cases ended
      session := fun _ => ⟨inPhase.reads reading, .inl rfl⟩
      opened := fun _ => next
      reads := inPhase.reads
      beats := fun _ => next }

theorem closeChannel_calls_of_unreported (unreported : client.reportsClose = false)
    (queued : Bool) : (client.closeChannel queued).calls = client.calls := by
  unfold Client.closeChannel Client.onClose
  split
  · split
    · rfl
    · rw [if_neg]
      simp [unreported]
  · rfl

theorem redirect_calls (client : Client) (queued created : Bool) :
    (client.redirect queued created).calls = client.calls := by
  have same := @closeChannel_calls_of_unreported
    { client with reportsClose := false } rfl queued
  unfold Client.redirect
  dsimp only
  split <;> exact same

/-- A redirect while the response is awaited. -/
theorem InPhase.redirect (inPhase : InPhase client)
    (before : client.phase = .before) (queued created : Bool) :
    InPhase (client.redirect queued created) := by
  have closing := (inPhase.withFields client.receiver client.fed false
    client.closeRequests).closeChannel queued
  have same : (client.redirect queued created).phase = .before := by
    unfold Client.phase
    rw [redirect_calls]
    exact before
  have notOpened : (client.redirect queued created).state ≠ .wsOpened := by
    intro opened
    unfold Client.redirect at opened
    dsimp only at opened
    split at opened <;> cases opened
  have phaseClosing := @closeChannel_calls_of_unreported
    { client with reportsClose := false } rfl queued
  exact
    { unbroken := by rw [same]; decide
      finished := by
        rw [same]
        intro finished
        rcases finished with ended | ended <;> cases ended
      session := fun session => by
        rw [same] at session
        cases session
      opened := fun opened => absurd opened notOpened
      reads := by
        unfold Client.redirect
        dsimp only
        split
        · intro reading
          cases reading
        · exact closing.reads
      beats := by
        intro beats
        unfold Client.redirect at beats
        dsimp only at beats
        split at beats
        · cases beats
        · have session := closing.beats beats
          unfold Client.phase at session
          rw [phaseClosing] at session
          rw [same, ← session]
          exact before.symm }

variable {encodeKey : List UInt8 → List UInt8} {key : List UInt8}
  {pingInterval : Nat} {redirects : Bool}

theorem InPhase.before_of_upgrading (inPhase : InPhase client)
    (isOpen : client.ioClosed = false)
    (upgrading : client.state = .wsUpgrading) : client.phase = .before := by
  rcases inPhase.phase_of_open isOpen with before | session
  · exact before
  · rcases (inPhase.session session).2 with state | state <;>
      rw [upgrading] at state <;> cases state

/-- Something was read. -/
theorem InPhase.onRead {after : Client} {address : Nat} {data : List UInt8}
    {http : HttpOutcome} {queued created : Bool} (inPhase : InPhase client)
    (reading : client.reading = true) (isOpen : client.ioClosed = false)
    (read : client.onRead encodeKey key pingInterval redirects address data
      http queued created = some after) : InPhase after := by
  unfold Client.onRead at read
  split at read
  case isFalse => exact inPhase.feed read
  case isTrue upgrading =>
      have before := inPhase.before_of_upgrading isOpen upgrading
      cases http with
      | error =>
          obtain rfl := Option.some.inj read
          exact inPhase.closeChannel queued
      | incomplete =>
          obtain rfl := Option.some.inj read
          exact inPhase
      | complete statusCode location accept nparse =>
          dsimp only at read
          split at read
          · split at read
            · obtain rfl := Option.some.inj read
              exact inPhase.redirect before queued created
            · obtain rfl := Option.some.inj read
              exact inPhase.closeChannel queued
          · split at read
            · obtain rfl := Option.some.inj read
              exact inPhase.closeChannel queued
            · exact (inPhase.upgraded reading before pingInterval _).feed read

theorem InPhase.clientStep {after : Client} {action : ClientAction}
    (inPhase : InPhase client)
    (stepped : clientStep encodeKey key pingInterval redirects client action =
      some after) : InPhase after := by
  cases action with
  | startConnect =>
      simp only [WebSocket.clientStep, Option.ite_none_right_eq_some,
        Option.some.injEq] at stepped
      obtain ⟨⟨opened, isOpen⟩, rfl⟩ := stepped
      have notSession : client.phase ≠ .session := fun session => by
        rcases (inPhase.session session).1 with status | status <;>
          rw [opened] at status <;> cases status
      exact
        { unbroken := inPhase.unbroken
          finished := inPhase.finished
          session := fun session => absurd session notSession
          opened := inPhase.opened
          reads := fun reading => by
            rcases inPhase.reads reading with status | status <;>
              rw [opened] at status <;> cases status
          beats := inPhase.beats }
  | connected =>
      simp only [WebSocket.clientStep, Option.ite_none_right_eq_some,
        Option.some.injEq] at stepped
      obtain ⟨⟨connecting, isOpen⟩, rfl⟩ := stepped
      have notSession : client.phase ≠ .session := fun session => by
        rcases (inPhase.session session).1 with status | status <;>
          rw [connecting] at status <;> cases status
      exact
        { unbroken := inPhase.unbroken
          finished := fun finished => by
            have := (inPhase.finished finished).1
            rw [isOpen] at this
            cases this
          session := fun session => absurd session notSession
          opened := fun opened => by cases opened
          reads := fun _ => .inl rfl
          beats := inPhase.beats }
  | read address data http queued created =>
      simp only [WebSocket.clientStep, Option.ite_none_right_eq_some] at stepped
      exact inPhase.onRead stepped.1.1 stepped.1.2 stepped.2
  | heartbeat queued =>
      simp only [WebSocket.clientStep, Option.ite_none_right_eq_some] at stepped
      obtain ⟨_, stepped⟩ := stepped
      have ticked := @InPhase.append client .heartbeat inPhase rfl
        (client.pingCnt + 1)
      split at stepped
      · obtain rfl := Option.some.inj stepped
        exact ticked.closeChannel queued
      · split at stepped
        · obtain rfl := Option.some.inj stepped
          exact ticked.append rfl (client.pingCnt + 1)
        · obtain rfl := Option.some.inj stepped
          exact ticked
  | ioClosed =>
      simp only [WebSocket.clientStep, Option.ite_none_left_eq_some,
        Option.some.injEq, Bool.not_eq_true] at stepped
      obtain ⟨isOpen, rfl⟩ := stepped
      exact inPhase.onClose isOpen
  | drained =>
      simp only [WebSocket.clientStep, Option.ite_none_right_eq_some,
        Option.some.injEq] at stepped
      obtain ⟨⟨_, isOpen⟩, rfl⟩ := stepped
      exact inPhase.onClose isOpen
  | close =>
      simp only [WebSocket.clientStep, Option.some.injEq] at stepped
      obtain rfl := stepped
      exact
        { unbroken := inPhase.unbroken
          finished := fun finished => ⟨(inPhase.finished finished).1, rfl⟩
          session := fun session => ⟨(inPhase.session session).1, .inr rfl⟩
          opened := fun opened => by cases opened
          reads := inPhase.reads
          beats := inPhase.beats }
  | runClose queued =>
      simp only [WebSocket.clientStep, Option.ite_none_left_eq_some,
        Option.some.injEq] at stepped
      obtain ⟨_, rfl⟩ := stepped
      exact (inPhase.withFields client.receiver client.fed client.reportsClose
        (client.closeRequests - 1)).closeChannel queued

end OrderKept

section Heard

variable {client before after : Client}

/-- Calls that neither hand a message on nor answer a ping nor open a
session. -/
def Call.Quiet (call : Call) : Prop :=
  call.message? = none ∧ call.pong? = none ∧ call ≠ .onopen

/-- Steps that leave the parser alone and make quiet calls only. -/
structure Quiet (before after : Client) : Prop where
  calls : ∃ extra, after.calls = before.calls ++ extra ∧
    ∀ call ∈ extra, call.Quiet
  receiver : after.receiver = before.receiver
  fed : after.fed = before.fed
  response : after.response = before.response
  opened : after.isOpened = true → before.isOpened = true

theorem Quiet.refl (client : Client) : Quiet client client :=
  { calls := ⟨[], (List.append_nil _).symm, by simp⟩
    receiver := rfl
    fed := rfl
    response := rfl
    opened := id }

theorem Quiet.trans {middle : Client} (first : Quiet before middle)
    (second : Quiet middle after) : Quiet before after := by
  obtain ⟨front, firstCalls, firstQuiet⟩ := first.calls
  obtain ⟨back, secondCalls, secondQuiet⟩ := second.calls
  exact
    { calls := by
        refine ⟨front ++ back, ?_, ?_⟩
        · rw [secondCalls, firstCalls, List.append_assoc]
        · intro call member
          rcases List.mem_append.mp member with inFront | inBack
          · exact firstQuiet call inFront
          · exact secondQuiet call inBack
      receiver := second.receiver.trans first.receiver
      fed := second.fed.trans first.fed
      response := second.response.trans first.response
      opened := fun opened => first.opened (second.opened opened) }

theorem quiet_onclose : Call.Quiet .onclose := ⟨rfl, rfl, nofun⟩

theorem Quiet.messages (quiet : Quiet before after) :
    after.calls.filterMap Call.message? =
      before.calls.filterMap Call.message? := by
  obtain ⟨extra, calls, quietCalls⟩ := quiet.calls
  have none : extra.filterMap Call.message? = [] :=
    List.filterMap_eq_nil_iff.mpr fun call member => (quietCalls call member).1
  rw [calls, List.filterMap_append, none, List.append_nil]

theorem Quiet.pongs (quiet : Quiet before after) :
    after.calls.filterMap Call.pong? = before.calls.filterMap Call.pong? := by
  obtain ⟨extra, calls, quietCalls⟩ := quiet.calls
  have none : extra.filterMap Call.pong? = [] :=
    List.filterMap_eq_nil_iff.mpr fun call member =>
      (quietCalls call member).2.1
  rw [calls, List.filterMap_append, none, List.append_nil]

theorem Phase.advance_before {phase : Phase} {call : Call}
    (before : phase.advance call = .before) : phase = .before := by
  cases call <;> cases phase <;> simp [Phase.advance] at before ⊢

theorem Phase.foldl_before {calls : List Call} {phase : Phase}
    (before : calls.foldl Phase.advance phase = .before) : phase = .before := by
  induction calls generalizing phase with
  | nil => exact before
  | cons call calls ih => exact Phase.advance_before (ih before)

/-- A client that is not in a session has never been in one. -/
theorem phase_before_of_append {extra : List Call}
    (calls : after.calls = before.calls ++ extra)
    (early : after.phase = .before) : before.phase = .before := by
  unfold Client.phase at early
  rw [calls, List.foldl_append] at early
  exact Phase.foldl_before early

theorem Phase.advance_began {call : Call} (quiet : call.Quiet) (phase : Phase)
    (began : phase.advance call = .session ∨ phase.advance call = .ended) :
    phase = .session ∨ phase = .ended := by
  cases call with
  | onopen => exact absurd rfl quiet.2.2
  | onmessage opcode msg => cases quiet.1
  | onclose => cases phase <;> simp [Phase.advance] at began ⊢
  | send | heartbeat | ping | pong =>
      rw [Phase.advance_silent rfl] at began
      exact began

theorem Phase.foldl_began {extra : List Call}
    (quiet : ∀ call ∈ extra, call.Quiet) {phase : Phase}
    (began : extra.foldl Phase.advance phase = .session ∨
      extra.foldl Phase.advance phase = .ended) :
    phase = .session ∨ phase = .ended := by
  induction extra generalizing phase with
  | nil => exact began
  | cons call extra ih =>
      have others : ∀ later ∈ extra, later.Quiet := fun later member =>
        quiet later (List.mem_cons_of_mem call member)
      exact Phase.advance_began (quiet call List.mem_cons_self) phase
        (ih others began)

theorem Quiet.early (quiet : Quiet before after)
    (early : after.phase = .before) : before.phase = .before := by
  obtain ⟨extra, calls, _⟩ := quiet.calls
  exact phase_before_of_append calls early

theorem Quiet.began (quiet : Quiet before after) (began : after.Began) :
    before.Began := by
  obtain ⟨extra, calls, quietCalls⟩ := quiet.calls
  unfold Client.Began Client.phase at began
  rw [calls, List.foldl_append] at began
  exact Phase.foldl_began quietCalls began

theorem quiet_onClose (client : Client) : Quiet client client.onClose := by
  unfold Client.onClose
  split
  · exact
      { calls := ⟨[.onclose], rfl, by simp [quiet_onclose]⟩
        receiver := rfl
        fed := rfl
        response := rfl
        opened := fun opened => by simp [Client.isOpened] at opened }
  · exact
      { calls := ⟨[], (List.append_nil _).symm, by simp⟩
        receiver := rfl
        fed := rfl
        response := rfl
        opened := fun opened => by simp [Client.isOpened] at opened }

theorem quiet_statusClosed (client : Client) (later : Bool) :
    Quiet client { client with status := .closed, closeLater := later } :=
  { calls := ⟨[], (List.append_nil _).symm, by simp⟩
    receiver := rfl
    fed := rfl
    response := rfl
    opened := fun opened => by simp [Client.isOpened] at opened }

theorem quiet_closeChannel (client : Client) (queued : Bool) :
    Quiet client (client.closeChannel queued) := by
  unfold Client.closeChannel
  split
  · split
    · exact quiet_statusClosed client true
    · exact (quiet_statusClosed client client.closeLater).trans
        (quiet_onClose { client with status := .closed })
  · exact Quiet.refl client

theorem quiet_append (client : Client) (call : Call) (quiet : call.Quiet)
    (pingCnt : Nat) :
    Quiet client { client with
      pingCnt := pingCnt, calls := client.calls ++ [call] } :=
  { calls := ⟨[call], rfl, by simp [quiet]⟩
    receiver := rfl
    fed := rfl
    response := rfl
    opened := id }

theorem quiet_sendClose (client : Client) (msg : List UInt8) :
    Quiet client (client.sendMessage .close msg) := by
  unfold Client.sendMessage
  split
  · exact quiet_append client (.send .close msg) ⟨rfl, rfl, nofun⟩
      client.pingCnt
  · exact Quiet.refl client

/-- What the user and the server were told of what the parser has delivered;
`pending` is still to be passed on. -/
structure Heard (pending : List (UInt8 × List UInt8)) (client : Client) :
    Prop where
  fed : feedRecvData {} client.fed = some client.receiver
  messages : client.calls.filterMap Call.message? ++ pending.filter isData =
    client.receiver.delivered.filter isData
  answers : client.calls.filterMap Call.pong? <+:
    client.receiver.delivered.filterMap ping?
  answered : client.isOpened = true →
    client.calls.filterMap Call.pong? ++ pending.filterMap ping? =
      client.receiver.delivered.filterMap ping?

theorem Heard.quiet {pending : List (UInt8 × List UInt8)}
    (heard : Heard pending before) (quiet : Quiet before after) :
    Heard pending after :=
  { fed := by
      rw [quiet.fed, quiet.receiver]
      exact heard.fed
    messages := by
      rw [quiet.messages, quiet.receiver]
      exact heard.messages
    answers := by
      rw [quiet.pongs, quiet.receiver]
      exact heard.answers
    answered := fun opened => by
      rw [quiet.pongs, quiet.receiver]
      exact heard.answered (quiet.opened opened) }

/-- A message that is neither for the user nor a ping is passed on quietly. -/
theorem Heard.skip {pending : List (UInt8 × List UInt8)}
    {delivered : UInt8 × List UInt8}
    (heard : Heard (delivered :: pending) client)
    (notData : isData delivered = false) (noPing : ping? delivered = none) :
    Heard pending client :=
  { fed := heard.fed
    messages := by
      rw [← heard.messages, List.filter_cons_of_neg (by simp [notData])]
    answers := heard.answers
    answered := fun opened => by
      rw [← heard.answered opened, List.filterMap_cons_none noPing] }

theorem Heard.sendPong {pending : List (UInt8 × List UInt8)}
    {delivered : UInt8 × List UInt8}
    (heard : Heard (delivered :: pending) client)
    (ping : delivered.1 = Opcode.ping.value) :
    Heard pending (client.sendMessage .pong delivered.2) := by
  have notData : isData delivered = false := by
    unfold isData
    rw [ping]
    decide
  have payload : ping? delivered = some delivered.2 := by
    unfold ping?
    rw [if_pos ping]
  have messages : client.calls.filterMap Call.message? ++ pending.filter isData =
      client.receiver.delivered.filter isData := by
    rw [← heard.messages, List.filter_cons_of_neg (by simp [notData])]
  unfold Client.sendMessage
  split
  case isTrue opened =>
      have pongs : (client.calls ++ [Call.send .pong delivered.2]).filterMap
          Call.pong? = client.calls.filterMap Call.pong? ++ [delivered.2] := by
        rw [List.filterMap_append]
        rfl
      have all : client.calls.filterMap Call.pong? ++ [delivered.2] ++
          pending.filterMap ping? =
            client.receiver.delivered.filterMap ping? := by
        rw [← heard.answered opened, List.filterMap_cons_some payload,
          List.append_assoc]
        rfl
      exact
        { fed := heard.fed
          messages := by
            rw [← messages, List.filterMap_append]
            simp [Call.message?]
          answers := by
            rw [pongs, ← all]
            exact List.prefix_append _ _
          answered := fun _ => by
            rw [pongs]
            exact all }
  case isFalse closed =>
      exact
        { fed := heard.fed
          messages := messages
          answers := heard.answers
          answered := fun opened => absurd opened closed }

theorem Heard.onmessage {pending : List (UInt8 × List UInt8)}
    {delivered : UInt8 × List UInt8}
    (heard : Heard (delivered :: pending) client)
    (data : delivered.1 = Opcode.text.value ∨
      delivered.1 = Opcode.binary.value)
    (noPing : delivered.1 ≠ Opcode.ping.value) :
    Heard pending { client with
      calls := client.calls ++ [.onmessage delivered.1 delivered.2] } := by
  have isData : isData delivered = true := by
    simpa [WebSocket.isData] using data
  have none : ping? delivered = none := by
    unfold ping?
    rw [if_neg noPing]
  have pongs :
      (client.calls ++ [Call.onmessage delivered.1 delivered.2]).filterMap
        Call.pong? = client.calls.filterMap Call.pong? := by
    rw [List.filterMap_append]
    exact List.append_nil _
  exact
    { fed := heard.fed
      messages := by
        rw [← heard.messages, List.filter_cons_of_pos isData,
          List.filterMap_append, List.append_assoc]
        rfl
      answers := by
        rw [pongs]
        exact heard.answers
      answered := fun opened => by
        rw [← heard.answered opened, List.filterMap_cons_none none, pongs] }

theorem Heard.onParsed {pending : List (UInt8 × List UInt8)}
    {delivered : UInt8 × List UInt8}
    (heard : Heard (delivered :: pending) client) (queued : Bool) :
    Heard pending (client.onParsed queued delivered) := by
  have skip (noData : delivered.1 ≠ Opcode.text.value ∧
      delivered.1 ≠ Opcode.binary.value)
      (noPing : delivered.1 ≠ Opcode.ping.value) : Heard pending client := by
    apply heard.skip
    · simpa [isData] using noData
    · unfold ping?
      rw [if_neg noPing]
  unfold Client.onParsed
  split
  case isTrue close =>
      have skipped := skip (by rw [close]; decide) (by rw [close]; decide)
      exact skipped.quiet ((quiet_sendClose client delivered.2).trans
        (quiet_closeChannel _ queued))
  case isFalse =>
      split
      case isTrue ping => exact heard.sendPong ping
      case isFalse noPing =>
          split
          case isTrue pong =>
              exact (skip (by rw [pong]; decide) noPing).quiet
                (quiet_append client .pong ⟨rfl, rfl, nofun⟩ 0)
          case isFalse =>
              split
              case isTrue data => exact heard.onmessage data noPing
              case isFalse noData => exact skip (not_or.mp noData) noPing

theorem Heard.foldl_onParsed {pending : List (UInt8 × List UInt8)}
    (heard : Heard pending client) (queued : Bool) :
    Heard [] (pending.foldl (Client.onParsed queued) client) := by
  induction pending generalizing client with
  | nil => exact heard
  | cons delivered pending ih => exact ih (heard.onParsed queued)

theorem Heard.feed {address : Nat} {data : List UInt8} {queued : Bool}
    (heard : Heard [] client)
    (fed : client.feed address data queued = some after) : Heard [] after := by
  unfold Client.feed at fed
  split at fed
  case isTrue opened =>
      obtain ⟨receiver, executed, rfl⟩ := Option.map_eq_some_iff.mp fed
      obtain ⟨fresh, delivered⟩ := websocketParserExecute_delivered executed
      apply Heard.foldl_onParsed
      have dropped :
          receiver.delivered.drop client.receiver.delivered.length = fresh := by
        rw [← delivered]
        exact List.drop_left
      rw [dropped]
      have messages := heard.messages
      have answers := heard.answers
      exact
        { fed := by
            unfold feedRecvData
            rw [List.foldlM_append]
            change (feedRecvData {} client.fed).bind _ = some receiver
            rw [heard.fed]
            simpa using executed
          messages := by
            rw [List.filter_nil, List.append_nil] at messages
            rw [← delivered, List.filter_append, messages]
          answers := by
            rw [← delivered, List.filterMap_append]
            exact answers.trans (List.prefix_append _ _)
          answered := fun opened => by
            have answered := heard.answered opened
            rw [List.filterMap_nil, List.append_nil] at answered
            rw [← delivered, List.filterMap_append, answered] }
  case isFalse =>
      obtain rfl := Option.some.inj fed
      exact heard

end Heard

section Session

variable {encodeKey : List UInt8 → List UInt8} {key : List UInt8}
  {pingInterval : Nat} {redirects : Bool} {client before after : Client}

theorem sendMessage_response (client : Client) (opcode : Opcode)
    (msg : List UInt8) :
    (client.sendMessage opcode msg).response = client.response := by
  unfold Client.sendMessage
  split <;> rfl

theorem onParsed_response (client : Client) (queued : Bool)
    (delivered : UInt8 × List UInt8) :
    (client.onParsed queued delivered).response = client.response := by
  unfold Client.onParsed
  split
  · rw [(quiet_closeChannel _ queued).response, sendMessage_response]
  · split
    · exact sendMessage_response client .pong delivered.2
    · split
      · rfl
      · split <;> rfl

theorem foldl_onParsed_response (client : Client) (queued : Bool)
    (messages : List (UInt8 × List UInt8)) :
    (messages.foldl (Client.onParsed queued) client).response =
      client.response := by
  induction messages generalizing client with
  | nil => rfl
  | cons message messages ih =>
      rw [List.foldl_cons, ih, onParsed_response]

/-- A client passes on what its parser delivers, has fed nothing to a parser
before the session, and began the session on a response that fits. -/
structure Tells (encodeKey : List UInt8 → List UInt8) (key : List UInt8)
    (client : Client) : Prop where
  heard : Heard [] client
  early : client.phase = .before → client.fed = []
  accepted : client.Began → client.response = some (101, encodeKey key)

theorem Tells.quiet (tells : Tells encodeKey key before)
    (quiet : Quiet before after) : Tells encodeKey key after :=
  { heard := tells.heard.quiet quiet
    early := fun early => by
      rw [quiet.fed]
      exact tells.early (quiet.early early)
    accepted := fun began => by
      rw [quiet.response]
      exact tells.accepted (quiet.began began) }

theorem Tells.feed {address : Nat} {data : List UInt8} {queued : Bool}
    (tells : Tells encodeKey key client) (inPhase : InPhase client)
    (fed : client.feed address data queued = some after) :
    Tells encodeKey key after := by
  have heard := tells.heard.feed fed
  unfold Client.feed at fed
  split at fed
  case isTrue opened =>
      have session : client.Began := .inl (inPhase.opened opened.1)
      obtain ⟨receiver, _, rfl⟩ := Option.map_eq_some_iff.mp fed
      obtain ⟨_, began⟩ := (inPhase.withFields receiver
        (client.fed ++ [(address, data)]) client.reportsClose
          client.closeRequests).foldl_onParsed session queued
            (receiver.delivered.drop client.receiver.delivered.length)
      exact
        { heard := heard
          early := fun early => by
            rcases began with session | ended
            · rw [early] at session
              cases session
            · rw [early] at ended
              cases ended
          accepted := fun _ => by
            rw [foldl_onParsed_response]
            exact tells.accepted session }
  case isFalse =>
      obtain rfl := Option.some.inj fed
      exact tells

/-- Before the session nothing was delivered and nothing was passed on. -/
theorem Tells.nothing (tells : Tells encodeKey key client)
    (before : client.phase = .before) :
    client.receiver = {} ∧ client.calls.filterMap Call.message? = [] ∧
      client.calls.filterMap Call.pong? = [] := by
  have fed := tells.heard.fed
  rw [tells.early before] at fed
  have fresh : client.receiver = {} := (Option.some.inj fed).symm
  have messages := tells.heard.messages
  have answers := tells.heard.answers
  rw [fresh] at messages answers
  refine ⟨fresh, ?_, ?_⟩
  · simpa using messages
  · simpa using answers

theorem Tells.upgraded (tells : Tells encodeKey key client)
    (before : client.phase = .before) (pingInterval : Nat) :
    Tells encodeKey key
      (client.upgraded pingInterval (101, encodeKey key)) := by
  obtain ⟨_, messages, pongs⟩ := tells.nothing before
  have noMessages : (client.calls ++ [Call.onopen]).filterMap Call.message? =
      [] := by
    rw [List.filterMap_append, messages]
    rfl
  have noPongs : (client.calls ++ [Call.onopen]).filterMap Call.pong? = [] := by
    rw [List.filterMap_append, pongs]
    rfl
  exact
    { heard :=
        { fed := rfl
          messages := by
            unfold Client.upgraded
            rw [noMessages]
            rfl
          answers := by
            unfold Client.upgraded
            rw [noPongs]
            exact List.nil_prefix
          answered := fun _ => by
            unfold Client.upgraded
            rw [noPongs]
            rfl }
      early := fun _ => rfl
      accepted := fun _ => rfl }

theorem Tells.redirect (tells : Tells encodeKey key client)
    (before : client.phase = .before) (queued created : Bool) :
    Tells encodeKey key (client.redirect queued created) := by
  obtain ⟨fresh, messages, pongs⟩ := tells.nothing before
  have closing := quiet_closeChannel
    { client with reportsClose := false } queued
  have calls := redirect_calls client queued created
  have receiver : (client.redirect queued created).receiver = {} := by
    unfold Client.redirect
    dsimp only
    split <;> exact closing.receiver.trans fresh
  have fed : (client.redirect queued created).fed = [] := by
    unfold Client.redirect
    dsimp only
    split <;> exact closing.fed.trans (tells.early before)
  have same : (client.redirect queued created).phase = .before := by
    unfold Client.phase
    rw [calls]
    exact before
  exact
    { heard :=
        { fed := by
            rw [fed, receiver]
            rfl
          messages := by
            rw [calls, receiver, messages]
            rfl
          answers := by
            rw [calls, pongs]
            exact List.nil_prefix
          answered := fun _ => by
            rw [calls, receiver, pongs]
            rfl }
      early := fun _ => fed
      accepted := fun began => by
        rcases began with session | ended
        · rw [same] at session
          cases session
        · rw [same] at ended
          cases ended }

theorem Tells.onRead {address : Nat} {data : List UInt8} {http : HttpOutcome}
    {queued created : Bool} (tells : Tells encodeKey key client)
    (inPhase : InPhase client) (reading : client.reading = true)
    (isOpen : client.ioClosed = false)
    (read : client.onRead encodeKey key pingInterval redirects address data
      http queued created = some after) : Tells encodeKey key after := by
  unfold Client.onRead at read
  split at read
  case isFalse => exact tells.feed inPhase read
  case isTrue upgrading =>
      have before := inPhase.before_of_upgrading isOpen upgrading
      cases http with
      | error =>
          obtain rfl := Option.some.inj read
          exact tells.quiet (quiet_closeChannel client queued)
      | incomplete =>
          obtain rfl := Option.some.inj read
          exact tells
      | complete statusCode location accept nparse =>
          dsimp only at read
          split at read
          case isTrue =>
              split at read
              · obtain rfl := Option.some.inj read
                exact tells.redirect before queued created
              · obtain rfl := Option.some.inj read
                exact tells.quiet (quiet_closeChannel client queued)
          case isFalse switching =>
              obtain rfl := not_not.mp switching
              split at read
              case isTrue =>
                  obtain rfl := Option.some.inj read
                  exact tells.quiet (quiet_closeChannel client queued)
              case isFalse fitting =>
                  obtain rfl := not_not.mp fitting
                  exact (tells.upgraded before pingInterval).feed
                    (inPhase.upgraded reading before pingInterval _) read

theorem Tells.clientStep {action : ClientAction}
    (tells : Tells encodeKey key client) (inPhase : InPhase client)
    (stepped : clientStep encodeKey key pingInterval redirects client action =
      some after) : Tells encodeKey key after := by
  cases action with
  | startConnect =>
      simp only [WebSocket.clientStep, Option.ite_none_right_eq_some,
        Option.some.injEq] at stepped
      obtain ⟨⟨opened, isOpen⟩, rfl⟩ := stepped
      apply tells.quiet
      exact
        { calls := ⟨[], (List.append_nil _).symm, by simp⟩
          receiver := rfl
          fed := rfl
          response := rfl
          opened := fun _ => by simp [Client.isOpened, opened, isOpen] }
  | connected =>
      simp only [WebSocket.clientStep, Option.ite_none_right_eq_some,
        Option.some.injEq] at stepped
      obtain ⟨⟨connecting, isOpen⟩, rfl⟩ := stepped
      apply tells.quiet
      exact
        { calls := ⟨[], (List.append_nil _).symm, by simp⟩
          receiver := rfl
          fed := rfl
          response := rfl
          opened := fun _ => by simp [Client.isOpened, connecting, isOpen] }
  | read address data http queued created =>
      simp only [WebSocket.clientStep, Option.ite_none_right_eq_some] at stepped
      exact tells.onRead inPhase stepped.1.1 stepped.1.2 stepped.2
  | heartbeat queued =>
      simp only [WebSocket.clientStep, Option.ite_none_right_eq_some] at stepped
      obtain ⟨_, stepped⟩ := stepped
      have ticked := tells.quiet (quiet_append client .heartbeat
        ⟨rfl, rfl, nofun⟩ (client.pingCnt + 1))
      split at stepped
      · obtain rfl := Option.some.inj stepped
        exact ticked.quiet (quiet_closeChannel _ queued)
      · split at stepped
        · obtain rfl := Option.some.inj stepped
          exact ticked.quiet (quiet_append _ .ping ⟨rfl, rfl, nofun⟩
            (client.pingCnt + 1))
        · obtain rfl := Option.some.inj stepped
          exact ticked
  | ioClosed =>
      simp only [WebSocket.clientStep, Option.ite_none_left_eq_some,
        Option.some.injEq] at stepped
      obtain ⟨_, rfl⟩ := stepped
      exact tells.quiet (quiet_onClose client)
  | drained =>
      simp only [WebSocket.clientStep, Option.ite_none_right_eq_some,
        Option.some.injEq] at stepped
      obtain ⟨_, rfl⟩ := stepped
      exact tells.quiet (quiet_onClose client)
  | close =>
      simp only [WebSocket.clientStep, Option.some.injEq] at stepped
      obtain rfl := stepped
      apply tells.quiet
      exact
        { calls := ⟨[], (List.append_nil _).symm, by simp⟩
          receiver := rfl
          fed := rfl
          response := rfl
          opened := id }
  | runClose queued =>
      simp only [WebSocket.clientStep, Option.ite_none_left_eq_some,
        Option.some.injEq] at stepped
      obtain ⟨_, rfl⟩ := stepped
      apply tells.quiet
      apply Quiet.trans _ (quiet_closeChannel _ queued)
      exact
        { calls := ⟨[], (List.append_nil _).symm, by simp⟩
          receiver := rfl
          fed := rfl
          response := rfl
          opened := id }

end Session

section Heartbeats

variable {encodeKey : List UInt8 → List UInt8} {key : List UInt8}
  {pingInterval : Nat} {redirects : Bool} {client before after : Client}

/-- The heartbeats since the last pong or the opening. -/
def Client.silence (client : Client) : Nat :=
  sinceAnswer (· = .heartbeat) client.calls

/-- The pings sent since the last pong or the opening. -/
def Client.unanswered (client : Client) : Nat :=
  sinceAnswer (· = .ping) client.calls

theorem sinceAnswer_append (counted : Call → Bool) (calls : List Call)
    (call : Call) :
    sinceAnswer counted (calls ++ [call]) =
      if call = .pong ∨ call = .onopen then 0
      else if counted call then sinceAnswer counted calls + 1
      else sinceAnswer counted calls := by
  unfold sinceAnswer
  rw [List.foldl_append]
  rfl

/-- Calls that have nothing to do with the heartbeats. -/
def Call.timeless : Call → Bool
  | .onclose | .onmessage _ _ | .send _ _ => true
  | _ => false

/-- Steps that have nothing to do with the heartbeats. -/
structure Steady (before after : Client) : Prop where
  calls : ∃ extra, after.calls = before.calls ++ extra ∧
    ∀ call ∈ extra, call.timeless = true
  pingCnt : after.pingCnt = before.pingCnt
  opened : after.isOpened = true → before.isOpened = true

theorem Steady.same (calls : after.calls = before.calls)
    (pingCnt : after.pingCnt = before.pingCnt)
    (opened : after.isOpened = true → before.isOpened = true) :
    Steady before after :=
  { calls := ⟨[], by rw [calls, List.append_nil], by simp⟩
    pingCnt := pingCnt
    opened := opened }

theorem Steady.one {call : Call} (timeless : call.timeless = true)
    (calls : after.calls = before.calls ++ [call])
    (pingCnt : after.pingCnt = before.pingCnt)
    (opened : after.isOpened = true → before.isOpened = true) :
    Steady before after :=
  { calls := ⟨[call], calls, by simp [timeless]⟩
    pingCnt := pingCnt
    opened := opened }

theorem Steady.trans {middle : Client} (first : Steady before middle)
    (second : Steady middle after) : Steady before after := by
  obtain ⟨front, firstCalls, firstTimeless⟩ := first.calls
  obtain ⟨back, secondCalls, secondTimeless⟩ := second.calls
  exact
    { calls := by
        refine ⟨front ++ back, ?_, ?_⟩
        · rw [secondCalls, firstCalls, List.append_assoc]
        · intro call member
          rcases List.mem_append.mp member with inFront | inBack
          · exact firstTimeless call inFront
          · exact secondTimeless call inBack
      pingCnt := second.pingCnt.trans first.pingCnt
      opened := fun opened => first.opened (second.opened opened) }

theorem sinceAnswer_timeless {extra : List Call}
    (timeless : ∀ call ∈ extra, call.timeless = true) (counted : Call → Bool)
    (others : ∀ call, call.timeless = true → counted call = false)
    (calls : List Call) :
    sinceAnswer counted (calls ++ extra) = sinceAnswer counted calls := by
  induction extra generalizing calls with
  | nil => rw [List.append_nil]
  | cons call extra ih =>
      have one := timeless call List.mem_cons_self
      have noReset : ¬(call = .pong ∨ call = .onopen) := by
        rintro (rfl | rfl) <;> cases one
      rw [List.append_cons, ih (fun later member =>
          timeless later (List.mem_cons_of_mem call member)),
        sinceAnswer_append, if_neg noReset, others call one]
      rfl

theorem Steady.silence (steady : Steady before after) :
    after.silence = before.silence := by
  obtain ⟨extra, calls, timeless⟩ := steady.calls
  unfold Client.silence
  rw [calls]
  apply sinceAnswer_timeless timeless
  intro call timelessCall
  cases call <;> simp [Call.timeless] at timelessCall ⊢

theorem Steady.unanswered (steady : Steady before after) :
    after.unanswered = before.unanswered := by
  obtain ⟨extra, calls, timeless⟩ := steady.calls
  unfold Client.unanswered
  rw [calls]
  apply sinceAnswer_timeless timeless
  intro call timelessCall
  cases call <;> simp [Call.timeless] at timelessCall ⊢

theorem Steady.early (steady : Steady before after)
    (early : after.phase = .before) : before.phase = .before := by
  obtain ⟨extra, calls, _⟩ := steady.calls
  exact phase_before_of_append calls early

theorem steady_onClose (client : Client) : Steady client client.onClose := by
  unfold Client.onClose
  split
  · refine @Steady.one client _ .onclose rfl rfl rfl ?_
    intro opened
    simp [Client.isOpened] at opened
  · refine Steady.same rfl rfl ?_
    intro opened
    simp [Client.isOpened] at opened

theorem steady_statusClosed (client : Client) (later : Bool) :
    Steady client { client with status := .closed, closeLater := later } := by
  refine Steady.same rfl rfl ?_
  intro opened
  simp [Client.isOpened] at opened

theorem steady_closeChannel (client : Client) (queued : Bool) :
    Steady client (client.closeChannel queued) := by
  unfold Client.closeChannel
  split
  · split
    · exact steady_statusClosed client true
    · exact (steady_statusClosed client client.closeLater).trans
        (steady_onClose { client with status := .closed })
  · exact Steady.same rfl rfl id

theorem steady_sendMessage (client : Client) (opcode : Opcode)
    (msg : List UInt8) : Steady client (client.sendMessage opcode msg) := by
  unfold Client.sendMessage
  split
  · exact @Steady.one client _ (.send opcode msg) rfl rfl rfl id
  · exact Steady.same rfl rfl id

/-- The channel is not open after `close`. -/
theorem isOpened_closeChannel (client : Client) (queued : Bool) :
    (client.closeChannel queued).isOpened = false := by
  unfold Client.closeChannel
  split
  case isTrue =>
      split
      · simp [Client.isOpened]
      · unfold Client.onClose
        split <;> simp [Client.isOpened]
  case isFalse closed => exact Bool.not_eq_true _ ▸ closed

/-- `ping_cnt` counts the silent heartbeats.  An open channel sent a ping at
each of them, and there were three at most. -/
structure Paced (client : Client) : Prop where
  count : client.silence = client.pingCnt
  few : client.unanswered ≤ 3
  open_ : client.isOpened = true →
    client.unanswered = client.pingCnt ∧ client.pingCnt ≤ 3
  early : client.phase = .before →
    client.pingCnt = 0 ∧ client.unanswered = 0

theorem Paced.steady (paced : Paced before) (steady : Steady before after) :
    Paced after :=
  { count := by
      rw [steady.silence, steady.pingCnt]
      exact paced.count
    few := by
      rw [steady.unanswered]
      exact paced.few
    open_ := fun opened => by
      rw [steady.unanswered, steady.pingCnt]
      exact paced.open_ (steady.opened opened)
    early := fun early => by
      rw [steady.unanswered, steady.pingCnt]
      exact paced.early (steady.early early) }

/-- A pong, or the opening, begins the count again. -/
theorem Paced.restart {call : Call} (answer : call = .pong ∨ call = .onopen)
    (calls : after.calls = before.calls ++ [call])
    (pingCnt : after.pingCnt = 0) : Paced after := by
  have silence : after.silence = 0 := by
    unfold Client.silence
    rw [calls, sinceAnswer_append, if_pos answer]
  have unanswered : after.unanswered = 0 := by
    unfold Client.unanswered
    rw [calls, sinceAnswer_append, if_pos answer]
  exact
    { count := by rw [silence, pingCnt]
      few := by omega
      open_ := fun _ => by omega
      early := fun _ => ⟨pingCnt, unanswered⟩ }

theorem Paced.onParsed (paced : Paced client) (queued : Bool)
    (delivered : UInt8 × List UInt8) :
    Paced (client.onParsed queued delivered) := by
  unfold Client.onParsed
  split
  · exact (paced.steady (steady_sendMessage client .close delivered.2)).steady
      (steady_closeChannel _ queued)
  · split
    · exact paced.steady (steady_sendMessage client .pong delivered.2)
    · split
      · exact @Paced.restart client _ .pong (.inl rfl) rfl rfl
      · split
        · exact paced.steady (@Steady.one client _
            (.onmessage delivered.1 delivered.2) rfl rfl rfl id)
        · exact paced

theorem Paced.foldl_onParsed (paced : Paced client) (queued : Bool)
    (messages : List (UInt8 × List UInt8)) :
    Paced (messages.foldl (Client.onParsed queued) client) := by
  induction messages generalizing client with
  | nil => exact paced
  | cons message messages ih => exact ih (paced.onParsed queued message)

theorem Paced.feed {address : Nat} {data : List UInt8} {queued : Bool}
    (paced : Paced client)
    (fed : client.feed address data queued = some after) : Paced after := by
  unfold Client.feed at fed
  split at fed
  · obtain ⟨receiver, _, rfl⟩ := Option.map_eq_some_iff.mp fed
    apply Paced.foldl_onParsed
    exact paced.steady (Steady.same rfl rfl id)
  · obtain rfl := Option.some.inj fed
    exact paced

theorem Paced.upgraded (paced : Paced client) (before : client.phase = .before)
    (pingInterval : Nat) (response : Nat × List UInt8) :
    Paced (client.upgraded pingInterval response) := by
  apply @Paced.restart client _ .onopen (.inr rfl) rfl
  unfold Client.upgraded
  dsimp only
  split
  · rfl
  · exact (paced.early before).1

theorem Paced.redirect (paced : Paced client) (before : client.phase = .before)
    (queued created : Bool) : Paced (client.redirect queued created) := by
  obtain ⟨pingCnt, unanswered⟩ := paced.early before
  have silence := paced.count
  have calls := redirect_calls client queued created
  have closing := steady_closeChannel
    { client with reportsClose := false } queued
  have none : (client.redirect queued created).pingCnt = 0 := by
    unfold Client.redirect
    dsimp only
    split <;> exact closing.pingCnt.trans pingCnt
  have noneSilent : (client.redirect queued created).silence = 0 := by
    unfold Client.silence at silence ⊢
    rw [calls, silence, pingCnt]
  have noneUnanswered : (client.redirect queued created).unanswered = 0 := by
    unfold Client.unanswered at unanswered ⊢
    rw [calls, unanswered]
  exact
    { count := by rw [noneSilent, none]
      few := by omega
      open_ := fun _ => by omega
      early := fun _ => ⟨none, noneUnanswered⟩ }

theorem Paced.onRead {address : Nat} {data : List UInt8} {http : HttpOutcome}
    {queued created : Bool} (paced : Paced client) (inPhase : InPhase client)
    (isOpen : client.ioClosed = false)
    (read : client.onRead encodeKey key pingInterval redirects address data
      http queued created = some after) : Paced after := by
  unfold Client.onRead at read
  split at read
  case isFalse => exact paced.feed read
  case isTrue upgrading =>
      have before := inPhase.before_of_upgrading isOpen upgrading
      have closing := paced.steady (steady_closeChannel client queued)
      cases http with
      | error =>
          obtain rfl := Option.some.inj read
          exact closing
      | incomplete =>
          obtain rfl := Option.some.inj read
          exact paced
      | complete statusCode location accept nparse =>
          dsimp only at read
          split at read
          · split at read
            · obtain rfl := Option.some.inj read
              exact paced.redirect before queued created
            · obtain rfl := Option.some.inj read
              exact closing
          · split at read
            · obtain rfl := Option.some.inj read
              exact closing
            · exact (paced.upgraded before pingInterval _).feed read

/-- A heartbeat. -/
theorem Paced.heartbeat {queued : Bool} (paced : Paced client)
    (inPhase : InPhase client)
    (stepped : clientStep encodeKey key pingInterval redirects client
      (.heartbeat queued) = some after) : Paced after := by
  simp only [WebSocket.clientStep, Option.ite_none_right_eq_some] at stepped
  obtain ⟨beats, stepped⟩ := stepped
  have session := inPhase.beats beats
  have tickedSilence : ({ client with
      pingCnt := client.pingCnt + 1
      calls := client.calls ++ [.heartbeat] } : Client).silence =
        client.pingCnt + 1 := by
    have count := paced.count
    unfold Client.silence at count ⊢
    rw [sinceAnswer_append, if_neg (by decide), if_pos (by decide), count]
  have tickedUnanswered : ({ client with
      pingCnt := client.pingCnt + 1
      calls := client.calls ++ [.heartbeat] } : Client).unanswered =
        client.unanswered := by
    unfold Client.unanswered
    rw [sinceAnswer_append, if_neg (by decide), if_neg (by decide)]
  have tickedPhase := @append_phase client .heartbeat rfl (client.pingCnt + 1)
  split at stepped
  case isTrue =>
      obtain rfl := Option.some.inj stepped
      have steady := steady_closeChannel
        { client with
          pingCnt := client.pingCnt + 1
          calls := client.calls ++ [.heartbeat] } queued
      exact
        { count := by rw [steady.silence, steady.pingCnt, tickedSilence]
          few := by
            rw [steady.unanswered, tickedUnanswered]
            exact paced.few
          open_ := fun opened => by
            rw [isOpened_closeChannel] at opened
            cases opened
          early := fun early => by
            have := steady.early early
            rw [tickedPhase, session] at this
            cases this }
  case isFalse notThree =>
      split at stepped
      case isTrue opened =>
          obtain ⟨pings, atMost⟩ := paced.open_ opened
          obtain rfl := Option.some.inj stepped
          have silence : ({ client with
              pingCnt := client.pingCnt + 1
              calls := client.calls ++ [.heartbeat] ++ [.ping] } :
                Client).silence = client.pingCnt + 1 := by
            unfold Client.silence at tickedSilence ⊢
            rw [sinceAnswer_append, if_neg (by decide), if_neg (by decide)]
            exact tickedSilence
          have unanswered : ({ client with
              pingCnt := client.pingCnt + 1
              calls := client.calls ++ [.heartbeat] ++ [.ping] } :
                Client).unanswered = client.pingCnt + 1 := by
            unfold Client.unanswered at tickedUnanswered pings ⊢
            rw [sinceAnswer_append, if_neg (by decide), if_pos (by decide),
              tickedUnanswered, pings]
          exact
            { count := silence
              few := by omega
              open_ := fun _ => ⟨unanswered, by dsimp only; omega⟩
              early := fun early => by
                have := @phase_before_of_append client _
                  [.heartbeat, .ping] (List.append_assoc _ _ _) early
                rw [session] at this
                cases this }
      case isFalse closed =>
          obtain rfl := Option.some.inj stepped
          exact
            { count := tickedSilence
              few := by
                rw [tickedUnanswered]
                exact paced.few
              open_ := fun opened => absurd opened closed
              early := fun early => by
                rw [tickedPhase, session] at early
                cases early }

theorem Paced.clientStep {action : ClientAction} (paced : Paced client)
    (inPhase : InPhase client)
    (stepped : clientStep encodeKey key pingInterval redirects client action =
      some after) : Paced after := by
  cases action with
  | startConnect =>
      simp only [WebSocket.clientStep, Option.ite_none_right_eq_some,
        Option.some.injEq] at stepped
      obtain ⟨⟨opened, isOpen⟩, rfl⟩ := stepped
      apply paced.steady
      refine Steady.same rfl rfl ?_
      intro _
      simp [Client.isOpened, opened, isOpen]
  | connected =>
      simp only [WebSocket.clientStep, Option.ite_none_right_eq_some,
        Option.some.injEq] at stepped
      obtain ⟨⟨connecting, isOpen⟩, rfl⟩ := stepped
      apply paced.steady
      refine Steady.same rfl rfl ?_
      intro _
      simp [Client.isOpened, connecting, isOpen]
  | read address data http queued created =>
      simp only [WebSocket.clientStep, Option.ite_none_right_eq_some] at stepped
      exact paced.onRead inPhase stepped.1.2 stepped.2
  | heartbeat queued => exact paced.heartbeat inPhase stepped
  | ioClosed =>
      simp only [WebSocket.clientStep, Option.ite_none_left_eq_some,
        Option.some.injEq] at stepped
      obtain ⟨_, rfl⟩ := stepped
      exact paced.steady (steady_onClose client)
  | drained =>
      simp only [WebSocket.clientStep, Option.ite_none_right_eq_some,
        Option.some.injEq] at stepped
      obtain ⟨_, rfl⟩ := stepped
      exact paced.steady (steady_onClose client)
  | close =>
      simp only [WebSocket.clientStep, Option.some.injEq] at stepped
      obtain rfl := stepped
      exact paced.steady (Steady.same rfl rfl id)
  | runClose queued =>
      simp only [WebSocket.clientStep, Option.ite_none_left_eq_some,
        Option.some.injEq] at stepped
      obtain ⟨_, rfl⟩ := stepped
      apply paced.steady
      apply Steady.trans _ (steady_closeChannel _ queued)
      exact Steady.same rfl rfl id

end Heartbeats

section Runs

variable {key : List UInt8} {pingInterval : Nat} {redirects : Bool}
  {client : Client}

end Runs

end WebSocket

end SpeechModules
