import SpeechModules.NioWrite
import SpeechModules.WebSocketDelivery

/-!
# Messages over a shared connection

`libs/libhv/http/WebSocketChannel.cpp`: several threads send messages over one
connection, each as one frame or as a run of fragments written under the mutex
of the channel, and the event loop drains and closes the connection meanwhile.
The bytes that reach the wire are read by the parser of the other side.
-/

namespace SpeechModules

namespace WebSocket

/-- `enum ws_session_type`. -/
inductive SessionType
  | wsClient
  | wsServer
  deriving DecidableEq, Repr

/-- The arguments of one `sendFrame`. -/
structure Frame where
  data : List UInt8
  opcode : Opcode
  fin : Bool
  deriving DecidableEq, Repr

/-- The loop over the middle fragments and the last fragment. -/
def fragmentLoop (fragment : Nat) : Nat → List UInt8 → List Frame
  | 0, rest => [⟨rest, .continue_, true⟩]
  | fuel + 1, rest =>
      if fragment < rest.length then
        ⟨rest.take fragment, .continue_, false⟩ ::
          fragmentLoop fragment fuel (rest.drop fragment)
      else
        [⟨rest, .continue_, true⟩]

/-- `send` with the size of a fragment: the frames it writes under the lock. -/
def sendFragments (data : List UInt8) (fragment : Nat) (opcode : Opcode) :
    List Frame :=
  if data.length ≤ fragment then
    [⟨data, opcode, true⟩]
  else
    ⟨data.take fragment, opcode, false⟩ ::
      fragmentLoop fragment data.length (data.drop fragment)

/-- `send`: the frames it writes under the lock. -/
def send (data : List UInt8) (opcode : Opcode) (fin : Bool) : List Frame :=
  if 0xFFFF < data.length then
    sendFragments data 0xFFFF opcode
  else
    [⟨data, opcode, fin⟩]

/-- The calls of the channel.  All callers let `fin` default to `true`, and none
passes the opcode of a continuation. -/
inductive Request
  | send (data : List UInt8) (opcode : Opcode) (message : opcode ≠ .continue_)
  | sendPing
  | sendPong
  deriving DecidableEq, Repr

/-- The frames of a call. -/
def Request.frames : Request → List Frame
  | .send data opcode _ => WebSocket.send data opcode true
  | .sendPing => [⟨[], .ping, true⟩]
  | .sendPong => [⟨[], .pong, true⟩]

/-- What a call has to bring to the other side. -/
def Request.message : Request → UInt8 × List UInt8
  | .send data opcode _ => (opcode.value, data)
  | .sendPing => (Opcode.ping.value, [])
  | .sendPong => (Opcode.pong.value, [])

/-- A channel: the connection, `status`, the size of `sendbuf_` and the call
that holds the mutex with the frames it has still to write.  For the record, the
calls that wrote all their frames, the frames written, whether the connection
refused a frame while it was open, and whether a frame did not fit into the
buffer. -/
structure Channel where
  type : SessionType
  io : Nio.Io := {}
  statusClosed : Bool := false
  sendbuf : Nat := 0
  holder : Option (Request × List Frame) := none
  completed : List Request := []
  written : List WireFrame := []
  refused : Bool := false
  overrun : Bool := false

/-- What can happen to a channel. -/
inductive ChannelAction
  | lock (request : Request)
  | write (mask : Mask) (sent : Nio.SendResult)
  | writable (sent : List Nio.SendResult)
  | close (async : Bool)
  | closeEvent
  | closeTimeout
  | readError
  | disconnect
  deriving DecidableEq, Repr

section Assembling

/-- The frame of `sendFrame` behind a frame on the wire. -/
def WireFrame.frame (wire : WireFrame) : Frame :=
  ⟨wire.data, wire.opcode, wire.fin⟩

/-- What a frame adds to the assembly, whether or not it was masked. -/
def Assembly.add (assembly : Assembly) (frame : Frame) : Assembly :=
  let opcode :=
    if frame.opcode = .continue_ then assembly.opcode else frame.opcode.value
  let message :=
    (if assembly.complete then [] else assembly.message) ++ frame.data
  { complete := frame.fin
    opcode := opcode
    message := message
    delivered :=
      if frame.fin then assembly.delivered ++ [(opcode, message)]
      else assembly.delivered }

variable {assembly : Assembly}

end Assembling

section Fragments

/-- Only the last frame of a list is the last of its message. -/
def LastFinal (frames : List Frame) : Prop :=
  ∀ front back, frames = front ++ back → back ≠ [] →
    ∀ frame ∈ front, frame.fin = false

theorem lastFinal_singleton (frame : Frame) : LastFinal [frame] := by
  intro front back split some
  have none : front = [] := by
    have lengths := congrArg List.length split
    have := List.length_pos_of_ne_nil some
    rw [List.length_append, List.length_singleton] at lengths
    apply List.eq_nil_of_length_eq_zero
    omega
  subst none
  simp

theorem lastFinal_cons {frame : Frame} {frames : List Frame}
    (unfinished : frame.fin = false) (others : LastFinal frames) :
    LastFinal (frame :: frames) := by
  intro front back split some
  cases front with
  | nil => simp
  | cons first front =>
      obtain ⟨rfl, rest⟩ := List.cons.inj split
      intro other member
      rcases List.mem_cons.mp member with rfl | later
      · exact unfinished
      · exact others front back rest some other later

theorem lastFinal_fragmentLoop (fragment fuel : Nat) (rest : List UInt8) :
    LastFinal (fragmentLoop fragment fuel rest) := by
  induction fuel generalizing rest with
  | zero => exact lastFinal_singleton _
  | succ fuel ih =>
      unfold fragmentLoop
      split
      · exact lastFinal_cons rfl (ih _)
      · exact lastFinal_singleton _

theorem lastFinal_request (request : Request) : LastFinal request.frames := by
  cases request with
  | sendPing => exact lastFinal_singleton _
  | sendPong => exact lastFinal_singleton _
  | send data opcode message =>
      simp only [Request.frames, send, sendFragments]
      split
      · split
        · exact lastFinal_singleton _
        · exact lastFinal_cons rfl (lastFinal_fragmentLoop _ _ _)
      · exact lastFinal_singleton _

end Fragments

section SendBuffer

end SendBuffer

section Runs

variable {channel : Channel}

/-- Nothing has gone wrong with the channel yet. -/
def Channel.Usable (channel : Channel) : Prop :=
  channel.statusClosed = false ∧ channel.io.closed = false

/-- Where the call that holds the mutex is. -/
def HolderAt (unfinished : List Frame) : Option (Request × List Frame) → Prop
  | none => unfinished = []
  | some (request, rest) => rest ≠ [] ∧ request.frames = unfinished ++ rest

/-- What holds of the frames written as long as none was refused: those of the
calls that returned, then some of the call that holds the mutex, or of one that
the end of the connection interrupted. -/
structure InOrder (channel : Channel) (unfinished : List Frame) : Prop where
  frames : channel.written.map WireFrame.frame =
    channel.completed.flatMap Request.frames ++ unfinished
  notFinal : ∀ frame ∈ unfinished, frame.fin = false
  holder : channel.Usable → HolderAt unfinished channel.holder

/-- What holds of a channel between its steps. -/
structure Good (channel : Channel) : Prop where
  sound : ∃ log, Nio.Sound channel.io log ∧
    (channel.refused = false → log = channel.written.flatMap WireFrame.bytes)
  inOrder : channel.refused = false → ∃ unfinished, InOrder channel unfinished
  short : ∀ wire ∈ channel.written, wire.data.length ≤ 0xFFFF
  known : ∀ request rest, channel.holder = some (request, rest) →
    ∀ frame ∈ rest, frame ∈ request.frames
  fits : channel.overrun = false

/-- A step of the connection alone. -/
theorem Good.io {io : Nio.Io} {action : Nio.Action} (good : Good channel)
    (stepped : Nio.step channel.io action = some io)
    (silent : ∀ log, Nio.noteEntered channel.io action log = log) :
    Good { channel with io := io } := by
  obtain ⟨log, sound, written⟩ := good.sound
  have after := Nio.step_sound sound stepped
  rw [silent] at after
  refine ⟨⟨log, after, written⟩, ?_, good.short, good.known, good.fits⟩
  intro unrefused
  obtain ⟨unfinished, inOrder⟩ := good.inOrder unrefused
  refine ⟨unfinished, inOrder.frames, inOrder.notFinal, ?_⟩
  rintro ⟨status, isOpen⟩
  apply inOrder.holder
  refine ⟨status, ?_⟩
  cases isClosed : channel.io.closed with
  | false => rfl
  | true =>
      rw [Nio.step_closed sound stepped isClosed] at isOpen
      cases isOpen

/-- The frames after one more of the call that holds the mutex. -/
theorem InOrder.next {unfinished rest : List Frame} {request : Request}
    {frame : Frame} {wire : WireFrame} {after : Channel}
    (inOrder : InOrder channel unfinished)
    (frames : request.frames = unfinished ++ frame :: rest)
    (isFrame : wire.frame = frame)
    (written : after.written = channel.written ++ [wire])
    (completed : after.completed =
      if rest = [] then channel.completed ++ [request] else channel.completed)
    (holder : after.holder = if rest = [] then none else some (request, rest)) :
    ∃ unfinished, InOrder after unfinished := by
  by_cases last : rest = []
  · subst last
    rw [if_pos rfl] at completed holder
    refine ⟨[], ?_, by simp, fun _ => by rw [holder]; rfl⟩
    rw [written, completed, List.map_append, inOrder.frames,
      List.flatMap_append, List.flatMap_singleton, frames, List.append_nil,
      List.map_singleton, isFrame, List.append_assoc]
  · rw [if_neg last] at completed holder
    refine ⟨unfinished ++ [frame], ?_, ?_, ?_⟩
    · rw [written, completed, List.map_append, inOrder.frames,
        List.map_singleton, isFrame, List.append_assoc]
    · apply lastFinal_request request (unfinished ++ [frame]) rest _ last
      rw [frames, List.append_assoc, List.singleton_append]
    · intro _
      rw [holder]
      refine ⟨last, ?_⟩
      rw [frames, List.append_assoc, List.singleton_append]

end Runs

end WebSocket

end SpeechModules
