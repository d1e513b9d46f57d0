import SpeechModules.FunAsrStep

/-!
# The state of one client connection of `rnnoise_server`

The server stands between `mod_funasr` and the recogniser.  A client connection
allocates one `rnnoise_data_t`; it is shared by the handlers of that connection,
which the event loop runs one after the other, and by the sender threads that
the handlers create.  The queue and the streaming loop are those of `mod_funasr`,
and so is the way every agent is a program counter over the single accesses of
its source.
-/

namespace SpeechModules

namespace Rnnoise

/-- The fields of `rnnoise_globals` that a connection reads. -/
structure Config where
  sampleRate : Nat
  wsConnTimeoutMs : Nat

/-- The shared fields of `rnnoise_data_t`.  `writeMutex` tells whether the mutex
is held, `destroyCalls` how often `destroy` has released the fields. -/
structure Pvt where
  wsClientClosed : Bool
  asrConnected : Bool
  asrClosed : Bool
  isSpeaking : Bool
  requestJson : Json
  writeMutex : Bool
  audioQueue : AudioQueue
  destroyCalls : Nat

/-- The values written when the client connects. -/
def Pvt.initial : Pvt where
  wsClientClosed := false
  asrConnected := false
  asrClosed := false
  isSpeaking := true
  requestJson := .null
  writeMutex := false
  audioQueue := .create
  destroyCalls := 0

/-- A message of the client: a text with its length and what `parse_json` makes
of it, or audio. -/
inductive ClientMessage where
  | text (length : Nat) (document : Option Json)
  | binary (data : Bytes)

/-- Positions inside the handlers `onmessage` and `onclose` of the connection.
None of them runs after `onclose`. -/
inductive HandlerPc where
  | idle
  | parse (length : Nat) (document : Option Json)
  | speakStore (value : Bool) (length : Nat) (json : Json)
  | speakLoad (length : Nat) (json : Json)
  | requestStore (json : Json)
  | createThread
  | destroyFailed
  | guardClientClosed (data : Bytes)
  | guardConnected (data : Bytes)
  | guardAsrClosed (data : Bytes)
  | lock (data : Bytes)
  | write (data : Bytes)
  | signal
  | unlock
  | closeStore
  | closed

/-- Positions inside the callbacks of a thread's connection to the recogniser. -/
inductive CallbackPc where
  | idle
  | openSend
  | openStore
  | openShare
  | closeStore
  | messageEnter (text : String)
  | messageTest (text : String)
  | messageRelay (text : String)

/-- Positions inside `send_audio_to_asr_server`. -/
inductive SenderPc where
  | start
  | openWs
  | waitOpen (deadline : Nat)
  | checkConnected
  | createResampler
  | storeFailed
  | loopClient
  | loopClosed
  | loopSpeaking
  | readStart
  | readWait (deadline : Nat)
  | sendBlock (block : Bytes)
  | testClient
  | storeAsrClosed
  | testClosed
  | sendEnd
  | sleepEnd (wakeAt : Nat)
  | testClosedAgain
  | closeWs
  | waitClosed (deadline : Nat)
  | destroying
  | unwinding
  | ended
  deriving DecidableEq

/-- A sender thread with its locals and its websocket. -/
structure Sender where
  pc : SenderPc
  connected : Bool
  closed : Bool
  socket : FunAsr.Socket
  callback : CallbackPc

/-- A thread that has just been created. -/
def Sender.initial : Sender where
  pc := .start
  connected := false
  closed := false
  socket := .fresh
  callback := .idle

/-- What an observer has seen so far: the audio accepted by the queue, the blocks
sent to the recogniser, resampled and denoised or not, and its answers sent to
the client. -/
structure History where
  accepted : List Bytes
  delivered : List Bytes
  relayed : List String

def History.initial : History := ⟨[], [], []⟩

/-- A client connection with all agents that share its `rnnoise_data_t`. -/
structure State where
  clock : Nat
  pvt : Pvt
  handler : HandlerPc
  threads : List Sender
  history : History

/-- The connection when `onopen` has returned. -/
def State.initial (now : Nat) : State where
  clock := now
  pvt := .initial
  handler := .idle
  threads := []
  history := .initial

end Rnnoise

end SpeechModules
