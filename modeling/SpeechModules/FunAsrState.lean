import SpeechModules.AudioQueue
import SpeechModules.JsonValue

/-!
# The state of one recognition session

`start_asr` allocates one `switch_da_t` per session.  It is shared by the media
thread that runs the bug's READ callback, by whoever removes the bug and thereby
runs its CLOSE callback, by the applications `pause_asr` and `stop_asr`, and by
a chain of sender threads: each connection attempt has a thread and a websocket
of its own, and a thread that gives its connection up may create the next one.

As for the synthesis handles, every agent is a program counter over the single
accesses of its source.
-/

namespace SpeechModules

namespace FunAsr

/-- `funasr_load_config` refuses all other values of `sample_rate`. -/
inductive SampleRate where
  | rate8000
  | rate16000
  deriving DecidableEq

/-- The fields of `funasr_globals` that a session reads. -/
structure Config where
  sampleRate : SampleRate
  wsConnTimeoutMs : Nat
  wsConnRetryMax : Int
  parseJson : Bool

/-- The shared fields of `switch_da_t`.  `writeMutex` tells whether the mutex is
held; `destroyed` is set where `destroy` releases the fields. -/
structure Pvt where
  hangup : Bool
  wsConnected : Bool
  wsClosed : Bool
  paused : Int
  wsConnRetry : Int
  writeMutex : Bool
  audioQueue : AudioQueue
  destroyed : Bool

/-- The values written by `start_funasr_session_function`. -/
def Pvt.initial : Pvt where
  hangup := false
  wsConnected := false
  wsClosed := false
  paused := 0
  wsConnRetry := 0
  writeMutex := false
  audioQueue := .create
  destroyed := false

/-- The connection behind a thread's `WebSocketClient`. -/
inductive Socket where
  | fresh
  | connecting
  | opened
  | closing
  | closed
  deriving DecidableEq

/-- A message of the server, with what the JSON parser makes of it. -/
structure Message where
  text : String
  document : Option Json

/-- An `AsrEvent`: the whole answer, or a recognised text with whether the
sentence has ended. -/
inductive AsrEvent where
  | result (answer : String)
  | speech (text : String) (vad : Bool)
  deriving DecidableEq

/-- Positions inside the three callbacks of a thread's websocket. -/
inductive CallbackPc where
  | idle
  | openSend
  | openStore
  | openShare
  | closeStore
  | messageEnter (message : Message)
  | messageFire (text : String) (vad : Bool)
  | messageEvent (event : AsrEvent)

/-- Positions inside `send_audio_to_asr_server` and the call of `destroy` at its
end. -/
inductive SenderPc where
  | start
  | openWs
  | waitOpen (deadline : Nat)
  | checkConnected
  | createResampler
  | closeEarly
  | loopHangup
  | loopClosed
  | readStart
  | readWait (deadline : Nat)
  | sendBlock (block : Bytes)
  | testClosed
  | sendEnd
  | sleepEnd (wakeAt : Nat)
  | closeWs
  | waitClosed (deadline : Nat)
  | testClosedAgain
  | storeClosed
  | incRetry
  | loadHangup
  | checkRetry
  | sleepRetry (wakeAt : Nat)
  | loadHangupAgain
  | createThread
  | destroyTest
  | destroyEnter
  | destroyWait
  | destroyWoken
  | destroyRelease
  | unwinding
  | ended
  deriving DecidableEq

/-- A sender thread with its locals and its websocket.  The last four fields are
notes of an observer: whether `onopen` and `onclose` have run, and how many
successors the thread has created and how often it has entered `destroy`. -/
structure Sender where
  pc : SenderPc
  connected : Bool
  closed : Bool
  socket : Socket
  callback : CallbackPc
  ranOpen : Bool
  ranClose : Bool
  successors : Nat
  destroyCalls : Nat

/-- A thread that has just been created. -/
def Sender.initial : Sender where
  pc := .start
  connected := false
  closed := false
  socket := .fresh
  callback := .idle
  ranOpen := false
  ranClose := false
  successors := 0
  destroyCalls := 0

/-- Positions inside the READ callback. -/
inductive ReadPc where
  | idle
  | guardHangup
  | guardConnected
  | guardClosed
  | lock
  | bugRead
  | loadPaused (data : Bytes)
  | write (data : Bytes)
  | signal
  | unlock
  deriving DecidableEq

/-- The READ callback and the frame that `switch_core_media_bug_read` gives it,
if that call succeeds. -/
structure Reader where
  pc : ReadPc
  frame : Option Bytes
  deriving DecidableEq

/-- Positions inside the CLOSE callback. -/
inductive ClosePc where
  | idle
  | test
  | setHangup
  | lock
  | signal
  | unlock
  | done
  deriving DecidableEq

/-- Positions inside `start_asr` from its `switch_channel_set_private` on; the
INIT callback runs inside `switch_core_media_bug_add`. -/
inductive StartPc where
  | setPrivate
  | initTest
  | initCreate
  | storeBug
  | done
  deriving DecidableEq

/-- Positions inside `pause_asr` and `stop_asr`, which one session thread runs
one after the other. -/
inductive AppPc where
  | idle
  | pauseStore (paused : Int)
  | pauseLog
  | stopUnset
  | stopRemove
  | stopWait
  deriving DecidableEq

/-- What an observer has seen so far: the frames accepted by the audio queue,
the payloads sent at 8000 Hz and the blocks given to the resampler at 16000 Hz,
the connection attempts, and the events fired. -/
structure History where
  accepted : List Bytes
  sent : List Bytes
  resampled : List Bytes
  attempts : Nat
  events : List AsrEvent

def History.initial : History := ⟨[], [], [], 0, []⟩

/-- A session with all agents that share its `switch_da_t`.  `funasrMod` tells
whether the channel's private data of that name points to it, `bug` whether its
media bug is attached. -/
structure State where
  clock : Nat
  pvt : Pvt
  threads : List Sender
  reader : Reader
  closer : ClosePc
  starter : StartPc
  app : AppPc
  funasrMod : Bool
  bug : Bool
  history : History

/-- The session when `start_asr` has initialised its fields. -/
def State.initial (now : Nat) : State where
  clock := now
  pvt := .initial
  threads := []
  reader := ⟨.idle, none⟩
  closer := .idle
  starter := .setPrivate
  app := .idle
  funasrMod := false
  bug := false
  history := .initial

end FunAsr

end SpeechModules
