import SpeechModules.JsonValue

/-!
# The state of one speech synthesis handle

`mod_aliyun_tts` keeps one `aliyuntts_t` per opened speech handle.  It is shared
by the session thread inside `aliyuntts_speech_feed_tts`,
`aliyuntts_speech_read_tts` and `aliyuntts_speech_close`, by the processing
thread that `aliyuntts_speech_open` starts, by the websocket's event loop and
by the detached threads that apply a completion half a second late.

Each of these agents is described by a program counter whose constructors are
the single loads, stores and calls of its source, so that every interleaving of
them is a run of the step function in the next file.
-/

namespace SpeechModules

namespace AliyunTts

/-- A C string given to the synthesizer, without its terminator. -/
abbrev Text := List UInt8

abbrev Bytes := List UInt8

/-- The connection behind `pvt->ws`.  After `close()` the client ignores
incoming data but its close callback is still to come. -/
inductive Link where
  | connecting
  | opened
  | closing
  | closed
  deriving DecidableEq

/-- The shared fields of `aliyuntts_t`.  The atomic integers only ever hold 0
and 1; `mtx` records whether the mutex of that name is held. -/
structure Pvt where
  ws : Link
  wsConnected : Bool
  wsClosed : Bool
  synthesisCompleted : Bool
  ttsClosed : Bool
  lastRequestTimeMs : Nat
  connFinished : Bool
  readAudioData : Bool
  playBackStopped : Bool
  ttsInProgress : Bool
  audioDataAvailable : Bool
  mtx : Bool
  audioBuffer : Bytes
  ttsTextQueue : List Text
  destroyCalls : Nat

/-- The field values written by `aliyuntts_speech_open`. -/
def Pvt.initial : Pvt where
  ws := .connecting
  wsConnected := false
  wsClosed := false
  synthesisCompleted := true
  ttsClosed := false
  lastRequestTimeMs := 0
  connFinished := false
  readAudioData := false
  playBackStopped := true
  ttsInProgress := false
  audioDataAvailable := false
  mtx := false
  audioBuffer := []
  ttsTextQueue := []
  destroyCalls := 0

/-- Positions inside `send_tts_request`. -/
inductive SendPc where
  | loadConnected
  | loadInProgress
  | storeCompleted
  | storeAvailable
  | storeInProgress
  | storeRequestTime
  | prepare
  | send
  | clearInProgress
  deriving DecidableEq

/-- The outcome of preparing a request and of `WebSocketClient::send`: the
message is handed to the connection, `send` returns a negative number, `send`
throws, or `prepare_tts_request` returned an empty string. -/
inductive SendChoice where
  | handed
  | negative
  | thrown
  | emptyRequest
  deriving DecidableEq

/-- Positions inside `aliyuntts_speech_feed_tts`. -/
inductive FeedPc where
  | loadClosed
  | loadConnected
  | loadInProgress
  | push
  | sending (pc : SendPc)
  | waitLoad (round : Nat)
  | waitSleep (round wakeAt : Nat)
  | waitLoadAgain (round : Nat)
  | returned (success : Bool)
  deriving DecidableEq

/-- One call of `aliyuntts_speech_feed_tts`. -/
structure Feed where
  text : Text
  pc : FeedPc
  deriving DecidableEq

/-- Positions inside the processing thread.  The two timeout positions remember
the number of the request whose age was measured. -/
inductive ProcPc where
  | notStarted
  | loopHead
  | loadCompleted
  | storeInProgress
  | recheckClosed
  | pick
  | poppedCheckClosed (text : Text)
  | sendPopped (text : Text) (pc : SendPc)
  | sendPending (text : Text) (pc : SendPc)
  | exitLoadClosed
  | exitLoadInProgress
  | exitPoll (round : Nat)
  | exitSleep (round wakeAt : Nat)
  | exitPollAgain (round : Nat)
  | sleeping (wakeAt : Nat)
  | loadInProgress
  | loadAvailable
  | readClock
  | loadRequestTime (now : Nat)
  | timeoutCompleted (request : Nat)
  | timeoutInProgress (request : Nat)
  | afterLoop
  | waitClosed (deadline : Nat)
  | destroying
  | ended
  deriving DecidableEq

/-- The processing thread with its two locals. -/
structure Proc where
  pc : ProcPc
  pendingRequest : Bool
  pendingText : Option Text
  deriving DecidableEq

/-- Positions inside the callbacks run by the websocket's event loop.  A text
message remembers the number of the request it answers, and whether its name is
`SynthesisCompleted`. -/
inductive NetPc where
  | idle
  | openLoadFinished
  | openStoreFinished
  | closeLoadInProgress
  | closeLoadCompleted
  | closeStoreCompleted
  | closeStoreInProgress
  | closeLoadFinished
  | closeStoreFinished
  | closeStoreClosed
  | errorStoreCompleted (request : Nat) (completed : Bool)
  | errorStoreInProgress (request : Nat) (completed : Bool)
  | spawnDelayed (request : Nat)
  | packetLoad (message : Bytes)
  | packetWrite (message : Bytes)
  | packetStoreAvailable
  | packetLoadRead
  | packetStoreRead
  | packetLoadStopped
  | packetStoreStopped
  | packetFireStart
  deriving DecidableEq

/-- Positions of a detached completion thread. -/
inductive DelayedPc where
  | sleeping (wakeAt : Nat)
  | storeCompleted (newBufferSize : Nat)
  | storeInProgress
  | done
  deriving DecidableEq

/-- A detached completion thread, the request whose completion it applies and
the buffer size it captured. -/
structure Delayed where
  request : Nat
  bufferSize : Nat
  pc : DelayedPc
  deriving DecidableEq

/-- Positions inside `aliyuntts_speech_read_tts`. -/
inductive ReadPc where
  | idle
  | firstRead
  | activeInProgress
  | activeConnected
  | activeWsClosed
  | activeTtsClosed
  | activeAvailable
  | activeClock
  | activeRequestTime (now : Nat)
  | pollAvailable (round : Nat)
  | pollSleep (round wakeAt : Nat)
  | pollConnected (round : Nat)
  | pollWsClosed (round : Nat)
  | pollTtsClosed (round : Nat)
  | pollAvailableAgain (round : Nat)
  | pollRead
  | guardInProgress
  | guardAvailable
  | waitLock (waited : Nat)
  | waitTestRead (waited : Nat) (deadline : Nat) (timedOut : Bool)
  | waitTestInProgress (waited : Nat) (deadline : Nat) (timedOut : Bool)
  | waitBlocked (waited : Nat) (deadline : Nat)
  | waitLoadRead (waited : Nat)
  | waitClearRead (waited : Nat)
  | waitRead (waited : Nat)
  | waitWsClosed (waited : Nat)
  | waitTtsClosed (waited : Nat)
  | lastRead
  | stopLoad
  | stopStore
  | stopAvailable
  | stopFire
  | returnFalse
  deriving DecidableEq

/-- The reading side of the session thread: the current call with its requested
length and flag, and how the condition waits of that call ended. -/
structure Reader where
  pc : ReadPc
  want : Nat
  blocking : Bool
  waitsByTimeout : Nat
  waitsByPredicate : Nat
  lastReadEmpty : Bool
  deriving DecidableEq

/-- Positions inside `aliyuntts_speech_close`. -/
inductive ClosePc where
  | idle
  | loadInProgress
  | pollAvailable (round : Nat) (received : Bool)
  | pollCompleted (round : Nat) (received : Bool)
  | pollWsClosed (round : Nat) (received : Bool)
  | pollSleep (round : Nat) (received : Bool) (wakeAt : Nat)
  | shutdown
  | storeClosed
  | fireClosed
  | closed
  deriving DecidableEq

/-- How far `aliyuntts_speech_open` had come when it failed: before the handle
was stored in the channel's private data, after that, or after the websocket
was told to connect. -/
inductive OpenStage where
  | unpublished
  | published
  | dialled
  deriving DecidableEq

/-- Positions inside `aliyuntts_speech_open`, from the creation of the audio
buffer on. -/
inductive OpenPc where
  | createBuffer
  | createQueue
  | setPrivate
  | connect
  | waitConnect (deadline : Nat)
  | loadConnected
  | destroying (stage : OpenStage)
  | failed (stage : OpenStage)
  | opened
  deriving DecidableEq

/-- What arrives at, or leaves by, the websocket as far as audio is concerned. -/
inductive Arrival where
  | start
  | packet (message : Bytes)
  deriving DecidableEq

inductive PlaybackEvent where
  | start
  | stop
  | speechClosed
  deriving DecidableEq

/-- What an observer has seen so far.  No step of the program reads it.

`outstanding` holds from the sending of a StartSynthesis until its
`SynthesisCompleted`, a 40010005 error, the close of the connection or a
timeout is processed; `packetSinceSend` tells whether a binary message arrived
since the last StartSynthesis, and `underrun` whether a read that found the
buffer empty has taken `audio_data_available` back from the current synthesis. -/
structure History where
  accepted : List Text
  sent : List Text
  outstanding : Bool
  packetSinceSend : Bool
  underrun : Bool
  arrivals : List Arrival
  withheld : List Bytes
  returned : Bytes
  events : List PlaybackEvent

def History.initial : History where
  accepted := []
  sent := []
  outstanding := false
  packetSinceSend := false
  underrun := false
  arrivals := []
  withheld := []
  returned := []
  events := []

/-- A speech handle with all the agents that share it.  `clock` is
`switch_time_now() / 1000`. -/
structure State where
  clock : Nat
  pvt : Pvt
  opener : OpenPc
  proc : Proc
  feeds : List Feed
  net : NetPc
  delayed : List Delayed
  reader : Reader
  closer : ClosePc
  history : History

/-- The handle right after its fields have been initialised at time `now`. -/
def State.initial (now : Nat) : State where
  clock := now
  pvt := .initial
  opener := .createBuffer
  proc := ⟨.notStarted, false, none⟩
  feeds := []
  net := .idle
  delayed := []
  reader := ⟨.idle, 0, false, 0, 0, false⟩
  closer := .idle
  history := .initial

end AliyunTts

end SpeechModules
