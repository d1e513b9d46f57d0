import SpeechModules.AliyunTtsState
import SpeechModules.StepSystem

/-!
# The steps of one speech synthesis handle

One definition per agent of `mod_aliyun_tts`.  Each takes its own program
counter and the shared fields, performs the single load, store or call at that
position, and returns the new values; `none` means that the agent is blocked.
`State.step` chooses the agent.

Loads whose value is only logged are left out, and so are the log calls.  A
mutex region that contains one single store is one step; the regions that
contain several accesses hold `mtx` between their steps.
-/

namespace SpeechModules

namespace AliyunTts

/-! ## Sending a request -/

/-- How a step of `send_tts_request` continues: at another position, with the
result `true` after the message was handed over, with the result `true` after
`send` reported a failure that is not looked at, or with the result `false`. -/
inductive SendNext where
  | goto (pc : SendPc)
  | handed
  | lost
  | failed
  deriving DecidableEq

/-- A message can be handed over while the channel is up, which it still is
between `close()` and the close callback. -/
def Link.carries : Link → Bool
  | .opened => true
  | .closing => true
  | _ => false

/-- `send_tts_request`. -/
def sendTtsRequestStep (clock : Nat) (choice : SendChoice) (pvt : Pvt) :
    SendPc → Option (Pvt × SendNext)
  | .loadConnected =>
      some (pvt, if pvt.wsConnected then .goto .loadInProgress else .failed)
  | .loadInProgress =>
      some (pvt, if pvt.ttsInProgress then .failed else .goto .storeCompleted)
  | .storeCompleted =>
      some ({ pvt with synthesisCompleted := false }, .goto .storeAvailable)
  | .storeAvailable =>
      some ({ pvt with audioDataAvailable := false }, .goto .storeInProgress)
  | .storeInProgress =>
      some ({ pvt with ttsInProgress := true }, .goto .storeRequestTime)
  | .storeRequestTime =>
      some ({ pvt with lastRequestTimeMs := clock }, .goto .prepare)
  | .prepare =>
      some (pvt,
        if choice = .emptyRequest then .goto .clearInProgress else .goto .send)
  | .send =>
      match choice with
      | .handed => if pvt.ws.carries then some (pvt, .handed) else none
      | .negative => some (pvt, .lost)
      | .thrown => some (pvt, .goto .clearInProgress)
      | .emptyRequest => none
  | .clearInProgress =>
      some ({ pvt with ttsInProgress := false }, .failed)

/-- The observer notes that a StartSynthesis has been handed over. -/
def History.noteSent (history : History) (text : Text) : History :=
  { history with
    sent := history.sent ++ [text]
    outstanding := true
    packetSinceSend := false
    underrun := false
    arrivals := history.arrivals ++ [.start] }

/-- The observer notes that a text has been accepted for synthesis. -/
def History.noteAccepted (history : History) (text : Text) : History :=
  { history with accepted := history.accepted ++ [text] }

/-! ## `aliyuntts_speech_feed_tts` and `aliyuntts_resume` -/

/-- The capacity given to `switch_queue_create`; a push to a full queue
blocks. -/
def ttsTextQueueSize : Nat := 100

def speechFeedTtsStep (clock : Nat) (choice : SendChoice) (pvt : Pvt)
    (history : History) (feed : Feed) : Option (Pvt × Feed × History) :=
  match feed.pc with
  | .loadClosed =>
      some (pvt, { feed with
        pc := if pvt.ttsClosed then .returned false else .loadConnected },
        history)
  | .loadConnected =>
      some (pvt, { feed with
        pc := if pvt.wsConnected then .loadInProgress else .returned false },
        history)
  | .loadInProgress =>
      some (pvt, { feed with
        pc := if pvt.ttsInProgress then .push else .sending .loadConnected },
        history)
  | .push =>
      if pvt.ttsTextQueue.length < ttsTextQueueSize then
        some ({ pvt with ttsTextQueue := pvt.ttsTextQueue ++ [feed.text] },
          { feed with pc := .returned true },
          history.noteAccepted feed.text)
      else none
  | .sending sendPc =>
      match sendTtsRequestStep clock choice pvt sendPc with
      | none => none
      | some (after, .goto next) =>
          some (after, { feed with pc := .sending next }, history)
      | some (after, .handed) =>
          some (after, { feed with pc := .waitLoad 0 },
            (history.noteAccepted feed.text).noteSent feed.text)
      | some (after, .lost) =>
          some (after, { feed with pc := .waitLoad 0 },
            history.noteAccepted feed.text)
      | some (after, .failed) =>
          some (after, { feed with pc := .push }, history)
  | .waitLoad round =>
      some (pvt, { feed with
        pc := if round < 20 ∧ ¬ pvt.audioDataAvailable then
            .waitSleep round (clock + 100)
          else .returned true },
        history)
  | .waitSleep round wakeAt =>
      if wakeAt ≤ clock then
        some (pvt, { feed with pc := .waitLoadAgain round }, history)
      else none
  | .waitLoadAgain round =>
      some (pvt, { feed with
        pc := if pvt.audioDataAvailable then .returned true
          else .waitLoad (round + 1) },
        history)
  | .returned _ => none

/-! ## The processing thread -/

def processingThreadStep (clock : Nat) (choice : SendChoice) (pvt : Pvt)
    (history : History) (proc : Proc) : Option (Pvt × Proc × History) :=
  match proc.pc with
  | .notStarted => none
  | .loopHead =>
      some (pvt, { proc with
        pc := if pvt.ttsClosed then .afterLoop else .loadCompleted }, history)
  | .loadCompleted =>
      some (pvt, { proc with
        pc := if pvt.synthesisCompleted then .storeInProgress
          else .sleeping (clock + 50) }, history)
  | .storeInProgress =>
      some ({ pvt with ttsInProgress := false },
        { proc with pc := .recheckClosed, pendingRequest := false }, history)
  | .recheckClosed =>
      some (pvt, { proc with
        pc := if pvt.ttsClosed then .afterLoop else .pick }, history)
  | .pick =>
      match proc.pendingText, pvt.ttsTextQueue with
      | some text, _ =>
          some (pvt, { proc with pc := .sendPending text .loadConnected },
            history)
      | none, text :: rest =>
          some ({ pvt with ttsTextQueue := rest },
            { proc with pc := .poppedCheckClosed text }, history)
      | none, [] => some (pvt, { proc with pc := .exitLoadClosed }, history)
  | .poppedCheckClosed text =>
      some (pvt, { proc with
        pc := if pvt.ttsClosed then .exitLoadClosed
          else .sendPopped text .loadConnected }, history)
  | .sendPopped text sendPc =>
      match sendTtsRequestStep clock choice pvt sendPc with
      | none => none
      | some (after, .goto next) =>
          some (after, { proc with pc := .sendPopped text next }, history)
      | some (after, .handed) =>
          some (after,
            { proc with pc := .exitLoadClosed, pendingRequest := true },
            history.noteSent text)
      | some (after, .lost) =>
          some (after,
            { proc with pc := .exitLoadClosed, pendingRequest := true },
            history)
      | some (after, .failed) =>
          some (after,
            { proc with pc := .exitLoadClosed, pendingText := some text },
            history)
  | .sendPending text sendPc =>
      match sendTtsRequestStep clock choice pvt sendPc with
      | none => none
      | some (after, .goto next) =>
          some (after, { proc with pc := .sendPending text next }, history)
      | some (after, .handed) =>
          some (after, ⟨.exitLoadClosed, true, none⟩, history.noteSent text)
      | some (after, .lost) =>
          some (after, ⟨.exitLoadClosed, true, none⟩, history)
      | some (after, .failed) =>
          some (after, { proc with pc := .exitLoadClosed }, history)
  | .exitLoadClosed =>
      some (pvt, { proc with
        pc := if pvt.ttsClosed then .exitLoadInProgress else .loopHead },
        history)
  | .exitLoadInProgress =>
      some (pvt, { proc with
        pc := if pvt.ttsInProgress then .exitPoll 0 else .loopHead }, history)
  | .exitPoll round =>
      some (pvt, { proc with
        pc := if round < 10 ∧ ¬ pvt.audioDataAvailable then
            .exitSleep round (clock + 100)
          else .afterLoop }, history)
  | .exitSleep round wakeAt =>
      if wakeAt ≤ clock then
        some (pvt, { proc with pc := .exitPollAgain round }, history)
      else none
  | .exitPollAgain round =>
      some (pvt, { proc with
        pc := if pvt.audioDataAvailable then .afterLoop
          else .exitPoll (round + 1) }, history)
  | .sleeping wakeAt =>
      if wakeAt ≤ clock then
        some (pvt, { proc with pc := .loadInProgress }, history)
      else none
  | .loadInProgress =>
      some (pvt, { proc with
        pc := if pvt.ttsInProgress then .loadAvailable else .loopHead },
        history)
  | .loadAvailable =>
      some (pvt, { proc with
        pc := if ¬ pvt.audioDataAvailable ∧ proc.pendingRequest then .readClock
          else .loopHead }, history)
  | .readClock =>
      some (pvt, { proc with pc := .loadRequestTime clock }, history)
  | .loadRequestTime now =>
      -- the three tests on `request_time`, `now` and `time_passed`
      if 0 < pvt.lastRequestTimeMs ∧ pvt.lastRequestTimeMs < now ∧
          3000 < now - pvt.lastRequestTimeMs then
        some (pvt,
          { proc with pc := .timeoutCompleted history.sent.length },
          { history with
            outstanding := history.outstanding && history.packetSinceSend })
      else some (pvt, { proc with pc := .loopHead }, history)
  | .timeoutCompleted request =>
      some ({ pvt with synthesisCompleted := true },
        { proc with pc := .timeoutInProgress request }, history)
  | .timeoutInProgress _ =>
      some ({ pvt with ttsInProgress := false },
        { proc with pc := .loopHead, pendingRequest := false }, history)
  | .afterLoop =>
      some (pvt, { proc with pc := .waitClosed (clock + 3500) }, history)
  | .waitClosed deadline =>
      if pvt.wsClosed ∨ deadline ≤ clock then
        some (pvt, { proc with pc := .destroying }, history)
      else none
  | .destroying =>
      -- dropping the last reference to `ws` detaches its callbacks
      some ({ pvt with ws := .closed, destroyCalls := pvt.destroyCalls + 1 },
        { proc with pc := .ended }, history)
  | .ended => none

/-! ## The websocket callbacks -/

/-- What `onmessage` reads of a text message. -/
structure Header where
  status : Option Int
  name : Option String

/-- The `header` member of an object message, as far as it is looked at. -/
def readHeader (document : Option Json) : Option Header := do
  let root ← document
  let header ← root.member? "header"
  if header.isObject then
    some ⟨(header.member? "status").bind Json.int?,
      (header.member? "name").bind Json.string?⟩
  else none

/-- The status of a task that received a start command while running. -/
def taskStatusError : Int := 40010005

def Header.isError (header : Header) : Bool :=
  header.status == some taskStatusError

def Header.isCompleted (header : Header) : Bool :=
  header.name == some "SynthesisCompleted"

/-- What the event loop receives from the connection.  A text message carries
the number of the request it answers, which the code does not look at. -/
inductive NetEvent where
  | opened
  | closed
  | text (document : Option Json) (request : Nat)
  | binary (message : Bytes)

/-- Where `onmessage` goes on with a text message. -/
def textPc (header : Header) (request : Nat) : NetPc :=
  if header.isError then .errorStoreCompleted request header.isCompleted
  else if header.isCompleted then .spawnDelayed request
  else .idle

/-- An error ends the outstanding request; a completion does if it answers
it. -/
def History.noteText (history : History) (header : Header) (request : Nat) :
    History :=
  { history with
    outstanding := history.outstanding && !header.isError &&
      !(header.isCompleted && request == history.sent.length) }

/-- The start of a callback, up to its first access to the shared fields. -/
def callbackStart (pvt : Pvt) (history : History) :
    NetEvent → Option (Pvt × NetPc × History)
  | .opened =>
      if pvt.ws = .connecting then
        some ({ pvt with ws := .opened, wsConnected := true },
          .openLoadFinished, history)
      else none
  | .closed =>
      if pvt.ws = .closed then none
      else
        some ({ pvt with ws := .closed }, .closeLoadInProgress,
          { history with outstanding := false })
  | .text document request =>
      if pvt.ws = .opened then
        match readHeader document with
        | none => some (pvt, .idle, history)
        | some header =>
            some (pvt, textPc header request, history.noteText header request)
      else none
  | .binary message =>
      if pvt.ws = .opened then
        some (pvt, .packetLoad message,
          { history with
            packetSinceSend := true
            arrivals := history.arrivals ++ [.packet message] })
      else none

/-- One access of a running callback; the last component is a detached
completion thread it starts. -/
def callbackStep (clock : Nat) (pvt : Pvt) (history : History) :
    NetPc → Option (Pvt × NetPc × History × Option Delayed)
  | .idle => none
  | .openLoadFinished =>
      some (pvt, if pvt.connFinished then .idle else .openStoreFinished,
        history, none)
  | .openStoreFinished =>
      if pvt.mtx then none
      else some ({ pvt with connFinished := true }, .idle, history, none)
  | .closeLoadInProgress =>
      some (pvt, if pvt.ttsInProgress then .closeLoadCompleted
        else .closeLoadFinished, history, none)
  | .closeLoadCompleted =>
      some (pvt, if pvt.synthesisCompleted then .closeLoadFinished
        else .closeStoreCompleted, history, none)
  | .closeStoreCompleted =>
      some ({ pvt with synthesisCompleted := true }, .closeStoreInProgress,
        history, none)
  | .closeStoreInProgress =>
      some ({ pvt with ttsInProgress := false }, .closeLoadFinished,
        history, none)
  | .closeLoadFinished =>
      some (pvt, if pvt.connFinished then .closeStoreClosed
        else .closeStoreFinished, history, none)
  | .closeStoreFinished =>
      if pvt.mtx then none
      else
        some ({ pvt with connFinished := true }, .closeStoreClosed,
          history, none)
  | .closeStoreClosed =>
      some ({ pvt with wsClosed := true }, .idle, history, none)
  | .errorStoreCompleted request completed =>
      some ({ pvt with synthesisCompleted := true },
        .errorStoreInProgress request completed, history, none)
  | .errorStoreInProgress request completed =>
      some ({ pvt with ttsInProgress := false },
        if completed then .spawnDelayed request else .idle, history, none)
  | .spawnDelayed request =>
      some (pvt, .idle, history,
        some ⟨request, pvt.audioBuffer.length, .sleeping (clock + 500)⟩)
  | .packetLoad message =>
      if pvt.audioDataAvailable then
        some (pvt, .packetWrite message, history, none)
      else
        some (pvt, .packetStoreAvailable,
          { history with withheld := history.withheld ++ [message] }, none)
  | .packetWrite message =>
      some ({ pvt with audioBuffer := pvt.audioBuffer ++ message },
        .packetStoreAvailable, history, none)
  | .packetStoreAvailable =>
      some ({ pvt with audioDataAvailable := true }, .packetLoadRead,
        { history with underrun := false }, none)
  | .packetLoadRead =>
      some (pvt, if pvt.readAudioData then .packetLoadStopped
        else .packetStoreRead, history, none)
  | .packetStoreRead =>
      if pvt.mtx then none
      else
        some ({ pvt with readAudioData := true }, .packetLoadStopped,
          history, none)
  | .packetLoadStopped =>
      some (pvt, if pvt.playBackStopped then .packetStoreStopped else .idle,
        history, none)
  | .packetStoreStopped =>
      some ({ pvt with playBackStopped := false }, .packetFireStart,
        history, none)
  | .packetFireStart =>
      some (pvt, .idle, { history with events := history.events ++ [.start] },
        none)

/-- The body of a detached completion thread.  With an empty buffer it marks
the synthesis completed but leaves `tts_in_progress` alone. -/
def delayedCompletionStep (clock : Nat) (pvt : Pvt) (delayed : Delayed) :
    Option (Pvt × Delayed) :=
  match delayed.pc with
  | .sleeping wakeAt =>
      if wakeAt ≤ clock then
        some (pvt, { delayed with
          pc := .storeCompleted pvt.audioBuffer.length })
      else none
  | .storeCompleted newBufferSize =>
      if pvt.mtx then none
      else if 1000 < newBufferSize ∨ delayed.bufferSize < newBufferSize then
        some ({ pvt with synthesisCompleted := true, mtx := true },
          { delayed with pc := .storeInProgress })
      else if 0 < newBufferSize then
        some ({ pvt with synthesisCompleted := true, mtx := true },
          { delayed with pc := .storeInProgress })
      else
        some ({ pvt with synthesisCompleted := true },
          { delayed with pc := .done })
  | .storeInProgress =>
      some ({ pvt with ttsInProgress := false, mtx := false },
        { delayed with pc := .done })
  | .done => none

/-! ## `aliyuntts_speech_read_tts` -/

/-- `max_wait_ms` and `wait_step_ms`. -/
def maxWaitMs : Nat := 2000

def waitStepMs : Nat := 20

/-- `switch_buffer_read` followed by a return of success, or by `otherwise` if
it delivered nothing. -/
def bufferRead (pvt : Pvt) (history : History) (reader : Reader)
    (otherwise : ReadPc) : Pvt × Reader × History :=
  if (pvt.audioBuffer.take reader.want).length = 0 then
    (pvt, { reader with pc := otherwise }, history)
  else
    ({ pvt with audioBuffer := pvt.audioBuffer.drop reader.want },
      { reader with pc := .idle },
      { history with
        returned := history.returned ++ pvt.audioBuffer.take reader.want })

/-- The blocking part is entered only with the blocking flag. -/
def blockingPc (reader : Reader) : ReadPc :=
  if reader.blocking then .guardInProgress else .stopLoad

def speechReadTtsStep (clock : Nat) (pvt : Pvt) (history : History)
    (reader : Reader) : Option (Pvt × Reader × History) :=
  match reader.pc with
  | .idle => none
  | .firstRead => some (bufferRead pvt history reader .activeInProgress)
  | .activeInProgress =>
      some (pvt, { reader with
        pc := if pvt.ttsInProgress then .activeConnected
          else blockingPc reader }, history)
  | .activeConnected =>
      some (pvt, { reader with
        pc := if pvt.wsConnected then .activeWsClosed
          else blockingPc reader }, history)
  | .activeWsClosed =>
      some (pvt, { reader with
        pc := if pvt.wsClosed then blockingPc reader
          else .activeTtsClosed }, history)
  | .activeTtsClosed =>
      some (pvt, { reader with
        pc := if pvt.ttsClosed then blockingPc reader
          else .activeAvailable }, history)
  | .activeAvailable =>
      some (pvt, { reader with
        pc := if pvt.audioDataAvailable then blockingPc reader
          else .activeClock }, history)
  | .activeClock =>
      some (pvt, { reader with pc := .activeRequestTime clock }, history)
  | .activeRequestTime now =>
      some (pvt, { reader with
        pc := if 0 < pvt.lastRequestTimeMs ∧ pvt.lastRequestTimeMs < now ∧
            now - pvt.lastRequestTimeMs < 5000 then .pollAvailable 0
          else blockingPc reader }, history)
  | .pollAvailable round =>
      some (pvt, { reader with
        pc := if round < 50 ∧ ¬ pvt.audioDataAvailable then
            .pollSleep round (clock + 100)
          else blockingPc reader }, history)
  | .pollSleep round wakeAt =>
      if wakeAt ≤ clock then
        some (pvt, { reader with pc := .pollConnected round }, history)
      else none
  | .pollConnected round =>
      some (pvt, { reader with
        pc := if pvt.wsConnected then .pollWsClosed round
          else blockingPc reader }, history)
  | .pollWsClosed round =>
      some (pvt, { reader with
        pc := if pvt.wsClosed then blockingPc reader
          else .pollTtsClosed round }, history)
  | .pollTtsClosed round =>
      some (pvt, { reader with
        pc := if pvt.ttsClosed then blockingPc reader
          else .pollAvailableAgain round }, history)
  | .pollAvailableAgain round =>
      some (pvt, { reader with
        pc := if pvt.audioDataAvailable then .pollRead
          else .pollAvailable (round + 1) }, history)
  | .pollRead => some (bufferRead pvt history reader (blockingPc reader))
  | .guardInProgress =>
      some (pvt, { reader with
        pc := if pvt.ttsInProgress then .waitLock 0 else .guardAvailable },
        history)
  | .guardAvailable =>
      some (pvt, { reader with
        pc := if pvt.audioDataAvailable then .waitLock 0 else .stopLoad },
        history)
  | .waitLock waited =>
      if pvt.mtx then none
      else
        some ({ pvt with mtx := true },
          { reader with
            pc := .waitTestRead waited (clock + waitStepMs) false }, history)
  | .waitTestRead waited deadline timedOut =>
      if pvt.readAudioData then
        some (pvt, { reader with
          pc := .waitLoadRead waited
          waitsByPredicate := reader.waitsByPredicate + 1 }, history)
      else
        some (pvt, { reader with
          pc := .waitTestInProgress waited deadline timedOut }, history)
  | .waitTestInProgress waited deadline timedOut =>
      if ¬ pvt.ttsInProgress then
        some (pvt, { reader with
          pc := .waitLoadRead waited
          waitsByPredicate := reader.waitsByPredicate + 1 }, history)
      else if timedOut then
        some (pvt, { reader with
          pc := .waitLoadRead waited
          waitsByTimeout := reader.waitsByTimeout + 1 }, history)
      else
        some ({ pvt with mtx := false },
          { reader with pc := .waitBlocked waited deadline }, history)
  | .waitBlocked waited deadline =>
      -- notified, woken spuriously or timed out, once the mutex is free
      if pvt.mtx then none
      else
        some ({ pvt with mtx := true },
          { reader with
            pc := .waitTestRead waited deadline (decide (deadline ≤ clock)) },
          history)
  | .waitLoadRead waited =>
      if pvt.readAudioData then
        some (pvt, { reader with pc := .waitClearRead waited }, history)
      else
        some ({ pvt with mtx := false },
          { reader with pc := .waitRead waited }, history)
  | .waitClearRead waited =>
      some ({ pvt with readAudioData := false, mtx := false },
        { reader with pc := .waitRead waited }, history)
  | .waitRead waited =>
      some (bufferRead pvt history reader
        (.waitWsClosed (waited + waitStepMs)))
  | .waitWsClosed waited =>
      some (pvt, { reader with
        pc := if pvt.wsClosed then .lastRead else .waitTtsClosed waited },
        history)
  | .waitTtsClosed waited =>
      some (pvt, { reader with
        pc := if pvt.ttsClosed then .lastRead
          else if waited < maxWaitMs then .waitLock waited else .lastRead },
        history)
  | .lastRead =>
      some (bufferRead pvt history
        { reader with lastReadEmpty := pvt.audioBuffer.isEmpty } .stopLoad)
  | .stopLoad =>
      some (pvt, { reader with
        pc := if pvt.playBackStopped then .returnFalse else .stopStore },
        history)
  | .stopStore =>
      some ({ pvt with playBackStopped := true },
        { reader with pc := .stopAvailable }, history)
  | .stopAvailable =>
      some ({ pvt with audioDataAvailable := false },
        { reader with pc := .stopFire },
        { history with
          underrun := history.underrun || pvt.audioDataAvailable })
  | .stopFire =>
      some (pvt, { reader with pc := .returnFalse },
        { history with events := history.events ++ [.stop] })
  | .returnFalse => some (pvt, { reader with pc := .idle }, history)

/-! ## `aliyuntts_speech_close` and `aliyuntts_speech_open` -/

def speechCloseStep (clock : Nat) (pvt : Pvt) (history : History) :
    ClosePc → Option (Pvt × ClosePc × History)
  | .idle => none
  | .loadInProgress =>
      some (pvt, if pvt.ttsInProgress then .pollAvailable 0 false
        else .shutdown, history)
  | .pollAvailable round received =>
      if round < 50 then
        some (pvt, .pollCompleted round
          (received || pvt.audioDataAvailable), history)
      else some (pvt, .shutdown, history)
  | .pollCompleted round received =>
      some (pvt, if pvt.synthesisCompleted ∧ received then .shutdown
        else .pollWsClosed round received, history)
  | .pollWsClosed round received =>
      some (pvt, if pvt.wsClosed then .shutdown
        else .pollSleep round received (clock + 100), history)
  | .pollSleep round received wakeAt =>
      if wakeAt ≤ clock then
        some (pvt, .pollAvailable (round + 1) received, history)
      else none
  | .shutdown =>
      if pvt.wsClosed then some (pvt, .storeClosed, history)
      else
        some ({ pvt with ws := if pvt.ws = .closed then .closed else .closing },
          .storeClosed, history)
  | .storeClosed => some ({ pvt with ttsClosed := true }, .fireClosed, history)
  | .fireClosed =>
      some (pvt, .closed,
        { history with events := history.events ++ [.speechClosed] })
  | .closed => none

/-- The outcomes of the calls made by `aliyuntts_speech_open`. -/
structure OpenChoice where
  success : Bool
  timeoutMs : Nat

def speechOpenStep (clock : Nat) (choice : OpenChoice) (pvt : Pvt)
    (proc : Proc) : OpenPc → Option (Pvt × Proc × OpenPc)
  | .createBuffer =>
      some (pvt, proc, if choice.success then .createQueue
        else .destroying .unpublished)
  | .createQueue =>
      some (pvt, proc, if choice.success then .setPrivate
        else .destroying .unpublished)
  | .setPrivate => some (pvt, proc, .connect)
  | .connect =>
      -- an empty token makes `connect_ws` return before the client exists
      some (pvt, proc, if choice.success then
        .waitConnect (clock + choice.timeoutMs) else .destroying .published)
  | .waitConnect deadline =>
      if pvt.connFinished ∨ deadline ≤ clock then
        some (pvt, proc, .loadConnected)
      else none
  | .loadConnected =>
      if pvt.wsConnected then
        some (pvt, { proc with pc := .loopHead }, .opened)
      else some (pvt, proc, .destroying .dialled)
  | .destroying stage =>
      some ({ pvt with ws := .closed, destroyCalls := pvt.destroyCalls + 1 },
        proc, .failed stage)
  | .failed _ => none
  | .opened => none

/-- `ws->open` has been called: callbacks can come. -/
def OpenPc.dialled : OpenPc → Bool
  | .waitConnect _ => true
  | .loadConnected => true
  | .destroying stage => stage = .dialled
  | .opened => true
  | _ => false

/-- The handle has been stored in the channel's private data. -/
def OpenPc.published : OpenPc → Bool
  | .createBuffer => false
  | .createQueue => false
  | .setPrivate => false
  | .destroying stage => stage ≠ .unpublished
  | .failed stage => stage ≠ .unpublished
  | _ => true

/-! ## The whole handle -/

/-- Which agent moves, with what its environment answers. -/
inductive Action where
  | tick (ms : Nat)
  | openStep (choice : OpenChoice)
  | procStep (choice : SendChoice)
  | feedStart (text : Text)
  | feedStep (index : Nat) (choice : SendChoice)
  | netStart (event : NetEvent)
  | netStep
  | delayedStep (index : Nat)
  | readStart (want : Nat) (blocking : Bool)
  | readStep
  | closeStart
  | closeStep
  | flush
  | resume (text : Text)

/-- One step of the handle.  The speech entry points need a handle whose
opening succeeded, a read asks for at least one byte, and
`aliyuntts_resume` ignores empty data. -/
def State.step (state : State) : Action → Option State
  | .tick ms => some { state with clock := state.clock + ms }
  | .openStep choice =>
      (speechOpenStep state.clock choice state.pvt state.proc
        state.opener).map fun (pvt, proc, opener) =>
          { state with pvt, proc, opener }
  | .procStep choice =>
      (processingThreadStep state.clock choice state.pvt state.history
        state.proc).map fun (pvt, proc, history) =>
          { state with pvt, proc, history }
  | .feedStart text =>
      if state.opener = .opened then
        some { state with feeds := state.feeds ++ [⟨text, .loadClosed⟩] }
      else none
  | .feedStep index choice =>
      state.feeds[index]?.bind fun feed =>
        (speechFeedTtsStep state.clock choice state.pvt state.history
          feed).map fun (pvt, feed, history) =>
            { state with pvt, feeds := state.feeds.set index feed, history }
  | .netStart event =>
      if state.net = .idle ∧ state.opener.dialled then
        (callbackStart state.pvt state.history event).map
          fun (pvt, net, history) => { state with pvt, net, history }
      else none
  | .netStep =>
      (callbackStep state.clock state.pvt state.history state.net).map
        fun (pvt, net, history, started) =>
          { state with
            pvt, net, history, delayed := state.delayed ++ started.toList }
  | .delayedStep index =>
      state.delayed[index]?.bind fun delayed =>
        (delayedCompletionStep state.clock state.pvt delayed).map
          fun (pvt, delayed) =>
            { state with pvt, delayed := state.delayed.set index delayed }
  | .readStart want blocking =>
      if state.reader.pc = .idle ∧ state.opener = .opened ∧ 0 < want then
        some { state with reader := ⟨.firstRead, want, blocking, 0, 0, false⟩ }
      else none
  | .readStep =>
      (speechReadTtsStep state.clock state.pvt state.history
        state.reader).map fun (pvt, reader, history) =>
          { state with pvt, reader, history }
  | .closeStart =>
      if state.closer = .idle ∧ state.opener = .opened then
        some { state with closer := .loadInProgress }
      else none
  | .closeStep =>
      (speechCloseStep state.clock state.pvt state.history
        state.closer).map fun (pvt, closer, history) =>
          { state with pvt, closer, history }
  | .flush =>
      if state.reader.pc = .idle ∧ state.opener = .opened then
        some { state with pvt := { state.pvt with audioBuffer := [] } }
      else none
  | .resume text =>
      if state.opener.published ∧ text ≠ [] ∧
          state.pvt.ttsTextQueue.length < ttsTextQueueSize then
        some { state with
          pvt := { state.pvt with
            ttsTextQueue := state.pvt.ttsTextQueue ++ [text] }
          history := state.history.noteAccepted text }
      else none

/-- A handle that opens without a failure, up to the start of its processing
thread. -/
def openingSchedule : List Action :=
  [.openStep ⟨true, 0⟩, .openStep ⟨true, 0⟩, .openStep ⟨true, 0⟩,
    .openStep ⟨true, 3000⟩, .netStart .opened, .netStep, .netStep,
    .openStep ⟨true, 0⟩, .openStep ⟨true, 0⟩]

/-- The `index`-th call of `aliyuntts_speech_feed_tts`, up to the moment at
which its message has been handed over. -/
def directSendSchedule (index : Nat) (text : Text) : List Action :=
  .feedStart text :: List.replicate 11 (.feedStep index .handed)

/-- A binary message that finds the playback stopped, up to its last access. -/
def firstPacketSchedule (message : Bytes) : List Action :=
  .netStart (.binary message) :: List.replicate 7 .netStep

/-- One condition wait of a blocking read that ends by its timeout, with the
read after it finding the buffer empty. -/
def timedOutWaitSchedule : List Action :=
  List.replicate 3 Action.readStep ++
    Action.tick 20 :: List.replicate 7 Action.readStep

def synthesisCompletedMessage : Json :=
  .object [("header", .object [("name", .string "SynthesisCompleted")])]

end AliyunTts

end SpeechModules
