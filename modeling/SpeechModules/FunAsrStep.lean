import SpeechModules.FunAsrState
import SpeechModules.StepSystem

/-!
# The steps of one recognition session

One definition per agent of `mod_funasr`, as for the synthesis handles: each
performs the single access at its program counter, and `none` means that the
agent is blocked.  Log calls that read no shared field are left out.
-/

namespace SpeechModules

namespace FunAsr

/-! ## The websocket callbacks of a thread -/

/-- What a C string function sees of a string. -/
def cString (text : String) : String :=
  String.ofList (text.toList.takeWhile fun char => char != Char.ofNat 0)

/-- `OFFLINE`. -/
def offlineMode : String := "2pass-offline"

/-- The recognised text in an object with string members `mode` and `text`. -/
def readSpeech (document : Option Json) : Option (String × Bool) := do
  let root ← document
  let mode ← (root.member? "mode").bind Json.string?
  let text ← (root.member? "text").bind Json.string?
  some (cString text, cString mode == offlineMode)

/-- What the event loop of a thread's websocket receives. -/
inductive SocketEvent where
  | opened
  | closed
  | message (message : Message)

/-- The start of a callback. -/
def callbackStart (sender : Sender) : SocketEvent → Option Sender
  | .opened =>
      if sender.socket = .connecting then
        some { sender with socket := .opened, callback := .openSend }
      else none
  | .closed =>
      if sender.socket = .fresh ∨ sender.socket = .closed then none
      else some { sender with socket := .closed, callback := .closeStore }
  | .message message =>
      if sender.socket = .opened then
        some { sender with
          callback := if message.text = "" then .idle
            else .messageEnter message }
      else none

/-- One access of a running callback. -/
def callbackStep (config : Config) (pvt : Pvt) (history : History)
    (sender : Sender) : Option (Pvt × Sender × History) :=
  match sender.callback with
  | .idle => none
  | .openSend => some (pvt, { sender with callback := .openStore }, history)
  | .openStore =>
      some (pvt, { sender with callback := .openShare, connected := true },
        history)
  | .openShare =>
      some ({ pvt with wsConnected := true },
        { sender with callback := .idle, ranOpen := true }, history)
  | .closeStore =>
      some (pvt, { sender with
        callback := .idle, closed := true, ranClose := true }, history)
  | .messageEnter message =>
      -- `destroy` clears `pvt->pool`
      if pvt.destroyed then
        some (pvt, { sender with callback := .idle }, history)
      else if config.parseJson then
        match readSpeech message.document with
        | none => some (pvt, { sender with callback := .idle }, history)
        | some (text, vad) =>
            some (pvt, { sender with callback := .messageFire text vad },
              history)
      else if cString message.text = "" then
        some (pvt, { sender with callback := .idle }, history)
      else
        some (pvt, { sender with
          callback := .messageEvent (.result (cString message.text)) },
          history)
  | .messageFire text vad =>
      -- the guard of `fireAsrEvent`
      if pvt.destroyed ∨ pvt.wsClosed then
        some (pvt, { sender with callback := .idle }, history)
      else
        some (pvt, { sender with callback := .messageEvent (.speech text vad) },
          history)
  | .messageEvent event =>
      some (pvt, { sender with callback := .idle },
        { history with events := history.events ++ [event] })

/-! ## The sender threads -/

/-- Whether the calls that can fail succeed, and whether a timed wait on the
audio queue ends by its timeout. -/
structure SenderChoice where
  success : Bool
  timedOut : Bool

/-- The bytes of one frame of `PCM_8k_FRAME_SIZE` samples. -/
def blockSize : Nat := 320

/-- `ws.close()`. -/
def Socket.close : Socket → Socket
  | .connecting => .closing
  | .opened => .closing
  | socket => socket

/-- The thread enters `destroy`. -/
def Sender.enterDestroy (sender : Sender) : Sender :=
  { sender with pc := .destroyTest, destroyCalls := sender.destroyCalls + 1 }

/-- Where the streaming loop goes on after a read: only a whole block is sent. -/
def afterRead (data : Bytes) : SenderPc :=
  if data.length = blockSize then .sendBlock data else .loopHangup

/-- A region of `audio_queue_read` inside the streaming loop. -/
def senderRead (clock : Nat) (pvt : Pvt) (sender : Sender) :
    AudioQueue.ReadResult → Pvt × Sender
  | .wait queue =>
      ({ pvt with audioQueue := queue },
        { sender with pc := .readWait (clock + AudioQueue.timeoutMs) })
  | .done queue data =>
      ({ pvt with audioQueue := queue },
        { sender with pc := afterRead data })

/-- `ws.send` of one block, resampled or not. -/
def History.noteBlock (history : History) (config : Config) (block : Bytes) :
    History :=
  match config.sampleRate with
  | .rate8000 => { history with sent := history.sent ++ [block] }
  | .rate16000 => { history with resampled := history.resampled ++ [block] }

/-- `send_audio_to_asr_server`; the last component tells whether a successor
thread was created. -/
def senderStep (config : Config) (clock : Nat) (choice : SenderChoice)
    (pvt : Pvt) (history : History) (sender : Sender) :
    Option (Pvt × Sender × History × Bool) :=
  match sender.pc with
  | .start =>
      some (pvt, if pvt.hangup then sender.enterDestroy
        else { sender with pc := .openWs }, history, false)
  | .openWs =>
      some (pvt, { sender with
        socket := .connecting
        pc := .waitOpen (clock + config.wsConnTimeoutMs) },
        { history with attempts := history.attempts + 1 }, false)
  | .waitOpen deadline =>
      -- `onopen` holds `mtx` between its two stores
      match sender.callback with
      | .openShare => none
      | _ =>
          if sender.connected ∨ deadline ≤ clock then
            some (pvt, { sender with pc := .checkConnected }, history, false)
          else none
  | .checkConnected =>
      some (pvt, { sender with
        pc := if pvt.wsConnected then
            match config.sampleRate with
            | .rate8000 => .loopHangup
            | .rate16000 => .createResampler
          else .testClosed }, history, false)
  | .createResampler =>
      some (pvt, { sender with
        pc := if choice.success then .loopHangup else .closeEarly },
        history, false)
  | .closeEarly =>
      some (pvt, { sender with socket := sender.socket.close }.enterDestroy,
        history, false)
  | .loopHangup =>
      some (pvt, { sender with
        pc := if pvt.hangup then .testClosed else .loopClosed },
        history, false)
  | .loopClosed =>
      some (pvt, { sender with
        pc := if sender.closed then .testClosed else .readStart },
        history, false)
  | .readStart =>
      let (after, moved) :=
        senderRead clock pvt sender (pvt.audioQueue.readStart blockSize)
      some (after, moved, history, false)
  | .readWait deadline =>
      if choice.timedOut ∧ clock < deadline then none
      else
        let (after, moved) := senderRead clock pvt sender
          (pvt.audioQueue.readWake blockSize choice.timedOut)
        some (after, moved, history, false)
  | .sendBlock block =>
      some (pvt, { sender with pc := .loopHangup },
        history.noteBlock config block, false)
  | .testClosed =>
      some (pvt, { sender with
        pc := if sender.closed then .closeWs else .sendEnd }, history, false)
  | .sendEnd =>
      some (pvt, { sender with pc := .sleepEnd (clock + 1000) },
        history, false)
  | .sleepEnd wakeAt =>
      if wakeAt ≤ clock then
        some (pvt, { sender with pc := .closeWs }, history, false)
      else none
  | .closeWs =>
      some (pvt, { sender with
        socket := sender.socket.close
        pc := .waitClosed (clock + 3000) }, history, false)
  | .waitClosed deadline =>
      if sender.closed ∨ deadline ≤ clock then
        some (pvt, { sender with pc := .testClosedAgain }, history, false)
      else none
  | .testClosedAgain =>
      some (pvt, { sender with
        pc := if sender.closed then .storeClosed else .incRetry },
        history, false)
  | .storeClosed =>
      some ({ pvt with wsClosed := true }, { sender with pc := .incRetry },
        history, false)
  | .incRetry =>
      some ({ pvt with wsConnRetry := pvt.wsConnRetry + 1 },
        { sender with pc := .loadHangup }, history, false)
  | .loadHangup =>
      some (pvt, if pvt.hangup then sender.enterDestroy
        else { sender with pc := .checkRetry }, history, false)
  | .checkRetry =>
      some (pvt, if pvt.wsConnRetry ≤ config.wsConnRetryMax then
          { sender with pc := .sleepRetry (clock + 1000) }
        else sender.enterDestroy, history, false)
  | .sleepRetry wakeAt =>
      if wakeAt ≤ clock then
        some (pvt, { sender with pc := .loadHangupAgain }, history, false)
      else none
  | .loadHangupAgain =>
      some (pvt, if pvt.hangup then sender.enterDestroy
        else { sender with pc := .createThread }, history, false)
  | .createThread =>
      if choice.success then
        some (pvt, { sender with
          pc := .unwinding, successors := sender.successors + 1 },
          history, true)
      else some (pvt, sender.enterDestroy, history, false)
  | .destroyTest =>
      some (pvt, { sender with
        pc := if pvt.hangup then .destroyRelease else .destroyEnter },
        history, false)
  | .destroyEnter =>
      -- the wait starts without the mutex that it is documented to give up
      some (pvt, { sender with pc := .destroyWait }, history, false)
  | .destroyWait =>
      -- a spurious wake-up; a signal is a step of the CLOSE callback
      some (pvt, { sender with pc := .destroyWoken }, history, false)
  | .destroyWoken =>
      if pvt.writeMutex then none
      else
        some ({ pvt with writeMutex := true },
          { sender with pc := .destroyRelease }, history, false)
  | .destroyRelease =>
      some ({ pvt with
        audioQueue := pvt.audioQueue.clear, destroyed := true },
        { sender with pc := .unwinding }, history, false)
  | .unwinding =>
      -- the destructor of `ws` closes the socket and joins the event loop
      match sender.callback with
      | .idle =>
          some (pvt, { sender with socket := .closed, pc := .ended },
            history, false)
      | _ => none
  | .ended => none

/-! ## The media bug -/

def readStep (pvt : Pvt) (history : History) (reader : Reader) :
    Option (Pvt × Reader × History) :=
  match reader.pc with
  | .idle => none
  | .guardHangup =>
      some (pvt, { reader with
        pc := if pvt.hangup then .idle else .guardConnected }, history)
  | .guardConnected =>
      some (pvt, { reader with
        pc := if pvt.wsConnected then .guardClosed else .idle }, history)
  | .guardClosed =>
      some (pvt, { reader with
        pc := if pvt.wsClosed then .idle else .lock }, history)
  | .lock =>
      if pvt.writeMutex then none
      else
        some ({ pvt with writeMutex := true }, { reader with pc := .bugRead },
          history)
  | .bugRead =>
      some (pvt, { reader with
        pc := match reader.frame with
          | none => .unlock
          | some [] => .unlock
          | some data => .loadPaused data }, history)
  | .loadPaused data =>
      -- `silent_data` holds 320 zero bytes, the length of a full frame
      some (pvt, { reader with
        pc := .write (if pvt.paused ≠ 0 then List.replicate data.length 0
          else data) }, history)
  | .write data =>
      let (queue, accepted) := pvt.audioQueue.write data
      some ({ pvt with audioQueue := queue }, { reader with pc := .signal },
        if accepted then
          { history with accepted := history.accepted ++ [data] }
        else history)
  | .signal => some (pvt, { reader with pc := .unlock }, history)
  | .unlock =>
      some ({ pvt with writeMutex := false }, { reader with pc := .idle },
        history)

/-- `switch_thread_cond_signal` wakes the thread that waits in `destroy`. -/
def Sender.wake (sender : Sender) : Sender :=
  match sender.pc with
  | .destroyWait => { sender with pc := .destroyWoken }
  | _ => sender

def closeStep (pvt : Pvt) (threads : List Sender) :
    ClosePc → Option (Pvt × List Sender × ClosePc)
  | .idle => none
  | .test =>
      some (pvt, threads,
        if pvt.destroyed ∨ pvt.hangup then .done else .setHangup)
  | .setHangup => some ({ pvt with hangup := true }, threads, .lock)
  | .lock =>
      if pvt.writeMutex then none
      else some ({ pvt with writeMutex := true }, threads, .signal)
  | .signal => some (pvt, threads.map Sender.wake, .unlock)
  | .unlock => some ({ pvt with writeMutex := false }, threads, .done)
  | .done => none

/-! ## The whole session -/

inductive Action where
  | tick (ms : Nat)
  | startStep (success : Bool)
  | threadStep (index : Nat) (choice : SenderChoice)
  | callbackStart (index : Nat) (event : SocketEvent)
  | callbackStep (index : Nat)
  | readStart (frame : Option Bytes)
  | readStep
  | sessionClose
  | closeStep
  | pauseStart (paused : Int)
  | stopStart
  | appStep
  | dropPrivate

/-- `start_asr` and the INIT callback, which does not run if the bug cannot be
added. -/
def State.startStep (state : State) (success : Bool) : Option State :=
  match state.starter with
  | .setPrivate => some { state with funasrMod := true, starter := .initTest }
  | .initTest =>
      some { state with
        starter := if success then
            if state.pvt.hangup then .storeBug else .initCreate
          else .done }
  | .initCreate =>
      some { state with
        threads := if success then state.threads ++ [Sender.initial]
          else state.threads
        starter := .storeBug }
  | .storeBug => some { state with bug := true, starter := .done }
  | .done => none

/-- `pause_asr` and `stop_asr` after they have found the session in the
channel's private data.  Removing the bug runs its CLOSE callback. -/
def State.appStep (state : State) : Option State :=
  match state.app with
  | .idle => none
  | .pauseStore paused =>
      some { state with
        pvt := { state.pvt with paused := paused }, app := .pauseLog }
  | .pauseLog => some { state with app := .idle }
  | .stopUnset => some { state with funasrMod := false, app := .stopRemove }
  | .stopRemove =>
      if state.bug then
        some { state with bug := false, closer := .test, app := .stopWait }
      else some { state with app := .idle }
  | .stopWait =>
      if state.closer = .done then some { state with app := .idle } else none

/-- One step of the session.  A frame has at most `frame.buflen` bytes; the end
of the session removes the bug; a later `start_asr` on the channel, or the end
of the channel, takes the session out of the private data. -/
def State.step (config : Config) (state : State) : Action → Option State
  | .tick ms => some { state with clock := state.clock + ms }
  | .startStep success => state.startStep success
  | .threadStep index choice =>
      state.threads[index]?.bind fun sender =>
        (senderStep config state.clock choice state.pvt state.history
          sender).map fun (pvt, sender, history, created) =>
            { state with
              pvt, history,
              threads := state.threads.set index sender ++
                if created then [Sender.initial] else [] }
  | .callbackStart index event =>
      state.threads[index]?.bind fun sender =>
        match sender.callback with
        | .idle =>
            (FunAsr.callbackStart sender event).map fun sender =>
              { state with threads := state.threads.set index sender }
        | _ => none
  | .callbackStep index =>
      state.threads[index]?.bind fun sender =>
        (FunAsr.callbackStep config state.pvt state.history sender).map
          fun (pvt, sender, history) =>
            { state with
              pvt, history, threads := state.threads.set index sender }
  | .readStart frame =>
      if state.bug ∧ state.reader.pc = .idle ∧
          frame.all (fun data => data.length ≤ blockSize) then
        some { state with reader := ⟨.guardHangup, frame⟩ }
      else none
  | .readStep =>
      (FunAsr.readStep state.pvt state.history state.reader).map
        fun (pvt, reader, history) => { state with pvt, reader, history }
  | .sessionClose =>
      if state.bug ∧ state.starter = .done ∧ state.app = .idle then
        some { state with bug := false, closer := .test }
      else none
  | .closeStep =>
      (FunAsr.closeStep state.pvt state.threads state.closer).map
        fun (pvt, threads, closer) => { state with pvt, threads, closer }
  | .pauseStart paused =>
      if state.funasrMod ∧ state.starter = .done ∧ state.app = .idle then
        some { state with app := .pauseStore paused }
      else none
  | .stopStart =>
      if state.funasrMod ∧ state.starter = .done ∧ state.app = .idle then
        some { state with app := .stopUnset }
      else none
  | .appStep => state.appStep
  | .dropPrivate =>
      if state.starter = .done ∧ state.app = .idle then
        some { state with funasrMod := false }
      else none

/-! ## Schedules -/

/-- The session reads 8000 Hz audio, parses the answers and retries once. -/
def Config.retryOnce : Config where
  sampleRate := .rate8000
  wsConnTimeoutMs := 3000
  wsConnRetryMax := 1
  parseJson := true

/-- `start_asr` runs to its end and creates the first thread. -/
def startSchedule : List Action := List.replicate 4 (.startStep true)

/-- A number of steps of a thread whose calls succeed. -/
def threadSchedule (index steps : Nat) : List Action :=
  List.replicate steps (.threadStep index ⟨true, false⟩)

/-- The thread connects and enters its streaming loop. -/
def connectSchedule (index : Nat) : List Action :=
  threadSchedule index 2 ++ Action.callbackStart index .opened ::
    List.replicate 3 (Action.callbackStep index) ++ threadSchedule index 2

/-- The server closes the connection of a streaming thread, which counts the
attempt and decides about the next one. -/
def disconnectSchedule (index : Nat) : List Action :=
  .callbackStart index .closed :: .callbackStep index ::
    threadSchedule index 10

/-- The thread creates its successor and ends. -/
def handOnSchedule (index : Nat) : List Action :=
  .tick 1000 :: threadSchedule index 4

end FunAsr

end SpeechModules
