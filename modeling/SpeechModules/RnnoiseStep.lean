import SpeechModules.RnnoiseState

/-!
# The steps of one client connection

One definition per agent of `rnnoise_server`, as for the sessions of
`mod_funasr`.  The context of the connection keeps its pointer to the
`rnnoise_data_t` whatever becomes of that.  An exception that nobody catches
ends the worker; the agent that throws it has no next step.
-/

namespace SpeechModules

namespace Rnnoise

open FunAsr (blockSize)

/-! ## The handlers of the connection -/

/-- The length from which on a text is taken for an init request. -/
def initLength : Nat := 50

/-- Where `onmessage` goes on after it has looked at `is_speaking`. -/
def afterSpeaking (length : Nat) (json : Json) : HandlerPc :=
  if length > initLength then .requestStore json else .idle

/-- `destroy`. -/
def Pvt.destroy (pvt : Pvt) : Pvt :=
  { pvt with
    audioQueue := pvt.audioQueue.clear
    destroyCalls := pvt.destroyCalls + 1 }

/-- One access of a handler; the last component tells whether a thread was
created. -/
def handlerStep (success : Bool) (pvt : Pvt) (history : History) :
    HandlerPc → Option (Pvt × HandlerPc × History × Bool)
  | .idle => none
  | .parse _ none => some (pvt, .idle, history, false)
  | .parse length (some document) =>
      -- what the subscript operator throws is caught nowhere
      (document.subscript? "is_speaking").map fun (member, json) =>
        (pvt,
          match member.bool? with
          | some value => .speakStore value length json
          | none => afterSpeaking length json, history, false)
  | .speakStore value length json =>
      some ({ pvt with isSpeaking := value }, .speakLoad length json, history,
        false)
  | .speakLoad length json =>
      some (pvt, afterSpeaking length json, history, false)
  | .requestStore json =>
      some ({ pvt with requestJson := json }, .createThread, history, false)
  | .createThread =>
      some (pvt, if success then .idle else .destroyFailed, history, success)
  | .destroyFailed => some (pvt.destroy, .idle, history, false)
  | .guardClientClosed data =>
      some (pvt, if pvt.wsClientClosed then .idle else .guardConnected data,
        history, false)
  | .guardConnected data =>
      some (pvt, if pvt.asrConnected then .guardAsrClosed data else .idle,
        history, false)
  | .guardAsrClosed data =>
      some (pvt, if pvt.asrClosed then .idle
        else if data.length = 320 then .lock data else .idle, history, false)
  | .lock data =>
      if pvt.writeMutex then none
      else some ({ pvt with writeMutex := true }, .write data, history, false)
  | .write data =>
      let (queue, accepted) := pvt.audioQueue.write data
      some ({ pvt with audioQueue := queue },
        if accepted then .signal else .unlock,
        if accepted then
          { history with accepted := history.accepted ++ [data] }
        else history, false)
  | .signal => some (pvt, .unlock, history, false)
  | .unlock => some ({ pvt with writeMutex := false }, .idle, history, false)
  | .closeStore =>
      some ({ pvt with wsClientClosed := true }, .closed, history, false)
  | .closed => none

/-! ## The callbacks of a thread's websocket -/

/-- What the event loop of a thread's websocket receives. -/
inductive SocketEvent where
  | opened
  | closed
  | message (text : String)

def callbackStart (sender : Sender) : SocketEvent → Option Sender
  | .opened =>
      if sender.socket = .connecting then
        some { sender with socket := .opened, callback := .openSend }
      else none
  | .closed =>
      if sender.socket = .fresh ∨ sender.socket = .closed then none
      else some { sender with socket := .closed, callback := .closeStore }
  | .message text =>
      if sender.socket = .opened then
        some { sender with
          callback := if text = "" then .idle else .messageEnter text }
      else none

def callbackStep (pvt : Pvt) (history : History) (sender : Sender) :
    Option (Pvt × Sender × History) :=
  match sender.callback with
  | .idle => none
  | .openSend =>
      -- nor is what the conversion of the mode throws
      (pvt.requestJson.subscript? "mode").bind fun (member, json) =>
        member.string?.map fun _mode =>
          ({ pvt with requestJson := json },
            { sender with callback := .openStore }, history)
  | .openStore =>
      some (pvt, { sender with callback := .openShare, connected := true },
        history)
  | .openShare =>
      some ({ pvt with asrConnected := true }, { sender with callback := .idle },
        history)
  | .closeStore =>
      some (pvt, { sender with callback := .idle, closed := true }, history)
  | .messageEnter text =>
      -- `destroy` clears `pvt->pool`
      some (pvt, { sender with
        callback := if 0 < pvt.destroyCalls ∨ FunAsr.cString text = "" then .idle
          else .messageTest (FunAsr.cString text) }, history)
  | .messageTest text =>
      some (pvt, { sender with
        callback := if pvt.wsClientClosed then .idle else .messageRelay text },
        history)
  | .messageRelay text =>
      some (pvt, { sender with callback := .idle },
        { history with relayed := history.relayed ++ [text] })

/-! ## The sender threads -/

/-- Where the streaming loop goes on after a read: only a whole block is sent. -/
def afterRead (data : Bytes) : SenderPc :=
  if data.length = blockSize then .sendBlock data else .loopClient

/-- A region of `audio_queue_read` inside the streaming loop. -/
def senderRead (clock : Nat) (pvt : Pvt) (sender : Sender) :
    AudioQueue.ReadResult → Pvt × Sender
  | .wait queue =>
      ({ pvt with audioQueue := queue },
        { sender with pc := .readWait (clock + AudioQueue.timeoutMs) })
  | .done queue data =>
      ({ pvt with audioQueue := queue }, { sender with pc := afterRead data })

/-- A block is sent at the two sample rates the loop knows. -/
def Config.sends (config : Config) : Bool :=
  config.sampleRate == 16000 || config.sampleRate == 8000

def History.noteBlock (history : History) (config : Config) (block : Bytes) :
    History :=
  if config.sends then
    { history with delivered := history.delivered ++ [block] }
  else history

/-- `send_audio_to_asr_server`. -/
def senderStep (config : Config) (clock : Nat) (choice : FunAsr.SenderChoice)
    (pvt : Pvt) (history : History) (sender : Sender) :
    Option (Pvt × Sender × History) :=
  match sender.pc with
  | .start =>
      some (pvt, { sender with
        pc := if pvt.wsClientClosed then .destroying else .openWs }, history)
  | .openWs =>
      some (pvt, { sender with
        socket := .connecting
        pc := .waitOpen (clock + config.wsConnTimeoutMs) }, history)
  | .waitOpen deadline =>
      -- `onopen` holds `mtx` between its two stores
      match sender.callback with
      | .openShare => none
      | _ =>
          if sender.connected ∨ deadline ≤ clock then
            some (pvt, { sender with pc := .checkConnected }, history)
          else none
  | .checkConnected =>
      some (pvt, { sender with
        pc := if pvt.asrConnected then
            if config.sampleRate = 16000 then .createResampler else .loopClient
          else .storeFailed }, history)
  | .createResampler =>
      some (pvt, { sender with
        pc := if choice.success then .loopClient else .destroying }, history)
  | .storeFailed =>
      some ({ pvt with asrClosed := true }, { sender with pc := .testClient },
        history)
  | .loopClient =>
      some (pvt, { sender with
        pc := if pvt.wsClientClosed then .testClient else .loopClosed },
        history)
  | .loopClosed =>
      some (pvt, { sender with
        pc := if sender.closed then .testClient else .loopSpeaking }, history)
  | .loopSpeaking =>
      some (pvt, { sender with
        pc := if pvt.isSpeaking then .readStart else .testClient }, history)
  | .readStart =>
      let (after, moved) :=
        senderRead clock pvt sender (pvt.audioQueue.readStart blockSize)
      some (after, moved, history)
  | .readWait deadline =>
      if choice.timedOut ∧ clock < deadline then none
      else
        let (after, moved) := senderRead clock pvt sender
          (pvt.audioQueue.readWake blockSize choice.timedOut)
        some (after, moved, history)
  | .sendBlock block =>
      some (pvt, { sender with pc := .loopClient },
        history.noteBlock config block)
  | .testClient =>
      some (pvt, { sender with
        pc := if pvt.wsClientClosed then .testClosed else .storeAsrClosed },
        history)
  | .storeAsrClosed =>
      some ({ pvt with asrClosed := true }, { sender with pc := .testClosed },
        history)
  | .testClosed =>
      some (pvt, { sender with
        pc := if sender.closed then .destroying else .sendEnd }, history)
  | .sendEnd =>
      some (pvt, { sender with pc := .sleepEnd (clock + 2000) }, history)
  | .sleepEnd wakeAt =>
      if wakeAt ≤ clock then
        some (pvt, { sender with pc := .testClosedAgain }, history)
      else none
  | .testClosedAgain =>
      some (pvt, { sender with
        pc := if sender.closed then .destroying else .closeWs }, history)
  | .closeWs =>
      some (pvt, { sender with
        socket := sender.socket.close
        pc := .waitClosed (clock + config.wsConnTimeoutMs) }, history)
  | .waitClosed deadline =>
      if sender.closed ∨ deadline ≤ clock then
        some (pvt, { sender with pc := .destroying }, history)
      else none
  | .destroying =>
      some (pvt.destroy, { sender with pc := .unwinding }, history)
  | .unwinding =>
      -- the destructor of `ws` closes the socket
      match sender.callback with
      | .idle =>
          some (pvt, { sender with socket := .closed, pc := .ended }, history)
      | _ => none
  | .ended => none

/-! ## The whole connection -/

inductive Action where
  | tick (ms : Nat)
  | message (message : ClientMessage)
  | close
  | handlerStep (success : Bool)
  | threadStep (index : Nat) (choice : FunAsr.SenderChoice)
  | callbackStart (index : Nat) (event : SocketEvent)
  | callbackStep (index : Nat)

/-- The first position of `onmessage`. -/
def ClientMessage.handler : ClientMessage → HandlerPc
  | .text length document => .parse length document
  | .binary data => .guardClientClosed data

def State.step (config : Config) (state : State) : Action → Option State
  | .tick ms => some { state with clock := state.clock + ms }
  | .message message =>
      match state.handler with
      | .idle => some { state with handler := message.handler }
      | _ => none
  | .close =>
      match state.handler with
      | .idle => some { state with handler := .closeStore }
      | _ => none
  | .handlerStep success =>
      (Rnnoise.handlerStep success state.pvt state.history state.handler).map
        fun (pvt, handler, history, created) =>
          { state with
            pvt, handler, history,
            threads := state.threads ++
              if created then [Sender.initial] else [] }
  | .threadStep index choice =>
      state.threads[index]?.bind fun sender =>
        (senderStep config state.clock choice state.pvt state.history
          sender).map fun (pvt, sender, history) =>
            { state with
              pvt, history, threads := state.threads.set index sender }
  | .callbackStart index event =>
      state.threads[index]?.bind fun sender =>
        match sender.callback with
        | .idle =>
            (Rnnoise.callbackStart sender event).map fun sender =>
              { state with threads := state.threads.set index sender }
        | _ => none
  | .callbackStep index =>
      state.threads[index]?.bind fun sender =>
        (Rnnoise.callbackStep state.pvt state.history sender).map
          fun (pvt, sender, history) =>
            { state with
              pvt, history, threads := state.threads.set index sender }

/-! ## Schedules -/

def Config.telephone : Config where
  sampleRate := 8000
  wsConnTimeoutMs := 3000

/-- `{"wav_name":"9264a7d6","is_speaking":true,"mode":"2pass"}`, which is long
enough to be an init request. -/
def initMessage : ClientMessage :=
  .text 57 (some (.object [("wav_name", .string "9264a7d6"),
    ("is_speaking", .bool true), ("mode", .string "2pass")]))

/-- `onmessage` with an init request from its start to its end. -/
def initSchedule : List Action :=
  .message initMessage :: List.replicate 5 (.handlerStep true)

/-- Several steps of one thread that succeed. -/
def threadSchedule (index count : Nat) : List Action :=
  List.replicate count (.threadStep index ⟨true, false⟩)

/-- A thread opens its connection and comes to its streaming loop. -/
def connectSchedule (index : Nat) : List Action :=
  threadSchedule index 2 ++ Action.callbackStart index .opened ::
    List.replicate 3 (Action.callbackStep index) ++ threadSchedule index 2

end Rnnoise

end SpeechModules
