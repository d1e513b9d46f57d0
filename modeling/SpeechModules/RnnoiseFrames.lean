import SpeechModules.RnnoiseStep

/-!
# What the agents of a connection can do

The step functions of a connection as relations.  Facts about whole runs are
proved by cases on these and do not unfold the step functions.
-/

namespace SpeechModules

namespace Rnnoise

open FunAsr (blockSize)

/-- The thread neither holds a block nor has released the shared data. -/
def SenderPc.plain : SenderPc → Bool
  | .sendBlock _ | .unwinding | .ended => false
  | _ => true

/-- The steps of a sender thread, with the shared fields, the thread and the
history afterwards. -/
inductive SenderMove (config : Config) (choice : FunAsr.SenderChoice)
    (pvt : Pvt) (history : History) (sender : Sender) :
    Pvt → Sender → History → Prop
  | goto {pc : SenderPc} {socket : FunAsr.Socket} {asrClosed : Bool}
      (source : sender.pc.plain = true) (target : pc.plain = true) :
      SenderMove config choice pvt history sender
        { pvt with asrClosed := asrClosed }
        { sender with pc := pc, socket := socket } history
  | wait {queue : AudioQueue} {pc : SenderPc}
      (source : sender.pc.plain = true) (target : pc.plain = true)
      (sameBuffer : queue.buffer = pvt.audioQueue.buffer) :
      SenderMove config choice pvt history sender
        { pvt with audioQueue := queue } { sender with pc := pc } history
  | read {queue : AudioQueue} {block : Bytes}
      (source : sender.pc.plain = true) (full : block.length = blockSize)
      (taken : block ++ queue.buffer = pvt.audioQueue.buffer) :
      SenderMove config choice pvt history sender
        { pvt with audioQueue := queue } { sender with pc := .sendBlock block }
        history
  | drop {queue : AudioQueue} {deadline : Nat}
      (here : sender.pc = .readWait deadline) (expired : choice.timedOut = true)
      (some : pvt.audioQueue.buffer ≠ [])
      (few : pvt.audioQueue.buffer.length < blockSize) :
      SenderMove config choice pvt history sender
        { pvt with audioQueue := queue } { sender with pc := .loopClient }
        history
  | send {block : Bytes} (here : sender.pc = .sendBlock block) :
      SenderMove config choice pvt history sender pvt
        { sender with pc := .loopClient } (history.noteBlock config block)
  | destroy (here : sender.pc = .destroying) :
      SenderMove config choice pvt history sender pvt.destroy
        { sender with pc := .unwinding } history
  | leave (here : sender.pc = .unwinding) :
      SenderMove config choice pvt history sender pvt
        { sender with socket := .closed, pc := .ended } history

section Threads

variable {config : Config} {clock : Nat} {choice : FunAsr.SenderChoice}
  {pvt after : Pvt} {history history' : History} {sender sender' : Sender}

/-- The loop around the timed wait returns a whole block or goes on waiting. -/
theorem SenderMove.readLoop (source : sender.pc.plain = true) :
    SenderMove config choice pvt history sender
      (senderRead clock pvt sender (pvt.audioQueue.readLoop blockSize)).1
      (senderRead clock pvt sender (pvt.audioQueue.readLoop blockSize)).2
      history := by
  unfold AudioQueue.readLoop
  split
  next => exact .wait source rfl rfl
  next enough =>
    have full : (pvt.audioQueue.buffer.take blockSize).length = blockSize := by
      rw [List.length_take]
      omega
    simp only [AudioQueue.readEnd, senderRead, afterRead, full, if_true]
    exact .read source full (List.take_append_drop _ _)

theorem SenderMove.readStart (source : sender.pc.plain = true) :
    SenderMove config choice pvt history sender
      (senderRead clock pvt sender (pvt.audioQueue.readStart blockSize)).1
      (senderRead clock pvt sender (pvt.audioQueue.readStart blockSize)).2
      history := by
  unfold AudioQueue.readStart
  split
  next => exact .wait source rfl rfl
  next => exact .readLoop source

/-- After a timeout a read takes what is there. -/
theorem SenderMove.readWake {deadline : Nat}
    (here : sender.pc = .readWait deadline) :
    SenderMove config choice pvt history sender
      (senderRead clock pvt sender
        (pvt.audioQueue.readWake blockSize choice.timedOut)).1
      (senderRead clock pvt sender
        (pvt.audioQueue.readWake blockSize choice.timedOut)).2 history := by
  have source : sender.pc.plain = true := by
    rw [here]
    rfl
  unfold AudioQueue.readWake
  split
  next expired =>
    by_cases enough : blockSize ≤ pvt.audioQueue.buffer.length
    · have full : (pvt.audioQueue.buffer.take blockSize).length = blockSize := by
        rw [List.length_take]
        omega
      simp only [AudioQueue.readEnd, senderRead, afterRead, full, if_true]
      exact .read source full (List.take_append_drop _ _)
    · have short : (pvt.audioQueue.buffer.take blockSize).length ≠ blockSize := by
        rw [List.length_take]
        omega
      simp only [AudioQueue.readEnd, senderRead, afterRead, short, if_false]
      by_cases empty : pvt.audioQueue.buffer = []
      · exact .wait source rfl (by simp [empty])
      · exact .drop here expired empty (by omega)
  next => exact .readLoop source

theorem senderStep_moves
    (stepped : senderStep config clock choice pvt history sender =
      some (after, sender', history')) :
    SenderMove config choice pvt history sender after sender' history' := by
  cases here : sender.pc <;> simp only [senderStep, here] at stepped
  case readStart =>
    cases stepped
    exact .readStart (by rw [here]; rfl)
  case readWait deadline =>
    split at stepped
    · cases stepped
    · cases stepped
      exact .readWake here
  case sendBlock block =>
    cases stepped
    exact .send here
  case destroying =>
    cases stepped
    exact .destroy here
  case unwinding =>
    split at stepped
    · cases stepped
      exact .leave here
    · cases stepped
  -- the others test something and go on
  all_goals try split at stepped
  all_goals try split at stepped
  all_goals first
    | (cases stepped; done)
    | (cases stepped
       refine .goto (by rw [here]; rfl) ?_
       try split
       all_goals rfl)

end Threads

section Callbacks

variable {pvt after : Pvt} {history history' : History}
  {sender sender' : Sender}

/-- A callback starts on the thread's websocket. -/
theorem callbackStart_writes {event : SocketEvent}
    (stepped : callbackStart sender event = some sender') :
    ∃ socket callback, sender' = { sender with
      socket := socket, callback := callback } := by
  cases event <;> simp only [callbackStart] at stepped
  all_goals split at stepped
  all_goals first
    | (cases stepped; done)
    | (cases stepped; exact ⟨_, _, rfl⟩)

/-- A running callback stores to the thread's flags and to `asr_connected`. -/
theorem callbackStep_writes
    (stepped : callbackStep pvt history sender =
      some (after, sender', history')) :
    (∃ asrConnected, after = { pvt with asrConnected := asrConnected }) ∧
      (∃ connected closed callback, sender' = { sender with
        connected := connected, closed := closed, callback := callback }) ∧
      ∃ relayed, history' = { history with relayed := relayed } := by
  cases here : sender.callback <;> simp only [callbackStep, here] at stepped
  case openSend =>
    obtain ⟨⟨member, json⟩, found, rest⟩ := Option.bind_eq_some_iff.mp stepped
    obtain ⟨mode, isString, equation⟩ := Option.map_eq_some_iff.mp rest
    obtain rfl := Json.subscript?_string found isString
    cases equation
    exact ⟨⟨_, rfl⟩, ⟨_, _, _, rfl⟩, _, rfl⟩
  all_goals first
    | (cases stepped; done)
    | (cases stepped; exact ⟨⟨_, rfl⟩, ⟨_, _, _, rfl⟩, _, rfl⟩)

end Callbacks

/-- The connection is being closed or has been. -/
def HandlerPc.closing : HandlerPc → Bool
  | .closeStore | .closed => true
  | _ => false

/-- A frame on its way into the queue has the size of a block. -/
def HandlerPc.carriesBlock : HandlerPc → Bool
  | .lock data | .write data => data.length == blockSize
  | _ => true

/-- The steps of a handler that are not only tests, stores to the flags or
changes of the mutex. -/
inductive HandlerMove (success : Bool) (pvt : Pvt) (history : History)
    (handler : HandlerPc) : Pvt → HandlerPc → History → Bool → Prop
  | goto {speaking mutex : Bool} {json : Json} {next : HandlerPc}
      (source : handler.closing = false) (target : next.closing = false)
      (working : next ≠ .destroyFailed)
      (carried : handler.carriesBlock = true → next.carriesBlock = true) :
      HandlerMove success pvt history handler
        { pvt with
          isSpeaking := speaking
          requestJson := json
          writeMutex := mutex }
        next history false
  | accept {data : Bytes} {queue : AudioQueue}
      (here : handler = .write data)
      (written : queue.buffer = pvt.audioQueue.buffer ++ data) :
      HandlerMove success pvt history handler
        { pvt with audioQueue := queue } .signal
        { history with accepted := history.accepted ++ [data] } false
  | create (here : handler = .createThread) (created : success = true) :
      HandlerMove success pvt history handler pvt .idle history true
  | fail (here : handler = .createThread) (failed : success = false) :
      HandlerMove success pvt history handler pvt .destroyFailed history false
  | destroy (here : handler = .destroyFailed) :
      HandlerMove success pvt history handler pvt.destroy .idle history false
  | close (here : handler = .closeStore) :
      HandlerMove success pvt history handler
        { pvt with wsClientClosed := true } .closed history false

section Handlers

variable {success created : Bool} {pvt after : Pvt}
  {history history' : History} {handler next : HandlerPc}

theorem afterSpeaking_goes (length : Nat) (json : Json) :
    (afterSpeaking length json).closing = false ∧
      afterSpeaking length json ≠ .destroyFailed ∧
      (afterSpeaking length json).carriesBlock = true := by
  unfold afterSpeaking
  split <;> exact ⟨rfl, nofun, rfl⟩

theorem handlerStep_moves
    (stepped : handlerStep success pvt history handler =
      some (after, next, history', created)) :
    HandlerMove success pvt history handler after next history' created := by
  cases handler
  case parse length document =>
    cases document with
    | none =>
        cases stepped
        exact .goto rfl rfl nofun fun _ => rfl
    | some document =>
        obtain ⟨⟨member, json⟩, -, equation⟩ :=
          Option.map_eq_some_iff.mp stepped
        cases equation
        split
        next => exact .goto rfl rfl nofun fun _ => rfl
        next =>
          obtain ⟨going, working, carried⟩ := afterSpeaking_goes length json
          exact .goto rfl going working fun _ => carried
  all_goals simp only [handlerStep] at stepped
  case speakLoad length json =>
    cases stepped
    obtain ⟨going, working, carried⟩ := afterSpeaking_goes length json
    exact .goto rfl going working fun _ => carried
  case createThread =>
    cases success with
    | true =>
        cases stepped
        exact .create rfl rfl
    | false =>
        cases stepped
        exact .fail rfl rfl
  case destroyFailed =>
    cases stepped
    exact .destroy rfl
  case closeStore =>
    cases stepped
    exact .close rfl
  case write data =>
    cases written : pvt.audioQueue.write data with
    | mk queue accepted =>
        rw [written] at stepped
        cases stepped
        rcases AudioQueue.write_eq written with ⟨rfl, buffer⟩ | ⟨rfl, rfl⟩
        · exact .accept rfl buffer
        · exact .goto rfl rfl nofun fun _ => rfl
  case guardAsrClosed data =>
    cases stepped
    split
    · exact .goto rfl rfl nofun fun _ => rfl
    · split
      next whole => exact .goto rfl rfl nofun fun _ => beq_iff_eq.mpr whole
      next => exact .goto rfl rfl nofun fun _ => rfl
  case lock data =>
    split at stepped
    · cases stepped
    · cases stepped
      exact .goto rfl rfl nofun id
  all_goals first
    | (cases stepped; done)
    | (cases stepped
       try split
       all_goals exact .goto rfl rfl nofun fun _ => rfl)

end Handlers

/-- The steps of a connection. -/
inductive ConnectionMove (config : Config) (state : State) :
    Action → State → Prop
  | tick {ms : Nat} :
      ConnectionMove config state (.tick ms)
        { state with clock := state.clock + ms }
  | message {message : ClientMessage} (idle : state.handler = .idle) :
      ConnectionMove config state (.message message)
        { state with handler := message.handler }
  | close (idle : state.handler = .idle) :
      ConnectionMove config state .close { state with handler := .closeStore }
  | handler {success created : Bool} {pvt : Pvt} {next : HandlerPc}
      {history : History}
      (moved : HandlerMove success state.pvt state.history state.handler pvt
        next history created) :
      ConnectionMove config state (.handlerStep success)
        { state with
          pvt := pvt
          handler := next
          history := history
          threads := state.threads ++
            if created then [Sender.initial] else [] }
  | thread {index : Nat} {choice : FunAsr.SenderChoice} {pvt : Pvt}
      {sender sender' : Sender} {history : History}
      (located : state.threads[index]? = some sender)
      (moved : SenderMove config choice state.pvt state.history sender pvt
        sender' history) :
      ConnectionMove config state (.threadStep index choice)
        { state with
          pvt := pvt
          history := history
          threads := state.threads.set index sender' }
  | callback {action : Action} {index : Nat} {sender sender' : Sender}
      {asrConnected : Bool} {relayed : List String}
      (running : (∃ event, action = .callbackStart index event) ∨
        action = .callbackStep index)
      (located : state.threads[index]? = some sender)
      (same : sender'.pc = sender.pc) :
      ConnectionMove config state action
        { state with
          pvt := { state.pvt with asrConnected := asrConnected }
          history := { state.history with relayed := relayed }
          threads := state.threads.set index sender' }

theorem step_moves {config : Config} {state after : State} {action : Action}
    (stepped : state.step config action = some after) :
    ConnectionMove config state action after := by
  cases action with
  | tick ms =>
      cases stepped
      exact .tick
  | message message =>
      simp only [State.step] at stepped
      split at stepped
      next idle =>
        cases stepped
        exact .message idle
      next => cases stepped
  | close =>
      simp only [State.step] at stepped
      split at stepped
      next idle =>
        cases stepped
        exact .close idle
      next => cases stepped
  | handlerStep success =>
      obtain ⟨⟨pvt, next, history, created⟩, moved, rfl⟩ :=
        Option.map_eq_some_iff.mp stepped
      exact .handler (handlerStep_moves moved)
  | threadStep index choice =>
      obtain ⟨sender, located, rest⟩ := Option.bind_eq_some_iff.mp stepped
      obtain ⟨⟨pvt, sender', history⟩, moved, rfl⟩ :=
        Option.map_eq_some_iff.mp rest
      exact .thread located (senderStep_moves moved)
  | callbackStart index event =>
      obtain ⟨sender, located, rest⟩ := Option.bind_eq_some_iff.mp stepped
      split at rest
      next =>
        obtain ⟨sender', started, rfl⟩ := Option.map_eq_some_iff.mp rest
        obtain ⟨socket, callback, rfl⟩ := callbackStart_writes started
        exact .callback (.inl ⟨event, rfl⟩) located rfl
      next => cases rest
  | callbackStep index =>
      obtain ⟨sender, located, rest⟩ := Option.bind_eq_some_iff.mp stepped
      obtain ⟨⟨pvt, sender', history⟩, moved, rfl⟩ :=
        Option.map_eq_some_iff.mp rest
      obtain ⟨⟨_, rfl⟩, ⟨_, _, _, rfl⟩, _, rfl⟩ := callbackStep_writes moved
      exact .callback (.inr rfl) located rfl

end Rnnoise

end SpeechModules
