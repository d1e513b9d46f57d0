import SpeechModules.FunAsrStep

/-!
# What a sender thread can do

The step function of a sender thread as a relation.  Most steps only move the
thread along an edge of its control flow; the others are named after what they
do to the session.  Facts about the threads are proved by cases on this relation
and do not unfold the step function.
-/

namespace SpeechModules

namespace FunAsr

/-- The edges of `send_audio_to_asr_server` and `destroy` on which the thread
only tests something, waits, or works on its own websocket. -/
inductive Edge (config : Config) (pvt : Pvt) (sender : Sender) :
    SenderPc → SenderPc → Prop
  | start (running : pvt.hangup = false) : Edge config pvt sender .start .openWs
  | waitedOpen {deadline : Nat} :
      Edge config pvt sender (.waitOpen deadline) .checkConnected
  | connected (shared : pvt.wsConnected = true) :
      Edge config pvt sender .checkConnected .loopHangup
  | connectedResampling (shared : pvt.wsConnected = true) :
      Edge config pvt sender .checkConnected .createResampler
  | refused (shared : pvt.wsConnected = false) :
      Edge config pvt sender .checkConnected .testClosed
  | resampler : Edge config pvt sender .createResampler .loopHangup
  | noResampler : Edge config pvt sender .createResampler .closeEarly
  | hungUp (hangup : pvt.hangup = true) :
      Edge config pvt sender .loopHangup .testClosed
  | running (running : pvt.hangup = false) :
      Edge config pvt sender .loopHangup .loopClosed
  | disconnected (closed : sender.closed = true) :
      Edge config pvt sender .loopClosed .testClosed
  | streaming (notClosed : sender.closed = false) :
      Edge config pvt sender .loopClosed .readStart
  | alreadyClosed (closed : sender.closed = true) :
      Edge config pvt sender .testClosed .closeWs
  | stillOpen (notClosed : sender.closed = false) :
      Edge config pvt sender .testClosed .sendEnd
  | endSent {wakeAt : Nat} : Edge config pvt sender .sendEnd (.sleepEnd wakeAt)
  | endSlept {wakeAt : Nat} : Edge config pvt sender (.sleepEnd wakeAt) .closeWs
  | closing {deadline : Nat} :
      Edge config pvt sender .closeWs (.waitClosed deadline)
  | waitedClosed {deadline : Nat} :
      Edge config pvt sender (.waitClosed deadline) .testClosedAgain
  | closedInTime (closed : sender.closed = true) :
      Edge config pvt sender .testClosedAgain .storeClosed
  | notClosedInTime (notClosed : sender.closed = false) :
      Edge config pvt sender .testClosedAgain .incRetry
  | notHungUp (running : pvt.hangup = false) :
      Edge config pvt sender .loadHangup .checkRetry
  | retry {wakeAt : Nat} (allowed : pvt.wsConnRetry ≤ config.wsConnRetryMax) :
      Edge config pvt sender .checkRetry (.sleepRetry wakeAt)
  | retrySlept {wakeAt : Nat} :
      Edge config pvt sender (.sleepRetry wakeAt) .loadHangupAgain
  | stillNotHungUp (running : pvt.hangup = false) :
      Edge config pvt sender .loadHangupAgain .createThread
  | destroyNow (hangup : pvt.hangup = true) :
      Edge config pvt sender .destroyTest .destroyRelease
  | destroyLater (running : pvt.hangup = false) :
      Edge config pvt sender .destroyTest .destroyEnter
  | destroyEntered : Edge config pvt sender .destroyEnter .destroyWait
  | spuriousWake : Edge config pvt sender .destroyWait .destroyWoken

/-- The exits on which a thread enters `destroy`. -/
def SenderPc.givesUp : SenderPc → Bool
  | .start | .closeEarly | .loadHangup | .checkRetry | .loadHangupAgain
  | .createThread => true
  | _ => false

/-- The region of `audio_queue_read` that a thread is about to run. -/
def Sender.readsTo (sender : Sender) (choice : SenderChoice)
    (queue : AudioQueue) (result : AudioQueue.ReadResult) : Prop :=
  (sender.pc = .readStart ∧ result = queue.readStart blockSize) ∨
    ∃ deadline, sender.pc = .readWait deadline ∧
      result = queue.readWake blockSize choice.timedOut

/-- The queue and the position after such a region. -/
inductive ReadEnds (clock : Nat) :
    AudioQueue.ReadResult → AudioQueue → SenderPc → Prop
  | wait {queue : AudioQueue} :
      ReadEnds clock (.wait queue) queue
        (.readWait (clock + AudioQueue.timeoutMs))
  | whole {queue : AudioQueue} {data : Bytes}
      (full : data.length = blockSize) :
      ReadEnds clock (.done queue data) queue (.sendBlock data)
  | short {queue : AudioQueue} {data : Bytes}
      (short : data.length ≠ blockSize) :
      ReadEnds clock (.done queue data) queue .loopHangup

/-- The steps of a sender thread: the shared fields, the thread and the history
afterwards, and whether it has created a successor. -/
inductive SenderMove (config : Config) (clock : Nat) (choice : SenderChoice)
    (pvt : Pvt) (history : History) (sender : Sender) :
    Pvt → Sender → History → Bool → Prop
  | goto {pc : SenderPc} {socket : Socket}
      (edge : Edge config pvt sender sender.pc pc) :
      SenderMove config clock choice pvt history sender pvt
        { sender with pc := pc, socket := socket } history false
  | attempt (here : sender.pc = .openWs) :
      SenderMove config clock choice pvt history sender pvt
        { sender with
          socket := .connecting
          pc := .waitOpen (clock + config.wsConnTimeoutMs) }
        { history with attempts := history.attempts + 1 } false
  | read {result : AudioQueue.ReadResult} {queue : AudioQueue} {pc : SenderPc}
      (here : sender.readsTo choice pvt.audioQueue result)
      (ends : ReadEnds clock result queue pc) :
      SenderMove config clock choice pvt history sender
        { pvt with audioQueue := queue } { sender with pc := pc } history false
  | send {block : Bytes} (here : sender.pc = .sendBlock block) :
      SenderMove config clock choice pvt history sender pvt
        { sender with pc := .loopHangup } (history.noteBlock config block)
        false
  | storeClosed (here : sender.pc = .storeClosed) :
      SenderMove config clock choice pvt history sender
        { pvt with wsClosed := true } { sender with pc := .incRetry } history
        false
  | count (here : sender.pc = .incRetry) :
      SenderMove config clock choice pvt history sender
        { pvt with wsConnRetry := pvt.wsConnRetry + 1 }
        { sender with pc := .loadHangup } history false
  | handOn (here : sender.pc = .createThread) :
      SenderMove config clock choice pvt history sender pvt
        { sender with pc := .unwinding, successors := sender.successors + 1 }
        history true
  | destroy {socket : Socket} (here : sender.pc.givesUp = true) :
      SenderMove config clock choice pvt history sender pvt
        { sender with socket := socket }.enterDestroy history false
  | lock (here : sender.pc = .destroyWoken) :
      SenderMove config clock choice pvt history sender
        { pvt with writeMutex := true } { sender with pc := .destroyRelease }
        history false
  | release (here : sender.pc = .destroyRelease) :
      SenderMove config clock choice pvt history sender
        { pvt with audioQueue := pvt.audioQueue.clear, destroyed := true }
        { sender with pc := .unwinding } history false
  | leave (here : sender.pc = .unwinding) :
      SenderMove config clock choice pvt history sender pvt
        { sender with socket := .closed, pc := .ended } history false

section Inversion

variable {config : Config} {clock : Nat} {choice : SenderChoice}
  {pvt after : Pvt} {history history' : History} {sender sender' : Sender}
  {created : Bool}

/-- Moving along an edge with the socket as it is. -/
theorem SenderMove.along {source target : SenderPc} (here : sender.pc = source)
    (edge : Edge config pvt sender source target) :
    SenderMove config clock choice pvt history sender pvt
      { sender with pc := target } history false :=
  .goto (here ▸ edge)

/-- Moving along one of two edges, by the value of a flag. -/
theorem SenderMove.branch {source yes no : SenderPc} {flag : Bool}
    (here : sender.pc = source)
    (ifSet : flag = true → Edge config pvt sender source yes)
    (ifClear : flag = false → Edge config pvt sender source no) :
    SenderMove config clock choice pvt history sender pvt
      { sender with pc := if flag then yes else no } history false := by
  cases flag with
  | true => exact .along here (ifSet rfl)
  | false => exact .along here (ifClear rfl)

/-- Entering `destroy` if the session has been hung up. -/
theorem SenderMove.unlessHungUp {source next : SenderPc}
    (here : sender.pc = source) (exit : source.givesUp = true)
    (edge : pvt.hangup = false → Edge config pvt sender source next) :
    SenderMove config clock choice pvt history sender pvt
      (if pvt.hangup then sender.enterDestroy else { sender with pc := next })
      history false := by
  cases hangup : pvt.hangup with
  | true => exact .destroy (here ▸ exit)
  | false => exact .along here (edge hangup)

theorem SenderMove.reading {result : AudioQueue.ReadResult}
    (here : sender.readsTo choice pvt.audioQueue result) :
    SenderMove config clock choice pvt history sender
      (senderRead clock pvt sender result).1
      (senderRead clock pvt sender result).2 history false := by
  cases result with
  | wait queue => exact .read here .wait
  | done queue data =>
      by_cases full : data.length = blockSize
      · simp only [senderRead, afterRead, full, if_true]
        exact .read here (.whole full)
      · simp only [senderRead, afterRead, full, if_false]
        exact .read here (.short full)

theorem senderStep_moves
    (stepped : senderStep config clock choice pvt history sender =
      some (after, sender', history', created)) :
    SenderMove config clock choice pvt history sender after sender' history'
      created := by
  cases here : sender.pc <;> simp only [senderStep, here] at stepped
  case start =>
    cases stepped
    exact .unlessHungUp here rfl .start
  case openWs =>
    cases stepped
    exact .attempt here
  case waitOpen deadline =>
    split at stepped
    · cases stepped
    · split at stepped
      · cases stepped
        exact .along here .waitedOpen
      · cases stepped
  case checkConnected =>
    cases stepped
    refine .branch here (fun shared => ?_) .refused
    cases config.sampleRate with
    | rate8000 => exact .connected shared
    | rate16000 => exact .connectedResampling shared
  case createResampler =>
    cases stepped
    exact .branch here (fun _ => .resampler) (fun _ => .noResampler)
  case closeEarly =>
    cases stepped
    exact .destroy (here ▸ rfl)
  case loopHangup =>
    cases stepped
    exact .branch here .hungUp .running
  case loopClosed =>
    cases stepped
    exact .branch here .disconnected .streaming
  case readStart =>
    cases stepped
    exact .reading (.inl ⟨here, rfl⟩)
  case readWait deadline =>
    split at stepped
    · cases stepped
    · cases stepped
      exact .reading (.inr ⟨deadline, here, rfl⟩)
  case sendBlock block =>
    cases stepped
    exact .send here
  case testClosed =>
    cases stepped
    exact .branch here .alreadyClosed .stillOpen
  case sendEnd =>
    cases stepped
    exact .along here .endSent
  case sleepEnd wakeAt =>
    split at stepped
    · cases stepped
      exact .along here .endSlept
    · cases stepped
  case closeWs =>
    cases stepped
    exact .goto (here ▸ .closing)
  case waitClosed deadline =>
    split at stepped
    · cases stepped
      exact .along here .waitedClosed
    · cases stepped
  case testClosedAgain =>
    cases stepped
    exact .branch here .closedInTime .notClosedInTime
  case storeClosed =>
    cases stepped
    exact .storeClosed here
  case incRetry =>
    cases stepped
    exact .count here
  case loadHangup =>
    cases stepped
    exact .unlessHungUp here rfl .notHungUp
  case checkRetry =>
    cases stepped
    split
    next allowed => exact .along here (.retry allowed)
    next => exact .destroy (here ▸ rfl)
  case sleepRetry wakeAt =>
    split at stepped
    · cases stepped
      exact .along here .retrySlept
    · cases stepped
  case loadHangupAgain =>
    cases stepped
    exact .unlessHungUp here rfl .stillNotHungUp
  case createThread =>
    split at stepped
    · cases stepped
      exact .handOn here
    · cases stepped
      exact .destroy (here ▸ rfl)
  case destroyTest =>
    cases stepped
    exact .branch here .destroyNow .destroyLater
  case destroyEnter =>
    cases stepped
    exact .along here .destroyEntered
  case destroyWait =>
    cases stepped
    exact .along here .spuriousWake
  case destroyWoken =>
    split at stepped
    · cases stepped
    · cases stepped
      exact .lock here
  case destroyRelease =>
    cases stepped
    exact .release here
  case unwinding =>
    split at stepped
    · cases stepped
      exact .leave here
    · cases stepped
  case ended => cases stepped

end Inversion

end FunAsr

end SpeechModules
