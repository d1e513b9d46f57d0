import SpeechModules.FunAsrFrames

/-!
# Streaming on an opened connection

Each attempt has a websocket of its own, whose `onopen` sets the thread's local
`connected` and the session's `ws_connected`.  After the wait for the connection
the thread tests `ws_connected`, which an earlier attempt may have set, and the
end of the thread is shared by the streaming and the failed branch: it sends
`is_speaking = false` unless the connection has been closed.
-/

namespace SpeechModules

namespace FunAsr

open StepSystem

/-- The thread is inside its streaming loop. -/
def SenderPc.streams : SenderPc → Bool
  | .loopHangup | .loopClosed | .readStart | .readWait _ | .sendBlock _ => true
  | _ => false

/-- The next statement of the thread is a `ws.send`. -/
def SenderPc.sends : SenderPc → Bool
  | .sendBlock _ | .sendEnd => true
  | _ => false

/-- A thread streams and sends only after the `onopen` of its own websocket. -/
def OpensFirst (state : State) : Prop :=
  ∀ sender ∈ state.threads,
    (sender.pc.streams = true → sender.ranOpen = true) ∧
      (sender.pc.sends = true → sender.ranOpen = true)

/-! ## An attempt after a successful one -/

/-- The first connection opens and is closed by the server.  The second one is
not answered, and its thread streams all the same. -/
def staleConnectedSchedule : List Action :=
  startSchedule ++ connectSchedule 0 ++ disconnectSchedule 0 ++
    handOnSchedule 0 ++ threadSchedule 1 2 ++ .tick 3000 :: threadSchedule 1 2

theorem opensFirst_fails :
    ¬ ∀ (config : Config) (state : State),
      Reach (State.step config) (State.initial 0) state →
        OpensFirst state := by
  intro always
  obtain ⟨state, reached, unopened⟩ :=
    exists_reach_of_replay (State.step .retryOnce) (State.initial 0)
      staleConnectedSchedule
      (fun state => state.threads.any fun sender =>
        sender.pc.streams && !sender.ranOpen)
      (by decide)
  simp only [List.any_eq_true, Bool.and_eq_true, Bool.not_eq_true'] at unopened
  obtain ⟨sender, member, streams, notOpened⟩ := unopened
  have opened := (always .retryOnce state reached sender member).1 streams
  rw [notOpened] at opened
  cases opened

/-! ## Runs whose tests agree with the thread's own connection -/

/-- The side condition, on the state before a step: a thread whose websocket has
not opened does not find `ws_connected` set at its test, or fails to create its
resampler, and finds its connection closed where it would send the end of the
speech. -/
def ownConnection (config : Config) (state : State) : Action → Bool
  | .threadStep index choice =>
      match state.threads[index]? with
      | none => true
      | some sender =>
          sender.ranOpen ||
          match sender.pc with
          | .checkConnected =>
              !state.pvt.wsConnected || config.sampleRate == .rate16000
          | .createResampler => !choice.success
          | .testClosed => sender.closed
          | _ => true
  | _ => true

section Threads

variable {config : Config} {clock : Nat} {choice : SenderChoice}
  {pvt after : Pvt} {history history' : History} {sender sender' : Sender}

/-- How a thread comes into its loop and to its last message. -/
theorem senderStep_streams {created : Bool}
    (stepped : senderStep config clock choice pvt history sender =
      some (after, sender', history', created))
    (arrived : sender'.pc.streams = true ∨ sender'.pc.sends = true) :
    sender.pc.streams = true ∨
      (sender.pc = .checkConnected ∧ pvt.wsConnected = true ∧
        config.sampleRate = .rate8000) ∨
      (sender.pc = .createResampler ∧ choice.success = true) ∨
      (sender.pc = .testClosed ∧ sender.closed = false) := by
  cases here : sender.pc <;> simp only [senderStep, here] at stepped
  case loopHangup => exact .inl rfl
  case loopClosed => exact .inl rfl
  case readStart => exact .inl rfl
  case readWait => exact .inl rfl
  case sendBlock => exact .inl rfl
  case checkConnected =>
    cases stepped
    cases shared : pvt.wsConnected <;> cases rate : config.sampleRate <;>
      simp [shared, rate, SenderPc.streams, SenderPc.sends] at arrived ⊢
  case createResampler =>
    cases stepped
    cases created : choice.success <;>
      simp [created, SenderPc.streams, SenderPc.sends] at arrived ⊢
  case testClosed =>
    cases stepped
    cases closed : sender.closed <;>
      simp [closed, SenderPc.streams, SenderPc.sends] at arrived ⊢
  -- no other position leads there
  all_goals try split at stepped
  all_goals try split at stepped
  all_goals first
    | (cases stepped; done)
    | (cases stepped
       try split at arrived
       all_goals simp [Sender.enterDestroy, SenderPc.streams,
         SenderPc.sends] at arrived)

/-- A callback leaves its thread where it is and undoes no `onopen`. -/
theorem callbackStep_ranOpen
    (stepped : callbackStep config pvt history sender =
      some (after, sender', history')) :
    sender'.pc = sender.pc ∧
      (sender.ranOpen = true → sender'.ranOpen = true) := by
  cases here : sender.callback <;> simp only [callbackStep, here] at stepped
  all_goals try split at stepped
  all_goals try split at stepped
  all_goals try split at stepped
  all_goals first
    | (cases stepped; done)
    | (cases stepped; exact ⟨rfl, id⟩)
    | (cases stepped; exact ⟨rfl, fun _ => rfl⟩)

theorem Sender.wake_streams (sender : Sender) :
    sender.wake.ranOpen = sender.ranOpen ∧
      (sender.wake.pc.streams = true → sender.pc.streams = true) ∧
      (sender.wake.pc.sends = true → sender.pc.sends = true) := by
  unfold Sender.wake
  split
  next =>
    exact ⟨rfl, fun streams => (by cases streams),
      fun sends => (by cases sends)⟩
  next => exact ⟨rfl, id, id⟩

end Threads

section Runs

variable {config : Config} {before after : State}

theorem OpensFirst.step {action : Action} (opens : OpensFirst before)
    (permitted : ownConnection config before action = true)
    (stepped : before.step config action = some after) : OpensFirst after := by
  refine forall_threads_step opens ?_ ?_ ?_ ?_ ?_ stepped
  · exact ⟨fun streams => (by cases streams), fun sends => (by cases sends)⟩
  · rintro index choice sender pvt sender' history created rfl located agent
      ⟨streams, _⟩
    have sameNote : sender'.ranOpen = sender.ranOpen := by
      obtain ⟨_, ⟨_, _, _, _, rfl⟩, _⟩ := senderStep_writes agent
      rfl
    have opened (arrived : sender'.pc.streams = true ∨
        sender'.pc.sends = true) : sender'.ranOpen = true := by
      rw [sameNote]
      rcases senderStep_streams agent arrived with
        inside | ⟨here, shared, rate⟩ | ⟨here, created⟩ | ⟨here, notClosed⟩
      · exact streams inside
      · simpa [ownConnection, located, here, shared, rate] using permitted
      · simpa [ownConnection, located, here, created] using permitted
      · simpa [ownConnection, located, here, notClosed] using permitted
    exact ⟨fun streams => opened (.inl streams), fun sends => opened (.inr sends)⟩
  · rintro sender sender' event agent ⟨streams, sends⟩
    obtain ⟨_, _, rfl⟩ := callbackStart_writes agent
    exact ⟨streams, sends⟩
  · rintro sender pvt sender' history agent ⟨streams, sends⟩
    obtain ⟨samePc, kept⟩ := callbackStep_ranOpen agent
    rw [samePc]
    exact ⟨fun here => kept (streams here), fun here => kept (sends here)⟩
  · rintro sender ⟨streams, sends⟩
    obtain ⟨sameNote, streamed, sent⟩ := sender.wake_streams
    rw [sameNote]
    exact ⟨fun here => streams (streamed here), fun here => sends (sent here)⟩

end Runs

/-- In every run whose threads find in the shared flags what their own websocket
has done, nothing is streamed before `onopen`. -/
theorem opensFirst_of_ownConnection (config : Config) (now : Nat)
    {state : State}
    (reached : PermittedReach (State.step config)
      (fun state action => ownConnection config state action = true)
      (State.initial now) state) :
    OpensFirst state := by
  refine reached.invariant ?_
    fun _ _ _ opens permitted stepped => opens.step permitted stepped
  intro sender member
  cases member

/-- The session reconnects, the second thread streams until the bug is removed,
and it sends the end of the speech. -/
def bothOpenedSchedule : List Action :=
  startSchedule ++ connectSchedule 0 ++ disconnectSchedule 0 ++
    handOnSchedule 0 ++ connectSchedule 1 ++
    Action.sessionClose :: List.replicate 5 Action.closeStep ++
    threadSchedule 1 2

theorem opensFirst_bothOpenedSchedule :
    ∃ state, PermittedReach (State.step .retryOnce)
        (fun state action => ownConnection .retryOnce state action = true)
        (State.initial 0) state ∧
      (state.threads[1]?.any fun sender => sender.pc == .sendEnd) = true ∧
      OpensFirst state := by
  obtain ⟨state, reached, passed⟩ :=
    exists_permittedReach_of_replay (State.step .retryOnce) (State.initial 0)
      bothOpenedSchedule
      (fun state => state.threads[1]?.any fun sender => sender.pc == .sendEnd)
      (fun state action => ownConnection .retryOnce state action = true)
      (by decide)
  exact ⟨state, reached, passed,
    opensFirst_of_ownConnection .retryOnce 0 reached⟩

end FunAsr

end SpeechModules
