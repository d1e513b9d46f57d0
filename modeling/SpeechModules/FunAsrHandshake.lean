import SpeechModules.FunAsrFrames

/-!
# The hand-shake at the end of a session

A thread that has given up waits in `destroy` until the CLOSE callback signals
`cond`.  The thread tests `hangup` before it waits and does both without
`write_mutex`, and there is no loop around the wait, so a signal that is sent
between the test and the wait is lost.

The media bug is removed once, so that the CLOSE callback runs once and nobody
repeats the signal.
-/

namespace SpeechModules

namespace FunAsr

open StepSystem

/-- No thread waits in `destroy` for a CLOSE callback that has hung up and
finished. -/
def WakeUpDelivered (state : State) : Prop :=
  ∀ sender ∈ state.threads, sender.pc = .destroyWait →
    state.pvt.hangup = true → state.closer ≠ .done

/-! ## A signal between the test and the wait -/

/-- The session does not retry. -/
def Config.retryNever : Config := { Config.retryOnce with wsConnRetryMax := 0 }

/-- The only thread cannot connect, gives up and finds `hangup` not set. -/
def giveUpSchedule : List Action :=
  startSchedule ++ threadSchedule 0 2 ++ .tick 3000 :: threadSchedule 0 4 ++
    .tick 1000 :: threadSchedule 0 2 ++ .tick 3000 :: threadSchedule 0 6

/-- The CLOSE callback runs to its end before the thread waits. -/
def lostSignalSchedule : List Action :=
  giveUpSchedule ++ .sessionClose :: List.replicate 5 .closeStep ++
    threadSchedule 0 1

theorem wakeUpDelivered_fails :
    ¬ ∀ (config : Config) (state : State),
      Reach (State.step config) (State.initial 0) state →
        WakeUpDelivered state := by
  intro always
  obtain ⟨state, reached, stuck⟩ :=
    exists_reach_of_replay (State.step .retryNever) (State.initial 0)
      lostSignalSchedule
      (fun state => state.threads.any (fun sender => sender.pc == .destroyWait) &&
        state.pvt.hangup && state.closer == .done)
      (by decide)
  simp only [Bool.and_eq_true, List.any_eq_true, beq_iff_eq] at stuck
  obtain ⟨⟨⟨sender, member, waits⟩, hangup⟩, finished⟩ := stuck
  exact always .retryNever state reached sender member waits hangup finished

/-! ## The CLOSE callback runs once -/

/-- Positions of the CLOSE callback after its store to `hangup`. -/
def ClosePc.hungUp : ClosePc → Bool
  | .lock | .signal | .unlock | .done => true
  | _ => false

/-- The bug is attached by `start_asr` and removed for good by whoever starts the
CLOSE callback. -/
structure ClosedOnce (state : State) : Prop where
  starting : state.starter ≠ .done → state.closer = .idle ∧ state.app = .idle
  attached : state.bug = true → state.closer = .idle
  hangup : state.pvt.hangup = true → state.closer.hungUp = true

section Once

variable {config : Config} {before after : State}

theorem ClosedOnce.initial (now : Nat) : ClosedOnce (State.initial now) where
  starting _ := ⟨rfl, rfl⟩
  attached attached := by cases attached
  hangup hangup := by cases hangup

theorem ClosedOnce.of_frame (once : ClosedOnce before)
    (starter : after.starter = before.starter)
    (closer : after.closer = before.closer) (bug : after.bug = before.bug)
    (app : after.app = before.app)
    (hangup : after.pvt.hangup = before.pvt.hangup) : ClosedOnce after := by
  refine ⟨?_, ?_, ?_⟩
  · rw [starter, closer, app]
    exact once.starting
  · rw [bug, closer]
    exact once.attached
  · rw [hangup, closer]
    exact once.hangup

/-- A session whose bug is attached has not been hung up. -/
theorem ClosedOnce.not_hungUp (once : ClosedOnce before)
    (attached : before.bug = true) : before.pvt.hangup ≠ true := by
  intro hangup
  have finished := once.hangup hangup
  rw [once.attached attached] at finished
  cases finished

theorem ClosedOnce.startStep {success : Bool} (once : ClosedOnce before)
    (stepped : before.step config (.startStep success) = some after) :
    ClosedOnce after := by
  have idle := once.starting (step_startStep stepped).1
  simp only [State.step, State.startStep] at stepped
  split at stepped
  all_goals first
    | (cases stepped; done)
    | (cases stepped
       exact ⟨fun _ => idle, fun _ => idle.1, once.hangup⟩)

/-- The callback goes on, and it stores `hangup` on its way. -/
theorem ClosedOnce.closeStep (once : ClosedOnce before)
    (stepped : before.step config .closeStep = some after) :
    ClosedOnce after := by
  obtain ⟨pvt, threads, closer, agent, rfl⟩ := step_closeStep stepped
  have running : before.closer ≠ .idle := by
    intro idle
    rw [idle] at agent
    cases agent
  refine ⟨fun starting => (running (once.starting starting).1).elim,
    fun attached => (running (once.attached attached)).elim, ?_⟩
  have earlier := once.hangup
  intro hangup
  cases here : before.closer <;> rw [here] at agent earlier <;>
    simp only [FunAsr.closeStep] at agent
  case test =>
    cases agent
    have contradiction := earlier hangup
    cases contradiction
  all_goals try split at agent
  all_goals first
    | (cases agent; done)
    | (cases agent; rfl)

theorem ClosedOnce.appStep (once : ClosedOnce before)
    (stepped : before.step config .appStep = some after) :
    ClosedOnce after := by
  have started : before.starter = .done := by
    by_contra starting
    have idle := (once.starting starting).2
    simp [State.step, State.appStep, idle] at stepped
  simp only [State.step, State.appStep] at stepped
  split at stepped
  case h_5 =>
    split at stepped
    next attached =>
      cases stepped
      refine ⟨fun starting => (starting started).elim, ?_,
        fun hangup => (once.not_hungUp attached hangup).elim⟩
      intro stillAttached
      cases stillAttached
    next =>
      cases stepped
      exact ⟨fun starting => (starting started).elim, once.attached,
        once.hangup⟩
  all_goals try split at stepped
  all_goals first
    | (cases stepped; done)
    | (cases stepped
       exact ⟨fun starting => (starting started).elim, once.attached,
         once.hangup⟩)

theorem ClosedOnce.step {action : Action} (once : ClosedOnce before)
    (stepped : before.step config action = some after) : ClosedOnce after := by
  cases action with
  | tick ms =>
      cases stepped
      exact once.of_frame rfl rfl rfl rfl rfl
  | startStep success => exact once.startStep stepped
  | threadStep index choice =>
      obtain ⟨_, _, _, _, _, _, agent, rfl⟩ := step_threadStep stepped
      obtain ⟨⟨_, _, _, _, _, rfl⟩, _⟩ := senderStep_writes agent
      exact once.of_frame rfl rfl rfl rfl rfl
  | callbackStart index event =>
      obtain ⟨_, _, _, _, rfl⟩ := step_callbackStart stepped
      exact once.of_frame rfl rfl rfl rfl rfl
  | callbackStep index =>
      obtain ⟨_, _, _, _, _, agent, rfl⟩ := step_callbackStep stepped
      obtain ⟨⟨_, _, rfl⟩, _⟩ := callbackStep_writes agent
      exact once.of_frame rfl rfl rfl rfl rfl
  | readStart frame =>
      obtain ⟨_, _, rfl⟩ := step_readStart stepped
      exact once.of_frame rfl rfl rfl rfl rfl
  | readStep =>
      obtain ⟨_, _, _, agent, rfl⟩ := step_readStep stepped
      obtain ⟨⟨_, _, rfl⟩, _⟩ := readStep_writes agent
      exact once.of_frame rfl rfl rfl rfl rfl
  | sessionClose =>
      obtain ⟨attached, started, _, rfl⟩ := step_sessionClose stepped
      refine ⟨fun starting => (starting started).elim, ?_,
        fun hangup => (once.not_hungUp attached hangup).elim⟩
      intro stillAttached
      cases stillAttached
  | closeStep => exact once.closeStep stepped
  | pauseStart paused =>
      have started : before.starter = .done := by
        by_contra starting
        simp [State.step, starting] at stepped
      obtain ⟨_, rfl⟩ := step_pauseStart stepped
      exact ⟨fun starting => (starting started).elim, once.attached,
        once.hangup⟩
  | stopStart =>
      have started : before.starter = .done := by
        by_contra starting
        simp [State.step, starting] at stepped
      obtain ⟨_, rfl⟩ := step_stopStart stepped
      exact ⟨fun starting => (starting started).elim, once.attached,
        once.hangup⟩
  | appStep => exact once.appStep stepped
  | dropPrivate =>
      rw [step_dropPrivate stepped]
      exact once.of_frame rfl rfl rfl rfl rfl

theorem closedOnce_of_reach {permits : State → Action → Prop} {now : Nat}
    {state : State}
    (reached : PermittedReach (State.step config) permits
      (State.initial now) state) : ClosedOnce state :=
  reached.invariant (ClosedOnce.initial now)
    fun _ _ _ once _ stepped => once.step stepped

end Once

/-! ## Runs in which the wait starts before the signal -/

/-- A thread enters the wait of `destroy` only as long as the CLOSE callback has
not sent its signal. -/
def waitsInTime (state : State) : Action → Bool
  | .threadStep index _ =>
      match state.threads[index]?.map Sender.pc with
      | some .destroyEnter =>
          !state.pvt.hangup || state.closer == .lock || state.closer == .signal
      | _ => true
  | _ => true

/-- A thread that waits in a session that has been hung up is going to be
signalled. -/
def SignalPending (state : State) : Prop :=
  ∀ sender ∈ state.threads, sender.pc = .destroyWait →
    state.pvt.hangup = true → state.closer = .lock ∨ state.closer = .signal

section Runs

variable {config : Config} {before after : State}

theorem SignalPending.of_frame (pending : SignalPending before)
    (threads : ∀ sender ∈ after.threads, sender.pc = .destroyWait →
      ∃ waiting ∈ before.threads, waiting.pc = .destroyWait)
    (hangup : after.pvt.hangup = before.pvt.hangup)
    (closer : before.pvt.hangup = true → after.closer = before.closer) :
    SignalPending after := by
  intro sender member waits hungUp
  obtain ⟨waiting, earlier, same⟩ := threads sender member waits
  rw [hangup] at hungUp
  rw [closer hungUp]
  exact pending waiting earlier same hungUp

/-- A callback leaves its thread where it is. -/
theorem waiting_of_set {threads : List Sender} {index : Nat}
    {sender sender' other : Sender}
    (located : threads[index]? = some sender)
    (member : other ∈ threads.set index sender') (pc : sender'.pc = sender.pc)
    (waits : other.pc = .destroyWait) :
    ∃ waiting ∈ threads, waiting.pc = .destroyWait := by
  rcases List.mem_or_eq_of_mem_set member with old | rfl
  · exact ⟨other, old, waits⟩
  · exact ⟨sender, List.mem_of_getElem? located, pc ▸ waits⟩

/-- The wait is entered at one position. -/
theorem senderStep_waits {clock : Nat} {choice : SenderChoice}
    {pvt pvt' : Pvt} {history history' : History} {sender sender' : Sender}
    {created : Bool}
    (stepped : senderStep config clock choice pvt history sender =
      some (pvt', sender', history', created))
    (waits : sender'.pc = .destroyWait) : sender.pc = .destroyEnter := by
  cases senderStep_moves stepped with
  | goto edge =>
      cases here : sender.pc <;> rw [here] at edge <;> cases edge <;>
        first | rfl | cases waits
  | read _ ends => cases ends <;> cases waits
  | _ => cases waits

theorem SignalPending.threadStep {index : Nat} {choice : SenderChoice}
    (pending : SignalPending before)
    (permitted : waitsInTime before (.threadStep index choice) = true)
    (stepped : before.step config (.threadStep index choice) = some after) :
    SignalPending after := by
  obtain ⟨sender, located, pvt, sender', history, created, agent, rfl⟩ :=
    step_threadStep stepped
  have sameHangup : pvt.hangup = before.pvt.hangup := by
    obtain ⟨⟨_, _, _, _, _, rfl⟩, _⟩ := senderStep_writes agent
    rfl
  intro other member waits hangup
  obtain ⟨position, found⟩ := List.getElem?_of_mem member
  rcases thread_cases located found with
    ⟨_, rfl⟩ | ⟨_, old⟩ | ⟨_, _, rfl⟩
  · have entering := senderStep_waits agent waits
    simp only at hangup
    rw [sameHangup] at hangup
    simpa [waitsInTime, located, entering, hangup] using permitted
  · exact pending other (List.mem_of_getElem? old) waits
      (sameHangup.symm.trans hangup)
  · cases waits

/-- The signal leaves nobody waiting. -/
theorem SignalPending.closeStep (pending : SignalPending before)
    (once : ClosedOnce before)
    (stepped : before.step config .closeStep = some after) :
    SignalPending after := by
  obtain ⟨pvt, threads, closer, agent, rfl⟩ := step_closeStep stepped
  intro sender member waits hangup
  cases here : before.closer <;> rw [here] at agent <;>
    simp only [FunAsr.closeStep] at agent
  case idle => cases agent
  case test =>
    cases agent
    have finished := once.hangup hangup
    rw [here] at finished
    cases finished
  case setHangup =>
    cases agent
    exact .inl rfl
  case lock =>
    split at agent
    · cases agent
    · cases agent
      exact .inr rfl
  case signal =>
    cases agent
    obtain ⟨sleeper, _, rfl⟩ := List.mem_map.mp member
    unfold Sender.wake at waits
    split at waits
    next => cases waits
    next awake => exact (awake waits).elim
  case unlock =>
    cases agent
    rcases pending sender member waits hangup with there | there
    all_goals
      rw [here] at there
      cases there
  case done => cases agent

theorem SignalPending.step {action : Action} (pending : SignalPending before)
    (once : ClosedOnce before)
    (permitted : waitsInTime before action = true)
    (stepped : before.step config action = some after) :
    SignalPending after := by
  cases step_moves stepped with
  | around closing =>
      refine pending.of_frame (fun sender member waits =>
        ⟨sender, member, waits⟩) rfl fun hangup => ?_
      rcases closing with same | rfl
      · exact same
      · have finished := (once.step stepped).hangup hangup
        cases finished
  | create =>
      refine pending.of_frame (fun sender member waits => ?_) rfl fun _ => rfl
      rcases List.mem_append.mp member with old | new
      · exact ⟨sender, old, waits⟩
      · rw [List.mem_singleton.mp new] at waits
        cases waits
  | thread => exact pending.threadStep permitted stepped
  | callbackStart located agent =>
      obtain ⟨_, _, rfl⟩ := callbackStart_writes agent
      exact pending.of_frame (fun _ member waits =>
        waiting_of_set located member rfl waits) rfl fun _ => rfl
  | callback located agent =>
      obtain ⟨⟨_, _, rfl⟩, ⟨_, _, _, _, _, rfl⟩, _⟩ :=
        callbackStep_writes agent
      exact pending.of_frame (fun _ member waits =>
        waiting_of_set located member rfl waits) rfl fun _ => rfl
  | readStart =>
      exact pending.of_frame (fun sender member waits =>
        ⟨sender, member, waits⟩) rfl fun _ => rfl
  | read agent =>
      obtain ⟨⟨_, _, rfl⟩, _⟩ := readStep_writes agent
      exact pending.of_frame (fun sender member waits =>
        ⟨sender, member, waits⟩) rfl fun _ => rfl
  | close => exact pending.closeStep once stepped

end Runs

/-- In every run in which a thread enters its wait before the CLOSE callback has
sent the signal, the signal reaches it. -/
theorem wakeUpDelivered_of_waitsInTime (config : Config) (now : Nat)
    {state : State}
    (reached : PermittedReach (State.step config)
      (fun state action => waitsInTime state action = true)
      (State.initial now) state) :
    WakeUpDelivered state := by
  have pending : SignalPending state := by
    refine reached.invariant_of_known
      (fun _ earlier => closedOnce_of_reach earlier) ?_
      fun _ _ _ once pending permitted stepped =>
        pending.step once permitted stepped
    intro sender member
    cases member
  intro sender member waits hangup finished
  rcases pending sender member waits hangup with there | there
  all_goals
    rw [finished] at there
    cases there

/-- The same run as in `lostSignalSchedule`, with the thread waiting before the
CLOSE callback has taken the mutex. -/
def deliveredSignalSchedule : List Action :=
  giveUpSchedule ++ Action.sessionClose :: List.replicate 2 Action.closeStep ++
    threadSchedule 0 1 ++ List.replicate 3 Action.closeStep

theorem wakeUpDelivered_deliveredSignalSchedule :
    ∃ state, PermittedReach (State.step .retryNever)
        (fun state action => waitsInTime state action = true)
        (State.initial 0) state ∧
      (state.pvt.hangup && state.closer == .done && state.threads.all
        (fun sender => sender.pc == .destroyWoken)) = true ∧
      WakeUpDelivered state := by
  obtain ⟨state, reached, passed⟩ :=
    exists_permittedReach_of_replay (State.step .retryNever) (State.initial 0)
      deliveredSignalSchedule
      (fun state => state.pvt.hangup && state.closer == .done &&
        state.threads.all fun sender => sender.pc == .destroyWoken)
      (fun state action => waitsInTime state action = true)
      (by decide)
  exact ⟨state, reached, passed,
    wakeUpDelivered_of_waitsInTime .retryNever 0 reached⟩

end FunAsr

end SpeechModules
