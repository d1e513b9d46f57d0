import SpeechModules.FunAsrMoves

/-!
# What the agents of a recognition session leave alone

As for the synthesis handles: the steps of each agent as updates of the fields
it writes, and the steps of the session by the agent that makes them.  The last
section shows that the sender threads form a chain, in which only the last
thread is still inside its function body.
-/

namespace SpeechModules

namespace FunAsr

open StepSystem

section Agents

variable {config : Config} {clock : Nat} {pvt after : Pvt}
  {history history' : History} {sender sender' : Sender}

theorem callbackStart_writes {event : SocketEvent}
    (started : callbackStart sender event = some sender') :
    ∃ socket callback,
      sender' = { sender with socket := socket, callback := callback } := by
  cases event <;> simp only [callbackStart] at started
  all_goals split at started
  all_goals first
    | (cases started; done)
    | (cases started; exact ⟨_, _, rfl⟩)

/-- A callback writes its thread's notes and, when the connection has opened,
`ws_connected`. -/
theorem callbackStep_writes
    (stepped : callbackStep config pvt history sender =
      some (after, sender', history')) :
    (∃ wsConnected, (pvt.wsConnected = true → wsConnected = true) ∧
      after = { pvt with wsConnected := wsConnected }) ∧
    (∃ callback connected closed ranOpen ranClose,
      sender' = { sender with
        callback := callback
        connected := connected
        closed := closed
        ranOpen := ranOpen
        ranClose := ranClose }) ∧
    ∃ events, history' = { history with events := events } := by
  cases here : sender.callback <;> simp only [callbackStep, here] at stepped
  case openShare =>
    cases stepped
    exact ⟨⟨_, fun _ => rfl, rfl⟩, ⟨_, _, _, _, _, rfl⟩, _, rfl⟩
  all_goals try split at stepped
  all_goals try split at stepped
  all_goals try split at stepped
  all_goals first
    | (cases stepped; done)
    | (cases stepped
       exact ⟨⟨_, id, rfl⟩, ⟨_, _, _, _, _, rfl⟩, _, rfl⟩)

/-- A sender thread never touches what the callbacks note, nor the flags that
the session sets. -/
theorem senderStep_writes {choice : SenderChoice} {created : Bool}
    (stepped : senderStep config clock choice pvt history sender =
      some (after, sender', history', created)) :
    (∃ queue wsClosed retry mutex destroyed,
      after = { pvt with
        audioQueue := queue
        wsClosed := wsClosed
        wsConnRetry := retry
        writeMutex := mutex
        destroyed := destroyed }) ∧
    (∃ pc socket successors destroyCalls,
      sender' = { sender with
        pc := pc
        socket := socket
        successors := successors
        destroyCalls := destroyCalls }) ∧
    ∃ sent resampled attempts,
      history' = { history with
        sent := sent, resampled := resampled, attempts := attempts } := by
  cases senderStep_moves stepped with
  | send here =>
      unfold History.noteBlock
      split
      all_goals exact ⟨⟨_, _, _, _, _, rfl⟩, ⟨_, _, _, _, rfl⟩, _, _, _, rfl⟩
  | _ => exact ⟨⟨_, _, _, _, _, rfl⟩, ⟨_, _, _, _, rfl⟩, _, _, _, rfl⟩

/-- The READ callback writes the queue. -/
theorem readStep_writes {reader reader' : Reader}
    (stepped : readStep pvt history reader =
      some (after, reader', history')) :
    (∃ mutex queue,
      after = { pvt with writeMutex := mutex, audioQueue := queue }) ∧
    ∃ accepted, history' = { history with accepted := accepted } := by
  cases here : reader.pc <;> simp only [readStep, here] at stepped
  case write data =>
    cases stepped
    refine ⟨⟨_, _, rfl⟩, ?_⟩
    split
    all_goals exact ⟨_, rfl⟩
  all_goals try split at stepped
  all_goals first
    | (cases stepped; done)
    | (cases stepped; exact ⟨⟨_, _, rfl⟩, _, rfl⟩)

/-- The CLOSE callback hangs up and wakes the thread that waits for it. -/
theorem closeStep_writes {threads threads' : List Sender}
    {closer closer' : ClosePc}
    (stepped : closeStep pvt threads closer =
      some (after, threads', closer')) :
    (∃ hangup mutex, (pvt.hangup = true → hangup = true) ∧
      after = { pvt with hangup := hangup, writeMutex := mutex }) ∧
    (threads' = threads ∨ threads' = threads.map Sender.wake) := by
  cases closer <;> simp only [closeStep] at stepped
  case setHangup =>
    cases stepped
    exact ⟨⟨_, _, fun _ => rfl, rfl⟩, .inl rfl⟩
  case signal =>
    cases stepped
    exact ⟨⟨_, _, id, rfl⟩, .inr rfl⟩
  all_goals try split at stepped
  all_goals first
    | (cases stepped; done)
    | (cases stepped; exact ⟨⟨_, _, id, rfl⟩, .inl rfl⟩)

end Agents

section Inversion

/-- `start_asr` has not come to the creation of the first thread. -/
def StartPc.unstarted : StartPc → Bool
  | .setPrivate => true
  | .initTest => true
  | .initCreate => true
  | _ => false

variable {config : Config} {state after : State}

theorem step_threadStep {index : Nat} {choice : SenderChoice}
    (stepped : state.step config (.threadStep index choice) = some after) :
    ∃ sender, state.threads[index]? = some sender ∧
      ∃ pvt sender' history created,
        senderStep config state.clock choice state.pvt state.history sender =
          some (pvt, sender', history, created) ∧
        after = { state with
          pvt := pvt
          history := history
          threads := state.threads.set index sender' ++
            if created then [Sender.initial] else [] } := by
  simp only [State.step, Option.bind_eq_some_iff,
    Option.map_eq_some_iff] at stepped
  obtain ⟨sender, found, ⟨pvt, sender', history, created⟩, agent, rfl⟩ :=
    stepped
  exact ⟨sender, found, pvt, sender', history, created, agent, rfl⟩

theorem step_callbackStart {index : Nat} {event : SocketEvent}
    (stepped : state.step config (.callbackStart index event) = some after) :
    ∃ sender, state.threads[index]? = some sender ∧ ∃ sender',
      callbackStart sender event = some sender' ∧
      after = { state with threads := state.threads.set index sender' } := by
  simp only [State.step, Option.bind_eq_some_iff] at stepped
  obtain ⟨sender, found, started⟩ := stepped
  split at started
  · obtain ⟨sender', agent, rfl⟩ := Option.map_eq_some_iff.mp started
    exact ⟨sender, found, sender', agent, rfl⟩
  · cases started

theorem step_callbackStep {index : Nat}
    (stepped : state.step config (.callbackStep index) = some after) :
    ∃ sender, state.threads[index]? = some sender ∧ ∃ pvt sender' history,
      callbackStep config state.pvt state.history sender =
        some (pvt, sender', history) ∧
      after = { state with
        pvt := pvt
        history := history
        threads := state.threads.set index sender' } := by
  simp only [State.step, Option.bind_eq_some_iff,
    Option.map_eq_some_iff] at stepped
  obtain ⟨sender, found, ⟨pvt, sender', history⟩, agent, rfl⟩ := stepped
  exact ⟨sender, found, pvt, sender', history, agent, rfl⟩

theorem step_readStart {frame : Option Bytes}
    (stepped : state.step config (.readStart frame) = some after) :
    state.bug = true ∧ state.reader.pc = .idle ∧
      after = { state with reader := ⟨.guardHangup, frame⟩ } := by
  simp only [State.step] at stepped
  split at stepped
  next ready =>
    cases stepped
    exact ⟨ready.1, ready.2.1, rfl⟩
  next => cases stepped

theorem step_readStep
    (stepped : state.step config .readStep = some after) :
    ∃ pvt reader history,
      readStep state.pvt state.history state.reader =
        some (pvt, reader, history) ∧
      after = { state with
        pvt := pvt, reader := reader, history := history } := by
  simp only [State.step, Option.map_eq_some_iff] at stepped
  obtain ⟨⟨pvt, reader, history⟩, agent, rfl⟩ := stepped
  exact ⟨pvt, reader, history, agent, rfl⟩

theorem step_sessionClose
    (stepped : state.step config .sessionClose = some after) :
    state.bug = true ∧ state.starter = .done ∧ state.app = .idle ∧
      after = { state with bug := false, closer := .test } := by
  simp only [State.step] at stepped
  split at stepped
  next ready =>
    cases stepped
    exact ⟨ready.1, ready.2.1, ready.2.2, rfl⟩
  next => cases stepped

theorem step_closeStep
    (stepped : state.step config .closeStep = some after) :
    ∃ pvt threads closer,
      closeStep state.pvt state.threads state.closer =
        some (pvt, threads, closer) ∧
      after = { state with
        pvt := pvt, threads := threads, closer := closer } := by
  simp only [State.step, Option.map_eq_some_iff] at stepped
  obtain ⟨⟨pvt, threads, closer⟩, agent, rfl⟩ := stepped
  exact ⟨pvt, threads, closer, agent, rfl⟩

theorem step_pauseStart {paused : Int}
    (stepped : state.step config (.pauseStart paused) = some after) :
    state.funasrMod = true ∧
      after = { state with app := .pauseStore paused } := by
  simp only [State.step] at stepped
  split at stepped
  next ready =>
    cases stepped
    exact ⟨ready.1, rfl⟩
  next => cases stepped

theorem step_stopStart
    (stepped : state.step config .stopStart = some after) :
    state.funasrMod = true ∧ after = { state with app := .stopUnset } := by
  simp only [State.step] at stepped
  split at stepped
  next ready =>
    cases stepped
    exact ⟨ready.1, rfl⟩
  next => cases stepped

theorem step_dropPrivate
    (stepped : state.step config .dropPrivate = some after) :
    after = { state with funasrMod := false } := by
  simp only [State.step] at stepped
  split at stepped
  · cases stepped
    rfl
  · cases stepped

/-- `start_asr` creates the first thread, at one position. -/
theorem step_startStep {success : Bool}
    (stepped : state.step config (.startStep success) = some after) :
    state.starter ≠ .done ∧
      ((∃ funasrMod bug starter,
          (starter.unstarted = true → state.starter.unstarted = true) ∧
          after = { state with
            funasrMod := funasrMod, bug := bug, starter := starter }) ∨
        (state.starter = .initCreate ∧ success = true ∧
          after = { state with
            threads := state.threads ++ [Sender.initial]
            starter := .storeBug })) := by
  simp only [State.step, State.startStep] at stepped
  split at stepped
  case h_3 here =>
    cases stepped
    refine ⟨by simp [here], ?_⟩
    cases success
    · exact .inl ⟨_, _, _, by simp [here, StartPc.unstarted], rfl⟩
    · exact .inr ⟨here, rfl, rfl⟩
  case h_5 => cases stepped
  all_goals
    next here =>
      cases stepped
      exact ⟨by simp [here],
        .inl ⟨_, _, _, by simp [here, StartPc.unstarted], rfl⟩⟩

/-- `pause_asr` writes `paused`, `stop_asr` takes the session off the channel. -/
theorem step_appStep (stepped : state.step config .appStep = some after) :
    ∃ paused funasrMod bug closer app,
      (closer = state.closer ∨ closer = .test) ∧
      after = { state with
        pvt := { state.pvt with paused := paused }
        funasrMod := funasrMod
        bug := bug
        closer := closer
        app := app } := by
  simp only [State.step, State.appStep] at stepped
  split at stepped
  all_goals try split at stepped
  all_goals first
    | (cases stepped; done)
    | (cases stepped; exact ⟨_, _, _, _, _, .inl rfl, rfl⟩)
    | (cases stepped; exact ⟨_, _, _, _, _, .inr rfl, rfl⟩)

/-- The steps of the session.  Most actions of the applications and of
`start_asr` leave the sender threads and the flags they share alone. -/
inductive SessionMove (config : Config) (state : State) :
    Action → State → Prop
  | around {action : Action} {clock : Nat} {paused : Int}
      {funasrMod bug : Bool} {closer : ClosePc} {starter : StartPc}
      {app : AppPc} (closing : closer = state.closer ∨ closer = .test)
      (earlier : starter.unstarted = true → state.starter.unstarted = true) :
      SessionMove config state action
        { state with
          clock := clock
          pvt := { state.pvt with paused := paused }
          funasrMod := funasrMod
          bug := bug
          closer := closer
          starter := starter
          app := app }
  | create {success : Bool} (here : state.starter = .initCreate) :
      SessionMove config state (.startStep success)
        { state with
          threads := state.threads ++ [Sender.initial], starter := .storeBug }
  | thread {index : Nat} {choice : SenderChoice} {sender sender' : Sender}
      {pvt : Pvt} {history : History} {created : Bool}
      (located : state.threads[index]? = some sender)
      (agent : senderStep config state.clock choice state.pvt state.history
        sender = some (pvt, sender', history, created)) :
      SessionMove config state (.threadStep index choice)
        { state with
          pvt := pvt
          history := history
          threads := state.threads.set index sender' ++
            if created then [Sender.initial] else [] }
  | callbackStart {index : Nat} {event : SocketEvent} {sender sender' : Sender}
      (located : state.threads[index]? = some sender)
      (agent : callbackStart sender event = some sender') :
      SessionMove config state (.callbackStart index event)
        { state with threads := state.threads.set index sender' }
  | callback {index : Nat} {sender sender' : Sender} {pvt : Pvt}
      {history : History} (located : state.threads[index]? = some sender)
      (agent : callbackStep config state.pvt state.history sender =
        some (pvt, sender', history)) :
      SessionMove config state (.callbackStep index)
        { state with
          pvt := pvt
          history := history
          threads := state.threads.set index sender' }
  | readStart {frame : Option Bytes} (idle : state.reader.pc = .idle) :
      SessionMove config state (.readStart frame)
        { state with reader := ⟨.guardHangup, frame⟩ }
  | read {pvt : Pvt} {reader : Reader} {history : History}
      (agent : readStep state.pvt state.history state.reader =
        some (pvt, reader, history)) :
      SessionMove config state .readStep
        { state with pvt := pvt, reader := reader, history := history }
  | close {pvt : Pvt} {threads : List Sender} {closer : ClosePc}
      (agent : closeStep state.pvt state.threads state.closer =
        some (pvt, threads, closer)) :
      SessionMove config state .closeStep
        { state with pvt := pvt, threads := threads, closer := closer }

theorem step_moves {action : Action}
    (stepped : state.step config action = some after) :
    SessionMove config state action after := by
  cases action with
  | tick ms =>
      cases stepped
      exact .around (.inl rfl) id
  | startStep success =>
      obtain ⟨_, ⟨_, _, _, earlier, rfl⟩ | ⟨here, _, rfl⟩⟩ :=
        step_startStep stepped
      · exact .around (.inl rfl) earlier
      · exact .create here
  | threadStep index choice =>
      obtain ⟨_, located, _, _, _, _, agent, rfl⟩ := step_threadStep stepped
      exact .thread located agent
  | callbackStart index event =>
      obtain ⟨_, located, _, agent, rfl⟩ := step_callbackStart stepped
      exact .callbackStart located agent
  | callbackStep index =>
      obtain ⟨_, located, _, _, _, agent, rfl⟩ := step_callbackStep stepped
      exact .callback located agent
  | readStart frame =>
      obtain ⟨_, idle, rfl⟩ := step_readStart stepped
      exact .readStart idle
  | readStep =>
      obtain ⟨_, _, _, agent, rfl⟩ := step_readStep stepped
      exact .read agent
  | sessionClose =>
      obtain ⟨_, _, _, rfl⟩ := step_sessionClose stepped
      exact .around (.inr rfl) id
  | closeStep =>
      obtain ⟨_, _, _, agent, rfl⟩ := step_closeStep stepped
      exact .close agent
  | pauseStart paused =>
      obtain ⟨_, rfl⟩ := step_pauseStart stepped
      exact .around (.inl rfl) id
  | stopStart =>
      obtain ⟨_, rfl⟩ := step_stopStart stepped
      exact .around (.inl rfl) id
  | appStep =>
      obtain ⟨_, _, _, _, _, closing, rfl⟩ := step_appStep stepped
      exact .around closing id
  | dropPrivate =>
      rw [step_dropPrivate stepped]
      exact .around (.inl rfl) id

end Inversion

section Chain

/-- The thread has created its successor or gone through `destroy`. -/
def SenderPc.leaving : SenderPc → Bool
  | .unwinding => true
  | .ended => true
  | _ => false

def Sender.leaving (sender : Sender) : Bool := sender.pc.leaving

/-- Every thread but the last is leaving. -/
def Chain (threads : List Sender) : Prop :=
  ∀ (index : Nat) (sender : Sender), threads[index]? = some sender →
    index + 1 < threads.length → sender.leaving = true

structure ChainRun (state : State) : Prop where
  chain : Chain state.threads
  unstarted : state.starter.unstarted = true → state.threads = []
  released : state.pvt.destroyed = true →
    state.threads ≠ [] ∧ ∀ sender ∈ state.threads, sender.leaving = true

variable {threads : List Sender} {index : Nat} {sender sender' : Sender}

/-- A thread that is still inside its body is the last one. -/
theorem Chain.last (chain : Chain threads)
    (located : threads[index]? = some sender)
    (active : sender.leaving = false) : index + 1 = threads.length := by
  have inRange : index < threads.length :=
    (List.getElem?_eq_some_iff.mp located).1
  by_contra notLast
  rw [chain index sender located (by omega)] at active
  cases active

/-- The threads after a step of one of them. -/
theorem thread_cases {created : Bool} {position : Nat} {other : Sender}
    (located : threads[index]? = some sender)
    (found : (threads.set index sender' ++
      if created then [Sender.initial] else [])[position]? = some other) :
    (position = index ∧ other = sender') ∨
      (position ≠ index ∧ threads[position]? = some other) ∨
      (created = true ∧ position = threads.length ∧
        other = Sender.initial) := by
  have inRange : index < threads.length :=
    (List.getElem?_eq_some_iff.mp located).1
  rw [List.getElem?_append] at found
  split at found
  · rw [List.getElem?_set] at found
    split at found
    next same => exact .inl ⟨same.symm, (Option.some.inj found).symm⟩
    next different => exact .inr (.inl ⟨Ne.symm different, found⟩)
  next past =>
    cases created with
    | false => simp at found
    | true =>
        have member := List.mem_of_getElem? found
        have bound := (List.getElem?_eq_some_iff.mp found).1
        simp only [if_true, List.mem_singleton] at member
        simp only [List.length_set] at past bound
        simp at bound
        exact .inr (.inr ⟨rfl, by omega, member⟩)

theorem set_cases {position : Nat} {other : Sender}
    (located : threads[index]? = some sender)
    (found : (threads.set index sender')[position]? = some other) :
    (position = index ∧ other = sender') ∨
      (position ≠ index ∧ threads[position]? = some other) := by
  have extended := @thread_cases threads index sender sender' false position
    other located (by simpa using found)
  rcases extended with here | elsewhere | ⟨never, _⟩
  · exact .inl here
  · exact .inr elsewhere
  · cases never

variable {config : Config} {clock : Nat} {choice : SenderChoice}
  {pvt after : Pvt} {history history' : History} {created : Bool}

theorem Edge.not_leaving {source target : SenderPc}
    (edge : Edge config pvt sender source target) : source.leaving = false := by
  cases edge <;> rfl

theorem Sender.readsTo.not_leaving {queue : AudioQueue}
    {result : AudioQueue.ReadResult}
    (here : sender.readsTo choice queue result) : sender.leaving = false := by
  unfold Sender.leaving
  rcases here with ⟨here, _⟩ | ⟨_, here, _⟩ <;> rw [here] <;> rfl

theorem SenderPc.givesUp_not_leaving {pc : SenderPc}
    (here : pc.givesUp = true) : pc.leaving = false := by
  cases pc <;> first | rfl | cases here

/-- A leaving thread only waits for its event loop. -/
theorem senderStep_leaving (leaving : sender.leaving = true)
    (stepped : senderStep config clock choice pvt history sender =
      some (after, sender', history', created)) :
    after = pvt ∧ history' = history ∧ created = false ∧
      sender.pc = .unwinding ∧
      sender' = { sender with socket := .closed, pc := .ended } := by
  have elsewhere : sender.leaving ≠ false := by simp [leaving]
  cases senderStep_moves stepped with
  | leave here => exact ⟨rfl, rfl, rfl, here, rfl⟩
  | goto edge => exact (elsewhere edge.not_leaving).elim
  | read here ends => exact (elsewhere here.not_leaving).elim
  | destroy here => exact (elsewhere (SenderPc.givesUp_not_leaving here)).elim
  | _ here =>
      exact (elsewhere (by simp [Sender.leaving, SenderPc.leaving, here])).elim

/-- A successor is created at one position. -/
theorem senderStep_created
    (stepped : senderStep config clock choice pvt history sender =
      some (after, sender', history', true)) :
    sender.pc = .createThread ∧ after = pvt ∧ history' = history ∧
      sender' = { sender with
        pc := .unwinding, successors := sender.successors + 1 } := by
  cases senderStep_moves stepped with
  | handOn here => exact ⟨here, rfl, rfl, rfl⟩

/-- The session is released at one position. -/
theorem senderStep_released (alive : pvt.destroyed = false)
    (released : after.destroyed = true)
    (stepped : senderStep config clock choice pvt history sender =
      some (after, sender', history', created)) :
    sender.pc = .destroyRelease ∧ created = false ∧ history' = history ∧
      sender' = { sender with pc := .unwinding } := by
  cases senderStep_moves stepped with
  | release here => exact ⟨here, rfl, rfl, rfl⟩
  | _ =>
      have contradiction := alive.symm.trans released
      cases contradiction

theorem Sender.wake_leaving (sender : Sender) :
    sender.wake.leaving = sender.leaving := by
  unfold Sender.wake
  split
  next here => simp [Sender.leaving, SenderPc.leaving, here]
  next => rfl

theorem Chain.map_wake (chain : Chain threads) :
    Chain (threads.map Sender.wake) := by
  intro position other found earlier
  simp only [List.getElem?_map, Option.map_eq_some_iff,
    List.length_map] at found earlier
  obtain ⟨sleeper, located, rfl⟩ := found
  rw [Sender.wake_leaving]
  exact chain position sleeper located earlier

/-- Replacing a thread by one that is leaving if it was. -/
theorem Chain.set (chain : Chain threads)
    (located : threads[index]? = some sender)
    (kept : sender.leaving = true → sender'.leaving = true) :
    Chain (threads.set index sender') := by
  intro position other found earlier
  rw [List.length_set] at earlier
  rcases set_cases located found with ⟨rfl, rfl⟩ | ⟨_, elsewhere⟩
  · exact kept (chain position sender located earlier)
  · exact chain position other elsewhere earlier

end Chain

section ChainSteps

variable {config : Config} {before after : State}

theorem ne_nil_of_located {threads : List Sender} {index : Nat}
    {sender : Sender} (located : threads[index]? = some sender) :
    threads ≠ [] := by
  rintro rfl
  simp at located

theorem ChainRun.of_frame (run : ChainRun before)
    (threads : after.threads = before.threads)
    (starter : after.starter.unstarted = true →
      before.starter.unstarted = true)
    (destroyed : after.pvt.destroyed = before.pvt.destroyed) :
    ChainRun after := by
  refine ⟨threads ▸ run.chain, fun unstarted => ?_, fun released => ?_⟩
  · exact threads ▸ run.unstarted (starter unstarted)
  · exact threads ▸ run.released (destroyed ▸ released)

/-- Replacing a thread by one that is leaving if it was. -/
theorem ChainRun.of_set {index : Nat} {sender sender' : Sender}
    (run : ChainRun before)
    (located : before.threads[index]? = some sender)
    (threads : after.threads = before.threads.set index sender')
    (kept : sender.leaving = true → sender'.leaving = true)
    (starter : after.starter = before.starter)
    (destroyed : after.pvt.destroyed = before.pvt.destroyed) :
    ChainRun after := by
  refine ⟨threads ▸ run.chain.set located kept, fun unstarted => ?_,
    fun released => ?_⟩
  · rw [starter] at unstarted
    exact (ne_nil_of_located located (run.unstarted unstarted)).elim
  · rw [destroyed] at released
    obtain ⟨some, leaving⟩ := run.released released
    refine ⟨by simpa [threads] using some, ?_⟩
    intro other member
    rw [threads] at member
    rcases List.mem_or_eq_of_mem_set member with old | rfl
    · exact leaving other old
    · exact kept (leaving sender (List.mem_of_getElem? located))

/-- A session with a thread inside its body has not been released. -/
theorem ChainRun.alive_of_active {index : Nat} {sender : Sender}
    (run : ChainRun before)
    (located : before.threads[index]? = some sender)
    (active : sender.leaving = false) : before.pvt.destroyed = false := by
  by_contra released
  have all := (run.released (by simpa using released)).2
  rw [all sender (List.mem_of_getElem? located)] at active
  cases active

theorem ChainRun.threadStep {index : Nat} {choice : SenderChoice}
    (run : ChainRun before)
    (stepped : before.step config (.threadStep index choice) = some after) :
    ChainRun after := by
  obtain ⟨sender, located, pvt, sender', history, created, agent, rfl⟩ :=
    step_threadStep stepped
  by_cases leaving : sender.leaving = true
  · obtain ⟨rfl, rfl, rfl, _, rfl⟩ := senderStep_leaving leaving agent
    exact run.of_set located (List.append_nil _) (fun _ => rfl) rfl rfl
  rw [Bool.not_eq_true] at leaving
  have atEnd := run.chain.last located leaving
  have alive := run.alive_of_active located leaving
  refine ⟨?_, fun unstarted =>
    (ne_nil_of_located located (run.unstarted unstarted)).elim, ?_⟩
  · intro position other found earlier
    rcases thread_cases located found with
      ⟨rfl, rfl⟩ | ⟨elsewhere, old⟩ | ⟨rfl, new, _⟩
    · cases created with
      | false =>
          simp only [Bool.false_eq_true, if_false, List.append_nil,
            List.length_set] at earlier
          omega
      | true =>
          obtain ⟨_, _, _, rfl⟩ := senderStep_created agent
          rfl
    · have inRange := (List.getElem?_eq_some_iff.mp old).1
      exact run.chain position other old (by omega)
    · simp only [if_true, List.length_append, List.length_set,
        List.length_singleton] at earlier
      omega
  · intro released
    obtain ⟨here, rfl, rfl, rfl⟩ := senderStep_released alive released agent
    refine ⟨by simpa using ne_nil_of_located located, ?_⟩
    intro other member
    obtain ⟨position, found⟩ := List.getElem?_of_mem member
    rcases thread_cases located found with
      ⟨_, rfl⟩ | ⟨elsewhere, old⟩ | ⟨never, _⟩
    · rfl
    · have inRange := (List.getElem?_eq_some_iff.mp old).1
      exact run.chain position other old (by omega)
    · cases never

theorem ChainRun.step {action : Action} (run : ChainRun before)
    (stepped : before.step config action = some after) : ChainRun after := by
  cases step_moves stepped with
  | around _ earlier => exact run.of_frame rfl earlier rfl
  | create here =>
      have none := run.unstarted (by simp [here, StartPc.unstarted])
      refine ⟨?_, fun unstarted => (by cases unstarted), fun released =>
        ((run.released released).1 none).elim⟩
      intro position other _ earlier
      simp [none] at earlier
  | thread => exact run.threadStep stepped
  | callbackStart located agent =>
      obtain ⟨_, _, rfl⟩ := callbackStart_writes agent
      exact run.of_set located rfl id rfl rfl
  | callback located agent =>
      obtain ⟨⟨_, _, rfl⟩, ⟨_, _, _, _, _, rfl⟩, _⟩ :=
        callbackStep_writes agent
      exact run.of_set located rfl id rfl rfl
  | readStart => exact run.of_frame rfl id rfl
  | read agent =>
      obtain ⟨⟨_, _, rfl⟩, _⟩ := readStep_writes agent
      exact run.of_frame rfl id rfl
  | close agent =>
      obtain ⟨⟨_, _, _, rfl⟩, rfl | rfl⟩ := closeStep_writes agent
      · exact run.of_frame rfl id rfl
      · refine ⟨run.chain.map_wake, fun unstarted => ?_, fun released => ?_⟩
        · simp [run.unstarted unstarted]
        · obtain ⟨some, leaving⟩ := run.released released
          refine ⟨by simpa using some, ?_⟩
          intro other member
          obtain ⟨sleeper, inThreads, rfl⟩ := List.mem_map.mp member
          rw [Sender.wake_leaving]
          exact leaving sleeper inThreads

theorem chainRun_of_reach {permits : State → Action → Prop} {now : Nat}
    {state : State}
    (reached : PermittedReach (State.step config) permits
      (State.initial now) state) : ChainRun state :=
  reached.invariant
    ⟨fun _ _ found => by simp [State.initial] at found, fun _ => rfl,
      fun released => by cases released⟩
    fun _ _ _ run _ stepped => run.step stepped

end ChainSteps

section EveryThread

variable {config : Config} {before after : State} {holds : Sender → Prop}

/-- What holds of every thread and is kept by the steps of a thread and of its
callbacks still holds of every thread. -/
theorem forall_threads_step {action : Action}
    (all : ∀ sender ∈ before.threads, holds sender)
    (initial : holds Sender.initial)
    (threads : ∀ index choice sender pvt sender' history created,
      action = .threadStep index choice →
      before.threads[index]? = some sender →
      senderStep config before.clock choice before.pvt before.history sender =
        some (pvt, sender', history, created) →
      holds sender → holds sender')
    (starts : ∀ sender sender' event,
      callbackStart sender event = some sender' →
      holds sender → holds sender')
    (callbacks : ∀ sender pvt sender' history,
      callbackStep config before.pvt before.history sender =
        some (pvt, sender', history) →
      holds sender → holds sender')
    (wakes : ∀ sender, holds sender → holds sender.wake)
    (stepped : before.step config action = some after) :
    ∀ sender ∈ after.threads, holds sender := by
  have ofSet {index : Nat} {sender sender' : Sender}
      (located : before.threads[index]? = some sender)
      (kept : holds sender → holds sender') :
      ∀ other ∈ before.threads.set index sender', holds other := by
    intro other member
    rcases List.mem_or_eq_of_mem_set member with old | rfl
    · exact all other old
    · exact kept (all sender (List.mem_of_getElem? located))
  cases step_moves stepped with
  | create =>
      intro other member
      rcases List.mem_append.mp member with old | new
      · exact all other old
      · exact List.mem_singleton.mp new ▸ initial
  | @thread _ _ _ _ _ _ created located agent =>
      intro other member
      rcases List.mem_append.mp member with old | new
      · exact ofSet located (threads _ _ _ _ _ _ _ rfl located agent) other old
      · cases created with
        | false => cases new
        | true => exact List.mem_singleton.mp new ▸ initial
  | callbackStart located agent => exact ofSet located (starts _ _ _ agent)
  | callback located agent => exact ofSet located (callbacks _ _ _ _ agent)
  | close agent =>
      obtain ⟨_, rfl | rfl⟩ := closeStep_writes agent
      · exact all
      · intro other member
        obtain ⟨sender, old, rfl⟩ := List.mem_map.mp member
        exact wakes sender (all sender old)
  | _ => exact all

end EveryThread

end FunAsr

end SpeechModules
