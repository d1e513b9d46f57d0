import SpeechModules.FunAsrFrames

/-!
# Recognition after a reconnection

The guards of the READ callback and of `fireAsrEvent` look at `ws_connected` and
`ws_closed`, which live as long as the session, while each connection attempt
has flags of its own.  `ws_closed` is never cleared, so once a connection has
been closed a later one receives no audio and fires no events.
-/

namespace SpeechModules

namespace FunAsr

open StepSystem

/-- The current thread's websocket has run `onopen` and not `onclose`, and the
session has not been hung up. -/
structure State.Connected (state : State) (index : Nat) (sender : Sender) :
    Prop where
  located : state.threads[index]? = some sender
  last : index + 1 = state.threads.length
  running : state.pvt.hangup = false
  ranOpen : sender.ranOpen = true
  notClosed : sender.ranClose = false

/-- What the READ callback passes to `audio_queue_write` for a frame. -/
def Pvt.audioOf (pvt : Pvt) (frame : Bytes) : Bytes :=
  if pvt.paused ≠ 0 then List.replicate frame.length 0 else frame

/-- The session after a READ callback has written a frame to the queue. -/
def State.afterFrame (state : State) (frame : Bytes) : State :=
  let data := state.pvt.audioOf frame
  let (queue, accepted) := state.pvt.audioQueue.write data
  { state with
    pvt := { state.pvt with audioQueue := queue }
    reader := ⟨.idle, some frame⟩
    history := if accepted then
        { state.history with accepted := state.history.accepted ++ [data] }
      else state.history }

/-- A message that is an object with string members `mode` and `text`. -/
structure Message.Recognition (message : Message) (mode text : String) :
    Prop where
  nonempty : message.text ≠ ""
  members : ∃ root, message.document = some root ∧
    (root.member? "mode").bind Json.string? = some mode ∧
    (root.member? "text").bind Json.string? = some text

/-- Over a connection that is up, a READ callback writes its frame and a
recognised text is fired; `fireAsrEvent` is called only under `parse_json`. -/
structure RecognitionLive (config : Config) (state : State) : Prop where
  audio : ∀ index sender, state.Connected index sender →
    ∀ frame started, frame ≠ [] →
      state.step config (.readStart (some frame)) = some started →
      state.pvt.destroyed = false ∧
        replay (State.step config) started (List.replicate 9 .readStep) =
          some (state.afterFrame frame)
  events : ∀ index sender, state.Connected index sender →
    config.parseJson = true → ∀ message mode text started,
      Message.Recognition message mode text →
      state.step config (.callbackStart index (.message message)) =
        some started →
      ∃ after,
        replay (State.step config) started
          (List.replicate 3 (.callbackStep index)) = some after ∧
        after.history.events = state.history.events ++
          [.speech (cString text) (cString mode == offlineMode)]

/-! ## The second connection -/

/-- The server closes the first connection and the session reconnects. -/
def reconnectSchedule : List Action :=
  startSchedule ++ connectSchedule 0 ++ disconnectSchedule 0 ++
    handOnSchedule 0 ++ connectSchedule 1

theorem recognitionLive_fails :
    ¬ ∀ (config : Config) (state : State),
      Reach (State.step config) (State.initial 0) state →
        RecognitionLive config state := by
  intro always
  obtain ⟨state, reached, deaf⟩ :=
    exists_reach_of_replay (State.step .retryOnce) (State.initial 0)
      reconnectSchedule
      (fun state =>
        (state.threads[1]?.any fun sender =>
          sender.ranOpen && !sender.ranClose) &&
        state.threads.length == 2 && !state.pvt.hangup &&
        (state.step .retryOnce (.readStart (some [1]))).any fun started =>
          (replay (State.step .retryOnce) started
            (List.replicate 9 .readStep)).isNone)
      (by decide)
  simp only [Bool.and_eq_true, Option.any_eq_true, beq_iff_eq,
    Bool.not_eq_true', Option.isNone_iff_eq_none] at deaf
  obtain ⟨⟨⟨⟨sender, located, ranOpen, notClosed⟩, length⟩, running⟩,
    started, entered, refused⟩ := deaf
  have written := ((always .retryOnce state reached).audio 1 sender
    ⟨located, length.symm, running, ranOpen, notClosed⟩ [1] started
    (by simp) entered).2
  rw [refused] at written
  cases written

/-! ## Runs without a connection after a closed one -/

/-- A connection of the current thread opens only while `ws_closed` has not been
set, and `destroy` does not go on before the session has been hung up. -/
def freshConnections (state : State) : Action → Bool
  | .callbackStep index =>
      match state.threads[index]? with
      | none => true
      | some sender =>
          match sender.callback with
          | .openShare =>
              state.pvt.hangup || !state.pvt.wsClosed ||
                decide (index + 1 < state.threads.length)
          | _ => true
  | .threadStep index _ =>
      match state.threads[index]? with
      | none => true
      | some sender =>
          match sender.pc with
          | .destroyWait => state.pvt.hangup
          | _ => true
  | _ => true

/-- The READ callback holds `write_mutex`. -/
def ReadPc.locked : ReadPc → Bool
  | .bugRead | .loadPaused _ | .write _ | .signal | .unlock => true
  | _ => false

/-- The CLOSE callback has hung up and not returned. -/
def ClosePc.signalling : ClosePc → Bool
  | .lock | .signal | .unlock => true
  | _ => false

/-- How the flags of a thread are related to the shared ones. -/
structure ThreadFlags (pvt : Pvt) (sender : Sender) : Prop where
  opened : sender.ranOpen = true → pvt.wsConnected = true
  closed : sender.closed = true → sender.ranClose = true
  storing : sender.pc = .storeClosed → sender.closed = true
  woken : sender.pc = .destroyWoken ∨ sender.pc = .destroyRelease →
    pvt.hangup = true

structure ReconnectRun (state : State) : Prop where
  threads : ∀ sender ∈ state.threads, ThreadFlags state.pvt sender
  current : state.pvt.hangup = false → state.pvt.wsClosed = true →
    ∀ (index : Nat) (sender : Sender), state.threads[index]? = some sender →
      index + 1 = state.threads.length →
      sender.ranOpen = false ∨ sender.ranClose = true
  mutex : state.pvt.writeMutex = true →
    state.reader.pc.locked = true ∨ state.pvt.hangup = true
  closer : state.closer.signalling = true → state.pvt.hangup = true
  released : state.pvt.destroyed = true → state.pvt.hangup = true

section Callbacks

variable {config : Config} {state : State}

/-- A READ callback that finds the connection up runs to its end. -/
theorem replay_readStep {frame : Bytes} {started : State}
    (running : state.pvt.hangup = false)
    (connected : state.pvt.wsConnected = true)
    (notClosed : state.pvt.wsClosed = false)
    (unlocked : state.pvt.writeMutex = false) (nonempty : frame ≠ [])
    (entered : state.step config (.readStart (some frame)) = some started) :
    replay (State.step config) started (List.replicate 9 .readStep) =
      some (state.afterFrame frame) := by
  obtain ⟨_, _, rfl⟩ := step_readStart entered
  obtain ⟨byte, rest, rfl⟩ := List.exists_cons_of_ne_nil nonempty
  simp [List.replicate, replay, State.step, readStep, running, connected,
    notClosed, unlocked, State.afterFrame, Pvt.audioOf]

/-- A recognised text passes the guards of `onmessage` and `fireAsrEvent`. -/
theorem replay_message {index : Nat} {sender : Sender} {message : Message}
    {mode text : String} {started : State}
    (located : state.threads[index]? = some sender)
    (parse : config.parseJson = true)
    (alive : state.pvt.destroyed = false)
    (notClosed : state.pvt.wsClosed = false)
    (recognition : Message.Recognition message mode text)
    (entered : state.step config (.callbackStart index (.message message)) =
      some started) :
    ∃ after,
      replay (State.step config) started
        (List.replicate 3 (.callbackStep index)) = some after ∧
      after.history.events = state.history.events ++
        [.speech (cString text) (cString mode == offlineMode)] := by
  obtain ⟨_, found, _, agent, rfl⟩ := step_callbackStart entered
  cases located.symm.trans found
  obtain ⟨root, document, modeIs, textIs⟩ := recognition.members
  have inRange := (List.getElem?_eq_some_iff.mp located).1
  have speech : readSpeech message.document =
      some (cString text, cString mode == offlineMode) := by
    simp [readSpeech, document, modeIs, textIs]
  simp only [callbackStart, recognition.nonempty, if_false] at agent
  split at agent
  · cases agent
    simp [List.replicate, replay, State.step, callbackStep, inRange, alive,
      parse, speech, notClosed]
  · cases agent

end Callbacks

/-- What the shared flags say about the current connection. -/
theorem ReconnectRun.live {config : Config} {state : State}
    (run : ReconnectRun state) : RecognitionLive config state := by
  have flags : ∀ index sender, state.Connected index sender →
      state.pvt.wsConnected = true ∧ state.pvt.wsClosed = false ∧
        state.pvt.destroyed = false := by
    intro index sender connected
    have member := List.mem_of_getElem? connected.located
    refine ⟨(run.threads sender member).opened connected.ranOpen, ?_, ?_⟩
    · by_contra stale
      have fresh := run.current connected.running (by simpa using stale) index
        sender connected.located connected.last
      simp [connected.ranOpen, connected.notClosed] at fresh
    · by_contra released
      have hungUp := run.released (by simpa using released)
      rw [connected.running] at hungUp
      cases hungUp
  refine ⟨?_, ?_⟩
  · intro index sender connected frame started nonempty entered
    obtain ⟨shared, notClosed, alive⟩ := flags index sender connected
    refine ⟨alive, ?_⟩
    have unlocked : state.pvt.writeMutex = false := by
      by_contra held
      have idle := (step_readStart entered).2.1
      have holder := run.mutex (by simpa using held)
      simp [idle, ReadPc.locked, connected.running] at holder
    exact replay_readStep connected.running shared notClosed unlocked nonempty
      entered
  · intro index sender connected parse message mode text started recognition
      entered
    obtain ⟨_, notClosed, alive⟩ := flags index sender connected
    exact replay_message connected.located parse alive notClosed recognition
      entered

section Threads

variable {config : Config} {clock : Nat} {choice : SenderChoice}
  {pvt after : Pvt} {history history' : History} {sender sender' : Sender}

theorem ThreadFlags.mono (flags : ThreadFlags pvt sender)
    (connected : pvt.wsConnected = true → after.wsConnected = true)
    (hangup : pvt.hangup = true → after.hangup = true) :
    ThreadFlags after sender :=
  ⟨fun ran => connected (flags.opened ran), flags.closed, flags.storing,
    fun here => hangup (flags.woken here)⟩

theorem threadFlags_initial : ThreadFlags pvt Sender.initial := by
  refine ⟨?_, ?_, ?_, ?_⟩ <;> simp [Sender.initial]

theorem Edge.arrives {source target : SenderPc}
    (edge : Edge config pvt sender source target) :
    (target = .storeClosed → sender.closed = true) ∧
      (target = .destroyWoken → source = .destroyWait) ∧
      (target = .destroyRelease → pvt.hangup = true) := by
  cases edge <;> simp_all

/-- How a thread comes to the positions that its flags are about. -/
theorem senderStep_arrives {created : Bool}
    (stepped : senderStep config clock choice pvt history sender =
      some (after, sender', history', created)) :
    (sender'.pc = .storeClosed → sender.closed = true) ∧
      (sender'.pc = .destroyWoken → sender.pc = .destroyWait) ∧
      (sender'.pc = .destroyRelease →
        sender.pc = .destroyWoken ∨ pvt.hangup = true) := by
  cases senderStep_moves stepped with
  | goto edge =>
      obtain ⟨storing, woken, released⟩ := edge.arrives
      exact ⟨storing, woken, fun here => .inr (released here)⟩
  | read _ ends => cases ends <;> simp
  | lock here => simp [here]
  | _ => simp [Sender.enterDestroy]

theorem senderStep_flags {created : Bool} (flags : ThreadFlags pvt sender)
    (waits : sender.pc = .destroyWait → pvt.hangup = true)
    (stepped : senderStep config clock choice pvt history sender =
      some (after, sender', history', created)) :
    ThreadFlags after sender' := by
  obtain ⟨storing, woken, released⟩ := senderStep_arrives stepped
  obtain ⟨⟨_, _, _, _, _, rfl⟩, ⟨pc, _, _, _, rfl⟩, _⟩ :=
    senderStep_writes stepped
  refine ⟨flags.opened, flags.closed, storing, ?_⟩
  rintro (here | here)
  · exact waits (woken here)
  · rcases released here with before | hungUp
    · exact flags.woken (.inl before)
    · exact hungUp

/-- Where a thread writes the flags that the callbacks test. -/
theorem senderStep_shared {created : Bool}
    (stepped : senderStep config clock choice pvt history sender =
      some (after, sender', history', created)) :
    (after.wsClosed = pvt.wsClosed ∨ sender.pc = .storeClosed) ∧
      (after.writeMutex = pvt.writeMutex ∨ sender.pc = .destroyWoken) ∧
      (after.destroyed = pvt.destroyed ∨ sender.pc = .destroyRelease) := by
  cases senderStep_moves stepped with
  | storeClosed here => exact ⟨.inr here, .inl rfl, .inl rfl⟩
  | lock here => exact ⟨.inl rfl, .inr here, .inl rfl⟩
  | release here => exact ⟨.inl rfl, .inl rfl, .inr here⟩
  | _ => exact ⟨.inl rfl, .inl rfl, .inl rfl⟩

theorem callbackStep_flags (flags : ThreadFlags pvt sender)
    (stepped : callbackStep config pvt history sender =
      some (after, sender', history')) :
    ThreadFlags after sender' := by
  obtain ⟨opened, closed, storing, woken⟩ := flags
  cases here : sender.callback <;> simp only [callbackStep, here] at stepped
  case openShare =>
    cases stepped
    exact ⟨fun _ => rfl, closed, storing, woken⟩
  case closeStore =>
    cases stepped
    exact ⟨opened, fun _ => rfl, fun _ => rfl, woken⟩
  all_goals try split at stepped
  all_goals try split at stepped
  all_goals try split at stepped
  all_goals first
    | (cases stepped; done)
    | (cases stepped; exact ⟨opened, closed, storing, woken⟩)

/-- A callback keeps the current thread's connection fresh, unless it opens it
after `ws_closed` has been set. -/
theorem callbackStep_fresh
    (stepped : callbackStep config pvt history sender =
      some (after, sender', history'))
    (fresh : sender.callback ≠ .openShare) :
    (sender.ranOpen = false ∨ sender.ranClose = true) →
      sender'.ranOpen = false ∨ sender'.ranClose = true := by
  cases here : sender.callback <;> simp only [callbackStep, here] at stepped
  case openShare => exact (fresh here).elim
  case closeStore =>
    cases stepped
    exact fun _ => .inr rfl
  all_goals try split at stepped
  all_goals try split at stepped
  all_goals try split at stepped
  all_goals first
    | (cases stepped; done)
    | (cases stepped; exact id)

end Threads

section Media

variable {pvt after : Pvt} {history history' : History}

theorem readStep_mutex {reader reader' : Reader}
    (mutex : pvt.writeMutex = true →
      reader.pc.locked = true ∨ pvt.hangup = true)
    (stepped : readStep pvt history reader = some (after, reader', history'))
    (held : after.writeMutex = true) :
    reader'.pc.locked = true ∨ pvt.hangup = true := by
  cases here : reader.pc <;> simp only [readStep, here] at stepped
  all_goals try split at stepped
  all_goals first
    | (cases stepped; done)
    | (cases stepped; simp_all [ReadPc.locked])

theorem closeStep_flags {threads threads' : List Sender}
    {closer closer' : ClosePc}
    (hungUp : closer.signalling = true → pvt.hangup = true)
    (stepped : closeStep pvt threads closer =
      some (after, threads', closer')) :
    (closer'.signalling = true → after.hangup = true) ∧
      (after.writeMutex = true → pvt.writeMutex = true ∨
        pvt.hangup = true) ∧
      (threads' = threads ∨
        (pvt.hangup = true ∧ threads' = threads.map Sender.wake)) := by
  cases closer <;> simp only [closeStep] at stepped
  all_goals try split at stepped
  all_goals first
    | (cases stepped; done)
    | (cases stepped; simp_all [ClosePc.signalling])

end Media

section Runs

variable {config : Config} {before after : State}

/-- Steps that leave the threads and the flags alone. -/
theorem ReconnectRun.of_frame (run : ReconnectRun before)
    (threads : after.threads = before.threads)
    (flags : ∃ paused queue, after.pvt =
      { before.pvt with paused := paused, audioQueue := queue })
    (reader : before.reader.pc.locked = true →
      after.reader.pc.locked = true)
    (closer : after.closer.signalling = true →
      before.closer.signalling = true) : ReconnectRun after := by
  obtain ⟨_, _, flags⟩ := flags
  refine ⟨?_, ?_, ?_, ?_, ?_⟩
  · rw [threads]
    exact fun sender member => (run.threads sender member).mono
      (by rw [flags]; exact id) (by rw [flags]; exact id)
  · rw [threads, flags]
    exact run.current
  · rw [flags]
    exact fun held => (run.mutex held).imp_left reader
  · rw [flags]
    exact fun signalling => run.closer (closer signalling)
  · rw [flags]
    exact run.released

theorem ReconnectRun.threadStep {index : Nat} {choice : SenderChoice}
    (chain : ChainRun before) (run : ReconnectRun before)
    (permitted : freshConnections before (.threadStep index choice) = true)
    (stepped : before.step config (.threadStep index choice) = some after) :
    ReconnectRun after := by
  obtain ⟨sender, located, pvt, sender', history, created, agent, rfl⟩ :=
    step_threadStep stepped
  have member := List.mem_of_getElem? located
  have flags := run.threads sender member
  have waits : sender.pc = .destroyWait → before.pvt.hangup = true := by
    intro here
    simpa [freshConnections, located, here] using permitted
  have kept := senderStep_flags flags waits agent
  obtain ⟨wsClosed, mutex, destroyed⟩ := senderStep_shared agent
  obtain ⟨⟨_, _, _, _, _, shared⟩, ⟨_, _, _, _, own⟩, _⟩ :=
    senderStep_writes agent
  have hangup : pvt.hangup = before.pvt.hangup := by rw [shared]
  have connected : pvt.wsConnected = before.pvt.wsConnected := by rw [shared]
  refine ⟨?_, ?_, ?_, ?_, ?_⟩
  · intro other found
    obtain ⟨position, there⟩ := List.getElem?_of_mem found
    rcases thread_cases located there with
      ⟨_, rfl⟩ | ⟨_, old⟩ | ⟨_, _, rfl⟩
    · exact kept
    · exact (run.threads other (List.mem_of_getElem? old)).mono
        (connected ▸ id) (hangup ▸ id)
    · exact threadFlags_initial
  · intro running stale position other there isLast
    have inRange := (List.getElem?_eq_some_iff.mp located).1
    simp only [List.length_append, List.length_set] at isLast
    have oldLast : position < before.threads.length →
        position + 1 = before.threads.length := by
      split at isLast <;> simp at isLast <;> omega
    rcases thread_cases located there with
      ⟨rfl, rfl⟩ | ⟨elsewhere, old⟩ | ⟨_, _, rfl⟩
    · rw [own]
      rcases wsClosed with same | here
      · exact run.current (hangup ▸ running) (same ▸ stale) position sender
          located (oldLast inRange)
      · exact .inr (flags.closed (flags.storing here))
    · have last := oldLast (List.getElem?_eq_some_iff.mp old).1
      rcases wsClosed with same | here
      · exact run.current (hangup ▸ running) (same ▸ stale) position other old
          last
      · have alsoLast :=
          chain.chain.last located (by simp [Sender.leaving, SenderPc.leaving, here])
        omega
    · exact .inl rfl
  · intro held
    show _ ∨ pvt.hangup = true
    rw [hangup]
    rcases mutex with same | here
    · exact run.mutex (same ▸ held)
    · exact .inr (flags.woken (.inl here))
  · intro signalling
    show pvt.hangup = true
    rw [hangup]
    exact run.closer signalling
  · intro released
    show pvt.hangup = true
    rw [hangup]
    rcases destroyed with same | here
    · exact run.released (same ▸ released)
    · exact flags.woken (.inr here)

theorem ReconnectRun.callbackStep {index : Nat} (run : ReconnectRun before)
    (permitted : freshConnections before (.callbackStep index) = true)
    (stepped : before.step config (.callbackStep index) = some after) :
    ReconnectRun after := by
  obtain ⟨sender, located, pvt, sender', history, agent, rfl⟩ :=
    step_callbackStep stepped
  have flags := run.threads sender (List.mem_of_getElem? located)
  have kept := callbackStep_flags flags agent
  have fresh := callbackStep_fresh agent
  obtain ⟨⟨wsConnected, connected, rfl⟩, _⟩ := callbackStep_writes agent
  refine ⟨?_, ?_, run.mutex, run.closer, run.released⟩
  · intro other found
    obtain ⟨position, there⟩ := List.getElem?_of_mem found
    rcases set_cases located there with ⟨_, rfl⟩ | ⟨_, old⟩
    · exact kept
    · exact (run.threads other (List.mem_of_getElem? old)).mono connected id
  · intro running stale position other there isLast
    have last : position + 1 = before.threads.length := by
      simpa using isLast
    rcases set_cases located there with ⟨rfl, rfl⟩ | ⟨elsewhere, old⟩
    · refine fresh (fun opening => ?_)
        (run.current running stale position sender located last)
      simp only at running stale
      simp [freshConnections, located, opening, running, stale] at permitted
      omega
    · exact run.current running stale position other old last

theorem ReconnectRun.closeStep (run : ReconnectRun before)
    (stepped : before.step config .closeStep = some after) :
    ReconnectRun after := by
  obtain ⟨pvt, threads, closer, agent, rfl⟩ := step_closeStep stepped
  obtain ⟨signalling, mutex, woken⟩ := closeStep_flags run.closer agent
  obtain ⟨⟨hangup, writeMutex, hungUp, rfl⟩, _⟩ := closeStep_writes agent
  have running : hangup = false → before.pvt.hangup = false := by
    intro notYet
    by_contra already
    rw [hungUp (by simpa using already)] at notYet
    cases notYet
  refine ⟨?_, ?_, ?_, signalling, fun released =>
    hungUp (run.released released)⟩
  · rcases woken with rfl | ⟨already, rfl⟩
    · exact fun sender member => (run.threads sender member).mono id hungUp
    · intro sender member
      obtain ⟨sleeper, inThreads, rfl⟩ := List.mem_map.mp member
      have flags := run.threads sleeper inThreads
      unfold Sender.wake
      split
      · exact ⟨flags.opened, flags.closed, fun never => (by cases never),
          fun _ => hungUp already⟩
      · exact flags.mono id hungUp
  · intro notYet stale position other there isLast
    rcases woken with rfl | ⟨already, _⟩
    · exact run.current (running notYet) stale position other there isLast
    · rw [running notYet] at already
      cases already
  · intro held
    rcases mutex held with alreadyHeld | already
    · exact (run.mutex alreadyHeld).imp_right hungUp
    · exact .inr (hungUp already)

theorem ReconnectRun.step {action : Action} (chain : ChainRun before)
    (run : ReconnectRun before)
    (permitted : freshConnections before action = true)
    (stepped : before.step config action = some after) :
    ReconnectRun after := by
  cases step_moves stepped with
  | around closing =>
      refine run.of_frame rfl ⟨_, _, rfl⟩ id ?_
      rcases closing with rfl | rfl
      · exact id
      · exact fun never => by cases never
  | create here =>
      have none := chain.unstarted (by simp [here, StartPc.unstarted])
      refine ⟨?_, ?_, run.mutex, run.closer, run.released⟩
      · intro sender member
        simp only [none, List.nil_append, List.mem_singleton] at member
        rw [member]
        exact threadFlags_initial
      · intro _ _ position sender there _
        have first : sender = Sender.initial := by
          simpa [none] using List.mem_of_getElem? there
        rw [first]
        exact .inl rfl
  | thread => exact run.threadStep chain permitted stepped
  | @callbackStart index event sender sender' located agent =>
      obtain ⟨_, _, rfl⟩ := callbackStart_writes agent
      have flags := run.threads sender (List.mem_of_getElem? located)
      refine ⟨?_, ?_, run.mutex, run.closer, run.released⟩
      · intro other found
        rcases List.mem_or_eq_of_mem_set found with old | rfl
        · exact run.threads other old
        · exact ⟨flags.opened, flags.closed, flags.storing, flags.woken⟩
      · intro running stale position other there isLast
        have last : position + 1 = before.threads.length := by
          simpa using isLast
        rcases set_cases located there with ⟨rfl, rfl⟩ | ⟨_, old⟩
        · exact run.current running stale position sender located last
        · exact run.current running stale position other old last
  | callback => exact run.callbackStep permitted stepped
  | readStart idle =>
      refine run.of_frame rfl ⟨_, _, rfl⟩ ?_ id
      simp [idle, ReadPc.locked]
  | read agent =>
      have mutex := readStep_mutex run.mutex agent
      obtain ⟨⟨_, _, rfl⟩, _⟩ := readStep_writes agent
      exact ⟨fun sender member => (run.threads sender member).mono id id,
        run.current, mutex, run.closer, run.released⟩
  | close => exact run.closeStep stepped

end Runs

/-- In every run without a connection after a closed one, recognition works over
the connection that is up. -/
theorem recognitionLive_of_freshConnections (config : Config) (now : Nat)
    {state : State}
    (reached : PermittedReach (State.step config)
      (fun state action => freshConnections state action = true)
      (State.initial now) state) :
    RecognitionLive config state := by
  have run : ReconnectRun state := by
    refine reached.invariant_of_known
      (fun _ earlier => chainRun_of_reach earlier) ?_
      fun _ _ _ chain run permitted stepped => run.step chain permitted stepped
    refine ⟨?_, ?_, ?_, ?_, ?_⟩
    · intro sender member
      cases member
    · intro _ never
      cases never
    · intro never
      cases never
    · intro never
      cases never
    · intro never
      cases never
  exact run.live

/-- The first attempt times out and its websocket reports no end, so the flag is
not set; the second attempt connects. -/
def secondAttemptSchedule : List Action :=
  startSchedule ++ threadSchedule 0 2 ++ .tick 3000 :: threadSchedule 0 4 ++
    .tick 1000 :: threadSchedule 0 2 ++ .tick 3000 :: threadSchedule 0 5 ++
    handOnSchedule 0 ++ connectSchedule 1

theorem recognitionLive_secondAttemptSchedule :
    ∃ state, PermittedReach (State.step .retryOnce)
        (fun state action => freshConnections state action = true)
        (State.initial 0) state ∧
      (state.history.attempts == 2 && state.pvt.wsConnected &&
        state.threads[1]?.any (fun sender => sender.ranOpen)) = true ∧
      RecognitionLive .retryOnce state := by
  obtain ⟨state, reached, passed⟩ :=
    exists_permittedReach_of_replay (State.step .retryOnce) (State.initial 0)
      secondAttemptSchedule
      (fun state => state.history.attempts == 2 && state.pvt.wsConnected &&
        state.threads[1]?.any fun sender => sender.ranOpen)
      (fun state action => freshConnections state action = true)
      (by decide)
  exact ⟨state, reached, passed,
    recognitionLive_of_freshConnections .retryOnce 0 reached⟩

end FunAsr

end SpeechModules
