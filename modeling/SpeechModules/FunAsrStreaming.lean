import SpeechModules.FunAsrFrames

/-!
# The audio between the media bug and the server

The streaming loop asks the queue for blocks of 320 bytes and sends only whole
blocks.  When a timed wait ends with fewer bytes in the queue,
`audio_queue_read` takes them out and the loop drops them.  As long as no wait
times out on a part of a block, the bytes sent so far, a block that has been
read but not sent, and the buffer make up the accepted audio.
-/

namespace SpeechModules

namespace FunAsr

open StepSystem

/-- The blocks that the configured branch of the loop has handed on: the
payloads of `ws.send` at 8000 Hz, the input of the resampler at 16000 Hz. -/
def History.delivered (config : Config) (history : History) : List Bytes :=
  match config.sampleRate with
  | .rate8000 => history.sent
  | .rate16000 => history.resampled

/-- No accepted byte is skipped, repeated or reordered. -/
def AudioConserved (config : Config) (state : State) : Prop :=
  (state.history.delivered config).flatten <+: state.history.accepted.flatten

instance (config : Config) (state : State) :
    Decidable (AudioConserved config state) :=
  inferInstanceAs (Decidable (_ <+: _))

/-! ## A timeout in the middle of a block -/

/-- A READ callback from its start to its end. -/
def frameSchedule (frame : Bytes) : List Action :=
  .readStart (some frame) :: List.replicate 9 .readStep

/-- The thread waits for audio until the wait times out. -/
def timedOutReadSchedule (index : Nat) : List Action :=
  .tick AudioQueue.timeoutMs :: [.threadStep index ⟨true, true⟩]

/-- One block is sent; then half a block arrives, and its wait times out; then
another block is sent. -/
def partialBlockSchedule : List Action :=
  startSchedule ++ connectSchedule 0 ++
    frameSchedule (List.replicate 320 0) ++ threadSchedule 0 4 ++
    threadSchedule 0 3 ++ frameSchedule (List.replicate 160 1) ++
    timedOutReadSchedule 0 ++
    frameSchedule (List.replicate 320 0) ++ threadSchedule 0 4

theorem audioConserved_fails :
    ¬ ∀ (config : Config) (state : State),
      Reach (State.step config) (State.initial 0) state →
        AudioConserved config state := by
  intro always
  obtain ⟨state, reached, lost⟩ :=
    exists_reach_of_replay (State.step .retryOnce) (State.initial 0)
      partialBlockSchedule
      (fun state => decide (¬ AudioConserved .retryOnce state))
      (by decide +kernel)
  exact of_decide_eq_true lost (always .retryOnce state reached)

/-! ## Runs that read whole blocks -/

/-- A timed wait of the streaming loop does not time out on a part of a block. -/
def wholeBlocks (state : State) : Action → Bool
  | .threadStep index choice =>
      match state.threads[index]? with
      | none => true
      | some sender =>
          match sender.pc with
          | .readWait _ =>
              !choice.timedOut || state.pvt.audioQueue.buffer.isEmpty ||
                decide (blockSize ≤ state.pvt.audioQueue.buffer.length)
          | _ => true
  | _ => true

/-- The block that a thread has read and not sent yet. -/
def SenderPc.held : SenderPc → Bytes
  | .sendBlock block => block
  | _ => []

def Sender.held (sender : Sender) : Bytes := sender.pc.held

def heldBytes (threads : List Sender) : Bytes :=
  (threads.map Sender.held).flatten

/-- Until the queue is cleared, the accepted audio is what has been delivered,
what a thread holds, and what is in the buffer. -/
structure StreamRun (config : Config) (state : State) : Prop where
  conserved : state.pvt.destroyed = false →
    state.history.accepted.flatten =
      (state.history.delivered config).flatten ++ heldBytes state.threads ++
        state.pvt.audioQueue.buffer
  released : state.pvt.destroyed = true → AudioConserved config state

theorem StreamRun.audioConserved {config : Config} {state : State}
    (run : StreamRun config state) : AudioConserved config state := by
  cases alive : state.pvt.destroyed with
  | true => exact run.released alive
  | false =>
      unfold AudioConserved
      rw [run.conserved alive, List.append_assoc]
      exact List.prefix_append _ _

section Held

variable {threads : List Sender} {index : Nat} {sender sender' : Sender}

theorem Sender.held_of_leaving (leaving : sender.leaving = true) :
    sender.held = [] := by
  unfold Sender.leaving at leaving
  unfold Sender.held
  cases here : sender.pc <;> rw [here] at leaving <;> first
    | rfl
    | cases leaving

/-- Only the last thread of a chain can hold a block. -/
theorem Chain.heldBytes (chain : Chain threads)
    (located : threads[index]? = some sender)
    (atEnd : index + 1 = threads.length) :
    heldBytes threads = sender.held := by
  have split : threads = threads.take index ++ [sender] := by
    have whole : threads.take (index + 1) = threads := by
      rw [atEnd, List.take_length]
    rw [List.take_add_one, located] at whole
    exact whole.symm
  have nothing : (threads.take index).map Sender.held =
      List.replicate index [] := by
    refine List.eq_replicate_iff.mpr ⟨by simp; omega, ?_⟩
    intro held member
    obtain ⟨other, inFront, rfl⟩ := List.mem_map.mp member
    obtain ⟨position, found⟩ := List.getElem?_of_mem inFront
    have inRange := (List.getElem?_eq_some_iff.mp found).1
    rw [List.length_take] at inRange
    rw [List.getElem?_take_of_lt (by omega)] at found
    exact Sender.held_of_leaving (chain position other found (by omega))
  unfold FunAsr.heldBytes
  rw [split, List.map_append, nothing]
  simp

/-- Replacing a thread by one that holds the same. -/
theorem heldBytes_set (located : threads[index]? = some sender)
    (same : sender'.held = sender.held) :
    heldBytes (threads.set index sender') = heldBytes threads := by
  obtain ⟨inRange, rfl⟩ := List.getElem?_eq_some_iff.mp located
  have bound : index < (threads.map Sender.held).length := by
    simpa using inRange
  have entry : sender'.held = (threads.map Sender.held)[index] := by
    simp [same]
  unfold heldBytes
  rw [List.map_set, entry, List.set_getElem_self]

theorem heldBytes_wake :
    heldBytes (threads.map Sender.wake) = heldBytes threads := by
  unfold heldBytes
  rw [List.map_map]
  congr 2
  funext sleeper
  show sleeper.wake.held = sleeper.held
  unfold Sender.wake
  split
  next here => simp [Sender.held, SenderPc.held, here]
  next => rfl

end Held

section Agents

/-- A read returns nothing or a whole block. -/
def ReadsWhole : AudioQueue.ReadResult → Prop
  | .wait _ => True
  | .done _ data => data = [] ∨ data.length = blockSize

theorem readEnd_whole {queue : AudioQueue}
    (enough : blockSize ≤ queue.buffer.length) :
    ReadsWhole (queue.readEnd blockSize) := by
  refine .inr ?_
  rw [List.length_take]
  omega

theorem readLoop_whole (queue : AudioQueue) :
    ReadsWhole (queue.readLoop blockSize) := by
  unfold AudioQueue.readLoop
  split
  · trivial
  · exact readEnd_whole (by omega)

theorem readStart_whole (queue : AudioQueue) :
    ReadsWhole (queue.readStart blockSize) := by
  unfold AudioQueue.readStart
  split
  · exact .inl rfl
  · exact readLoop_whole queue

theorem readWake_whole {queue : AudioQueue} {timedOut : Bool}
    (whole : timedOut = true →
      queue.buffer = [] ∨ blockSize ≤ queue.buffer.length) :
    ReadsWhole (queue.readWake blockSize timedOut) := by
  unfold AudioQueue.readWake
  split
  next expired =>
    rcases whole expired with empty | enough
    · refine .inl ?_
      simp [empty]
    · exact readEnd_whole enough
  next => exact readLoop_whole queue

variable {config : Config} {clock : Nat} {choice : SenderChoice}
  {pvt after : Pvt} {history history' : History} {sender sender' : Sender}

/-- What a whole read takes out of the buffer is held by the thread. -/
theorem ReadEnds.held {result : AudioQueue.ReadResult}
    {before queue : AudioQueue} {pc : SenderPc}
    (ends : ReadEnds clock result queue pc)
    (conserves : result.Conserves before.buffer) (whole : ReadsWhole result) :
    pc.held ++ queue.buffer = before.buffer := by
  cases ends with
  | wait => exact conserves
  | whole full => exact conserves
  | short short =>
      rcases whole with rfl | full
      · exact conserves
      · exact (short full).elim

theorem Edge.holds_nothing {source target : SenderPc}
    (edge : Edge config pvt sender source target) :
    source.held = [] ∧ target.held = [] := by
  cases edge <;> exact ⟨rfl, rfl⟩

theorem SenderPc.givesUp_held {pc : SenderPc} (here : pc.givesUp = true) :
    pc.held = [] := by
  cases pc <;> first | rfl | cases here

theorem Sender.readsTo.held {queue : AudioQueue}
    {result : AudioQueue.ReadResult}
    (here : sender.readsTo choice queue result) : sender.pc.held = [] := by
  rcases here with ⟨here, _⟩ | ⟨_, here, _⟩ <;> rw [here] <;> rfl

theorem Sender.readsTo.conserves {queue : AudioQueue}
    {result : AudioQueue.ReadResult}
    (here : sender.readsTo choice queue result) :
    result.Conserves queue.buffer := by
  rcases here with ⟨_, rfl⟩ | ⟨_, _, rfl⟩
  · exact AudioQueue.readStart_conserves queue blockSize
  · exact AudioQueue.readWake_conserves queue blockSize choice.timedOut

theorem Sender.readsTo.whole {queue : AudioQueue}
    {result : AudioQueue.ReadResult}
    (here : sender.readsTo choice queue result)
    (whole : ∀ deadline, sender.pc = .readWait deadline →
      choice.timedOut = true →
      queue.buffer = [] ∨ blockSize ≤ queue.buffer.length) :
    ReadsWhole result := by
  rcases here with ⟨_, rfl⟩ | ⟨deadline, waiting, rfl⟩
  · exact readStart_whole queue
  · exact readWake_whole (whole deadline waiting)

theorem History.noteBlock_delivered (history : History) (block : Bytes) :
    (history.noteBlock config block).delivered config =
      history.delivered config ++ [block] := by
  unfold History.noteBlock History.delivered
  cases config.sampleRate <;> rfl

/-- A step of a thread moves bytes from the buffer to its block and from there
to the server. -/
theorem senderStep_conserves {created : Bool}
    (whole : ∀ deadline, sender.pc = .readWait deadline →
      choice.timedOut = true →
      pvt.audioQueue.buffer = [] ∨
        blockSize ≤ pvt.audioQueue.buffer.length)
    (alive : after.destroyed = false)
    (stepped : senderStep config clock choice pvt history sender =
      some (after, sender', history', created)) :
    (history'.delivered config).flatten ++ sender'.held ++
        after.audioQueue.buffer =
      (history.delivered config).flatten ++ sender.held ++
        pvt.audioQueue.buffer := by
  unfold Sender.held
  cases senderStep_moves stepped with
  | goto edge => rw [edge.holds_nothing.1, edge.holds_nothing.2]
  | attempt here =>
      rw [here]
      unfold History.delivered
      rfl
  | read here ends =>
      have taken : _ = pvt.audioQueue.buffer :=
        ends.held (here.conserves) (here.whole whole)
      rw [List.append_assoc, taken, here.held, List.append_nil]
  | send here =>
      rw [History.noteBlock_delivered, here]
      simp [SenderPc.held]
  | destroy here => rw [SenderPc.givesUp_held here]; rfl
  | release here => cases alive
  | _ here => rw [here]; rfl

/-- An accepted frame goes to the end of the buffer. -/
theorem readStep_conserves {reader reader' : Reader}
    (stepped : readStep pvt history reader = some (after, reader', history')) :
    ∃ data, history'.accepted.flatten = history.accepted.flatten ++ data ∧
      after.audioQueue.buffer = pvt.audioQueue.buffer ++ data ∧
      history'.delivered config = history.delivered config := by
  cases here : reader.pc <;> simp only [readStep, here] at stepped
  case write data =>
    cases written : pvt.audioQueue.write data with
    | mk queue accepted =>
        rw [written] at stepped
        cases stepped
        rcases AudioQueue.write_eq written with ⟨rfl, buffer⟩ | ⟨rfl, rfl⟩
        · exact ⟨data, by simp, buffer, rfl⟩
        · exact ⟨[], by simp, by simp, rfl⟩
  all_goals try split at stepped
  all_goals first
    | (cases stepped; done)
    | (cases stepped; exact ⟨[], by simp, by simp, rfl⟩)

end Agents

section Runs

variable {config : Config} {before after : State}

theorem StreamRun.initial (now : Nat) :
    StreamRun config (State.initial now) := by
  refine ⟨fun _ => ?_, ?_⟩
  · cases rate : config.sampleRate <;>
      simp [State.initial, History.initial, History.delivered, heldBytes,
        Pvt.initial, AudioQueue.create, rate]
  · intro released
    cases released

/-- Steps that leave the audio alone. -/
theorem StreamRun.of_frame (run : StreamRun config before)
    (destroyed : after.pvt.destroyed = before.pvt.destroyed)
    (buffer : after.pvt.audioQueue.buffer = before.pvt.audioQueue.buffer)
    (held : heldBytes after.threads = heldBytes before.threads)
    (accepted : after.history.accepted = before.history.accepted)
    (delivered : after.history.delivered config =
      before.history.delivered config) : StreamRun config after := by
  refine ⟨fun alive => ?_, fun released => ?_⟩
  · rw [accepted, delivered, held, buffer]
    exact run.conserved (destroyed ▸ alive)
  · unfold AudioConserved
    rw [accepted, delivered]
    exact run.released (destroyed ▸ released)

theorem StreamRun.threadStep {index : Nat} {choice : SenderChoice}
    (chain : ChainRun before) (run : StreamRun config before)
    (permitted : wholeBlocks before (.threadStep index choice) = true)
    (stepped : before.step config (.threadStep index choice) = some after) :
    StreamRun config after := by
  have afterChain := chain.step stepped
  obtain ⟨sender, located, pvt, sender', history, created, agent, rfl⟩ :=
    step_threadStep stepped
  by_cases leaving : sender.leaving = true
  · obtain ⟨rfl, rfl, rfl, here, rfl⟩ := senderStep_leaving leaving agent
    refine run.of_frame rfl rfl ?_ rfl rfl
    rw [← heldBytes_set located
      (show ({ sender with socket := .closed, pc := .ended } : Sender).held =
        sender.held by simp [Sender.held, SenderPc.held, here])]
    simp
  rw [Bool.not_eq_true] at leaving
  have atEnd := chain.chain.last located leaving
  have alive := chain.alive_of_active located leaving
  have conserved := run.conserved alive
  rw [chain.chain.heldBytes located atEnd] at conserved
  obtain ⟨_, _, _, _, _, noted⟩ := senderStep_writes agent
  have accepted : history.accepted = before.history.accepted := by rw [noted]
  refine ⟨fun stillAlive => ?_, fun released => ?_⟩
  · show history.accepted.flatten = _
    rw [accepted, conserved]
    cases created with
    | false =>
        have inRange := (List.getElem?_eq_some_iff.mp located).1
        have held := @Chain.heldBytes _ index sender' afterChain.chain
          (by simp [inRange]) (by simp [atEnd])
        rw [held]
        refine (senderStep_conserves ?_ stillAlive agent).symm
        intro deadline here expired
        simp only [wholeBlocks, located, here, expired] at permitted
        simpa [or_comm] using permitted
    | true =>
        obtain ⟨here, rfl, rfl, rfl⟩ := senderStep_created agent
        have held := @Chain.heldBytes _ before.threads.length Sender.initial
          afterChain.chain (by simp) (by simp)
        rw [held]
        simp [Sender.held, SenderPc.held, Sender.initial, here]
  · obtain ⟨here, _, rfl, _⟩ := senderStep_released alive released agent
    exact ⟨_, (conserved.trans (List.append_assoc _ _ _)).symm⟩

theorem StreamRun.step {action : Action} (chain : ChainRun before)
    (run : StreamRun config before)
    (permitted : wholeBlocks before action = true)
    (stepped : before.step config action = some after) :
    StreamRun config after := by
  cases step_moves stepped with
  | around => exact run.of_frame rfl rfl rfl rfl rfl
  | create here =>
      refine run.of_frame rfl rfl ?_ rfl rfl
      simp [heldBytes, Sender.held, SenderPc.held, Sender.initial]
  | thread => exact run.threadStep chain permitted stepped
  | callbackStart located agent =>
      obtain ⟨_, _, rfl⟩ := callbackStart_writes agent
      exact run.of_frame rfl rfl (heldBytes_set located rfl) rfl rfl
  | callback located agent =>
      obtain ⟨⟨_, _, rfl⟩, ⟨_, _, _, _, _, rfl⟩, _, rfl⟩ :=
        callbackStep_writes agent
      exact run.of_frame rfl rfl (heldBytes_set located rfl) rfl rfl
  | readStart => exact run.of_frame rfl rfl rfl rfl rfl
  | read agent =>
      obtain ⟨data, accepted, buffer, delivered⟩ :=
        @readStep_conserves config _ _ _ _ _ _ agent
      obtain ⟨⟨_, _, rfl⟩, _⟩ := readStep_writes agent
      refine ⟨fun alive => ?_, fun released => ?_⟩
      · rw [accepted, buffer, delivered, run.conserved alive]
        simp
      · unfold AudioConserved
        rw [accepted, delivered]
        exact (run.released released).trans (List.prefix_append _ _)
  | close agent =>
      obtain ⟨⟨_, _, _, rfl⟩, rfl | rfl⟩ := closeStep_writes agent
      · exact run.of_frame rfl rfl rfl rfl rfl
      · exact run.of_frame rfl rfl heldBytes_wake rfl rfl

end Runs

/-- In every run whose waits do not time out on a part of a block, the delivered
audio is an initial part of the accepted audio. -/
theorem audioConserved_of_wholeBlocks (config : Config) (now : Nat)
    {state : State}
    (reached : PermittedReach (State.step config)
      (fun state action => wholeBlocks state action = true)
      (State.initial now) state) :
    AudioConserved config state := by
  have run : StreamRun config state :=
    reached.invariant_of_known (fun _ earlier => chainRun_of_reach earlier)
      (.initial now)
      fun _ _ _ chain run permitted stepped => run.step chain permitted stepped
  exact run.audioConserved

/-- Two frames make up one block, a wait times out on the empty queue, and a
block of silence follows a pause. -/
def wholeBlocksSchedule : List Action :=
  startSchedule ++ connectSchedule 0 ++ frameSchedule (List.replicate 160 1) ++
    frameSchedule (List.replicate 160 2) ++ threadSchedule 0 4 ++
    threadSchedule 0 3 ++ timedOutReadSchedule 0 ++
    Action.pauseStart 1 :: List.replicate 2 Action.appStep ++
    frameSchedule (List.replicate 320 3) ++ threadSchedule 0 4

theorem audioConserved_wholeBlocksSchedule :
    ∃ state, PermittedReach (State.step .retryOnce)
        (fun state action => wholeBlocks state action = true)
        (State.initial 0) state ∧
      (state.history.sent == [List.replicate 160 1 ++ List.replicate 160 2,
        List.replicate 320 0]) = true ∧
      AudioConserved .retryOnce state := by
  obtain ⟨state, reached, passed⟩ :=
    exists_permittedReach_of_replay (State.step .retryOnce) (State.initial 0)
      wholeBlocksSchedule
      (fun state => state.history.sent ==
        [List.replicate 160 1 ++ List.replicate 160 2, List.replicate 320 0])
      (fun state action => wholeBlocks state action = true)
      (by decide +kernel)
  exact ⟨state, reached, passed,
    audioConserved_of_wholeBlocks .retryOnce 0 reached⟩

end FunAsr

end SpeechModules
