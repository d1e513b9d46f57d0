import SpeechModules.FunAsrStreaming
import SpeechModules.ListBlocks
import Mathlib.Data.List.Infix

/-!
# The audio before the end of speech

A sender thread that finds `hangup` at its loop test ends the conversation,
whatever is left in the queue.  The observer of this file writes up how much
audio had been accepted when the end was requested, and which thread left its
loop for that request.  Nothing is missing from what the server has got exactly
if no whole block from before the request was left behind.
-/

namespace SpeechModules

namespace FunAsr

open StepSystem ListBlocks

/-- What the observer knows: the number of bytes accepted when the end was
requested, the number at which the first block that lost a part would have been
complete, and the threads that left their loop, each with the number of bytes
accepted before its request. -/
structure EndLog where
  requested : Nat
  broken : Option Nat
  left : List (Nat × Nat)

def EndLog.initial : EndLog := ⟨0, none, []⟩

def State.acceptedBytes (state : State) : Bytes :=
  state.history.accepted.flatten

/-- CLOSE is about to request the end. -/
def State.requestsEnd (state : State) : Action → Bool
  | .closeStep =>
      match state.closer with
      | .setHangup => true
      | _ => false
  | _ => false

/-- The thread that finds the request at its loop test. -/
def State.leavesLoop (state : State) : Action → Option Nat
  | .threadStep index _ =>
      match state.threads[index]? with
      | none => none
      | some sender =>
          match sender.pc with
          | .loopHangup => if state.pvt.hangup then some index else none
          | _ => none
  | _ => none

def noteEnd (state : State) (action : Action) (log : EndLog) : EndLog where
  requested :=
    if state.requestsEnd action then state.acceptedBytes.length
    else log.requested
  broken :=
    if wholeBlocks state action then log.broken
    else log.broken <|>
      some ((state.acceptedBytes.length / blockSize + 1) * blockSize)
  left := log.left ++
    (state.leavesLoop action).toList.map fun index => (index, log.requested)

/-- A thread that ends the conversation on request has sent every complete block
of the audio from before the request. -/
def EndsAfterAudio (config : Config) : State × EndLog → Prop
  | (state, log) =>
      ∀ (index requested : Nat) (sender : Sender),
        (index, requested) ∈ log.left →
        state.threads[index]? = some sender → sender.pc = .sendEnd →
        List.Subperm
          (completeBlocks blockSize (state.acceptedBytes.take requested))
          (state.history.delivered config)

/-! ## Audio that is left in the queue -/

/-- CLOSE has requested the end. -/
def closeSchedule : List Action :=
  .sessionClose :: List.replicate 2 .closeStep

/-- A frame arrives, the call is hung up, and the thread goes on to the end of
the conversation. -/
def abandonedAudioSchedule : List Action :=
  startSchedule ++ connectSchedule 0 ++
    frameSchedule (List.replicate 320 0) ++ closeSchedule ++ threadSchedule 0 2

theorem endsAfterAudio_abandoned :
    ∃ observed, Reach (watched (State.step .retryOnce) noteEnd)
        (State.initial 0, EndLog.initial) observed ∧
      ¬ EndsAfterAudio .retryOnce observed := by
  obtain ⟨⟨state, log⟩, reached, passed⟩ :=
    exists_reach_of_replay (watched (State.step .retryOnce) noteEnd)
      (State.initial 0, EndLog.initial) abandonedAudioSchedule
      (fun (state, log) => log.left.contains (0, 320) &&
        state.threads[0]?.any (fun sender => sender.pc == .sendEnd) &&
        !decide (List.Subperm
          (completeBlocks blockSize (state.acceptedBytes.take 320))
          (state.history.delivered .retryOnce)))
      (by decide +kernel)
  simp only [Bool.and_eq_true, List.contains_iff_mem, Option.any_eq_true,
    beq_iff_eq, Bool.not_eq_true', decide_eq_false_iff_not] at passed
  obtain ⟨⟨left, sender, located, ending⟩, lost⟩ := passed
  exact ⟨_, reached, fun ends => lost (ends 0 320 sender left located ending)⟩

/-! ## Threads that leave nothing behind -/

/-- When a thread leaves its loop on request, less than a block from before the
request is in the queue.  Once a part of a block has been dropped, the request
has come before that block was complete. -/
def drained : State × EndLog → Action → Bool
  | (state, log), action =>
      match state.leavesLoop action, log.broken with
      | none, _ => true
      | some _, some complete => decide (log.requested < complete)
      | some _, none =>
          decide (state.pvt.audioQueue.buffer.length + log.requested <
            blockSize + state.acceptedBytes.length)

/-- The first `count` delivered blocks are the beginning of the accepted
audio. -/
def DeliveredFirst (config : Config) (state : State) (count : Nat) : Prop :=
  count ≤ (state.history.delivered config).length ∧
    ((state.history.delivered config).take count).flatten <+:
      state.acceptedBytes

/-- A block that the thread holds is a whole one. -/
def Sender.holdsWhole (sender : Sender) : Prop :=
  ∀ block, sender.pc = .sendBlock block → block.length = blockSize

/-- What is true of a session and the log of its observer. -/
structure EndRun (config : Config) (observed : State × EndLog) : Prop where
  uniform : Uniform blockSize (observed.1.history.delivered config)
  whole : ∀ sender ∈ observed.1.threads, sender.holdsWhole
  requested : observed.2.requested ≤ observed.1.acceptedBytes.length
  stream : observed.2.broken = none → StreamRun config observed.1
  broken : ∀ complete, observed.2.broken = some complete →
    ∃ count, DeliveredFirst config observed.1 count ∧
      complete = (count + 1) * blockSize
  left : ∀ entry ∈ observed.2.left,
    entry.2 ≤ observed.1.acceptedBytes.length ∧
      DeliveredFirst config observed.1 (entry.2 / blockSize)

theorem EndRun.endsAfterAudio {config : Config} {observed : State × EndLog}
    (run : EndRun config observed) : EndsAfterAudio config observed := by
  intro index requested sender member _ _
  obtain ⟨inside, enough, front⟩ := run.left _ member
  have uniform : Uniform blockSize
      ((observed.1.history.delivered config).take (requested / blockSize)) :=
    fun block taken => run.uniform block (List.mem_of_mem_take taken)
  rw [completeBlocks_take uniform front inside (by simpa using enough)]
  exact (List.take_sublist _ _).subperm

section Growing

variable {config : Config} {before after : State}

/-- What a step adds to the history: a frame, or a block that a thread held. -/
theorem step_grows {action : Action}
    (stepped : before.step config action = some after) :
    before.acceptedBytes <+: after.acceptedBytes ∧
      (after.history.delivered config = before.history.delivered config ∨
        ∃ sender ∈ before.threads, ∃ block, sender.pc = .sendBlock block ∧
          after.history.delivered config =
            before.history.delivered config ++ [block]) := by
  cases step_moves stepped with
  | @thread _ _ sender _ _ _ _ located agent =>
      have member := List.mem_of_getElem? located
      cases senderStep_moves agent with
      | @send block here =>
          have accepted : (before.history.noteBlock config block).accepted =
              before.history.accepted := by
            unfold History.noteBlock
            split <;> rfl
          refine ⟨?_, .inr ⟨sender, member, block, here,
            History.noteBlock_delivered _ _⟩⟩
          unfold State.acceptedBytes
          rw [accepted]
      | attempt =>
          refine ⟨List.prefix_rfl, .inl ?_⟩
          unfold History.delivered
          rfl
      | _ => exact ⟨List.prefix_rfl, .inl rfl⟩
  | callback _ agent =>
      obtain ⟨_, _, _, rfl⟩ := callbackStep_writes agent
      exact ⟨List.prefix_rfl, .inl rfl⟩
  | read agent =>
      obtain ⟨data, accepted, _, delivered⟩ :=
        @readStep_conserves config _ _ _ _ _ _ agent
      exact ⟨⟨data, accepted.symm⟩, .inl delivered⟩
  | _ => exact ⟨List.prefix_rfl, .inl rfl⟩

theorem DeliveredFirst.step {action : Action} {count : Nat}
    (first : DeliveredFirst config before count)
    (stepped : before.step config action = some after) :
    DeliveredFirst config after count := by
  obtain ⟨enough, front⟩ := first
  obtain ⟨accepted, delivered⟩ := step_grows stepped
  rcases delivered with same | ⟨_, _, block, _, longer⟩
  · unfold DeliveredFirst
    rw [same]
    exact ⟨enough, front.trans accepted⟩
  · unfold DeliveredFirst
    rw [longer, List.take_append_of_le_length enough, List.length_append]
    exact ⟨by omega, front.trans accepted⟩

theorem DeliveredFirst.fewer {state : State} {count fewer : Nat}
    (first : DeliveredFirst config state count) (less : fewer ≤ count) :
    DeliveredFirst config state fewer := by
  obtain ⟨enough, front⟩ := first
  refine ⟨by omega, List.IsPrefix.trans ?_ front⟩
  apply List.IsPrefix.flatten
  exact List.take_prefix_take_left less

theorem senderStep_holdsWhole {clock : Nat} {choice : SenderChoice}
    {pvt pvt' : Pvt} {history history' : History} {sender sender' : Sender}
    {created : Bool}
    (stepped : senderStep config clock choice pvt history sender =
      some (pvt', sender', history', created)) : sender'.holdsWhole := by
  intro block holds
  cases senderStep_moves stepped with
  | @goto pc _ edge =>
      cases holds
      generalize sender.pc = source at edge
      cases edge
  | read _ ends =>
      cases holds
      cases ends with
      | whole full => exact full
  | _ => cases holds

end Growing

section Runs

variable {config : Config} {before after : State × EndLog}

theorem State.leavesLoop_eq {state : State} {action : Action} {index : Nat}
    (leaves : state.leavesLoop action = some index) :
    ∃ sender, state.threads[index]? = some sender ∧
      sender.pc = .loopHangup := by
  cases action <;> simp only [State.leavesLoop] at leaves
  case threadStep position choice =>
    split at leaves
    next => cases leaves
    next sender located =>
      split at leaves
      next here =>
        split at leaves
        · cases leaves
          exact ⟨sender, located, here⟩
        · cases leaves
      next => cases leaves
  all_goals cases leaves

/-- A read that drops a part of a block is that of a waiting thread. -/
theorem drops_of_not_wholeBlocks {state : State} {action : Action}
    (drops : wholeBlocks state action = false) :
    state.pvt.audioQueue.buffer.length < blockSize ∧
      ∃ (index : Nat) (sender : Sender) (deadline : Nat),
        state.threads[index]? = some sender ∧
          sender.pc = .readWait deadline := by
  cases action <;> simp only [wholeBlocks] at drops
  case threadStep index choice =>
    split at drops
    next => cases drops
    next sender located =>
      split at drops
      next deadline here =>
        simp only [Bool.or_eq_false_iff, decide_eq_false_iff_not] at drops
        exact ⟨by omega, index, sender, deadline, located, here⟩
      next => cases drops
  all_goals cases drops

/-- While a thread is about to test or to read, the accepted audio is what has
been delivered and what is in the queue. -/
theorem EndRun.accounts {observed : State × EndLog}
    (chain : ChainRun observed.1) (run : EndRun config observed)
    (intact : observed.2.broken = none) {index : Nat} {sender : Sender}
    (located : observed.1.threads[index]? = some sender)
    (active : sender.leaving = false) (holdsNothing : sender.held = []) :
    observed.1.acceptedBytes =
        (observed.1.history.delivered config).flatten ++
          observed.1.pvt.audioQueue.buffer ∧
      observed.1.acceptedBytes.length =
        (observed.1.history.delivered config).length * blockSize +
          observed.1.pvt.audioQueue.buffer.length := by
  have conserved :=
    (run.stream intact).conserved (chain.alive_of_active located active)
  rw [chain.chain.heldBytes located (chain.chain.last located active),
    holdsNothing, List.append_nil] at conserved
  refine ⟨conserved, ?_⟩
  unfold State.acceptedBytes
  rw [conserved, List.length_append, run.uniform.length_flatten]

/-- With so much accounted for, every delivered block is one of the first. -/
theorem DeliveredFirst.all {state : State} {rest : Bytes}
    (accounted : state.acceptedBytes =
      (state.history.delivered config).flatten ++ rest) :
    DeliveredFirst config state (state.history.delivered config).length := by
  refine ⟨Nat.le_refl _, ?_⟩
  rw [List.take_length, accounted]
  exact List.prefix_append _ _

theorem EndRun.breaks {action : Action} (chain : ChainRun before.1)
    (run : EndRun config before) (intact : before.2.broken = none)
    (drops : wholeBlocks before.1 action = false) :
    ∃ count, DeliveredFirst config before.1 count ∧
      (before.1.acceptedBytes.length / blockSize + 1) * blockSize =
        (count + 1) * blockSize := by
  obtain ⟨few, index, sender, deadline, located, here⟩ :=
    drops_of_not_wholeBlocks drops
  obtain ⟨accounted, length⟩ := run.accounts chain intact located
    (by unfold Sender.leaving; rw [here]; rfl)
    (by unfold Sender.held; rw [here]; rfl)
  refine ⟨_, .all accounted, ?_⟩
  have blocks : before.1.acceptedBytes.length / blockSize =
      (before.1.history.delivered config).length := by
    unfold blockSize at few length ⊢
    omega
  rw [blocks]

theorem EndRun.leaves {action : Action} {index : Nat}
    (chain : ChainRun before.1) (run : EndRun config before)
    (permitted : drained before action = true)
    (leaves : before.1.leavesLoop action = some index) :
    DeliveredFirst config before.1 (before.2.requested / blockSize) := by
  simp only [drained, leaves] at permitted
  cases broken : before.2.broken with
  | some complete =>
      simp only [broken, decide_eq_true_eq] at permitted
      obtain ⟨count, first, rfl⟩ := run.broken complete broken
      apply first.fewer
      unfold blockSize at permitted ⊢
      omega
  | none =>
      simp only [broken, decide_eq_true_eq] at permitted
      obtain ⟨sender, located, here⟩ := State.leavesLoop_eq leaves
      obtain ⟨accounted, length⟩ := run.accounts chain broken located
        (by unfold Sender.leaving; rw [here]; rfl)
        (by unfold Sender.held; rw [here]; rfl)
      apply (DeliveredFirst.all accounted).fewer
      unfold blockSize at permitted length ⊢
      omega

theorem EndRun.initial (now : Nat) :
    EndRun config (State.initial now, EndLog.initial) where
  uniform := by
    cases rate : config.sampleRate <;>
      simp [State.initial, History.initial, History.delivered, rate,
        uniform_nil]
  whole := by
    intro sender member
    cases member
  requested := Nat.zero_le _
  stream := fun _ => .initial now
  broken := by
    intro complete broken
    cases broken
  left := by
    intro entry member
    cases member

theorem EndRun.step {action : Action} (chain : ChainRun before.1)
    (run : EndRun config before) (permitted : drained before action = true)
    (stepped : watched (State.step config) noteEnd before action =
      some after) : EndRun config after := by
  obtain ⟨inner, noted⟩ := watched_eq stepped
  obtain ⟨accepted, delivered⟩ := step_grows inner
  have longer := accepted.length_le
  refine ⟨?_, ?_, ?_, ?_, ?_, ?_⟩
  · rcases delivered with same | ⟨sender, member, block, here, more⟩
    · rw [same]
      exact run.uniform
    · rw [more, uniform_append, uniform_cons]
      exact ⟨run.uniform, run.whole sender member block here, uniform_nil⟩
  · refine forall_threads_step run.whole nofun ?_ ?_ ?_ ?_ inner
    · intro _ _ _ _ _ _ _ _ _ agent _
      exact senderStep_holdsWhole agent
    · intro _ _ _ agent whole
      obtain ⟨_, _, rfl⟩ := callbackStart_writes agent
      exact whole
    · intro _ _ _ _ agent whole
      obtain ⟨_, ⟨_, _, _, _, _, rfl⟩, _⟩ := callbackStep_writes agent
      exact whole
    · intro sender whole block here
      apply whole block
      unfold Sender.wake at here
      split at here
      · cases here
      · exact here
  · rw [noted]
    simp only [noteEnd]
    have requested := run.requested
    split <;> omega
  · intro intact
    rw [noted] at intact
    simp only [noteEnd] at intact
    split at intact
    next whole => exact (run.stream intact).step chain whole inner
    next => simp at intact
  · intro complete broken
    rw [noted] at broken
    simp only [noteEnd] at broken
    split at broken
    next =>
      obtain ⟨count, first, same⟩ := run.broken complete broken
      exact ⟨count, first.step inner, same⟩
    next drops =>
      cases earlier : before.2.broken with
      | some already =>
          rw [earlier] at broken
          cases broken
          obtain ⟨count, first, same⟩ := run.broken _ earlier
          exact ⟨count, first.step inner, same⟩
      | none =>
          rw [earlier] at broken
          cases broken
          obtain ⟨count, first, same⟩ :=
            run.breaks chain earlier (by simpa using drops)
          exact ⟨count, first.step inner, same⟩
  · intro entry member
    rw [noted] at member
    simp only [noteEnd, List.mem_append, List.mem_map,
      Option.mem_toList] at member
    rcases member with old | ⟨index, leaves, rfl⟩
    · obtain ⟨inside, first⟩ := run.left entry old
      exact ⟨by omega, first.step inner⟩
    · have requested := run.requested
      exact ⟨by simp only; omega,
        (run.leaves chain permitted leaves).step inner⟩

theorem chainRun_of_observed {permits : State × EndLog → Action → Prop}
    {now : Nat} {observed : State × EndLog}
    (reached : PermittedReach (watched (State.step config) noteEnd) permits
      (State.initial now, EndLog.initial) observed) : ChainRun observed.1 := by
  have alone : Reach (State.step config) (State.initial now) observed.1 :=
    reached.unwatched fun _ _ _ => trivial
  exact chainRun_of_reach alone

end Runs

/-- A thread that leaves its loop with the queue drained has sent all audio from
before the request when it ends the conversation. -/
theorem endsAfterAudio_drained (config : Config) (now : Nat)
    {observed : State × EndLog}
    (reached : PermittedReach (watched (State.step config) noteEnd)
      (fun observed action => drained observed action = true)
      (State.initial now, EndLog.initial) observed) :
    EndsAfterAudio config observed := by
  have run : EndRun config observed :=
    reached.invariant_of_known (fun _ earlier => chainRun_of_observed earlier)
      (.initial now)
      fun _ _ _ chain run permitted stepped => run.step chain permitted stepped
  exact run.endsAfterAudio

end FunAsr

end SpeechModules
