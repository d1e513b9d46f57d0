import SpeechModules.RnnoiseFrames
import SpeechModules.FunAsrEnding

/-!
# The audio of a connection before its end of speech

`rnnoise_server` accepts audio in frames of one block, so its queue is a list of
whole blocks at any time, and no read drops anything.  Several threads may take
blocks out of it, and then the order in which they send them is open.  As in
`mod_funasr`, a thread that finds `is_speaking` false ends the conversation,
whatever is left in the queue.
-/

namespace SpeechModules

namespace Rnnoise

open StepSystem ListBlocks
open scoped List
open FunAsr (blockSize)

/-- What the observer knows: the number of bytes accepted when the client last
ended its speech, and the threads that left their loop for it, each with the
number of bytes accepted before that. -/
structure EndLog where
  requested : Nat
  left : List (Nat × Nat)

def EndLog.initial : EndLog := ⟨0, []⟩

def State.acceptedBytes (state : State) : Bytes :=
  state.history.accepted.flatten

/-- The handler is about to end the speech. -/
def State.requestsEnd (state : State) : Action → Bool
  | .handlerStep _ =>
      match state.handler with
      | .speakStore false _ _ => state.pvt.isSpeaking
      | _ => false
  | _ => false

/-- The thread that finds the speech ended at its loop test. -/
def State.leavesLoop (state : State) : Action → Option Nat
  | .threadStep index _ =>
      match state.threads[index]? with
      | none => none
      | some sender =>
          if sender.pc = .loopSpeaking ∧ state.pvt.isSpeaking = false then
            some index
          else none
  | _ => none

def noteEnd (state : State) (action : Action) (log : EndLog) : EndLog where
  requested :=
    if state.requestsEnd action then state.acceptedBytes.length
    else log.requested
  left := log.left ++
    (state.leavesLoop action).toList.map fun index => (index, log.requested)

/-- A thread that ends the conversation because the client has ended its speech
has sent every complete block of the audio from before that. -/
def EndsAfterAudio : State × EndLog → Prop
  | (state, log) =>
      ∀ (index requested : Nat) (sender : Sender),
        (index, requested) ∈ log.left →
        state.threads[index]? = some sender → sender.pc = .sendEnd →
        List.Subperm
          (completeBlocks blockSize (state.acceptedBytes.take requested))
          state.history.delivered

/-! ## Audio that is left in the queue -/

/-- `onmessage` with a frame from its start to its end. -/
def frameSchedule (frame : Bytes) : List Action :=
  .message (.binary frame) :: List.replicate 7 (.handlerStep true)

/-- `{"is_speaking":false}` -/
def endMessage : ClientMessage :=
  .text 21 (some (.object [("is_speaking", .bool false)]))

def endSchedule : List Action :=
  .message endMessage :: List.replicate 3 (.handlerStep true)

/-- A frame arrives, the client ends its speech, and the thread goes on to the
end of the conversation. -/
def abandonedAudioSchedule : List Action :=
  initSchedule ++ connectSchedule 0 ++ frameSchedule (List.replicate 320 0) ++
    endSchedule ++ threadSchedule 0 6

theorem endsAfterAudio_abandoned :
    ∃ observed, Reach (watched (State.step .telephone) noteEnd)
        (State.initial 0, EndLog.initial) observed ∧
      ¬ EndsAfterAudio observed := by
  obtain ⟨⟨state, log⟩, reached, passed⟩ :=
    exists_reach_of_replay (watched (State.step .telephone) noteEnd)
      (State.initial 0, EndLog.initial) abandonedAudioSchedule
      (fun (state, log) => log.left.contains (0, 320) &&
        state.threads[0]?.any (fun sender => sender.pc == .sendEnd) &&
        !decide (List.Subperm
          (completeBlocks blockSize (state.acceptedBytes.take 320))
          state.history.delivered))
      (by decide +kernel)
  simp only [Bool.and_eq_true, List.contains_iff_mem, Option.any_eq_true,
    beq_iff_eq, Bool.not_eq_true', decide_eq_false_iff_not] at passed
  obtain ⟨⟨left, sender, located, ending⟩, lost⟩ := passed
  exact ⟨_, reached, fun ends => lost (ends 0 320 sender left located ending)⟩

/-! ## The queue is a list of blocks -/

/-- The block that a thread has read and not sent yet. -/
def SenderPc.held : SenderPc → Option Bytes
  | .sendBlock block => some block
  | _ => none

def heldBlocks (threads : List Sender) : List Bytes :=
  threads.filterMap fun sender => sender.pc.held

/-- The accepted frames are whole blocks, and the last of them make up the
queue.  Until the queue is cleared the others have been delivered or are held by
a thread. -/
structure BlockRun (config : Config) (state : State) : Prop where
  carried : state.handler.carriesBlock = true
  uniform : Uniform blockSize state.history.accepted
  stream : ∃ read queued, state.history.accepted = read ++ queued ∧
    state.pvt.audioQueue.buffer = queued.flatten ∧
    (config.sends = true → state.pvt.destroyCalls = 0 →
      (state.history.delivered ++ heldBlocks state.threads).Perm read)

section Held

variable {threads : List Sender} {index : Nat} {sender sender' : Sender}

theorem SenderPc.plain_held {pc : SenderPc} (plain : pc.plain = true) :
    pc.held = none := by
  cases pc <;> first
    | rfl
    | cases plain

theorem heldBlocks_same (located : threads[index]? = some sender)
    (same : sender'.pc.held = sender.pc.held) :
    (heldBlocks (threads.set index sender')).Perm (heldBlocks threads) := by
  have replaced := filterMap_set_perm located
    (fun sender => sender.pc.held) sender'
  simp only [same] at replaced
  exact (List.perm_append_left_iff _).mp replaced

theorem heldBlocks_read {block : Bytes}
    (located : threads[index]? = some sender)
    (before : sender.pc.held = none) (after : sender'.pc.held = some block) :
    (heldBlocks (threads.set index sender')).Perm
      (block :: heldBlocks threads) := by
  have replaced := filterMap_set_perm located
    (fun sender => sender.pc.held) sender'
  simp only [before, after] at replaced
  exact replaced

theorem heldBlocks_send {block : Bytes}
    (located : threads[index]? = some sender)
    (before : sender.pc.held = some block) (after : sender'.pc.held = none) :
    (block :: heldBlocks (threads.set index sender')).Perm
      (heldBlocks threads) := by
  have replaced := filterMap_set_perm located
    (fun sender => sender.pc.held) sender'
  simp only [before, after] at replaced
  exact replaced

end Held

section Blocks

variable {config : Config} {before after : State}

theorem BlockRun.initial (now : Nat) :
    BlockRun config (State.initial now) where
  carried := rfl
  uniform := uniform_nil
  stream := ⟨[], [], rfl, rfl, fun _ _ => List.Perm.nil⟩

/-- A step of a thread that moves no block. -/
theorem BlockRun.of_thread {index : Nat} {sender sender' : Sender} {pvt : Pvt}
    {relayed : List String} (run : BlockRun config before)
    (located : before.threads[index]? = some sender)
    (same : sender'.pc.held = sender.pc.held)
    (buffer : pvt.audioQueue.buffer = before.pvt.audioQueue.buffer)
    (destroyCalls : pvt.destroyCalls = before.pvt.destroyCalls) :
    BlockRun config { before with
      pvt := pvt
      history := { before.history with relayed := relayed }
      threads := before.threads.set index sender' } := by
  obtain ⟨read, queued, split, queue, taken⟩ := run.stream
  refine ⟨run.carried, run.uniform, read, queued, split, buffer.trans queue, ?_⟩
  intro sends alive
  have kept := heldBlocks_same located same
  exact (kept.append_left _).trans (taken sends (destroyCalls.symm.trans alive))

theorem BlockRun.threadStep {index : Nat} {choice : FunAsr.SenderChoice}
    {pvt : Pvt} {sender sender' : Sender} {history : History}
    (run : BlockRun config before)
    (located : before.threads[index]? = some sender)
    (moved : SenderMove config choice before.pvt before.history sender pvt
      sender' history) :
    BlockRun config { before with
      pvt := pvt
      history := history
      threads := before.threads.set index sender' } := by
  obtain ⟨read, queued, split, queue, taken⟩ := run.stream
  have queuedUniform : Uniform blockSize queued := by
    have uniform := run.uniform
    rw [split, uniform_append] at uniform
    exact uniform.2
  cases moved with
  | goto source target =>
      refine run.of_thread located ?_ rfl rfl
      rw [SenderPc.plain_held source]
      exact SenderPc.plain_held target
  | wait source target sameBuffer =>
      refine run.of_thread located ?_ sameBuffer rfl
      rw [SenderPc.plain_held source]
      exact SenderPc.plain_held target
  | @read queue' block source full rest =>
      obtain ⟨others, rfl, left⟩ :=
        queuedUniform.uncons (by decide) full (rest.trans queue)
      refine ⟨run.carried, run.uniform, read ++ [block], others, ?_, left, ?_⟩
      · rw [List.append_assoc]
        exact split
      · intro sends alive
        have held := heldBlocks_read located (SenderPc.plain_held source)
          (show ({ sender with pc := .sendBlock block } : Sender).pc.held =
            some block from rfl)
        calc before.history.delivered ++ heldBlocks (before.threads.set index
              { sender with pc := .sendBlock block })
          _ ~ before.history.delivered ++
              block :: heldBlocks before.threads := held.append_left _
          _ ~ block :: (before.history.delivered ++
              heldBlocks before.threads) := List.perm_middle
          _ ~ block :: read := (taken sends alive).cons block
          _ ~ read ++ [block] := (List.perm_append_singleton block read).symm
  | drop here expired some few =>
      -- a queue of whole blocks that is not empty holds one
      exfalso
      rw [queue] at some few
      rw [queuedUniform.length_flatten] at few
      cases queued with
      | nil => exact some rfl
      | cons block others =>
          rw [List.length_cons, Nat.succ_mul] at few
          omega
  | @send block here =>
      have accepted : (before.history.noteBlock config block).accepted =
          before.history.accepted := by
        unfold History.noteBlock
        split <;> rfl
      refine ⟨run.carried, accepted.symm ▸ run.uniform, read, queued,
        accepted.trans split, queue, ?_⟩
      intro sends alive
      have held := heldBlocks_send located
        (show sender.pc.held = some block by rw [here]; rfl)
        (show ({ sender with pc := .loopClient } : Sender).pc.held = none
          from rfl)
      simp only [History.noteBlock, sends, if_true, List.append_assoc,
        List.singleton_append]
      exact (held.append_left _).trans (taken sends alive)
  | destroy here =>
      refine ⟨run.carried, run.uniform, before.history.accepted, [],
        (List.append_nil _).symm, rfl, ?_⟩
      intro _ alive
      cases alive
  | leave here =>
      refine run.of_thread located ?_ rfl rfl
      rw [here]
      rfl

theorem BlockRun.handlerStep {success created : Bool} {pvt : Pvt}
    {next : HandlerPc} {history : History} (run : BlockRun config before)
    (moved : HandlerMove success before.pvt before.history before.handler pvt
      next history created) :
    BlockRun config { before with
      pvt := pvt
      handler := next
      history := history
      threads := before.threads ++
        if created then [Sender.initial] else [] } := by
  obtain ⟨read, queued, split, queue, taken⟩ := run.stream
  have noHeld : heldBlocks (before.threads ++
      if created then [Sender.initial] else []) =
        heldBlocks before.threads := by
    unfold heldBlocks
    cases created <;> simp [Sender.initial, SenderPc.held]
  cases moved with
  | goto _ _ _ carried =>
      exact ⟨carried run.carried, run.uniform, read, queued, split, queue,
        by rw [noHeld]; exact taken⟩
  | @accept data _ here written =>
      have full : data.length = blockSize := by
        have carried := run.carried
        rw [here] at carried
        exact beq_iff_eq.mp carried
      refine ⟨rfl, ?_, read, queued ++ [data], ?_, ?_, ?_⟩
      · rw [uniform_append, uniform_cons]
        exact ⟨run.uniform, full, uniform_nil⟩
      · rw [← List.append_assoc, split]
      · rw [List.flatten_append, ← queue]
        simpa using written
      · rw [noHeld]
        exact taken
  | destroy here =>
      refine ⟨rfl, run.uniform, before.history.accepted, [],
        (List.append_nil _).symm, rfl, ?_⟩
      intro _ alive
      cases alive
  | _ =>
      exact ⟨rfl, run.uniform, read, queued, split, queue,
        by rw [noHeld]; exact taken⟩

theorem BlockRun.step {action : Action} (run : BlockRun config before)
    (stepped : before.step config action = some after) :
    BlockRun config after := by
  cases step_moves stepped with
  | tick => exact ⟨run.carried, run.uniform, run.stream⟩
  | @message message idle =>
      refine ⟨?_, run.uniform, run.stream⟩
      cases message <;> rfl
  | close idle => exact ⟨rfl, run.uniform, run.stream⟩
  | handler moved => exact run.handlerStep moved
  | thread located moved => exact run.threadStep located moved
  | callback _ located same =>
      exact run.of_thread located (congrArg SenderPc.held same) rfl rfl

end Blocks

/-! ## Threads that leave nothing behind -/

/-- When a thread leaves its loop because the speech has ended, audio has been
accepted before that only at a sample rate at which the loop sends it, and then
the queue has not been cleared, no thread holds a block, and less than a block
from before the end is in the queue. -/
def drained (config : Config) : State × EndLog → Action → Bool
  | (state, log), action =>
      match state.leavesLoop action with
      | none => true
      | some _ =>
          decide (log.requested < blockSize) ||
            config.sends && state.pvt.destroyCalls == 0 &&
              state.threads.all (fun sender => sender.pc.held.isNone) &&
              decide (state.pvt.audioQueue.buffer.length + log.requested <
                blockSize + state.acceptedBytes.length)

/-- What is true of a connection and the log of its observer. -/
structure EndRun (config : Config) (observed : State × EndLog) : Prop where
  blocks : BlockRun config observed.1
  requested : observed.2.requested ≤ observed.1.acceptedBytes.length
  left : ∀ entry ∈ observed.2.left,
    entry.2 ≤ observed.1.acceptedBytes.length ∧
      List.Subperm (observed.1.history.accepted.take (entry.2 / blockSize))
        observed.1.history.delivered

section Runs

variable {config : Config} {before after : State × EndLog}

/-- The bytes accepted so far fill as many blocks as frames have come. -/
theorem BlockRun.blocks_le {state : State} (run : BlockRun config state)
    {count : Nat} (inside : count ≤ state.acceptedBytes.length) :
    count / blockSize ≤ state.history.accepted.length := by
  unfold State.acceptedBytes at inside
  rw [run.uniform.length_flatten] at inside
  exact Nat.div_le_of_le_mul (by rwa [Nat.mul_comm])

theorem EndRun.endsAfterAudio {observed : State × EndLog}
    (run : EndRun config observed) : EndsAfterAudio observed := by
  intro index requested sender member _ _
  obtain ⟨inside, sent⟩ := run.left _ member
  have uniform : Uniform blockSize
      (observed.1.history.accepted.take (requested / blockSize)) :=
    fun block taken => run.blocks.uniform block (List.mem_of_mem_take taken)
  have front : (observed.1.history.accepted.take
      (requested / blockSize)).flatten <+: observed.1.acceptedBytes :=
    (List.take_prefix _ _).flatten
  rw [completeBlocks_take uniform front inside
    (by simpa using run.blocks.blocks_le inside)]
  exact sent

/-- What a step adds to the history. -/
theorem step_grows {state next : State} {action : Action}
    (stepped : state.step config action = some next) :
    state.history.accepted <+: next.history.accepted ∧
      state.history.delivered <+: next.history.delivered := by
  cases step_moves stepped with
  | handler moved =>
      cases moved with
      | accept => exact ⟨List.prefix_append _ _, List.prefix_rfl⟩
      | _ => exact ⟨List.prefix_rfl, List.prefix_rfl⟩
  | thread _ moved =>
      cases moved with
      | send =>
          unfold History.noteBlock
          split
          · exact ⟨List.prefix_rfl, List.prefix_append _ _⟩
          · exact ⟨List.prefix_rfl, List.prefix_rfl⟩
      | _ => exact ⟨List.prefix_rfl, List.prefix_rfl⟩
  | _ => exact ⟨List.prefix_rfl, List.prefix_rfl⟩

theorem EndRun.leaves {action : Action} {index : Nat}
    (run : EndRun config before)
    (permitted : drained config before action = true)
    (leaves : before.1.leavesLoop action = some index) :
    List.Subperm
      (before.1.history.accepted.take (before.2.requested / blockSize))
      before.1.history.delivered := by
  simp only [drained, leaves, Bool.or_eq_true, Bool.and_eq_true,
    decide_eq_true_eq, beq_iff_eq] at permitted
  rcases permitted with little | ⟨⟨⟨sends, alive⟩, nobody⟩, fewer⟩
  · rw [Nat.div_eq_of_lt little, List.take_zero]
    exact List.nil_subperm
  obtain ⟨read, queued, split, queue, taken⟩ := run.blocks.stream
  have noHeld : heldBlocks before.1.threads = [] := by
    refine List.filterMap_eq_nil_iff.mpr fun sender member => ?_
    exact Option.isNone_iff_eq_none.mp (List.all_eq_true.mp nobody sender member)
  have delivered := taken sends alive
  rw [noHeld, List.append_nil] at delivered
  have uniform := run.blocks.uniform
  have length := uniform.length_flatten
  rw [split, uniform_append] at uniform
  rw [split, List.length_append, Nat.add_mul] at length
  have enough : before.2.requested / blockSize ≤ read.length := by
    unfold State.acceptedBytes at fewer
    rw [split] at fewer
    rw [queue, uniform.2.length_flatten, length] at fewer
    unfold blockSize at fewer ⊢
    omega
  rw [split, List.take_append_of_le_length enough]
  exact (List.take_sublist _ _).subperm.trans delivered.symm.subperm

theorem EndRun.step {action : Action} (run : EndRun config before)
    (permitted : drained config before action = true)
    (stepped : watched (State.step config) noteEnd before action =
      some after) : EndRun config after := by
  obtain ⟨inner, noted⟩ := watched_eq stepped
  obtain ⟨accepted, delivered⟩ := step_grows inner
  have longer : before.1.acceptedBytes.length ≤ after.1.acceptedBytes.length :=
    accepted.flatten.length_le
  have requested := run.requested
  have kept {count : Nat} (inside : count ≤ before.1.acceptedBytes.length)
      (sent : List.Subperm (before.1.history.accepted.take (count / blockSize))
        before.1.history.delivered) :
      count ≤ after.1.acceptedBytes.length ∧
        List.Subperm (after.1.history.accepted.take (count / blockSize))
          after.1.history.delivered := by
    obtain ⟨more, added⟩ := accepted
    refine ⟨by omega, ?_⟩
    rw [← added,
      List.take_append_of_le_length (run.blocks.blocks_le inside)]
    exact sent.trans delivered.sublist.subperm
  refine ⟨run.blocks.step inner, ?_, ?_⟩
  · rw [noted]
    simp only [noteEnd]
    split <;> omega
  · intro entry member
    rw [noted] at member
    simp only [noteEnd, List.mem_append, List.mem_map,
      Option.mem_toList] at member
    rcases member with old | ⟨index, leaves, rfl⟩
    · obtain ⟨inside, sent⟩ := run.left entry old
      exact kept inside sent
    · exact kept requested (run.leaves permitted leaves)

end Runs

/-- A thread that leaves its loop with the queue drained has sent all audio from
before the end of the speech when it ends the conversation. -/
theorem endsAfterAudio_drained (config : Config) (now : Nat)
    {observed : State × EndLog}
    (reached : PermittedReach (watched (State.step config) noteEnd)
      (fun observed action => drained config observed action = true)
      (State.initial now, EndLog.initial) observed) :
    EndsAfterAudio observed := by
  have run : EndRun config observed :=
    reached.invariant ⟨.initial now, Nat.zero_le _, nofun⟩
      fun _ _ _ run permitted stepped => run.step permitted stepped
  exact run.endsAfterAudio

end Rnnoise

end SpeechModules
