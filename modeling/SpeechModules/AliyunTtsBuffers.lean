import SpeechModules.AliyunTtsTextOrder
import SpeechModules.AliyunTtsCompletion
import SpeechModules.AliyunTtsRequests
import Mathlib.Logic.Function.Basic

/-!
# The buffers of the texts

The module handles its texts as pointers.  `aliyuntts_resume` copies the text it
is given into the pool and queues the copy; `aliyuntts_speech_feed_tts` queues
the pointer it is given, and its caller frees or reuses the buffer as soon as
the call has returned.  The characters are read much later, when
`prepare_tts_request` builds the message.

Here the step system of the handle runs beside an explicit store of buffers.
Inside the handle a text is only the mark of the call that brought it; what the
message says is read from the store.
-/

namespace SpeechModules

namespace AliyunTts

open StepSystem

/-- A place that holds a C string: a buffer of some caller, or the copy made for
the call of this number. -/
inductive Cell where
  | caller (address : Nat)
  | copy (call : Nat)
  deriving DecidableEq

/-- A call that brings a text: the cell whose address the module keeps, and the
content of the caller's cell when the call was made. -/
structure TextCall where
  cell : Cell
  content : Text

/-- The text under which the handle knows the call of this number. -/
def callMark (call : Nat) : Text := List.replicate (call + 1) 0

def callOf (text : Text) : Nat := text.length - 1

@[simp]
theorem callOf_callMark (call : Nat) : callOf (callMark call) = call := by
  simp [callOf, callMark]

/-! ## The handle and its buffers -/

/-- The handle beside the store.  `requests` are the `request_data` locals of
the senders, as far as their text goes; `spoken` is the observer's list of every
StartSynthesis, with the mark of its text and the payload it carried. -/
structure BufferState where
  handle : State
  store : Cell → Text
  calls : List TextCall
  requests : Nat → Text
  spoken : List (Text × Text)

def BufferState.initial (now : Nat) (store : Cell → Text) : BufferState where
  handle := .initial now
  store := store
  calls := []
  requests := fun _ => []
  spoken := []

/-- The cell that a text of the handle points to. -/
def BufferState.cell? (state : BufferState) (text : Text) : Option Cell :=
  state.calls[callOf text]?.map TextCall.cell

/-- What is found through the pointer. -/
def BufferState.read (state : BufferState) (text : Text) : Text :=
  match state.cell? text with
  | none => []
  | some cell => state.store cell

/-- `prepare_tts_request` reads the text, and `send` hands over what was
read. -/
def BufferState.note (state : BufferState) (action : Action) : BufferState :=
  match action.sender? with
  | none => state
  | some (sender, choice) =>
      match state.handle.request? sender, choice with
      | some (text, .prepare), _ =>
          { state with
            requests := Function.update state.requests sender (state.read text) }
      | some (text, .send), .handed =>
          { state with
            spoken := state.spoken ++ [(text, state.requests sender)] }
      | _, _ => state

/-- A call that has not returned uses the caller's buffer. -/
def BufferState.inUse (state : BufferState) (address : Nat) : Bool :=
  state.handle.feeds.any fun feed =>
    !feed.resting && state.cell? feed.text == some (.caller address)

inductive BufferAction where
  | handle (action : Action)
  | feedStart (address : Nat)
  | resume (address : Nat)
  | overwrite (address : Nat) (content : Text)

/-- One step of the handle or of a caller.  A buffer is changed, or freed and
used for something else, by its caller, who leaves it alone during the call. -/
def BufferState.step (state : BufferState) : BufferAction → Option BufferState
  | .handle (.feedStart _) => none
  | .handle (.resume _) => none
  | .handle action =>
      (state.handle.step action).map fun handle =>
        { state.note action with handle := handle }
  | .feedStart address =>
      (state.handle.step (.feedStart (callMark state.calls.length))).map
        fun handle =>
          { state with
            handle := handle
            calls := state.calls ++
              [⟨.caller address, state.store (.caller address)⟩] }
  | .resume address =>
      -- `switch_core_strdup` after the test for empty data
      if state.store (.caller address) = [] then none
      else
        (state.handle.step (.resume (callMark state.calls.length))).map
          fun handle =>
            { state with
              handle := handle
              store := Function.update state.store (.copy state.calls.length)
                (state.store (.caller address))
              calls := state.calls ++
                [⟨.copy state.calls.length, state.store (.caller address)⟩] }
  | .overwrite address content =>
      if state.inUse address then none
      else
        some { state with
          store := Function.update state.store (.caller address) content }

/-- Every StartSynthesis carries the content that the caller's cell had when the
call that brought its text was made. -/
def SpokenAsFed (state : BufferState) : Prop :=
  state.handle.history.sent = state.spoken.map Prod.fst ∧
    ∀ text payload, (text, payload) ∈ state.spoken →
      ∃ call, state.calls[callOf text]? = some call ∧ payload = call.content

/-! ## A queued text whose buffer is reused -/

def twoBuffers : Cell → Text
  | .caller 0 => [65]
  | .caller 1 => [66]
  | _ => []

/-- Actions of the handle alone. -/
def handled (actions : List Action) : List BufferAction :=
  actions.map BufferAction.handle

/-- The first text is sent directly, and its call returns with the first audio.
The second one finds the handle busy and is queued, and its call returns. -/
def queuedFeedSchedule : List BufferAction :=
  handled openingSchedule ++ BufferAction.feedStart 0 ::
    handled (List.replicate 11 (.feedStep 0 .handed)) ++
    handled (firstPacketSchedule [1]) ++
    handled [.feedStep 0 .handed] ++ BufferAction.feedStart 1 ::
    handled (List.replicate 4 (.feedStep 1 .handed))

/-- The first text is completed and the loop sends the second one. -/
def nextTextSchedule : List BufferAction :=
  handled [.netStart (.text (some synthesisCompletedMessage) 1), .netStep,
    .tick 500, .delayedStep 0, .delayedStep 0] ++ handled sendingIteration

theorem spokenAsFed_fails :
    ¬ ∀ state, Reach BufferState.step (.initial 1000 twoBuffers) state →
      SpokenAsFed state := by
  intro always
  obtain ⟨state, reached, wrong⟩ :=
    exists_reach_of_replay BufferState.step (.initial 1000 twoBuffers)
      (queuedFeedSchedule ++ .overwrite 1 [67] :: nextTextSchedule)
      (fun state => state.spoken.contains (callMark 1, [67]) &&
        (state.calls[1]?.map TextCall.content == some [66]))
      (by decide)
  simp only [Bool.and_eq_true, List.contains_iff_mem, beq_iff_eq] at wrong
  obtain ⟨spoken, fed⟩ := wrong
  obtain ⟨call, made, same⟩ := (always state reached).2 _ _ spoken
  rw [callOf_callMark] at made
  rw [made, Option.map_some, ← same] at fed
  cases fed

/-! ## Where the texts of the handle go -/

section Agents

variable {clock : Nat} {choice : SendChoice} {pvt after : Pvt}
  {history history' : History}

/-- The processing thread takes no text from anywhere but the queue. -/
theorem processingThreadStep_carries {proc proc' : Proc} {text : Text}
    (consistent : proc.consistent)
    (stepped : processingThreadStep clock choice pvt history proc =
      some (after, proc', history'))
    (waiting : text ∈ proc'.carried ++ after.ttsTextQueue) :
    text ∈ proc.carried ++ pvt.ttsTextQueue := by
  cases processingThreadStep_moves stepped with
  | goto goes =>
      rw [Proc.carried_of_plain goes.plain.2] at waiting
      rw [Proc.carried_of_plain goes.plain.1]
      exact waiting
  | pop here nothing queued =>
      simp only [Proc.carried, here]
      simpa [Proc.carried, nothing, queued] using waiting
  | drop here | enter here =>
      simp only [Proc.consistent, here] at consistent
      simp only [Proc.carried, here]
      simp_all [Proc.carried]
  | gotoPopped here sent | handedPopped here sent | lostPopped here sent
  | failedPopped here sent | gotoPending here sent | handedPending here sent
  | lostPending here sent | failedPending here sent =>
      obtain ⟨_, _, _, _, rfl⟩ := sendTtsRequestStep_writes sent
      simp only [Proc.consistent, here] at consistent
      simp only [Proc.carried, here]
      simp_all [Proc.carried]
  | _ here =>
      simp only [Proc.carried, here]
      exact waiting

/-- A call of `aliyuntts_speech_feed_tts` at most queues its text. -/
theorem speechFeedTtsStep_queue {feed feed' : Feed}
    (stepped : speechFeedTtsStep clock choice pvt history feed =
      some (after, feed', history')) :
    feed.resting = false ∧
      (after.ttsTextQueue = pvt.ttsTextQueue ∨
        after.ttsTextQueue = pvt.ttsTextQueue ++ [feed.text]) := by
  cases here : feed.pc <;> simp only [speechFeedTtsStep, here] at stepped <;>
    simp only [Feed.resting, here, true_and]
  case sending pc =>
    split at stepped
    next => cases stepped
    all_goals
      next sent =>
        obtain ⟨_, _, _, _, rfl⟩ := sendTtsRequestStep_writes sent
        cases stepped
        exact .inl rfl
  all_goals try split at stepped
  all_goals first
    | (cases stepped; done)
    | (cases stepped; exact .inl rfl)
    | (cases stepped; exact .inr rfl)

end Agents

section Steps

variable {before after : State} {action : Action}

/-- The texts whose characters may still be read: the waiting ones, and those of
the calls that have not returned. -/
def State.held (state : State) : List Text :=
  state.waiting ++
    (state.feeds.filter fun feed => !feed.resting).map Feed.text

theorem mem_held {state : State} {text : Text} :
    text ∈ state.held ↔ text ∈ state.waiting ∨
      ∃ feed ∈ state.feeds, feed.resting = false ∧ feed.text = text := by
  simp [State.held, and_assoc]

/-- The text of a sender is held. -/
theorem held_of_request {state : State} {sender : Nat} {text : Text}
    {pc : SendPc} (consistent : state.proc.consistent)
    (inside : state.request? sender = some (text, pc)) :
    text ∈ state.held := by
  apply mem_held.mpr
  cases sender with
  | zero =>
      left
      apply List.mem_append_left
      cases here : state.proc.pc
      all_goals
        simp only [State.request?, ProcPc.request?, here] at inside
        simp only [Proc.consistent, here] at consistent
        simp_all [Proc.carried]
  | succ index =>
      right
      obtain ⟨feed, located, request⟩ := Option.bind_eq_some_iff.mp inside
      obtain ⟨position, sending, same⟩ := Option.map_eq_some_iff.mp request
      cases same
      refine ⟨feed, List.mem_of_getElem? located, ?_, rfl⟩
      simp [Feed.resting, FeedPc.eq_sending sending]

/-- The start of the processing loop brings no text. -/
theorem Proc.carried_of_started {proc : Proc} {text : Text}
    (consistent : proc.consistent)
    (carried : text ∈ Proc.carried { proc with pc := .loopHead }) :
    text ∈ proc.carried := by
  cases here : proc.pc
  all_goals
    simp only [Proc.consistent, here] at consistent
    simp_all [Proc.carried]

/-- The calls hold the text of the one that moves until it has been queued. -/
theorem held_of_feedStep {index : Nat} {feed feed' : Feed} {choice : SendChoice}
    {pvt : Pvt} {history : History} {text : Text}
    (located : before.feeds[index]? = some feed)
    (agent : speechFeedTtsStep before.clock choice before.pvt before.history
      feed = some (pvt, feed', history))
    (held : text ∈ State.held { before with
      pvt := pvt, feeds := before.feeds.set index feed', history := history }) :
    text ∈ before.held := by
  obtain ⟨unreturned, queue⟩ := speechFeedTtsStep_queue agent
  have caller := List.mem_of_getElem? located
  rw [mem_held] at held ⊢
  rcases held with waiting | ⟨other, member, calling, same⟩
  · simp only [State.waiting, List.mem_append] at waiting ⊢
    rcases queue with kept | pushed
    · rw [kept] at waiting
      exact .inl waiting
    · rw [pushed, List.mem_append, List.mem_singleton] at waiting
      rcases waiting with carried | queued | mine
      · exact .inl (.inl carried)
      · exact .inl (.inr queued)
      · exact .inr ⟨_, caller, unreturned, mine.symm⟩
  · rcases List.mem_or_eq_of_mem_set member with earlier | rfl
    · exact .inr ⟨other, earlier, calling, same⟩
    · exact .inr ⟨_, caller, unreturned,
        (speechFeedTtsStep_text agent).symm.trans same⟩

/-- A text is held because it was held before or because it has just been
brought. -/
theorem step_held {text : Text} (consistent : before.proc.consistent)
    (stepped : before.step action = some after) (held : text ∈ after.held) :
    text ∈ before.held ∨ action = .feedStart text ∨ action = .resume text := by
  by_cases others : action.handlesTexts = false
  · obtain ⟨proc, feeds, queue, _⟩ := step_keeps_texts stepped others
    left
    simpa only [State.held, State.waiting, proc, feeds, queue] using held
  rw [mem_held] at held
  cases step_moves stepped with
  | openStep agent =>
      obtain ⟨_, _, _, rfl, started⟩ := speechOpenStep_writes agent
      left
      apply mem_held.mpr
      rcases held with waiting | calling
      · left
        simp only [State.waiting, List.mem_append] at waiting ⊢
        rcases started with rfl | rfl
        · exact waiting
        · rcases waiting with carried | queued
          · exact .inl (Proc.carried_of_started consistent carried)
          · exact .inr queued
      · exact .inr calling
  | procStep agent =>
      left
      apply mem_held.mpr
      rcases held with waiting | calling
      · exact .inl (processingThreadStep_carries consistent agent waiting)
      · exact .inr calling
  | feedStart opened =>
      rcases held with waiting | ⟨feed, member, calling, same⟩
      · exact .inl (mem_held.mpr (.inl waiting))
      · rcases List.mem_append.mp member with earlier | fresh
        · exact .inl (mem_held.mpr (.inr ⟨feed, earlier, calling, same⟩))
        · rw [List.mem_singleton.mp fresh] at same
          exact .inr (.inl (congrArg Action.feedStart same))
  | feedStep located agent =>
      exact .inl (held_of_feedStep located agent (mem_held.mpr held))
  | resume =>
      rcases held with waiting | calling
      · simp only [State.waiting, ← List.append_assoc, List.mem_append,
          List.mem_singleton] at waiting
        rcases waiting with earlier | rfl
        · exact .inl (mem_held.mpr (.inl (List.mem_append.mpr earlier)))
        · exact .inr (.inr rfl)
      · exact .inl (mem_held.mpr (.inr calling))
  | _ => exact (others rfl).elim

end Steps

/-! ## Runs in which no waiting text changes -/

/-- The side condition of intact runs: a caller does not change the content of a
buffer while a text that was brought in it is waiting. -/
def unshared (state : BufferState) : BufferAction → Bool
  | .overwrite address content =>
      content == state.store (.caller address) ||
        state.handle.waiting.all fun text =>
          state.cell? text != some (.caller address)
  | _ => true

/-- The text still reads as it was brought. -/
def BufferState.Intact (state : BufferState) (text : Text) : Prop :=
  ∃ call, state.calls[callOf text]? = some call ∧
    state.store call.cell = call.content

structure BufferRun (state : BufferState) : Prop where
  consistent : state.handle.proc.consistent
  copies : ∀ (index : Nat) (call : TextCall),
    state.calls[index]? = some call →
    ∀ number, call.cell = .copy number → number = index
  intact : ∀ text ∈ state.handle.held, state.Intact text
  prepared : ∀ sender text, state.handle.request? sender = some (text, .send) →
    ∃ call, state.calls[callOf text]? = some call ∧
      state.requests sender = call.content
  spoken : SpokenAsFed state

theorem BufferRun.initial (now : Nat) (store : Cell → Text) :
    BufferRun (.initial now store) where
  consistent := trivial
  copies index call made := by simp [BufferState.initial] at made
  intact text held := by
    simp [BufferState.initial, State.initial, State.held, State.waiting,
      Proc.carried, Pvt.initial] at held
  prepared sender text inside := by cases sender <;> cases inside
  spoken := by
    simp [SpokenAsFed, BufferState.initial, State.initial, History.initial]

section Notes

variable {state : BufferState} {action : Action}

/-- The observer writes only on the senders' requests and on the spoken list. -/
theorem note_frame :
    (state.note action).handle = state.handle ∧
      (state.note action).store = state.store ∧
      (state.note action).calls = state.calls := by
  unfold BufferState.note
  split
  · exact ⟨rfl, rfl, rfl⟩
  · split <;> exact ⟨rfl, rfl, rfl⟩

theorem note_prepares {sender : Nat} {choice : SendChoice} {text : Text}
    (moves : action.sender? = some (sender, choice))
    (inside : state.handle.request? sender = some (text, .prepare)) :
    (state.note action).requests sender = state.read text := by
  simp [BufferState.note, moves, inside]

theorem note_requests_other {sender : Nat}
    (others : ∀ choice, action.sender? ≠ some (sender, choice)) :
    (state.note action).requests sender = state.requests sender := by
  unfold BufferState.note
  split
  · rfl
  next moving choice moves =>
    have different : sender ≠ moving := by
      rintro rfl
      exact others choice moves
    split
    · exact Function.update_of_ne different _ _
    · rfl
    · rfl

/-- What the observer adds to the spoken list. -/
theorem note_spoken :
    (state.note action).spoken = state.spoken ∧
        state.handle.handed? action = none ∨
      ∃ sender text, state.handle.request? sender = some (text, .send) ∧
        state.handle.handed? action = some text ∧
        (state.note action).spoken =
          state.spoken ++ [(text, state.requests sender)] := by
  unfold BufferState.note State.handed?
  split
  next nobody => exact .inl ⟨rfl, by simp [nobody]⟩
  next sender choice moves =>
    split
    next text inside =>
      refine .inl ⟨rfl, ?_⟩
      simp [moves, inside, handedText]
    next text inside =>
      refine .inr ⟨sender, text, inside, ?_, rfl⟩
      simp [moves, inside, handedText]
    next notPreparing notHanding =>
      refine .inl ⟨rfl, ?_⟩
      rw [moves, Option.bind_some]
      by_contra handing
      obtain ⟨text, handed⟩ := Option.ne_none_iff_exists'.mp handing
      obtain ⟨inside, hands⟩ := handedText_eq_some handed
      exact notHanding text inside hands

theorem read_of_call {text : Text} {call : TextCall}
    (made : state.calls[callOf text]? = some call) :
    state.read text = state.store call.cell := by
  simp [BufferState.read, BufferState.cell?, made]

end Notes

/-- What each action can do to the handle and its buffers. -/
inductive BufferMove (state : BufferState) : BufferAction → BufferState → Prop
  | handle {action : Action} {handle : State}
      (noFeed : ∀ text, action ≠ .feedStart text)
      (noResume : ∀ text, action ≠ .resume text)
      (inner : state.handle.step action = some handle) :
      BufferMove state (.handle action)
        { state.note action with handle := handle }
  | feedStart {address : Nat} {handle : State}
      (inner : state.handle.step
        (.feedStart (callMark state.calls.length)) = some handle) :
      BufferMove state (.feedStart address)
        { state with
          handle := handle
          calls := state.calls ++
            [⟨.caller address, state.store (.caller address)⟩] }
  | resume {address : Nat} {handle : State}
      (inner : state.handle.step
        (.resume (callMark state.calls.length)) = some handle) :
      BufferMove state (.resume address)
        { state with
          handle := handle
          store := Function.update state.store (.copy state.calls.length)
            (state.store (.caller address))
          calls := state.calls ++
            [⟨.copy state.calls.length, state.store (.caller address)⟩] }
  | overwrite {address : Nat} {content : Text}
      (unused : state.inUse address = false) :
      BufferMove state (.overwrite address content)
        { state with
          store := Function.update state.store (.caller address) content }

section BufferSteps

variable {before after : BufferState}

theorem bufferStep_moves {action : BufferAction}
    (stepped : before.step action = some after) :
    BufferMove before action after := by
  cases action with
  | handle action =>
      cases action <;> simp only [BufferState.step] at stepped
      case feedStart => cases stepped
      case resume => cases stepped
      all_goals
        obtain ⟨handle, inner, rfl⟩ := Option.map_eq_some_iff.mp stepped
        exact .handle (by simp) (by simp) inner
  | feedStart address =>
      obtain ⟨handle, inner, rfl⟩ := Option.map_eq_some_iff.mp stepped
      exact .feedStart inner
  | resume address =>
      obtain ⟨_, stepped⟩ := Option.ite_none_left_eq_some.mp stepped
      obtain ⟨handle, inner, rfl⟩ := Option.map_eq_some_iff.mp stepped
      exact .resume inner
  | overwrite address content =>
      obtain ⟨unused, stepped⟩ := Option.ite_none_left_eq_some.mp stepped
      cases stepped
      exact .overwrite (by simpa using unused)

/-- A step of the handle reads and hands over intact texts. -/
theorem BufferRun.handle {action : Action} {handle : State}
    (run : BufferRun before) (noFeed : ∀ text, action ≠ .feedStart text)
    (noResume : ∀ text, action ≠ .resume text)
    (inner : before.handle.step action = some handle) :
    BufferRun { before.note action with handle := handle } := by
  obtain ⟨_, sameStore, sameCalls⟩ := @note_frame before action
  constructor
  · exact step_consistent run.consistent inner
  · simpa only [sameCalls] using run.copies
  · intro text held
    simp only [BufferState.Intact, sameStore, sameCalls]
    rcases step_held run.consistent inner held with earlier | feeds | resumes
    · exact run.intact text earlier
    · exact (noFeed text feeds).elim
    · exact (noResume text resumes).elim
  · intro sender text atSend
    simp only [sameCalls]
    rcases step_request inner atSend with
      ⟨stays, others⟩ | ⟨preparing, choice, moves⟩
    · rw [note_requests_other others]
      exact run.prepared sender text stays
    · obtain ⟨call, made, unchanged⟩ :=
        run.intact text (held_of_request run.consistent preparing)
      refine ⟨call, made, ?_⟩
      rw [note_prepares moves preparing, read_of_call made, unchanged]
  · obtain ⟨sent, spoken⟩ := run.spoken
    simp only [SpokenAsFed, sameCalls, step_sent_eq inner]
    rcases @note_spoken before action with
      ⟨same, nothing⟩ | ⟨sender, text, atSend, handed, added⟩
    · rw [same, nothing]
      exact ⟨by simpa using sent, spoken⟩
    · rw [added, handed]
      refine ⟨by simp [sent], ?_⟩
      intro other payload member
      rcases List.mem_append.mp member with earlier | last
      · exact spoken other payload earlier
      · cases List.mem_singleton.mp last
        obtain ⟨call, made, same⟩ := run.prepared sender text atSend
        exact ⟨call, made, same⟩

/-- A new call brings a text that reads as it was brought. -/
theorem BufferRun.of_call {action : Action} {handle : State}
    {call : TextCall} {store : Cell → Text} (run : BufferRun before)
    (inner : before.handle.step action = some handle)
    (brings : action = .feedStart (callMark before.calls.length) ∨
      action = .resume (callMark before.calls.length))
    (frame : ∀ (index : Nat) (earlier : TextCall),
      before.calls[index]? = some earlier →
      store earlier.cell = before.store earlier.cell)
    (copied : store call.cell = call.content)
    (numbered : ∀ number, call.cell = .copy number →
      number = before.calls.length) :
    BufferRun { before with
      handle := handle, store := store, calls := before.calls ++ [call] } := by
  have nobody : action.sender? = none := by
    rcases brings with rfl | rfl <;> rfl
  have still {index : Nat} {earlier : TextCall}
      (made : before.calls[index]? = some earlier) :
      (before.calls ++ [call])[index]? = some earlier := by
    rw [List.getElem?_append_left (List.getElem?_eq_some_iff.mp made).1, made]
  constructor
  · exact step_consistent run.consistent inner
  · intro index made located number copy
    rw [List.getElem?_append] at located
    split at located
    · exact run.copies index made located number copy
    next notEarlier =>
      obtain ⟨inRange, same⟩ := List.getElem?_eq_some_iff.mp located
      simp only [List.length_singleton] at inRange
      simp only [List.getElem_singleton] at same
      subst same
      rw [numbered number copy]
      omega
  · intro text held
    have fresh (same : text = callMark before.calls.length) :
        BufferState.Intact { before with
          handle := handle
          store := store
          calls := before.calls ++ [call] } text := by
      refine ⟨call, ?_, copied⟩
      simp [same]
    rcases step_held run.consistent inner held with earlier | feeds | resumes
    · obtain ⟨made, located, unchanged⟩ := run.intact text earlier
      exact ⟨made, still located, (frame _ _ located).trans unchanged⟩
    · rcases brings with same | same
      · exact fresh (Action.feedStart.inj (feeds.symm.trans same))
      · rw [feeds] at same
        cases same
    · rcases brings with same | same
      · rw [resumes] at same
        cases same
      · exact fresh (Action.resume.inj (resumes.symm.trans same))
  · intro sender text atSend
    rcases step_request inner atSend with ⟨stays, _⟩ | ⟨_, choice, moves⟩
    · obtain ⟨made, located, same⟩ := run.prepared sender text stays
      exact ⟨made, still located, same⟩
    · rw [nobody] at moves
      cases moves
  · obtain ⟨sent, spoken⟩ := run.spoken
    have silent : before.handle.handed? action = none := by
      simp [State.handed?, nobody]
    refine ⟨?_, ?_⟩
    · rw [step_sent_eq inner, silent]
      simpa using sent
    · intro text payload member
      obtain ⟨made, located, same⟩ := spoken text payload member
      exact ⟨made, still located, same⟩

/-- A caller changes a buffer that nobody is going to read. -/
theorem BufferRun.overwrite {address : Nat} {content : Text}
    (run : BufferRun before)
    (permitted : unshared before (.overwrite address content) = true)
    (unused : before.inUse address = false) :
    BufferRun { before with
      store := Function.update before.store (.caller address) content } := by
  refine ⟨run.consistent, run.copies, ?_, run.prepared, run.spoken⟩
  intro text held
  obtain ⟨call, made, unchanged⟩ := run.intact text held
  refine ⟨call, made, ?_⟩
  change Function.update before.store (.caller address) content call.cell =
    call.content
  by_cases here : call.cell = .caller address
  · have cell : before.cell? text = some (.caller address) := by
      simp [BufferState.cell?, made, here]
    have waiting : text ∈ before.handle.waiting := by
      rcases mem_held.mp held with waiting | ⟨feed, member, calling, rfl⟩
      · exact waiting
      · have used : before.inUse address = true := by
          apply List.any_eq_true.mpr
          exact ⟨feed, member, by simp [calling, cell]⟩
        rw [unused] at used
        cases used
    simp only [unshared, Bool.or_eq_true, beq_iff_eq,
      List.all_eq_true, bne_iff_ne] at permitted
    rcases permitted with same | elsewhere
    · rw [here] at unchanged ⊢
      rw [Function.update_self, same, unchanged]
    · exact (elsewhere text waiting cell).elim
  · rw [Function.update_of_ne here]
    exact unchanged

theorem BufferRun.step {action : BufferAction} (run : BufferRun before)
    (permitted : unshared before action = true)
    (stepped : before.step action = some after) : BufferRun after := by
  cases bufferStep_moves stepped with
  | handle noFeed noResume inner => exact run.handle noFeed noResume inner
  | feedStart inner =>
      exact run.of_call inner (.inl rfl) (fun _ _ _ => rfl) rfl (by simp)
  | resume inner =>
      apply run.of_call inner (.inr rfl)
      · intro index earlier made
        apply Function.update_of_ne
        intro same
        -- the number of the new copy is not taken yet
        have number := run.copies index earlier made _ same
        have inRange := (List.getElem?_eq_some_iff.mp made).1
        omega
      · exact Function.update_self ..
      · intro number same
        exact (Cell.copy.inj same).symm
  | overwrite unused => exact run.overwrite permitted unused

end BufferSteps

/-- In every run that leaves the buffers of waiting texts alone, every
StartSynthesis says what was fed. -/
theorem spokenAsFed_of_unshared (now : Nat) (store : Cell → Text)
    {state : BufferState}
    (reached : PermittedReach BufferState.step
      (fun state action => unshared state action = true)
      (.initial now store) state) :
    SpokenAsFed state := by
  have run : BufferRun state :=
    reached.invariant (BufferRun.initial now store)
      fun _ _ _ run permitted stepped => run.step permitted stepped
  exact run.spoken

/-- The buffer of the first text is reused while the second one waits, and that
of the second one after it has been sent. -/
theorem spokenAsFed_nextTextSchedule :
    ∃ state, PermittedReach BufferState.step
        (fun state action => unshared state action = true)
        (.initial 1000 twoBuffers) state ∧
      state.spoken = [(callMark 0, [65]), (callMark 1, [66])] ∧
      SpokenAsFed state := by
  obtain ⟨state, reached, passed⟩ :=
    exists_permittedReach_of_replay BufferState.step
      (.initial 1000 twoBuffers)
      (queuedFeedSchedule ++ .overwrite 0 [67] :: nextTextSchedule ++
        [.overwrite 1 [67]])
      (fun state => decide
        (state.spoken = [(callMark 0, [65]), (callMark 1, [66])]))
      (fun state action => unshared state action = true)
      (by decide)
  exact ⟨state, reached, of_decide_eq_true passed,
    spokenAsFed_of_unshared 1000 twoBuffers reached⟩

end AliyunTts

end SpeechModules
