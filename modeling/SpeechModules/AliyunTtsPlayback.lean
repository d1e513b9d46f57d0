import SpeechModules.AliyunTtsTextOrder

/-!
# The end of the playback

The caller of `aliyuntts_speech_read_tts` gives the handle up at the first
blocking read that fails.  Such a read is meant to wait two seconds for audio,
in steps of 20 ms, before it fails.  It waits only if `tts_in_progress` or
`audio_data_available` is set, and each wait ends at once while `read_audio_data`
is set or `tts_in_progress` is not; between two texts these flags say nothing
about the texts that are still to come.

This file states the intended budget, exhibits a run in which a read fails
within no time although a text is queued, and proves the budget for all runs
whose reads meet the flags they rely on.
-/

namespace SpeechModules

namespace AliyunTts

open StepSystem

/-- Some accepted text has not been sent, or a request has not been answered. -/
def State.unfinished (state : State) : Bool :=
  !state.waiting.isEmpty || state.history.outstanding

/-- All waits of the read ended by their timeout and not by their predicate, and
there are as many as the budget allows. -/
def Reader.budgetSpent (reader : Reader) : Prop :=
  reader.waitsByPredicate = 0 ∧
    reader.waitsByTimeout = maxWaitMs / waitStepMs

/-- A blocking read that fails on an open handle with unfinished work has gone
through its whole budget and has found the buffer empty at the end. -/
def PlaybackComplete (state : State) : Prop :=
  state.reader.pc = .returnFalse → state.reader.blocking = true →
    state.pvt.wsClosed = false → state.pvt.ttsClosed = false →
    state.unfinished = true →
    state.reader.budgetSpent ∧ state.reader.lastReadEmpty = true

/-! ## A read that fails between two texts -/

/-- The first text is completed and played while a second one waits in the
queue.  The read after that finds `tts_in_progress = 0`, so that none of its
waits lasts, and fails before the processing thread has woken up. -/
def betweenTextsSchedule : List Action :=
  openingSchedule ++ directSendSchedule 0 [65] ++ firstPacketSchedule [1] ++
    Action.netStart (.binary [2, 3]) :: List.replicate 5 Action.netStep ++
    [Action.resume [66],
      Action.netStart (.text (some synthesisCompletedMessage) 1),
      Action.netStep, Action.tick 500, Action.delayedStep 0,
      Action.delayedStep 0, Action.delayedStep 0, Action.readStart 4 true,
      Action.readStep, Action.readStart 4 true] ++
    List.replicate 709 Action.readStep

theorem playbackComplete_fails :
    ¬ ∀ state, Reach State.step (State.initial 1000) state →
      PlaybackComplete state := by
  intro always
  obtain ⟨state, reached, failed⟩ :=
    exists_reach_of_replay State.step (.initial 1000) betweenTextsSchedule
      (fun state => state.reader.pc == .returnFalse &&
        state.reader.blocking && !state.pvt.wsClosed &&
        !state.pvt.ttsClosed && state.unfinished &&
        state.reader.waitsByTimeout == 0)
      (by decide +kernel)
  simp only [Bool.and_eq_true, beq_iff_eq, Bool.not_eq_true'] at failed
  obtain ⟨⟨⟨⟨⟨returns, blocking⟩, linked⟩, opened⟩, unfinished⟩, none⟩ := failed
  have spent :=
    (always state reached returns blocking linked opened unfinished).1.2
  rw [none] at spent
  cases spent

/-! ## Runs whose reads meet the right flags -/

/-- A blocking read is in flight on an open handle. -/
def State.blockingRead (state : State) : Bool :=
  state.reader.pc != .idle && state.reader.blocking &&
    !state.pvt.wsClosed && !state.pvt.ttsClosed

/-- The test that a blocking read makes next gives the answer it should give
while audio is still to come. -/
def ReadPc.meetsFlags (pvt : Pvt) : ReadPc → Bool
  | .guardAvailable => pvt.audioDataAvailable
  | .waitTestRead _ _ _ => !pvt.readAudioData || !pvt.audioBuffer.isEmpty
  | .waitTestInProgress _ _ _ => pvt.ttsInProgress || !pvt.audioBuffer.isEmpty
  | _ => true

/-- The step of a call accepts a text. -/
def FeedPc.accepts (choice : SendChoice) (pc : FeedPc) : Bool :=
  pc == .push || (pc.sender? == some .send && choice == .handed)

/-- The side condition of attentive runs, on the state before a step.  A
blocking read on an open handle with unfinished work meets
`audio_data_available = 1` if it has found `tts_in_progress = 0`, and then
neither `read_audio_data = 1` nor `tts_in_progress = 0` while the buffer is
empty.  New work comes during a blocking read only while there is old work. -/
def attentive (state : State) : Action → Bool
  | .readStep =>
      !state.blockingRead || !state.unfinished ||
        state.reader.pc.meetsFlags state.pvt
  | .feedStep index choice =>
      !state.blockingRead || state.unfinished ||
        state.feeds[index]?.all fun feed => !feed.pc.accepts choice
  | .resume _ => !state.blockingRead || state.unfinished
  | _ => true

/-- The waits counted so far, by the position of the read. -/
def Reader.onTrack (reader : Reader) (buffer : Bytes) : Prop :=
  match reader.pc with
  | .waitLock waited | .waitTestRead waited _ _ | .waitTestInProgress waited _ _
  | .waitBlocked waited _ =>
      reader.waitsByPredicate = 0 ∧
        reader.waitsByTimeout * waitStepMs = waited ∧ waited < maxWaitMs
  | .waitLoadRead waited | .waitClearRead waited | .waitRead waited =>
      -- a wait that ended early has audio to read
      buffer ≠ [] ∨ (reader.waitsByPredicate = 0 ∧
        reader.waitsByTimeout * waitStepMs = waited + waitStepMs ∧
        waited < maxWaitMs)
  | .waitWsClosed waited | .waitTtsClosed waited =>
      reader.waitsByPredicate = 0 ∧
        reader.waitsByTimeout * waitStepMs = waited ∧ waited ≤ maxWaitMs
  | .lastRead => reader.budgetSpent
  | .stopLoad | .stopStore | .stopAvailable | .stopFire | .returnFalse =>
      reader.budgetSpent ∧ reader.lastReadEmpty = true
  | _ => reader.waitsByPredicate = 0 ∧ reader.waitsByTimeout = 0

structure PlaybackRun (state : State) : Prop where
  wants : state.reader.pc ≠ .idle → 0 < state.reader.want
  onTrack : state.blockingRead = true → state.unfinished = true →
    state.reader.onTrack state.pvt.audioBuffer

theorem PlaybackRun.complete {state : State} (run : PlaybackRun state) :
    PlaybackComplete state := by
  intro returns blocking linked opened unfinished
  have onTrack := run.onTrack
    (by simp [State.blockingRead, returns, blocking, linked, opened]) unfinished
  simpa only [Reader.onTrack, returns] using onTrack

theorem PlaybackRun.initial (now : Nat) : PlaybackRun (State.initial now) where
  wants busy := (busy rfl).elim
  onTrack blockingRead := by simp [State.blockingRead, State.initial]
    at blockingRead

/-- A longer buffer keeps a read on track. -/
theorem Reader.onTrack.of_buffer {reader : Reader} {before after : Bytes}
    (onTrack : reader.onTrack before) (grown : before ≠ [] → after ≠ []) :
    reader.onTrack after := by
  unfold Reader.onTrack at onTrack ⊢
  split at onTrack
  all_goals first
    | exact onTrack
    | exact onTrack.imp_left grown

section Reads

variable {clock : Nat} {pvt after : Pvt} {history history' : History}
  {reader reader' : Reader}

/-- A read that delivers nothing has found the buffer empty. -/
theorem bufferRead_empty {otherwise : ReadPc} (wants : 0 < reader.want)
    (read : bufferRead pvt history reader otherwise =
      (after, reader', history')) :
    reader'.pc = .idle ∨
      (pvt.audioBuffer = [] ∧ after = pvt ∧
        reader' = { reader with pc := otherwise }) := by
  unfold bufferRead at read
  split at read
  next nothing =>
    cases read
    refine .inr ⟨?_, rfl, rfl⟩
    simp only [List.length_take] at nothing
    exact List.length_eq_zero_iff.mp (by omega)
  next =>
    cases read
    exact .inl rfl

/-- The length and the flag of a call do not change. -/
theorem speechReadTtsStep_call
    (stepped : speechReadTtsStep clock pvt history reader =
      some (after, reader', history')) :
    reader'.want = reader.want ∧ reader'.blocking = reader.blocking := by
  have ofRead (reader₁ : Reader) (otherwise : ReadPc)
      (read : bufferRead pvt history reader₁ otherwise =
        (after, reader', history'))
      (want : reader₁.want = reader.want)
      (blocking : reader₁.blocking = reader.blocking) :
      reader'.want = reader.want ∧ reader'.blocking = reader.blocking := by
    unfold bufferRead at read
    split at read
    all_goals
      cases read
      exact ⟨want, blocking⟩
  cases here : reader.pc <;> simp only [speechReadTtsStep, here] at stepped
  all_goals try split at stepped
  all_goals try split at stepped
  all_goals first
    | exact ofRead _ _ (Option.some.inj stepped) rfl rfl
    | (cases stepped; done)
    | (cases stepped; exact ⟨rfl, rfl⟩)

/-- The positions of the loop of condition waits. -/
def ReadPc.waits : ReadPc → Bool
  | .waitLock _ | .waitTestRead _ _ _ | .waitTestInProgress _ _ _ => true
  | .waitBlocked _ _ | .waitLoadRead _ | .waitClearRead _ | .waitRead _ => true
  | .waitWsClosed _ | .waitTtsClosed _ => true
  | _ => false

/-- One step in the loop of condition waits.  The flags end no wait early, so
every round adds one timeout. -/
theorem speechReadTtsStep_waits
    (stepped : speechReadTtsStep clock pvt history reader =
      some (after, reader', history'))
    (wants : 0 < reader.want) (linked : pvt.wsClosed = false)
    (opened : pvt.ttsClosed = false)
    (meets : reader.pc.meetsFlags pvt = true)
    (inLoop : reader.pc.waits = true)
    (onTrack : reader.onTrack pvt.audioBuffer) :
    reader'.pc = .idle ∨ reader'.onTrack after.audioBuffer := by
  cases here : reader.pc <;> rw [here] at inLoop <;> try cases inLoop
  all_goals
    simp only [speechReadTtsStep, here] at stepped
    simp only [here, ReadPc.meetsFlags, Bool.or_eq_true, Bool.not_eq_true',
      List.isEmpty_eq_false_iff] at meets
    simp only [Reader.onTrack, here] at onTrack
  case waitLock waited =>
    split at stepped
    · cases stepped
    · cases stepped
      exact .inr onTrack
  case waitTestRead waited deadline timedOut =>
    split at stepped
    next readable =>
      cases stepped
      exact .inr (.inl (meets.resolve_left (by simp [readable])))
    next =>
      cases stepped
      exact .inr onTrack
  case waitTestInProgress waited deadline timedOut =>
    obtain ⟨noPredicate, timeouts, inBudget⟩ := onTrack
    split at stepped
    next idle =>
      cases stepped
      exact .inr (.inl (meets.resolve_left idle))
    next =>
      split at stepped
      · cases stepped
        refine .inr (.inr ⟨noPredicate, ?_, inBudget⟩)
        simp only
        rw [Nat.add_mul, timeouts, Nat.one_mul]
      · cases stepped
        exact .inr ⟨noPredicate, timeouts, inBudget⟩
  case waitBlocked waited deadline =>
    split at stepped
    · cases stepped
    · cases stepped
      exact .inr onTrack
  case waitLoadRead waited =>
    split at stepped
    all_goals
      cases stepped
      exact .inr onTrack
  case waitClearRead waited =>
    cases stepped
    exact .inr onTrack
  case waitRead waited =>
    rcases bufferRead_empty wants (Option.some.inj stepped) with
      done | ⟨nothing, rfl, rfl⟩
    · exact .inl done
    · obtain ⟨noPredicate, timeouts, inBudget⟩ :=
        onTrack.resolve_left (not_not_intro nothing)
      refine .inr ⟨noPredicate, timeouts, ?_⟩
      simp only [waitStepMs, maxWaitMs] at timeouts inBudget ⊢
      omega
  case waitWsClosed waited =>
    cases stepped
    refine .inr ?_
    simp only [linked, Bool.false_eq_true, if_false]
    exact onTrack
  case waitTtsClosed waited =>
    cases stepped
    obtain ⟨noPredicate, timeouts, inBudget⟩ := onTrack
    refine .inr ?_
    simp only [opened, Bool.false_eq_true, if_false]
    split
    next more => exact ⟨noPredicate, timeouts, more⟩
    next spent =>
      refine ⟨noPredicate, ?_⟩
      simp only [waitStepMs, maxWaitMs] at timeouts inBudget spent ⊢
      omega

/-- One step of a blocking read before and after the loop. -/
theorem speechReadTtsStep_around
    (stepped : speechReadTtsStep clock pvt history reader =
      some (after, reader', history'))
    (wants : 0 < reader.want) (blocking : reader.blocking = true)
    (meets : reader.pc.meetsFlags pvt = true)
    (outside : reader.pc.waits = false)
    (onTrack : reader.onTrack pvt.audioBuffer) :
    reader'.pc = .idle ∨ reader'.onTrack after.audioBuffer := by
  cases here : reader.pc <;> rw [here] at outside <;> try cases outside
  all_goals
    simp only [speechReadTtsStep, here] at stepped
    simp only [here, ReadPc.meetsFlags] at meets
    simp only [Reader.onTrack, here] at onTrack
  case firstRead =>
    rcases bufferRead_empty wants (Option.some.inj stepped) with
      done | ⟨_, rfl, rfl⟩
    · exact .inl done
    · exact .inr onTrack
  case pollRead =>
    rcases bufferRead_empty wants (Option.some.inj stepped) with
      done | ⟨_, rfl, rfl⟩
    · exact .inl done
    · exact .inr (by simpa only [Reader.onTrack, blockingPc, blocking])
  case guardInProgress =>
    cases stepped
    refine .inr ?_
    split
    · exact ⟨onTrack.1, by simp [onTrack.2], by decide⟩
    · exact onTrack
  case guardAvailable =>
    cases stepped
    simp [Reader.onTrack, meets, onTrack, maxWaitMs]
  case lastRead =>
    rcases bufferRead_empty (by exact wants) (Option.some.inj stepped) with
      done | ⟨nothing, rfl, rfl⟩
    · exact .inl done
    · exact .inr ⟨onTrack, by simp [nothing]⟩
  case stopLoad =>
    cases stepped
    refine .inr ?_
    split
    all_goals exact onTrack
  case stopStore =>
    cases stepped
    exact .inr onTrack
  case stopAvailable =>
    cases stepped
    exact .inr onTrack
  case stopFire =>
    cases stepped
    exact .inr onTrack
  case returnFalse =>
    cases stepped
    exact .inl rfl
  case idle => cases stepped
  -- the first half of the call has not waited on the condition yet
  all_goals try split at stepped
  all_goals first
    | (cases stepped; done)
    | (cases stepped
       refine .inr ?_
       simp only [blockingPc, blocking, if_true]
       try split
       all_goals exact onTrack)

/-- One step of a blocking read that meets the right flags. -/
theorem speechReadTtsStep_onTrack
    (stepped : speechReadTtsStep clock pvt history reader =
      some (after, reader', history'))
    (wants : 0 < reader.want) (blocking : reader.blocking = true)
    (linked : pvt.wsClosed = false) (opened : pvt.ttsClosed = false)
    (meets : reader.pc.meetsFlags pvt = true)
    (onTrack : reader.onTrack pvt.audioBuffer) :
    reader'.pc = .idle ∨ reader'.onTrack after.audioBuffer := by
  cases inLoop : reader.pc.waits with
  | true =>
      exact speechReadTtsStep_waits stepped wants linked opened meets inLoop
        onTrack
  | false =>
      exact speechReadTtsStep_around stepped wants blocking meets inLoop onTrack

end Reads

section Steps

variable {before after : State}

/-- A call that does not accept its text in this step makes no work. -/
theorem speechFeedTtsStep_quiet {clock : Nat} {choice : SendChoice}
    {pvt pvt' : Pvt} {history history' : History} {feed feed' : Feed}
    (stepped : speechFeedTtsStep clock choice pvt history feed =
      some (pvt', feed', history'))
    (quiet : feed.pc.accepts choice = false) :
    pvt'.ttsTextQueue = pvt.ttsTextQueue ∧
      history'.outstanding = history.outstanding := by
  cases here : feed.pc <;> simp only [speechFeedTtsStep, here] at stepped
  case push => simp [FeedPc.accepts, here] at quiet
  case sending pc =>
    split at stepped
    next => cases stepped
    next sent =>
      cases stepped
      obtain ⟨_, _, _, _, rfl⟩ := sendTtsRequestStep_writes sent
      exact ⟨rfl, rfl⟩
    next sent =>
      obtain ⟨rfl, rfl, _⟩ := sendTtsRequestStep_handed sent
      simp [FeedPc.accepts, here, FeedPc.sender?] at quiet
    all_goals
      next sent =>
        cases stepped
        obtain ⟨_, _, _, _, rfl⟩ := sendTtsRequestStep_writes sent
        exact ⟨rfl, rfl⟩
  all_goals try split at stepped
  all_goals first
    | (cases stepped; done)
    | (cases stepped; exact ⟨rfl, rfl⟩)

/-- The event loop only adds to the buffer. -/
theorem callbackStep_buffer {clock : Nat} {pvt pvt' : Pvt}
    {history history' : History} {net net' : NetPc} {started : Option Delayed}
    (stepped : callbackStep clock pvt history net =
      some (pvt', net', history', started))
    (filled : pvt.audioBuffer ≠ []) : pvt'.audioBuffer ≠ [] := by
  cases net <;> simp only [callbackStep] at stepped
  case packetWrite message =>
    cases stepped
    simp [filled]
  all_goals try split at stepped
  all_goals first
    | (cases stepped; done)
    | (cases stepped; exact filled)

/-- A step of another agent than the reader. -/
theorem PlaybackRun.of_frame (run : PlaybackRun before)
    (reader : after.reader = before.reader)
    (buffer : before.pvt.audioBuffer ≠ [] → after.pvt.audioBuffer ≠ [])
    (wsClosed : before.pvt.wsClosed = true → after.pvt.wsClosed = true)
    (ttsClosed : before.pvt.ttsClosed = true → after.pvt.ttsClosed = true)
    (unfinished : before.blockingRead = true → after.unfinished = true →
      before.unfinished = true) : PlaybackRun after := by
  refine ⟨reader ▸ run.wants, ?_⟩
  intro blockingRead unfinishedAfter
  have blockingBefore : before.blockingRead = true := by
    simp only [State.blockingRead, reader, Bool.and_eq_true,
      Bool.not_eq_true'] at blockingRead ⊢
    refine ⟨⟨blockingRead.1.1, ?_⟩, ?_⟩
    · by_contra closed
      simp [wsClosed (by simpa using closed)] at blockingRead
    · by_contra closed
      simp [ttsClosed (by simpa using closed)] at blockingRead
  have onTrack := run.onTrack blockingBefore
    (unfinished blockingBefore unfinishedAfter)
  exact reader ▸ onTrack.of_buffer buffer

theorem unfinished_of_frame (waiting : after.waiting = before.waiting)
    (outstanding : after.history.outstanding = true →
      before.history.outstanding = true)
    (unfinished : after.unfinished = true) : before.unfinished = true := by
  simp only [State.unfinished, waiting, Bool.or_eq_true] at unfinished ⊢
  exact unfinished.imp_right outstanding

theorem PlaybackRun.procStep {choice : SendChoice} {pvt : Pvt} {proc : Proc}
    {history : History} (run : PlaybackRun before)
    (consistent : before.proc.consistent)
    (agent : processingThreadStep before.clock choice before.pvt
      before.history before.proc = some (pvt, proc, history)) :
    PlaybackRun { before with
      pvt := pvt, proc := proc, history := history } := by
  obtain ⟨waiting, sending⟩ := processingThreadStep_work consistent agent
  obtain ⟨_, _, _, _, _, _, _, _, rfl⟩ := processingThreadStep_writes agent
  refine run.of_frame rfl id id id ?_
  intro _ unfinished
  simp only [State.unfinished, State.waiting, Bool.or_eq_true,
    Bool.not_eq_true', List.isEmpty_eq_false_iff] at unfinished ⊢
  rcases unfinished with line | request
  · exact .inl (waiting line)
  · exact (sending request).symm

theorem PlaybackRun.feedStep {choice : SendChoice} {index : Nat}
    {feed feed' : Feed} {pvt : Pvt} {history : History}
    (run : PlaybackRun before)
    (permitted : attentive before (.feedStep index choice) = true)
    (located : before.feeds[index]? = some feed)
    (agent : speechFeedTtsStep before.clock choice before.pvt before.history
      feed = some (pvt, feed', history)) :
    PlaybackRun { before with
      pvt := pvt, feeds := before.feeds.set index feed',
      history := history } := by
  have quiet := speechFeedTtsStep_quiet agent
  obtain ⟨_, _, _, _, _, rfl⟩ := speechFeedTtsStep_writes agent
  refine run.of_frame rfl id id id ?_
  intro blockingRead unfinished
  by_contra finished
  have accepts : feed.pc.accepts choice = false := by
    simpa [attentive, blockingRead, finished, located] using permitted
  obtain ⟨queue, outstanding⟩ := quiet accepts
  refine finished (unfinished_of_frame ?_ (fun kept => ?_) unfinished)
  · exact congrArg (before.proc.carried ++ ·) queue
  · rwa [outstanding] at kept

theorem PlaybackRun.readStep {pvt : Pvt} {reader : Reader} {history : History}
    (run : PlaybackRun before)
    (permitted : attentive before .readStep = true)
    (agent : speechReadTtsStep before.clock before.pvt before.history
      before.reader = some (pvt, reader, history)) :
    PlaybackRun { before with
      pvt := pvt, reader := reader, history := history } := by
  have busy : before.reader.pc ≠ .idle := by
    intro idle
    simp [speechReadTtsStep, idle] at agent
  have wants := run.wants busy
  obtain ⟨sameWant, sameBlocking⟩ := speechReadTtsStep_call agent
  refine ⟨fun _ => sameWant ▸ wants, ?_⟩
  intro blockingRead unfinished
  have advance := speechReadTtsStep_onTrack agent wants
  obtain ⟨⟨_, _, _, _, _, rfl⟩, _, _, _, rfl⟩ :=
    speechReadTtsStep_writes agent
  simp only [State.blockingRead, Bool.and_eq_true, bne_iff_ne,
    Bool.not_eq_true'] at blockingRead
  obtain ⟨⟨⟨inFlight, blocking⟩, linked⟩, opened⟩ := blockingRead
  rw [sameBlocking] at blocking
  have blockingBefore : before.blockingRead = true := by
    simp [State.blockingRead, busy, blocking, linked, opened]
  have unfinishedBefore : before.unfinished = true := unfinished
  have meets : before.reader.pc.meetsFlags before.pvt = true := by
    simpa [attentive, blockingBefore, unfinishedBefore] using permitted
  have onTrack := run.onTrack blockingBefore unfinishedBefore
  exact (advance blocking linked opened meets onTrack).resolve_left inFlight

theorem PlaybackRun.step {action : Action} (run : PlaybackRun before)
    (consistent : before.proc.consistent)
    (waiting : before.opener ≠ .opened → BeforeOpened before)
    (permitted : attentive before action = true)
    (stepped : before.step action = some after) : PlaybackRun after := by
  cases step_moves stepped with
  | openStep agent =>
      have notStarted := (waiting (speechOpenStep_unopened agent)).proc
      obtain ⟨_, _, _, rfl, started⟩ := speechOpenStep_writes agent
      refine run.of_frame rfl id id id fun _ => unfinished_of_frame ?_ id
      rcases started with rfl | rfl
      · rfl
      · simp [State.waiting, Proc.carried, notStarted]
  | procStep agent => exact run.procStep consistent agent
  | feedStep located agent => exact run.feedStep permitted located agent
  | netStart _ _ agent =>
      obtain ⟨⟨_, _, _, rfl⟩, _, _, _, kept, rfl⟩ := callbackStart_writes agent
      exact run.of_frame rfl id id id fun _ => unfinished_of_frame rfl kept
  | netStep agent =>
      have buffer := callbackStep_buffer agent
      obtain ⟨⟨_, _, _, _, _, _, _, _, closed, rfl⟩, _, _, _, rfl⟩ :=
        callbackStep_writes agent
      exact run.of_frame rfl buffer closed id fun _ => id
  | delayedStep _ agent =>
      obtain ⟨_, _, _, rfl⟩ := delayedCompletionStep_writes agent
      exact run.of_frame rfl id id id fun _ => id
  | readStart _ _ positive =>
      exact ⟨fun _ => positive, fun _ _ => ⟨rfl, rfl⟩⟩
  | readStep agent => exact run.readStep permitted agent
  | closeStep agent =>
      obtain ⟨⟨_, _, _, closed, rfl⟩, _, rfl⟩ := speechCloseStep_writes agent
      exact run.of_frame rfl id id closed fun _ => id
  | flush idle _ =>
      refine ⟨fun busy => (busy idle).elim, ?_⟩
      intro blockingRead
      simp [State.blockingRead, idle] at blockingRead
  | resume _ =>
      refine run.of_frame rfl id id id ?_
      intro blockingRead _
      simpa [attentive, blockingRead] using permitted
  | _ => exact run.of_frame rfl id id id fun _ => id

end Steps

/-- In every attentive run a blocking read that fails before the work is done
has waited for two seconds in vain. -/
theorem playbackComplete_of_attentive (now : Nat) {state : State}
    (reached : PermittedReach State.step
      (fun state action => attentive state action = true)
      (State.initial now) state) :
    PlaybackComplete state := by
  have run : PlaybackRun state :=
    reached.invariant_of_known
      (fun _ earlier => And.intro (consistent_of_reach earlier)
        (beforeOpened_of_reach earlier))
      (PlaybackRun.initial now)
      fun _ _ _ known run permitted stepped =>
        run.step known.1 known.2 permitted stepped
  exact run.complete

/-- A blocking read while the server does not answer the only request. -/
def unansweredSchedule : List Action :=
  openingSchedule ++ directSendSchedule 0 [65] ++
    Action.readStart 4 true :: List.replicate 9 Action.readStep ++
    (List.replicate 100 timedOutWaitSchedule).flatten ++
    List.replicate 2 Action.readStep

theorem playbackComplete_unansweredSchedule :
    ∃ state, PermittedReach State.step
        (fun state action => attentive state action = true)
        (State.initial 1000) state ∧
      (state.reader.pc == .returnFalse && state.reader.blocking &&
        !state.pvt.wsClosed && !state.pvt.ttsClosed &&
        state.unfinished) = true ∧
      PlaybackComplete state := by
  obtain ⟨state, reached, passed⟩ :=
    exists_permittedReach_of_replay State.step (.initial 1000)
      unansweredSchedule
      (fun state => state.reader.pc == .returnFalse &&
        state.reader.blocking && !state.pvt.wsClosed &&
        !state.pvt.ttsClosed && state.unfinished)
      (fun state action => attentive state action = true)
      (by decide +kernel)
  exact ⟨state, reached, passed, playbackComplete_of_attentive 1000 reached⟩

end AliyunTts

end SpeechModules
