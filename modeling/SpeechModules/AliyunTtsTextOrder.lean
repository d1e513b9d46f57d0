import SpeechModules.AliyunTtsSenders

/-!
# The order of the accepted texts

A text reaches the server directly from `aliyuntts_speech_feed_tts`, by way of
`tts_text_queue`, or by way of the processing thread's `pending_text` after a
send that failed.  The direct way looks at `tts_in_progress` only, so it can
overtake texts that are waiting on the other two.

This file states the conservation law, exhibits a run in which a direct send
overtakes a queued text, and proves the law for all runs in which direct sends
wait their turn and no message is lost unnoticed.
-/

namespace SpeechModules

namespace AliyunTts

open StepSystem

/-- The text in the locals of the processing thread: `tts_text` from its pop to
the end of `send_tts_request`, and `pending_text` otherwise. -/
def Proc.carried (proc : Proc) : List Text :=
  match proc.pc with
  | .poppedCheckClosed text => [text]
  | .sendPopped text _ => [text]
  | _ => proc.pendingText.toList

/-- The accepted texts that have not been sent, in the order in which the
processing thread takes them. -/
def State.waiting (state : State) : List Text :=
  state.proc.carried ++ state.pvt.ttsTextQueue

/-- While the handle and its connection are open, the accepted texts are the
ones sent so far followed by the waiting ones.  A text counts as accepted from
the push or the hand-over that settles the result of its call. -/
def TextsInOrder (state : State) : Prop :=
  state.pvt.ttsClosed = false → state.pvt.ws = .opened →
    state.history.accepted = state.history.sent ++ state.waiting

/-! ## A direct send overtakes a queued text -/

/-- `aliyuntts_resume` queues a text on an idle handle, and a direct send goes
out before the processing thread has looked at the queue. -/
def overtakingSchedule : List Action :=
  openingSchedule ++ .resume [66] :: directSendSchedule 0 [65]

theorem textsInOrder_fails :
    ¬ ∀ state, Reach State.step (State.initial 1000) state →
      TextsInOrder state := by
  intro always
  obtain ⟨state, reached, overtaken⟩ :=
    exists_reach_of_replay State.step (.initial 1000) overtakingSchedule
      (fun state => !state.pvt.ttsClosed && state.pvt.ws == .opened &&
        state.history.accepted != state.history.sent ++ state.waiting)
      (by decide)
  simp only [Bool.and_eq_true, beq_iff_eq, Bool.not_eq_true',
    bne_iff_ne] at overtaken
  obtain ⟨⟨opened, linkOpen⟩, reordered⟩ := overtaken
  exact reordered (always state reached opened linkOpen)

/-! ## Runs in which direct sends wait their turn -/

/-- The side condition of orderly runs, on the state before a step.  Nothing is
asked once the handle is closed or the connection ending.  Until then `send`
does not report a failure without throwing, and a direct sender hands its
message over only when no earlier text is waiting. -/
def orderly (state : State) : Action → Bool
  | .procStep choice =>
      state.pvt.ttsClosed || state.pvt.ws.ending ||
        state.proc.pc.sender? != some .send || choice != .negative
  | .feedStep index choice =>
      state.pvt.ttsClosed || state.pvt.ws.ending ||
        state.feeds[index]?.all fun feed =>
          feed.pc.sender? != some .send || (choice != .negative &&
            (choice != .handed || state.waiting.isEmpty))
  | _ => true

/-- The locals of the processing thread: a popped text is handled while no text
is pending, and a resend handles the pending text. -/
def Proc.consistent (proc : Proc) : Prop :=
  match proc.pc with
  | .poppedCheckClosed _ => proc.pendingText = none
  | .sendPopped _ _ => proc.pendingText = none
  | .sendPending text _ => proc.pendingText = some text
  | _ => True

structure TextRun (state : State) : Prop where
  consistent : state.proc.consistent
  ordered : state.pvt.ttsClosed = false → state.pvt.ws.ending = false →
    state.history.accepted = state.history.sent ++ state.waiting

theorem TextRun.inOrder {state : State} (run : TextRun state) :
    TextsInOrder state := by
  intro opened linkOpen
  exact run.ordered opened (by simp [linkOpen, Link.ending])

theorem TextRun.initial (now : Nat) : TextRun (State.initial now) :=
  ⟨trivial, fun _ _ => rfl⟩

section Agents

variable {clock : Nat} {choice : SendChoice} {pvt after : Pvt}
  {history history' : History}

theorem Proc.carried_of_plain {proc : Proc} (plain : proc.pc.plain = true) :
    proc.carried = proc.pendingText.toList := by
  cases here : proc.pc <;> rw [here] at plain <;> first
    | (cases plain; done)
    | simp only [Proc.carried, here]

theorem Proc.carried_eq {proc : Proc} {pc : ProcPc} (here : proc.pc = pc) :
    proc.carried = Proc.carried ⟨pc, proc.pendingRequest, proc.pendingText⟩ := by
  rw [← here]

theorem Proc.consistent_of_plain {proc : Proc} (plain : proc.pc.plain = true) :
    proc.consistent := by
  cases here : proc.pc <;> rw [here] at plain <;> first
    | (cases plain; done)
    | simp only [Proc.consistent, here]

/-- A step of the processing thread sends from the front of what is waiting, as
long as the handle is open and no message is lost. -/
theorem processingThreadStep_texts {proc proc' : Proc}
    (consistent : proc.consistent)
    (stepped : processingThreadStep clock choice pvt history proc =
      some (after, proc', history')) :
    proc'.consistent ∧ history'.accepted = history.accepted ∧
      (pvt.ttsClosed = false →
        (proc.pc.sender? = some .send → choice ≠ .negative) →
        history'.sent ++ (proc'.carried ++ after.ttsTextQueue) =
          history.sent ++ (proc.carried ++ pvt.ttsTextQueue)) := by
  cases processingThreadStep_moves stepped with
  | goto goes =>
      -- neither the locals nor the queue move
      refine ⟨Proc.consistent_of_plain goes.plain.2, rfl, fun _ _ => ?_⟩
      rw [Proc.carried_of_plain goes.plain.1,
        Proc.carried_of_plain goes.plain.2]
  | resend here pending =>
      rw [Proc.carried_eq here]
      exact ⟨pending, rfl, fun _ _ => rfl⟩
  | pop here nothing queued =>
      rw [Proc.carried_eq here]
      exact ⟨nothing, rfl, fun _ _ => by simp [Proc.carried, nothing, queued]⟩
  | drop here closed =>
      refine ⟨trivial, rfl, fun opened _ => ?_⟩
      rw [opened] at closed
      cases closed
  | enter here =>
      simp only [Proc.consistent, here] at consistent
      rw [Proc.carried_eq here]
      exact ⟨consistent, rfl, fun _ _ => rfl⟩
  | gotoPopped here sent | gotoPending here sent =>
      obtain ⟨_, _, _, _, rfl⟩ := sendTtsRequestStep_writes sent
      simp only [Proc.consistent, here] at consistent
      rw [Proc.carried_eq here]
      exact ⟨consistent, rfl, fun _ _ => rfl⟩
  | handedPopped here sent | handedPending here sent =>
      obtain ⟨_, _, rfl, _⟩ := sendTtsRequestStep_handed sent
      simp only [Proc.consistent, here] at consistent
      rw [Proc.carried_eq here]
      refine ⟨trivial, rfl, fun _ _ => ?_⟩
      simp [Proc.carried, consistent, History.noteSent]
  | lostPopped here sent | lostPending here sent =>
      obtain ⟨rfl, rfl, rfl⟩ := sendTtsRequestStep_lost sent
      refine ⟨trivial, rfl, fun _ unlost => ?_⟩
      rw [here] at unlost
      exact (unlost rfl rfl).elim
  | failedPopped here sent | failedPending here sent =>
      obtain ⟨_, _, _, _, rfl⟩ := sendTtsRequestStep_writes sent
      rw [Proc.carried_eq here]
      exact ⟨trivial, rfl, fun _ _ => rfl⟩
  | _ here =>
      rw [Proc.carried_eq here]
      exact ⟨trivial, rfl, fun _ _ => rfl⟩

/-- The processing thread makes no work: what it leaves waiting was waiting
before, and what it sends was. -/
theorem processingThreadStep_work {proc proc' : Proc}
    (consistent : proc.consistent)
    (stepped : processingThreadStep clock choice pvt history proc =
      some (after, proc', history')) :
    (proc'.carried ++ after.ttsTextQueue ≠ [] →
        proc.carried ++ pvt.ttsTextQueue ≠ []) ∧
      (history'.outstanding = true →
        history.outstanding = true ∨ proc.carried ++ pvt.ttsTextQueue ≠ []) := by
  cases processingThreadStep_moves stepped with
  | goto goes =>
      rw [Proc.carried_of_plain goes.plain.1,
        Proc.carried_of_plain goes.plain.2]
      exact ⟨id, .inl⟩
  | pop here nothing queued =>
      simp only [Proc.carried, here]
      exact ⟨by simp [queued], .inl⟩
  | drop here | enter here =>
      simp only [Proc.carried, here]
      exact ⟨by simp, by simp⟩
  | gotoPopped here | handedPopped here | lostPopped here
  | failedPopped here =>
      simp only [Proc.carried, here]
      exact ⟨by simp, by simp⟩
  | gotoPending here | handedPending here | lostPending here
  | failedPending here =>
      simp only [Proc.consistent, here] at consistent
      simp only [Proc.carried, here]
      exact ⟨by simp [consistent], by simp [consistent]⟩
  | late here =>
      simp only [Proc.carried, here, Bool.and_eq_true]
      exact ⟨id, fun kept => .inl kept.1⟩
  | _ here =>
      simp only [Proc.carried, here]
      exact ⟨id, .inl⟩

/-- A step of `aliyuntts_speech_feed_tts` appends an accepted text to what is
waiting, or sends it past everything that is waiting. -/
theorem speechFeedTtsStep_texts {feed feed' : Feed}
    (stepped : speechFeedTtsStep clock choice pvt history feed =
      some (after, feed', history')) :
    (history'.accepted = history.accepted ∧ history'.sent = history.sent ∧
        after.ttsTextQueue = pvt.ttsTextQueue) ∨
      (history'.accepted = history.accepted ++ [feed.text] ∧
        history'.sent = history.sent ∧
        after.ttsTextQueue = pvt.ttsTextQueue ++ [feed.text]) ∨
      (feed.pc.sender? = some .send ∧ choice = .handed ∧
        history'.accepted = history.accepted ++ [feed.text] ∧
        history'.sent = history.sent ++ [feed.text] ∧
        after.ttsTextQueue = pvt.ttsTextQueue) ∨
      (feed.pc.sender? = some .send ∧ choice = .negative) := by
  cases here : feed.pc <;> simp only [speechFeedTtsStep, here] at stepped
  case push =>
    split at stepped
    · cases stepped
      exact .inr (.inl ⟨rfl, rfl, rfl⟩)
    · cases stepped
  case sending pc =>
    split at stepped
    next => cases stepped
    next sent =>
      cases stepped
      obtain ⟨_, _, _, _, rfl⟩ := sendTtsRequestStep_writes sent
      exact .inl ⟨rfl, rfl, rfl⟩
    next sent =>
      cases stepped
      obtain ⟨rfl, rfl, rfl, _⟩ := sendTtsRequestStep_handed sent
      exact .inr (.inr (.inl ⟨rfl, rfl, rfl, rfl, rfl⟩))
    next sent =>
      cases stepped
      obtain ⟨rfl, rfl, rfl⟩ := sendTtsRequestStep_lost sent
      exact .inr (.inr (.inr ⟨rfl, rfl⟩))
    next sent =>
      cases stepped
      obtain ⟨_, _, _, _, rfl⟩ := sendTtsRequestStep_writes sent
      exact .inl ⟨rfl, rfl, rfl⟩
  all_goals try split at stepped
  all_goals first
    | (cases stepped; done)
    | (cases stepped; exact .inl ⟨rfl, rfl, rfl⟩)

end Agents

section Steps

variable {before after : State} {action : Action}

theorem step_consistent (consistent : before.proc.consistent)
    (stepped : before.step action = some after) : after.proc.consistent := by
  cases step_moves stepped with
  | procStep agent => exact (processingThreadStep_texts consistent agent).1
  | openStep agent =>
      obtain ⟨_, _, _, _, rfl | rfl⟩ := speechOpenStep_writes agent
      · exact consistent
      · trivial
  | _ => exact consistent

theorem consistent_of_reach {permits : State → Action → Prop} {now : Nat}
    {state : State}
    (reached : PermittedReach State.step permits (State.initial now) state) :
    state.proc.consistent :=
  @PermittedReach.invariant _ _ _ _ _ (fun state => state.proc.consistent)
    trivial (fun _ _ _ consistent _ stepped =>
      step_consistent consistent stepped) _ reached

/-- A step that leaves the texts alone. -/
theorem TextRun.of_frame (run : TextRun before)
    (stepped : before.step action = some after)
    (proc : after.proc = before.proc)
    (queue : after.pvt.ttsTextQueue = before.pvt.ttsTextQueue)
    (accepted : after.history.accepted = before.history.accepted)
    (sent : after.history.sent = before.history.sent) : TextRun after := by
  refine ⟨step_consistent run.consistent stepped, ?_⟩
  intro opened lasting
  have earlier := run.ordered (step_unclosed stepped opened)
    (step_lasting stepped lasting)
  simp only [State.waiting] at earlier ⊢
  rw [accepted, sent, proc, queue, earlier]

theorem TextRun.procStep {choice : SendChoice} (run : TextRun before)
    (permitted : orderly before (.procStep choice) = true)
    (stepped : before.step (.procStep choice) = some after) :
    TextRun after := by
  have unclosed := step_unclosed stepped
  have lasting := step_lasting stepped
  cases step_moves stepped with
  | @procStep _ pvt proc history agent =>
      obtain ⟨consistent, accepted, conserved⟩ :=
        processingThreadStep_texts run.consistent agent
      refine ⟨consistent, ?_⟩
      intro stillOpen stillLasting
      have wasOpen := unclosed stillOpen
      have wasLasting := lasting stillLasting
      have unlost : before.proc.pc.sender? = some .send → choice ≠ .negative := by
        simpa [orderly, wasOpen, wasLasting, or_iff_not_imp_left] using permitted
      calc history.accepted
          = before.history.accepted := accepted
        _ = before.history.sent ++
              (before.proc.carried ++ before.pvt.ttsTextQueue) :=
            run.ordered wasOpen wasLasting
        _ = history.sent ++ (proc.carried ++ pvt.ttsTextQueue) :=
            (conserved wasOpen unlost).symm

theorem TextRun.feedStep {choice : SendChoice} {index : Nat}
    (run : TextRun before)
    (permitted : orderly before (.feedStep index choice) = true)
    (stepped : before.step (.feedStep index choice) = some after) :
    TextRun after := by
  have unclosed := step_unclosed stepped
  have lasting := step_lasting stepped
  cases step_moves stepped with
  | feedStep located agent =>
      refine ⟨run.consistent, ?_⟩
      intro stillOpen stillLasting
      have wasOpen := unclosed stillOpen
      have wasLasting := lasting stillLasting
      have earlier := run.ordered wasOpen wasLasting
      simp only [State.waiting] at earlier
      simp only [orderly, wasOpen, wasLasting, located, Option.all_some,
        Bool.false_or, Bool.or_eq_true, Bool.and_eq_true, bne_iff_ne] at permitted
      simp only [State.waiting]
      rcases speechFeedTtsStep_texts agent with
        ⟨accepted, sent, queue⟩ | ⟨accepted, sent, queue⟩ |
        ⟨atSend, handed, accepted, sent, queue⟩ | ⟨atSend, lost⟩
      · rw [accepted, sent, queue, earlier]
      · rw [accepted, sent, queue, earlier]
        simp [List.append_assoc]
      · -- the direct way is taken past an empty waiting line
        rcases permitted with elsewhere | ⟨_, other | nobody⟩
        · exact (elsewhere atSend).elim
        · exact (other handed).elim
        · simp only [State.waiting, List.isEmpty_iff, List.append_eq_nil_iff]
            at nobody
          rw [accepted, sent, queue, earlier]
          simp [nobody.1, nobody.2]
      · rcases permitted with elsewhere | ⟨unlost, _⟩
        · exact (elsewhere atSend).elim
        · exact (unlost lost).elim

/-- The processing thread starts with nothing in its hands. -/
theorem TextRun.openStep {choice : OpenChoice} (run : TextRun before)
    (waiting : before.opener ≠ .opened → BeforeOpened before)
    (stepped : before.step (.openStep choice) = some after) :
    TextRun after := by
  have consistent := step_consistent run.consistent stepped
  have unclosed := step_unclosed stepped
  have lasting := step_lasting stepped
  cases step_moves stepped with
  | @openStep _ _ proc _ agent =>
      have notStarted := (waiting (speechOpenStep_unopened agent)).proc
      obtain ⟨_, _, _, rfl, started⟩ := speechOpenStep_writes agent
      have carried : proc.carried = before.proc.carried := by
        rcases started with rfl | rfl
        · rfl
        · simp [Proc.carried, notStarted]
      refine ⟨consistent, ?_⟩
      intro stillOpen stillLasting
      have earlier := run.ordered (unclosed stillOpen) (lasting stillLasting)
      simp only [State.waiting] at earlier ⊢
      rw [carried, earlier]

theorem TextRun.step (run : TextRun before)
    (waiting : before.opener ≠ .opened → BeforeOpened before)
    (permitted : orderly before action = true)
    (stepped : before.step action = some after) : TextRun after := by
  by_cases others : action.handlesTexts = false
  · obtain ⟨proc, _, queue, accepted, sent⟩ := step_keeps_texts stepped others
    exact run.of_frame stepped proc queue accepted sent
  cases step_moves stepped with
  | openStep => exact run.openStep waiting stepped
  | procStep => exact run.procStep permitted stepped
  | feedStart => exact run.of_frame stepped rfl rfl rfl rfl
  | feedStep => exact run.feedStep permitted stepped
  | resume _ =>
      refine ⟨run.consistent, ?_⟩
      intro opened lasting
      have earlier := run.ordered opened lasting
      simp only [State.waiting] at earlier
      simp [State.waiting, History.noteAccepted, earlier]
  | _ => exact (others rfl).elim

end Steps

/-- In every orderly run the accepted texts reach the server in the order of
their acceptance, each exactly once. -/
theorem textsInOrder_of_orderly (now : Nat) {state : State}
    (reached : PermittedReach State.step
      (fun state action => orderly state action = true)
      (State.initial now) state) :
    TextsInOrder state := by
  have run : TextRun state :=
    reached.invariant_of_known
      (fun _ earlier => beforeOpened_of_reach earlier) (TextRun.initial now)
      fun _ _ _ waiting run permitted stepped =>
        run.step waiting permitted stepped
  exact run.inOrder

/-- A direct send on an empty waiting line, a text that `aliyuntts_resume`
queues behind it, and a call that finds the handle busy. -/
def orderlySchedule : List Action :=
  openingSchedule ++ directSendSchedule 0 [65] ++
    [Action.resume [66], Action.feedStart [67], Action.feedStep 1 .handed,
      Action.feedStep 1 .handed, Action.feedStep 1 .handed,
      Action.feedStep 1 .handed]

theorem textsInOrder_orderlySchedule :
    ∃ state, PermittedReach State.step
        (fun state action => orderly state action = true)
        (State.initial 1000) state ∧
      (!state.pvt.ttsClosed && state.pvt.ws == .opened &&
        state.history.accepted == [[65], [66], [67]]) = true ∧
      TextsInOrder state := by
  obtain ⟨state, reached, passed⟩ :=
    exists_permittedReach_of_replay State.step (.initial 1000)
      orderlySchedule
      (fun state => !state.pvt.ttsClosed && state.pvt.ws == .opened &&
        state.history.accepted == [[65], [66], [67]])
      (fun state action => orderly state action = true)
      (by decide)
  exact ⟨state, reached, passed, textsInOrder_of_orderly 1000 reached⟩

end AliyunTts

end SpeechModules
