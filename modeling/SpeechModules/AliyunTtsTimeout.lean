import SpeechModules.AliyunTtsCompletion
import SpeechModules.AliyunTtsRequests
import SpeechModules.AliyunTtsSingleRequest

/-!
# The timeout of an unanswered request

A request that brings no audio for three seconds is given up by the processing
loop, which then turns to the next text.  The loop looks at the age of a request
only while its local `pending_request` is set, and it sets this local for the
requests it has sent itself: a request sent directly by
`aliyuntts_speech_feed_tts` is never given up.

An observer keeps, beside the handle, whether the last StartSynthesis still waits
for its answer.  In every run that hands a request over only while the loop is
able to see its age, and that leaves the flags of such a request to its own
answer, each unanswered request times out.
-/

namespace SpeechModules

namespace AliyunTts

open StepSystem

/-! ## One iteration of the loop -/

/-- The processing thread moves by one access, sleeping for `sleepMs` where the
loop sleeps. -/
def State.loopStep (state : State) (sleepMs : Nat) (choice : SendChoice) :
    Option State :=
  match state.proc.pc with
  | .sleeping _ =>
      (state.step (.tick sleepMs)).bind fun later =>
        later.step (.procStep choice)
  | _ => state.step (.procStep choice)

/-- The processing thread moves alone until it is back at the head of its loop,
by at most `fuel` accesses. -/
def State.untilLoopHead (sleepMs : Nat) (choice : SendChoice) :
    Nat → State → Option State
  | 0, _ => none
  | fuel + 1, state =>
      match state.loopStep sleepMs choice with
      | none => none
      | some after =>
          if after.proc.pc = .loopHead then some after
          else after.untilLoopHead sleepMs choice fuel

/-- One iteration of the processing loop on an unclosed handle.  The longest way
through the loop, which takes a text from the queue and fails to send it, makes
16 accesses. -/
def State.iteration (state : State) (sleepMs : Nat) (choice : SendChoice) :
    Option State :=
  state.untilLoopHead sleepMs choice 16

/-- The text that the loop sends next. -/
def State.nextText? (state : State) : Option Text :=
  state.proc.pendingText.or state.pvt.ttsTextQueue.head?

/-! ## Unanswered requests -/

/-- The action hands a StartSynthesis over to the connection. -/
def State.handsOver (state : State) (action : Action) : Bool :=
  (state.handed? action).isSome

/-- The action starts to process the `SynthesisCompleted` or the error that
answers the last StartSynthesis. -/
def State.answered (state : State) : Action → Bool
  | .netStart (.text document request) =>
      match readHeader document with
      | none => false
      | some header =>
          (header.isError || header.isCompleted) &&
            request == state.history.sent.length
  | _ => false

/-- The processing loop finds that a request is too old. -/
def State.givesUp (state : State) : Action → Bool
  | .procStep _ =>
      match state.proc.pc with
      | .loadRequestTime now => timedOut state.pvt now
      | _ => false
  | _ => false

/-- The observer's note: the last StartSynthesis has neither been answered nor
been given up. -/
def noteUnanswered (state : State) (action : Action) (unanswered : Bool) :
    Bool :=
  state.handsOver action ||
    (unanswered && !state.answered action && !state.givesUp action)

/-- At the head of the loop of a handle that is neither closed nor disconnected,
an unanswered request without audio whose age, at the reading of the clock, is
more than three seconds makes the iteration end with the two request flags
reset, so that the iteration after it can send the next text. -/
def TimesOut (state : State) (unanswered : Bool) : Prop :=
  state.proc.pc = .loopHead → state.pvt.ttsClosed = false →
    state.pvt.ws = .opened → unanswered = true →
    state.pvt.audioDataAvailable = false →
    ∀ sleepMs choice, 50 ≤ sleepMs →
      state.pvt.lastRequestTimeMs + 3000 < state.clock + sleepMs →
      ∃ after, state.iteration sleepMs choice = some after ∧
        after.pvt.synthesisCompleted = true ∧
        after.pvt.ttsInProgress = false ∧
        ∀ text, after.nextText? = some text → ∀ nextSleepMs,
          ∃ next, after.iteration nextSleepMs .handed = some next ∧
            next.history.sent = after.history.sent ++ [text]

/-! ## A direct send that never times out -/

/-- A text is sent by `aliyuntts_speech_feed_tts` and nothing comes back for four
seconds. -/
def unansweredFeedSchedule : List Action :=
  openingSchedule ++ directSendSchedule 0 [65] ++ [.tick 4000]

theorem timesOut_fails :
    ¬ ∀ state unanswered,
      Reach (watched State.step noteUnanswered) (State.initial 1000, false)
        (state, unanswered) → TimesOut state unanswered := by
  intro always
  obtain ⟨⟨state, unanswered⟩, reached, stuck⟩ :=
    exists_reach_of_replay (watched State.step noteUnanswered)
      (State.initial 1000, false) unansweredFeedSchedule
      (fun reached => reached.1.proc.pc == .loopHead &&
        !reached.1.pvt.ttsClosed && reached.1.pvt.ws == .opened &&
        reached.2 && !reached.1.pvt.audioDataAvailable &&
        decide (reached.1.pvt.lastRequestTimeMs + 3000 <
          reached.1.clock + 50) &&
        (reached.1.iteration 50 .handed).any
          fun after => !after.pvt.synthesisCompleted)
      (by decide)
  simp only [Bool.and_eq_true, beq_iff_eq, Bool.not_eq_true',
    decide_eq_true_eq] at stuck
  obtain ⟨⟨⟨⟨⟨⟨atHead, unclosed⟩, linkOpen⟩, unanswered⟩, silent⟩, old⟩,
    iterated⟩ := stuck
  obtain ⟨after, ended, completed, _⟩ :=
    always state _ reached atHead unclosed linkOpen unanswered silent 50
      .handed (Nat.le_refl 50) old
  rw [ended] at iterated
  simp [completed] at iterated

/-! ## The iterations that time out and that send -/

/-- The handle after an iteration that slept for `sleepMs` and gave the request
up. -/
def State.givenUp (state : State) (sleepMs : Nat) : State :=
  { state with
    clock := state.clock + sleepMs
    pvt := { state.pvt with synthesisCompleted := true, ttsInProgress := false }
    proc := { state.proc with pc := .loopHead, pendingRequest := false }
    history := { state.history with
      outstanding :=
        state.history.outstanding && state.history.packetSinceSend } }

section Iterations

variable {state : State} {sleepMs : Nat}

theorem iteration_timesOut {choice : SendChoice}
    (atHead : state.proc.pc = .loopHead)
    (unclosed : state.pvt.ttsClosed = false)
    (incomplete : state.pvt.synthesisCompleted = false)
    (inProgress : state.pvt.ttsInProgress = true)
    (silent : state.pvt.audioDataAvailable = false)
    (pending : state.proc.pendingRequest = true)
    (slept : 50 ≤ sleepMs)
    (late : timedOut state.pvt (state.clock + sleepMs) = true) :
    state.iteration sleepMs choice = some (state.givenUp sleepMs) := by
  simp only [timedOut, Bool.and_eq_true, decide_eq_true_eq] at late
  obtain ⟨⟨stamped, past⟩, old⟩ := late
  simp [State.iteration, State.untilLoopHead, State.loopStep, State.step,
    State.givenUp, processingThreadStep, atHead, unclosed, incomplete,
    inProgress, silent, pending, slept, stamped, past, old]

theorem iteration_sends {text : Text} (atHead : state.proc.pc = .loopHead)
    (unclosed : state.pvt.ttsClosed = false)
    (linkOpen : state.pvt.ws = .opened)
    (connected : state.pvt.wsConnected = true)
    (completed : state.pvt.synthesisCompleted = true)
    (waiting : state.nextText? = some text) :
    ∃ next, state.iteration sleepMs .handed = some next ∧
      next.history.sent = state.history.sent ++ [text] := by
  cases pending : state.proc.pendingText with
  | some kept =>
      have same : kept = text := by
        simpa [State.nextText?, pending] using waiting
      subst same
      simp [State.iteration, State.untilLoopHead, State.loopStep, State.step,
        processingThreadStep, sendTtsRequestStep, Link.carries,
        History.noteSent, atHead, unclosed, linkOpen, connected, completed,
        pending]
  | none =>
      cases queue : state.pvt.ttsTextQueue with
      | nil => simp [State.nextText?, pending, queue] at waiting
      | cons first rest =>
          have same : first = text := by
            simpa [State.nextText?, pending, queue] using waiting
          subst same
          simp [State.iteration, State.untilLoopHead, State.loopStep,
            State.step, processingThreadStep, sendTtsRequestStep,
            Link.carries, History.noteSent, atHead, unclosed, linkOpen,
            connected, completed, pending, queue]

end Iterations

/-! ## Runs in which every request can time out -/

/-- Neither the handle nor its connection has begun to close. -/
def State.lasting (state : State) : Bool :=
  !state.pvt.ttsClosed && !state.pvt.ws.ending

/-- The processing thread is on its way to the test of a request's age. -/
def ProcPc.watching : ProcPc → Bool
  | .exitLoadClosed => true
  | .loopHead => true
  | .loadCompleted => true
  | .sleeping _ => true
  | .loadInProgress => true
  | .loadAvailable => true
  | .readClock => true
  | .loadRequestTime _ => true
  | _ => false

/-- The request flags and the request time are those of a request under way. -/
def Pvt.underWay (pvt : Pvt) : Bool :=
  !pvt.synthesisCompleted && pvt.ttsInProgress &&
    decide (0 < pvt.lastRequestTimeMs)

/-- The processing loop counts on an answer. -/
def Proc.expecting (proc : Proc) : Bool :=
  proc.pendingRequest && proc.pc.watching

/-- The side condition of the runs that time out, on the state before a step and
the observer's note.  As long as the handle lasts, a StartSynthesis is handed
over with its flags and its time in place, by a direct sender only while the
processing loop counts on an answer anyway.  Until it is answered nobody applies
the completion of another request, and no other direct sender takes the flag
back or stores the request time 0. -/
def watchedOver (state : State) (unanswered : Bool) : Action → Bool
  | .procStep choice =>
      !state.lasting || !state.handsOver (.procStep choice) ||
        state.pvt.underWay
  | .feedStep index choice =>
      !state.lasting ||
      match state.request? (index + 1) with
      | some (_, .send) =>
          choice != .handed || state.pvt.underWay && state.proc.expecting
      | some (_, .clearInProgress) => !unanswered
      | some (_, .storeRequestTime) => !unanswered || decide (0 < state.clock)
      | _ => true
  | .netStep =>
      !state.lasting || !unanswered || (state.completes .netStep).isNone
  | .delayedStep index =>
      !state.lasting || !unanswered ||
        (state.completes (.delayedStep index)).isNone
  | _ => true

/-- The invariant of these runs: while the handle lasts, an unanswered request
is one that the processing loop counts on. -/
structure WatchedRun (state : State) (unanswered : Bool) : Prop where
  closes : state.net.closes = true → state.pvt.ws = .closed
  connected : state.pvt.ws = .opened → state.pvt.wsConnected = true
  request : unanswered = true → state.lasting = true →
    state.pvt.underWay = true ∧ state.proc.expecting = true

theorem WatchedRun.initial (now : Nat) :
    WatchedRun (State.initial now) false where
  closes closing := by simp [State.initial, NetPc.closes] at closing
  connected linkOpen := by simp [State.initial, Pvt.initial] at linkOpen
  request unanswered := by cases unanswered

/-- The invariant gives what the timeout branch asks for. -/
theorem WatchedRun.timesOut {state : State} {unanswered : Bool}
    (run : WatchedRun state unanswered) : TimesOut state unanswered := by
  intro atHead unclosed linkOpen open' silent sleepMs choice slept old
  have lasting : state.lasting = true := by
    simp [State.lasting, unclosed, linkOpen, Link.ending]
  obtain ⟨underWay, expecting⟩ := run.request open' lasting
  simp only [Pvt.underWay, Bool.and_eq_true, Bool.not_eq_true',
    decide_eq_true_eq] at underWay
  obtain ⟨⟨incomplete, inProgress⟩, stamped⟩ := underWay
  simp only [Proc.expecting, Bool.and_eq_true] at expecting
  have late : timedOut state.pvt (state.clock + sleepMs) = true := by
    simp only [timedOut, Bool.and_eq_true, decide_eq_true_eq]
    omega
  refine ⟨state.givenUp sleepMs, iteration_timesOut atHead unclosed incomplete
    inProgress silent expecting.1 slept late, rfl, rfl, ?_⟩
  intro text waiting nextSleepMs
  exact @iteration_sends (state.givenUp sleepMs) nextSleepMs text rfl unclosed
    linkOpen (run.connected linkOpen) rfl waiting

section Agents

variable {clock : Nat} {choice : SendChoice} {pvt after : Pvt}
  {history history' : History}

/-- A step of `send_tts_request` leaves the request of somebody else under way,
unless it takes the flag back or stores no time. -/
theorem sendTtsRequestStep_underWay {pc : SendPc} {next : SendNext}
    (stepped : sendTtsRequestStep clock choice pvt pc = some (after, next))
    (underWay : pvt.underWay = true) (notClearing : pc ≠ .clearInProgress)
    (started : pc = .storeRequestTime → 0 < clock) :
    after.underWay = true := by
  cases sendTtsRequestStep_moves stepped
  all_goals simp_all [Pvt.underWay]

theorem speechFeedTtsStep_underWay {feed feed' : Feed}
    (stepped : speechFeedTtsStep clock choice pvt history feed =
      some (after, feed', history'))
    (underWay : pvt.underWay = true)
    (notClearing : feed.request? ≠ some (feed.text, .clearInProgress))
    (started : feed.request? = some (feed.text, .storeRequestTime) →
      0 < clock) :
    after.underWay = true := by
  cases here : feed.pc with
  | sending pc =>
      simp only [Feed.request?, here, FeedPc.sender?, Option.map_some]
        at notClearing started
      obtain ⟨next, sent, _⟩ := speechFeedTtsStep_sender here stepped
      apply sendTtsRequestStep_underWay sent underWay
      · rintro rfl
        exact notClearing rfl
      · rintro rfl
        exact started rfl
  | _ =>
      simp only [speechFeedTtsStep, here] at stepped
      try split at stepped
      all_goals first
        | (cases stepped; done)
        | (cases stepped; exact underWay)

/-- The processing thread that counts on an answer either gives the request up
or goes on counting on it. -/
theorem processingThreadStep_expecting {proc proc' : Proc}
    (stepped : processingThreadStep clock choice pvt history proc =
      some (after, proc', history'))
    (unclosed : pvt.ttsClosed = false) (underWay : pvt.underWay = true)
    (expecting : proc.expecting = true) :
    (∃ now, proc.pc = .loadRequestTime now ∧ timedOut pvt now = true) ∨
      (after = pvt ∧ proc'.expecting = true) := by
  simp only [Pvt.underWay, Bool.and_eq_true, Bool.not_eq_true',
    decide_eq_true_eq] at underWay
  obtain ⟨⟨incomplete, inProgress⟩, stamped⟩ := underWay
  simp only [Proc.expecting, Bool.and_eq_true] at expecting ⊢
  obtain ⟨pending, watching⟩ := expecting
  cases processingThreadStep_moves stepped with
  | goto goes =>
      refine .inr ⟨rfl, pending, ?_⟩
      generalize proc.pc = position at goes watching
      cases goes with
      | loopHead | exitLoadClosed =>
          rw [unclosed]
          rfl
      | loadCompleted =>
          rw [incomplete]
          rfl
      | loadInProgress =>
          rw [inProgress]
          rfl
      | loadAvailable => split <;> rfl
      | sleeping | readClock | inTime => rfl
      | _ => cases watching
  | @late now here overdue =>
      refine .inl ⟨now, here, ?_⟩
      simpa [timedOut, and_assoc] using overdue
  | _ here =>
      rw [here] at watching
      cases watching

/-- After handing a request over the processing thread counts on its answer. -/
theorem processingThreadStep_handed {proc proc' : Proc} {text : Text}
    (stepped : processingThreadStep clock .handed pvt history proc =
      some (after, proc', history'))
    (sending : proc.pc.request? = some (text, .send)) :
    after = pvt ∧ proc'.expecting = true := by
  cases processingThreadStep_moves stepped with
  | goto goes =>
      rw [ProcPc.request?_of_plain goes.plain.1] at sending
      cases sending
  | handedPopped here sent | handedPending here sent =>
      obtain ⟨_, _, rfl, _⟩ := sendTtsRequestStep_handed sent
      exact ⟨rfl, rfl⟩
  | lostPopped here sent | lostPending here sent =>
      obtain ⟨_, refused, _⟩ := sendTtsRequestStep_lost sent
      cases refused
  | gotoPopped here sent | gotoPending here sent =>
      rw [here] at sending
      cases sending
      cases sendTtsRequestStep_moves sent with
      | thrown refused => cases refused
  | failedPopped here sent | failedPending here sent =>
      rw [here] at sending
      cases sending
      cases sendTtsRequestStep_moves sent
  | _ here =>
      rw [here] at sending
      cases sending

/-- Handing a request over writes no field. -/
theorem RequestStep.handed {direct : Bool} {text : Text}
    {request : Option (Text × SendPc)}
    (step : RequestStep clock .handed direct pvt after history history'
      (some (text, .send)) request) : after = pvt := by
  obtain ⟨next, sent, _⟩ := step
  cases sendTtsRequestStep_moves sent
  all_goals rfl

end Agents

section Runs

variable {before after : State} {unanswered : Bool}

/-- A handle that lasts has lasted. -/
theorem step_lasts {action : Action}
    (stepped : before.step action = some after)
    (lasting : after.lasting = true) : before.lasting = true := by
  simp only [State.lasting, Bool.and_eq_true, Bool.not_eq_true'] at lasting ⊢
  exact ⟨step_unclosed stepped lasting.1, step_lasting stepped lasting.2⟩

/-- An open connection has said so. -/
theorem step_connected {action : Action}
    (connected : before.pvt.ws = .opened → before.pvt.wsConnected = true)
    (stepped : before.step action = some after)
    (linkOpen : after.pvt.ws = .opened) : after.pvt.wsConnected = true := by
  by_cases others : action.handlesConnection = false
  · obtain ⟨sameLink, sameFlag, _⟩ := step_keeps_connection stepped others
    rw [sameLink] at linkOpen
    rw [sameFlag, connected linkOpen]
  have shutOrSame {ws : Link} (link : ws = before.pvt.ws ∨ ws = .closed)
      (linkOpen : ws = .opened) : before.pvt.wsConnected = true := by
    rcases link with same | shut
    · exact connected (same ▸ linkOpen)
    · rw [shut] at linkOpen
      cases linkOpen
  cases step_moves stepped with
  | openStep agent =>
      obtain ⟨ws, _, link, rfl, _⟩ := speechOpenStep_writes agent
      exact shutOrSame link linkOpen
  | procStep agent =>
      obtain ⟨_, _, _, _, _, ws, _, link, rfl⟩ :=
        processingThreadStep_writes agent
      exact shutOrSame link linkOpen
  | @netStart event _ _ _ _ _ agent =>
      cases event <;> simp only [callbackStart] at agent
      all_goals split at agent
      all_goals try split at agent
      all_goals first
        | (cases agent; done)
        | (cases agent; rfl)
        | (cases agent; cases linkOpen)
        | (cases agent; exact connected linkOpen)
  | closeStep agent =>
      obtain ⟨⟨ws, _, link, _, rfl⟩, _⟩ := speechCloseStep_writes agent
      rcases link with same | ⟨_, shut⟩
      · exact connected (same ▸ linkOpen)
      · simp only at linkOpen
        rw [shut] at linkOpen
        cases linkOpen
  | _ => exact (others rfl).elim

/-- A request that is unanswered after a step that hands nothing over was
unanswered before and has not been given up. -/
theorem unanswered_of_note {action : Action}
    (noted : noteUnanswered before action unanswered = true)
    (quiet : before.handsOver action = false) :
    unanswered = true ∧ before.givesUp action = false := by
  simp only [noteUnanswered, quiet, Bool.false_or, Bool.and_eq_true,
    Bool.not_eq_true'] at noted
  exact ⟨noted.1.1, noted.2⟩

theorem WatchedRun.procStep {choice : SendChoice} {pvt : Pvt} {proc : Proc}
    {history : History} (run : WatchedRun before unanswered)
    (permitted : watchedOver before unanswered (.procStep choice) = true)
    (agent : processingThreadStep before.clock choice before.pvt before.history
      before.proc = some (pvt, proc, history))
    (noted : noteUnanswered before (.procStep choice) unanswered = true)
    (lasting : before.lasting = true) :
    pvt.underWay = true ∧ proc.expecting = true := by
  cases hands : before.handsOver (.procStep choice) with
  | true =>
      simp only [watchedOver, lasting, hands, Bool.not_true,
        Bool.false_or] at permitted
      obtain ⟨text, handed⟩ := Option.isSome_iff_exists.mp hands
      obtain ⟨sending, rfl⟩ := handedText_eq_some handed
      obtain ⟨rfl, expecting⟩ := processingThreadStep_handed agent sending
      exact ⟨permitted, expecting⟩
  | false =>
      obtain ⟨open', notGivenUp⟩ := unanswered_of_note noted hands
      obtain ⟨underWay, expecting⟩ := run.request open' lasting
      have unclosed : before.pvt.ttsClosed = false := by
        simp only [State.lasting, Bool.and_eq_true,
          Bool.not_eq_true'] at lasting
        exact lasting.1
      rcases processingThreadStep_expecting agent unclosed underWay expecting
        with ⟨now, here, late⟩ | ⟨rfl, kept⟩
      · simp [State.givesUp, here, late] at notGivenUp
      · exact ⟨underWay, kept⟩

theorem WatchedRun.feedStep {choice : SendChoice} {index : Nat}
    {feed feed' : Feed} {pvt : Pvt} {history : History}
    (run : WatchedRun before unanswered)
    (permitted : watchedOver before unanswered (.feedStep index choice) = true)
    (located : before.feeds[index]? = some feed)
    (agent : speechFeedTtsStep before.clock choice before.pvt before.history
      feed = some (pvt, feed', history))
    (noted : noteUnanswered before (.feedStep index choice) unanswered = true)
    (lasting : before.lasting = true) :
    pvt.underWay = true ∧ before.proc.expecting = true := by
  have here : before.request? (index + 1) = feed.request? := by
    simp [State.request?, located]
  simp only [watchedOver, lasting, here, Bool.not_true,
    Bool.false_or] at permitted
  cases hands : before.handsOver (.feedStep index choice) with
  | true =>
      obtain ⟨text, handed⟩ := Option.isSome_iff_exists.mp hands
      obtain ⟨sending, rfl⟩ := handedText_eq_some handed
      rw [here] at sending
      have request := speechFeedTtsStep_request agent
      rw [sending] at request permitted
      rw [request.handed]
      simpa using permitted
  | false =>
      obtain ⟨open', _⟩ := unanswered_of_note noted hands
      obtain ⟨underWay, expecting⟩ := run.request open' lasting
      refine ⟨speechFeedTtsStep_underWay agent underWay ?_ ?_, expecting⟩
      · intro clears
        simp [clears, open'] at permitted
      · intro stores
        simpa [stores, open'] using permitted

/-- Unless it applies a completion, the event loop leaves the request of a live
connection under way. -/
theorem callbackStep_underWay {clock : Nat} {pvt after : Pvt}
    {history history' : History} {net net' : NetPc} {started : Option Delayed}
    (stepped : callbackStep clock pvt history net =
      some (after, net', history', started))
    (underWay : pvt.underWay = true) (unrelated : net.completes = none)
    (notClosing : net.closes = false) : after.underWay = true := by
  cases net <;> simp only [callbackStep] at stepped
  all_goals try cases unrelated
  all_goals try cases notClosing
  all_goals try split at stepped
  all_goals cases stepped
  all_goals exact underWay

theorem delayedCompletionStep_underWay {clock : Nat} {pvt after : Pvt}
    {delayed delayed' : Delayed}
    (stepped : delayedCompletionStep clock pvt delayed =
      some (after, delayed'))
    (underWay : pvt.underWay = true) (unrelated : delayed.completes = none) :
    after.underWay = true := by
  cases here : delayed.pc <;>
    simp only [delayedCompletionStep, here] at stepped <;>
    simp only [Delayed.completes, here] at unrelated
  all_goals try cases unrelated
  all_goals try split at stepped
  all_goals first
    | (cases stepped; done)
    | (cases stepped; exact underWay)

theorem WatchedRun.step {action : Action}
    (run : WatchedRun before unanswered)
    (permitted : watchedOver before unanswered action = true)
    (stepped : before.step action = some after) :
    WatchedRun after (noteUnanswered before action unanswered) := by
  refine ⟨step_closes stepped run.closes, step_connected run.connected stepped,
    ?_⟩
  intro noted lasting
  have lastingBefore := step_lasts stepped lasting
  have still (quiet : before.handsOver action = false) :
      unanswered = true ∧ before.pvt.underWay = true ∧
        before.proc.expecting = true := by
    obtain ⟨open', _⟩ := unanswered_of_note noted quiet
    exact ⟨open', run.request open' lastingBefore⟩
  cases step_moves stepped with
  | openStep agent =>
      obtain ⟨_, underWay, expecting⟩ := still rfl
      obtain ⟨_, _, _, rfl, same | started⟩ := speechOpenStep_writes agent
      · subst same
        exact ⟨underWay, expecting⟩
      · subst started
        simp only [Proc.expecting, Bool.and_eq_true] at expecting
        refine ⟨underWay, ?_⟩
        simp [Proc.expecting, ProcPc.watching, expecting.1]
  | procStep agent => exact run.procStep permitted agent noted lastingBefore
  | feedStep located agent =>
      exact run.feedStep permitted located agent noted lastingBefore
  | netStart _ _ agent =>
      obtain ⟨⟨_, _, _, rfl⟩, _⟩ := callbackStart_writes agent
      exact (still rfl).2
  | netStep agent =>
      obtain ⟨open', underWay, expecting⟩ := still rfl
      have notClosing : before.net.closes = false := by
        by_contra closing
        have closed := run.closes (by simpa using closing)
        simp [State.lasting, closed, Link.ending] at lastingBefore
      have unrelated : before.net.completes = none := by
        simpa [watchedOver, lastingBefore, open', State.completes]
          using permitted
      exact ⟨callbackStep_underWay agent underWay unrelated notClosing,
        expecting⟩
  | delayedStep located agent =>
      obtain ⟨open', underWay, expecting⟩ := still rfl
      have unrelated := permitted
      simp only [watchedOver, lastingBefore, open', State.completes, located,
        Option.bind_some, Bool.not_true, Bool.false_or,
        Option.isNone_iff_eq_none] at unrelated
      exact ⟨delayedCompletionStep_underWay agent underWay unrelated,
        expecting⟩
  | readStep agent =>
      obtain ⟨⟨_, _, _, _, _, rfl⟩, _⟩ := speechReadTtsStep_writes agent
      exact (still rfl).2
  | closeStep agent =>
      obtain ⟨⟨_, _, _, _, rfl⟩, _⟩ := speechCloseStep_writes agent
      exact (still rfl).2
  | _ => exact (still rfl).2

/-- In every run that meets the side condition, an unanswered request times
out. -/
theorem timesOut_of_watchedOver (now : Nat) {state : State}
    (reached : PermittedReach (watched State.step noteUnanswered)
      (fun watched action => watchedOver watched.1 watched.2 action = true)
      (State.initial now, false) (state, unanswered)) :
    TimesOut state unanswered := by
  have run : WatchedRun (state, unanswered).1 (state, unanswered).2 := by
    generalize (state, unanswered) = last at reached
    apply reached.invariant
    · exact WatchedRun.initial now
    · intro before action after run permitted stepped
      obtain ⟨inner, noted⟩ := watched_eq stepped
      rw [noted]
      exact run.step permitted inner
  exact run.timesOut

end Runs

/-- A text that the processing loop has sent, followed by four silent seconds,
with a second text in the queue. -/
def unansweredLoopSchedule : List Action :=
  openingSchedule ++ [Action.resume [65], Action.resume [66]] ++
    sendingIteration ++ [Action.tick 4000]

theorem timesOut_unansweredLoopSchedule :
    ∃ state, PermittedReach (watched State.step noteUnanswered)
        (fun watched action => watchedOver watched.1 watched.2 action = true)
        (State.initial 1000, false) (state, true) ∧
      (state.proc.pc == .loopHead && !state.pvt.ttsClosed &&
        state.pvt.ws == .opened && !state.pvt.audioDataAvailable &&
        decide (state.pvt.lastRequestTimeMs + 3000 < state.clock + 50)) =
          true ∧
      TimesOut state true := by
  obtain ⟨⟨state, unanswered⟩, reached, passed⟩ :=
    exists_permittedReach_of_replay (watched State.step noteUnanswered)
      (State.initial 1000, false) unansweredLoopSchedule
      (fun watched => watched.2 && (watched.1.proc.pc == .loopHead &&
        !watched.1.pvt.ttsClosed && watched.1.pvt.ws == .opened &&
        !watched.1.pvt.audioDataAvailable &&
        decide (watched.1.pvt.lastRequestTimeMs + 3000 <
          watched.1.clock + 50)))
      (fun watched action => watchedOver watched.1 watched.2 action = true)
      (by decide)
  simp only [Bool.and_eq_true] at passed
  obtain ⟨rfl, passed⟩ := passed
  refine ⟨state, reached, ?_, timesOut_of_watchedOver 1000 reached⟩
  simpa [and_assoc] using passed

end AliyunTts

end SpeechModules
