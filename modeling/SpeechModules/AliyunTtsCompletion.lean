import SpeechModules.AliyunTtsSenders

/-!
# Completions and the requests they belong to

A reply of the server carries the identifier of the message it answers, which
`onmessage` does not look at.  A `SynthesisCompleted` takes effect half a second
late, in a detached thread, and the timeout of the processing loop can start the
next request in the meantime; the old completion then ends the new request.

Here every iteration of the processing loop, every call of
`aliyuntts_speech_feed_tts`, every callback and every woken completion thread
runs without interruption by the others, so the failure does not depend on a
race inside of them.
-/

namespace SpeechModules

namespace AliyunTts

open StepSystem

/-! ## Uninterrupted agents -/

/-- Between two iterations of the processing loop, or outside of it. -/
def Proc.resting (proc : Proc) : Bool :=
  match proc.pc with
  | .notStarted => true
  | .loopHead => true
  | .afterLoop => true
  | .waitClosed _ => true
  | .destroying => true
  | .ended => true
  | _ => false

def Feed.resting (feed : Feed) : Bool :=
  match feed.pc with
  | .returned _ => true
  | _ => false

/-- A completion thread that has not woken up or has finished. -/
def Delayed.resting (delayed : Delayed) : Bool :=
  match delayed.pc with
  | .sleeping _ => true
  | .done => true
  | _ => false

/-- The step does not interrupt another agent. -/
def uninterrupted (state : State) : Action → Bool
  | .procStep _ =>
      state.feeds.all Feed.resting && state.net == .idle &&
        state.delayed.all Delayed.resting
  | .feedStart _ =>
      state.proc.resting && state.feeds.all Feed.resting &&
        state.net == .idle && state.delayed.all Delayed.resting
  | .feedStep index _ =>
      state.proc.resting && (state.feeds.eraseIdx index).all Feed.resting &&
        state.net == .idle && state.delayed.all Delayed.resting
  | .netStart _ =>
      state.proc.resting && state.feeds.all Feed.resting &&
        state.delayed.all Delayed.resting
  | .netStep =>
      state.proc.resting && state.feeds.all Feed.resting &&
        state.delayed.all Delayed.resting
  | .delayedStep index =>
      state.proc.resting && state.feeds.all Feed.resting &&
        state.net == .idle &&
        (state.delayed.eraseIdx index).all Delayed.resting
  | _ => true

/-! ## Completions on behalf of a request -/

def NetPc.completes : NetPc → Option Nat
  | .errorStoreCompleted request _ => some request
  | .errorStoreInProgress request _ => some request
  | _ => none

def Delayed.completes (delayed : Delayed) : Option Nat :=
  match delayed.pc with
  | .storeCompleted _ => some delayed.request
  | .storeInProgress => some delayed.request
  | _ => none

def ProcPc.completes : ProcPc → Option Nat
  | .timeoutCompleted request => some request
  | .timeoutInProgress request => some request
  | _ => none

/-- The request on whose behalf the step sets `synthesisCompleted` to 1 or
`tts_in_progress` to 0. -/
def State.completes (state : State) : Action → Option Nat
  | .netStep => state.net.completes
  | .delayedStep index => state.delayed[index]?.bind Delayed.completes
  | .procStep _ => state.proc.pc.completes
  | _ => none

/-- No step that comes next completes a request after its successor has been
sent.  Requests are numbered from 1. -/
def CompletionOwned (state : State) : Prop :=
  ∀ action after request, uninterrupted state action = true →
    state.step action = some after → state.completes action = some request →
    1 ≤ request → state.history.sent.length ≤ request

/-! ## A late completion ends the next request -/

/-- One iteration of the processing loop that takes a text from the queue and
sends it. -/
def sendingIteration : List Action := List.replicate 15 (.procStep .handed)

/-- One iteration of the processing loop that finds its request timed out. -/
def timeoutIteration : List Action :=
  .procStep .handed :: .procStep .handed :: .tick 150 ::
    List.replicate 7 (.procStep .handed)

/-- A request is answered after 2900 ms without any audio.  It times out before
the completion thread has woken up, and the next text is sent. -/
def lateCompletionSchedule : List Action :=
  openingSchedule ++ [Action.resume [65], Action.resume [66]] ++
    sendingIteration ++
    [Action.tick 2900,
      Action.netStart (.text (some synthesisCompletedMessage) 1),
      Action.netStep] ++
    timeoutIteration ++ sendingIteration ++
    [Action.tick 400, Action.delayedStep 0]

theorem completionOwned_fails :
    ¬ ∀ state, PermittedReach State.step
        (fun state action => uninterrupted state action = true)
        (State.initial 1000) state → CompletionOwned state := by
  intro always
  obtain ⟨state, reached, late⟩ :=
    exists_permittedReach_of_replay State.step (.initial 1000)
      lateCompletionSchedule
      (fun state => uninterrupted state (.delayedStep 0) &&
        (state.step (.delayedStep 0)).isSome &&
        state.completes (.delayedStep 0) == some 1 &&
        state.history.sent.length == 2)
      (fun state action => uninterrupted state action = true)
      (by decide)
  simp only [Bool.and_eq_true, beq_iff_eq] at late
  obtain ⟨⟨⟨alone, enabled⟩, completes⟩, sent⟩ := late
  obtain ⟨after, stepped⟩ := Option.isSome_iff_exists.mp enabled
  have owned :=
    always state reached _ after 1 alone stepped completes (Nat.le_refl 1)
  omega

/-! ## Runs whose completions are in time -/

/-- The requests from 1 on have been sent only up to this one. -/
def State.latest (state : State) (request : Nat) : Bool :=
  request == 0 || state.history.sent.length ≤ request

/-- A completion thread of a request is still to take effect. -/
def State.completionDue (state : State) : Bool :=
  state.delayed.any fun delayed => delayed.pc != .done && delayed.request != 0

/-- The side condition of timely runs, on the state before a step: no agent is
interrupted, an error or a completion comes in while the request it answers is
the latest one, and no request is sent while a completion is due. -/
def timely (state : State) (action : Action) : Bool :=
  uninterrupted state action &&
    match action with
    | .netStart (.text document request) =>
        (readHeader document).all fun header =>
          !(header.isError || header.isCompleted) || state.latest request
    | .procStep choice =>
        state.proc.pc.sender? != some .send || choice != .handed ||
          !state.completionDue
    | .feedStep index choice =>
        state.feeds[index]?.all fun feed =>
          feed.pc.sender? != some .send || choice != .handed ||
            !state.completionDue
    | _ => true

/-- The request whose completion the running callback will apply or pass on. -/
def NetPc.answers : NetPc → Option Nat
  | .spawnDelayed request => some request
  | net => net.completes

structure TimelyRun (state : State) : Prop where
  delayed : ∀ delayed ∈ state.delayed, delayed.pc ≠ .done →
    state.latest delayed.request = true
  net : ∀ request, state.net.answers = some request →
    state.latest request = true
  proc : ∀ request, state.proc.pc.completes = some request →
    state.latest request = true

theorem TimelyRun.initial (now : Nat) : TimelyRun (State.initial now) where
  delayed _ member := by simp [State.initial] at member
  net _ answers := by cases answers
  proc _ completes := by cases completes

theorem NetPc.answers_of_completes {net : NetPc} {request : Nat}
    (completes : net.completes = some request) :
    net.answers = some request := by
  cases net <;> first | exact completes | cases completes

theorem TimelyRun.owned {state : State} (run : TimelyRun state) :
    CompletionOwned state := by
  intro action after request _ stepped completes positive
  have latest : state.latest request = true := by
    cases action <;> simp only [State.completes, reduceCtorEq] at completes
    case procStep => exact run.proc request completes
    case netStep => exact run.net request (NetPc.answers_of_completes completes)
    case delayedStep index =>
      obtain ⟨delayed, located, applies⟩ :=
        Option.bind_eq_some_iff.mp completes
      have due := run.delayed delayed (List.mem_of_getElem? located)
      unfold Delayed.completes at applies
      split at applies
      next here =>
        cases applies
        exact due (by simp [here])
      next here =>
        cases applies
        exact due (by simp [here])
      next => cases applies
  simp only [State.latest, Bool.or_eq_true, beq_iff_eq,
    decide_eq_true_eq] at latest
  omega

section Agents

variable {clock : Nat} {pvt after : Pvt} {history history' : History}

theorem ProcPc.completes_of_plain {pc : ProcPc} (plain : pc.plain = true) :
    pc.completes = none := by
  cases pc <;> first | rfl | cases plain

/-- The processing thread takes a timeout for the latest request only. -/
theorem processingThreadStep_completes {choice : SendChoice}
    {proc proc' : Proc} {request : Nat}
    (stepped : processingThreadStep clock choice pvt history proc =
      some (after, proc', history'))
    (completes : proc'.pc.completes = some request) :
    request = history.sent.length ∨ proc.pc.completes = some request := by
  cases processingThreadStep_moves stepped with
  | goto goes =>
      rw [ProcPc.completes_of_plain goes.plain.2] at completes
      cases completes
  | late =>
      cases completes
      exact .inl rfl
  | timeoutCompleted here =>
      rw [here]
      exact .inr completes
  | _ => cases completes

/-- A callback passes a completion on to the thread it starts. -/
theorem callbackStep_answers {net net' : NetPc} {started : Option Delayed}
    (stepped : callbackStep clock pvt history net =
      some (after, net', history', started)) :
    (∀ request, net'.answers = some request → net.answers = some request) ∧
      ∀ delayed ∈ started, net.answers = some delayed.request := by
  cases net <;> simp only [callbackStep] at stepped
  case errorStoreInProgress earlier completed =>
    cases stepped
    refine ⟨fun request answers => ?_, by simp⟩
    cases completed <;> cases answers
    rfl
  case spawnDelayed earlier =>
    cases stepped
    exact ⟨fun _ answers => (by cases answers), by simp [NetPc.answers]⟩
  case errorStoreCompleted earlier completed =>
    cases stepped
    exact ⟨fun _ answers => answers, by simp⟩
  all_goals try split at stepped
  all_goals first
    | (cases stepped; done)
    | (cases stepped
       exact ⟨fun _ answers => (by cases answers), by simp⟩)

/-- A message starts a completion only if it is an error or a completion. -/
theorem callbackStart_answers {event : NetEvent} {net : NetPc} {request : Nat}
    (stepped : callbackStart pvt history event = some (after, net, history'))
    (answers : net.answers = some request) :
    ∃ document header, event = .text document request ∧
      readHeader document = some header ∧
      (header.isError || header.isCompleted) = true := by
  cases event <;> simp only [callbackStart] at stepped
  case text document answered =>
    split at stepped
    · split at stepped
      · cases stepped
        cases answers
      next header found =>
        cases stepped
        unfold textPc at answers
        split at answers
        next error =>
          cases answers
          exact ⟨document, header, rfl, found, by simp [error]⟩
        next =>
          split at answers
          next completed =>
            cases answers
            exact ⟨document, header, rfl, found, by simp [completed]⟩
          next => cases answers
    · cases stepped
  all_goals
    split at stepped
    all_goals first
      | (cases stepped; done)
      | (cases stepped; cases answers)

/-- A completion thread that moves is still due and keeps its request. -/
theorem delayedCompletionStep_request {delayed delayed' : Delayed}
    (stepped : delayedCompletionStep clock pvt delayed =
      some (after, delayed')) :
    delayed.pc ≠ .done ∧ delayed'.request = delayed.request := by
  cases here : delayed.pc <;>
    simp only [delayedCompletionStep, here] at stepped
  all_goals try split at stepped
  all_goals try split at stepped
  all_goals try split at stepped
  all_goals first
    | (cases stepped; done)
    | (cases stepped; exact ⟨by simp, rfl⟩)

end Agents

section Steps

variable {before after : State}

theorem latest_congr {request : Nat}
    (sent : after.history.sent = before.history.sent) :
    after.latest request = before.latest request := by
  simp only [State.latest, sent]

/-- A step that sends no request. -/
theorem TimelyRun.of_unsent
    (sent : after.history.sent = before.history.sent)
    (delayed : ∀ delayed ∈ after.delayed, delayed.pc ≠ .done →
      before.latest delayed.request = true)
    (net : ∀ request, after.net.answers = some request →
      before.latest request = true)
    (proc : ∀ request, after.proc.pc.completes = some request →
      before.latest request = true) : TimelyRun after where
  delayed element member due :=
    (latest_congr sent).trans (delayed element member due)
  net request answers := (latest_congr sent).trans (net request answers)
  proc request completes := (latest_congr sent).trans (proc request completes)

/-- A step that leaves the completions alone. -/
theorem TimelyRun.of_frame (run : TimelyRun before)
    (sent : after.history.sent = before.history.sent)
    (delayed : after.delayed = before.delayed)
    (net : after.net = before.net) (proc : after.proc = before.proc) :
    TimelyRun after :=
  .of_unsent sent (delayed ▸ run.delayed) (net ▸ run.net) (proc ▸ run.proc)

/-- A request that is sent while no completion is under way. -/
theorem TimelyRun.of_sent (delayed : after.delayed = before.delayed)
    (settled : before.completionDue = false)
    (net : after.net = .idle)
    (proc : after.proc.pc.completes = none) : TimelyRun after where
  delayed element member due := by
    rw [delayed] at member
    simp only [State.completionDue, List.any_eq_false, Bool.and_eq_true,
      bne_iff_ne, not_and, not_not] at settled
    simp [State.latest, settled element member due]
  net request answers := by
    rw [net] at answers
    cases answers
  proc request completes := by
    rw [proc] at completes
    cases completes

theorem TimelyRun.procStep {choice : SendChoice} {pvt : Pvt} {proc : Proc}
    {history : History} (run : TimelyRun before)
    (permitted : timely before (.procStep choice) = true)
    (agent : processingThreadStep before.clock choice before.pvt
      before.history before.proc = some (pvt, proc, history)) :
    TimelyRun { before with pvt := pvt, proc := proc, history := history } := by
  rcases processingThreadStep_sent agent with unsent | ⟨position, handed, left⟩
  · refine .of_unsent unsent run.delayed run.net ?_
    intro request completes
    rcases processingThreadStep_completes agent completes with rfl | earlier
    · simp [State.latest]
    · exact run.proc request earlier
  · simp only [timely, uninterrupted, position, handed, Bool.and_eq_true,
      beq_iff_eq, bne_self_eq_false, Bool.false_or, Bool.not_eq_true']
      at permitted
    refine .of_sent rfl permitted.2 permitted.1.1.2 ?_
    simp [left, ProcPc.completes]

theorem Proc.completes_of_resting {proc : Proc}
    (resting : proc.resting = true) : proc.pc.completes = none := by
  cases here : proc.pc <;> simp_all [Proc.resting, ProcPc.completes]

theorem TimelyRun.feedStep {choice : SendChoice} {index : Nat}
    {feed feed' : Feed} {pvt : Pvt} {history : History}
    (run : TimelyRun before)
    (permitted : timely before (.feedStep index choice) = true)
    (located : before.feeds[index]? = some feed)
    (agent : speechFeedTtsStep before.clock choice before.pvt before.history
      feed = some (pvt, feed', history)) :
    TimelyRun { before with
      pvt := pvt, feeds := before.feeds.set index feed',
      history := history } := by
  rcases speechFeedTtsStep_sent agent with unsent | ⟨position, handed⟩
  · exact run.of_frame unsent rfl rfl rfl
  · simp only [timely, uninterrupted, located, position, handed,
      Option.all_some, Bool.and_eq_true, beq_iff_eq, bne_self_eq_false,
      Bool.false_or, Bool.not_eq_true'] at permitted
    obtain ⟨⟨⟨⟨resting, _⟩, idle⟩, _⟩, settled⟩ := permitted
    exact .of_sent rfl settled idle (Proc.completes_of_resting resting)

theorem TimelyRun.netStart {event : NetEvent} {pvt : Pvt} {net : NetPc}
    {history : History} (run : TimelyRun before)
    (permitted : timely before (.netStart event) = true)
    (agent : callbackStart before.pvt before.history event =
      some (pvt, net, history)) :
    TimelyRun { before with pvt := pvt, net := net, history := history } := by
  have unsent : history.sent = before.history.sent := by
    obtain ⟨_, _, _, _, _, rfl⟩ := callbackStart_writes agent
    rfl
  refine .of_unsent unsent run.delayed ?_ run.proc
  intro request answers
  obtain ⟨document, header, rfl, found, relevant⟩ :=
    callbackStart_answers agent answers
  simp only [timely, found, Option.all_some, relevant, Bool.not_true,
    Bool.false_or, Bool.and_eq_true] at permitted
  exact permitted.2

theorem TimelyRun.netStep {pvt : Pvt} {net : NetPc} {history : History}
    {started : Option Delayed} (run : TimelyRun before)
    (agent : callbackStep before.clock before.pvt before.history before.net =
      some (pvt, net, history, started)) :
    TimelyRun { before with
      pvt := pvt, net := net, history := history,
      delayed := before.delayed ++ started.toList } := by
  obtain ⟨answers, starts⟩ := callbackStep_answers agent
  obtain ⟨_, _, _, _, rfl⟩ := callbackStep_writes agent
  refine .of_unsent rfl ?_ (fun request found =>
    run.net request (answers request found)) run.proc
  intro delayed member due
  rcases List.mem_append.mp member with old | new
  · exact run.delayed delayed old due
  · exact run.net _ (starts delayed (by simpa using new))

theorem TimelyRun.delayedStep {index : Nat} {delayed delayed' : Delayed}
    {pvt : Pvt} (run : TimelyRun before)
    (located : before.delayed[index]? = some delayed)
    (agent : delayedCompletionStep before.clock before.pvt delayed =
      some (pvt, delayed')) :
    TimelyRun { before with
      pvt := pvt, delayed := before.delayed.set index delayed' } := by
  obtain ⟨due, same⟩ := delayedCompletionStep_request agent
  refine .of_unsent rfl ?_ run.net run.proc
  intro element member elementDue
  rcases List.mem_or_eq_of_mem_set member with old | rfl
  · exact run.delayed element old elementDue
  · rw [same]
    exact run.delayed delayed (List.mem_of_getElem? located) due

theorem TimelyRun.step {action : Action} (run : TimelyRun before)
    (permitted : timely before action = true)
    (stepped : before.step action = some after) : TimelyRun after := by
  cases step_moves stepped with
  | openStep agent =>
      obtain ⟨_, _, _, _, started⟩ := speechOpenStep_writes agent
      refine .of_unsent rfl run.delayed run.net ?_
      rcases started with rfl | rfl
      · exact run.proc
      · intro _ completes
        cases completes
  | procStep agent => exact run.procStep permitted agent
  | feedStep located agent => exact run.feedStep permitted located agent
  | netStart _ _ agent => exact run.netStart permitted agent
  | netStep agent => exact run.netStep agent
  | delayedStep located agent => exact run.delayedStep located agent
  | readStep agent =>
      obtain ⟨_, _, _, _, rfl⟩ := speechReadTtsStep_writes agent
      exact run.of_frame rfl rfl rfl rfl
  | closeStep agent =>
      obtain ⟨_, _, rfl⟩ := speechCloseStep_writes agent
      exact run.of_frame rfl rfl rfl rfl
  | _ => exact run.of_frame rfl rfl rfl rfl

end Steps

/-- In every timely run a completion takes effect before the request after it
is sent. -/
theorem completionOwned_of_timely (now : Nat) {state : State}
    (reached : PermittedReach State.step
      (fun state action => timely state action = true)
      (State.initial now) state) :
    CompletionOwned state := by
  have run : TimelyRun state :=
    reached.invariant (TimelyRun.initial now)
      fun _ _ _ run permitted stepped => run.step permitted stepped
  exact run.owned

/-- A request is answered at once and its completion thread runs before the
processing loop goes on. -/
def timelySchedule : List Action :=
  openingSchedule ++ [Action.resume [65], Action.resume [66]] ++
    sendingIteration ++
    [Action.netStart (.text (some synthesisCompletedMessage) 1), Action.netStep,
      Action.tick 500, Action.delayedStep 0]

theorem completionOwned_timelySchedule :
    ∃ state, PermittedReach State.step
        (fun state action => timely state action = true)
        (State.initial 1000) state ∧
      (state.completes (.delayedStep 0) == some 1 &&
        (state.step (.delayedStep 0)).isSome) = true ∧
      CompletionOwned state := by
  obtain ⟨state, reached, passed⟩ :=
    exists_permittedReach_of_replay State.step (.initial 1000)
      timelySchedule
      (fun state => state.completes (.delayedStep 0) == some 1 &&
        (state.step (.delayedStep 0)).isSome)
      (fun state action => timely state action = true)
      (by decide)
  exact ⟨state, reached, passed, completionOwned_of_timely 1000 reached⟩

end AliyunTts

end SpeechModules
