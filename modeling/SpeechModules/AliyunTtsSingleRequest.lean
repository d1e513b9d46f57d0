import SpeechModules.AliyunTtsSenders

/-!
# One outstanding synthesis request at a time

`tts_in_progress` is meant to keep a second StartSynthesis from being sent
before the first one has been answered.  Both senders test the flag and set it
in two separate accesses, and four other places clear it, so the flag protects
the connection only in runs whose windows do not overlap.  This file states the
protection, exhibits a run that breaks it, and proves it for all serialized
runs.
-/

namespace SpeechModules

namespace AliyunTts

open StepSystem

/-- While a request is outstanding on a connection that has not been closed, the
flag is up and no enabled step sends another StartSynthesis. -/
def SingleRequest (state : State) : Prop :=
  state.pvt.ws ≠ .closed → state.history.outstanding = true →
    state.pvt.ttsInProgress = true ∧
    ∀ action after, state.step action = some after →
      after.history.sent = state.history.sent

/-! ## Windows -/

/-- A sender that has seen `tts_in_progress = 0` and has not returned. -/
def SendPc.critical : SendPc → Bool
  | .loadConnected => false
  | .loadInProgress => false
  | _ => true

/-- The processing thread is committed to clear `tts_in_progress`, having seen
a completed synthesis or measured a timeout. -/
def Proc.clearing (proc : Proc) : Bool :=
  match proc.pc with
  | .storeInProgress => true
  | .timeoutCompleted _ => true
  | .timeoutInProgress _ => true
  | _ => false

/-- The event loop is about to apply an error or to start a completion
thread. -/
def NetPc.clearing : NetPc → Bool
  | .errorStoreCompleted _ _ => true
  | .errorStoreInProgress _ _ => true
  | .spawnDelayed _ => true
  | _ => false

def Delayed.pending (delayed : Delayed) : Bool := delayed.pc ≠ .done

/-- Some sender is between its test of the flag and its return. -/
def State.sending (state : State) : Bool :=
  state.senders.any fun sender => sender.any SendPc.critical

/-- Some agent is committed to clear the flag or to mark a completion. -/
def State.clearing (state : State) : Bool :=
  state.proc.clearing || state.net.clearing ||
    state.delayed.any Delayed.pending

/-- The timeout branch of the processing loop is taken. -/
def timedOut (pvt : Pvt) (now : Nat) : Bool :=
  0 < pvt.lastRequestTimeMs && pvt.lastRequestTimeMs < now &&
    3000 < now - pvt.lastRequestTimeMs

/-- The side condition of serialized runs, on the state before a step: a
sender's window opens only when no other window is open, no window opens while
a sender's is, a completion that arrives for an outstanding request answers
that request, and a timeout is not taken for a request that has received
data. -/
def serialized (state : State) : Action → Bool
  | .procStep _ =>
      state.pvt.ws == .closed ||
      match state.proc.pc with
      | .sendPopped _ .loadInProgress | .sendPending _ .loadInProgress =>
          state.pvt.ttsInProgress || !(state.sending || state.clearing)
      | .loadCompleted => !state.pvt.synthesisCompleted || !state.sending
      | .loadRequestTime now =>
          !timedOut state.pvt now || (!state.sending &&
            !(state.history.outstanding && state.history.packetSinceSend))
      | _ => true
  | .feedStep index _ =>
      state.pvt.ws == .closed ||
      match state.feeds[index]?.map Feed.pc with
      | some (.sending .loadInProgress) =>
          state.pvt.ttsInProgress || !(state.sending || state.clearing)
      | _ => true
  | .netStart (.text document request) =>
      match readHeader document with
      | none => true
      | some header =>
          !(header.isError || header.isCompleted) ||
            (!state.sending && (header.isError ||
              !state.history.outstanding ||
              request == state.history.sent.length))
  | _ => true

/-! ## The race between the direct sender and the processing loop -/

/-- The processing loop reads a completed synthesis, a direct send then sets the
flag and sends, and the loop's store clears the flag. -/
def racingSchedule : List Action :=
  openingSchedule ++ [Action.procStep .handed, Action.procStep .handed] ++
    directSendSchedule 0 [65] ++ [Action.procStep .handed]

theorem singleRequest_fails :
    ¬ ∀ state, Reach State.step (State.initial 1000) state →
      SingleRequest state := by
  intro always
  obtain ⟨state, reached, raced⟩ :=
    exists_reach_of_replay State.step (.initial 1000) racingSchedule
      (fun state => state.pvt.ws == .opened && state.history.outstanding &&
        !state.pvt.ttsInProgress)
      (by decide)
  simp only [Bool.and_eq_true, beq_iff_eq, Bool.not_eq_true'] at raced
  obtain ⟨⟨linkOpen, outstanding⟩, cleared⟩ := raced
  have flag := (always state reached (by simp [linkOpen]) outstanding).1
  rw [cleared] at flag
  cases flag

/-! ## Serialized runs -/

/-- What a sender at this position relies on: it has reset the two flags it
needs and nobody has touched them since. -/
def SendPc.ready (completed inProgress : Bool) : SendPc → Bool
  | .storeAvailable => !completed
  | .storeInProgress => !completed
  | .storeRequestTime => !completed && inProgress
  | .prepare => !completed && inProgress
  | .send => !completed && inProgress
  | _ => true

/-- The invariant of serialized runs while the connection lives: an outstanding
request excludes every window, a sender's window excludes all others, and the
sender inside it owns the flags. -/
structure Serial (state : State) : Prop where
  request : state.history.outstanding = true →
    state.pvt.ttsInProgress = true ∧
    state.pvt.synthesisCompleted = false ∧
    state.sending = false ∧ state.clearing = false
  exclusive : state.sending = true → state.clearing = false
  alone : ∀ (first second : Nat) (firstPc secondPc : SendPc),
    state.senders[first]? = some (some firstPc) →
    state.senders[second]? = some (some secondPc) →
    firstPc.critical = true → secondPc.critical = true → first = second
  ready : ∀ (index : Nat) (pc : SendPc),
    state.senders[index]? = some (some pc) →
    pc.ready state.pvt.synthesisCompleted state.pvt.ttsInProgress = true

theorem sending_of_critical {state : State} {index : Nat} {pc : SendPc}
    (found : state.senders[index]? = some (some pc))
    (critical : pc.critical = true) : state.sending = true := by
  apply List.any_eq_true.mpr
  exact ⟨some pc, List.mem_of_getElem? found, by simpa using critical⟩

theorem not_critical_of_not_sending {state : State} {index : Nat}
    {pc : SendPc} (idle : state.sending = false)
    (found : state.senders[index]? = some (some pc)) :
    pc.critical = false := by
  by_contra critical
  simp only [Bool.not_eq_false] at critical
  rw [sending_of_critical found critical] at idle
  cases idle

theorem SendPc.ready_of_not_critical {pc : SendPc} (completed inProgress : Bool)
    (outside : pc.critical = false) :
    pc.ready completed inProgress = true := by
  cases pc <;> simp_all [SendPc.critical, SendPc.ready]

/-- With no sender inside its window and no outstanding request, the invariant
asks for nothing. -/
theorem Serial.of_idle {state : State}
    (settled : state.history.outstanding = false)
    (idle : state.sending = false) : Serial state where
  request outstanding := by simp [settled] at outstanding
  exclusive sending := by simp [idle] at sending
  alone _ _ _ _ found _ critical := by
    rw [not_critical_of_not_sending idle found] at critical
    cases critical
  ready _ _ found :=
    SendPc.ready_of_not_critical _ _ (not_critical_of_not_sending idle found)

/-- A step that opens no window and leaves the two flags alone keeps the
invariant: every sender of the new state is outside its window or was at the
same position before. -/
theorem Serial.of_quieter {before after : State} (serial : Serial before)
    (inProgress : after.pvt.ttsInProgress = before.pvt.ttsInProgress)
    (completed :
      after.pvt.synthesisCompleted = before.pvt.synthesisCompleted)
    (outstanding : after.history.outstanding = true →
      before.history.outstanding = true)
    (senders : ∀ (index : Nat) (pc : SendPc),
      after.senders[index]? = some (some pc) →
      pc.critical = true → before.senders[index]? = some (some pc))
    (clearing : after.clearing = true → before.clearing = true) :
    Serial after := by
  have sending : after.sending = true → before.sending = true := by
    intro inside
    obtain ⟨sender, member, critical⟩ := List.any_eq_true.mp inside
    obtain ⟨index, found⟩ := List.getElem?_of_mem member
    cases sender with
    | none => simp at critical
    | some pc =>
        have critical : pc.critical = true := by simpa using critical
        exact sending_of_critical (senders index pc found critical) critical
  have notClearing : before.clearing = false → after.clearing = false := by
    cases clear : after.clearing with
    | false => simp
    | true => simp [clearing clear]
  constructor
  · intro open'
    obtain ⟨flag, unfinished, noSender, noClear⟩ :=
      serial.request (outstanding open')
    refine ⟨inProgress ▸ flag, completed ▸ unfinished, ?_,
      notClearing noClear⟩
    cases inside : after.sending with
    | false => rfl
    | true => rw [sending inside] at noSender; cases noSender
  · intro inside
    exact notClearing (serial.exclusive (sending inside))
  · intro first second firstPc secondPc firstFound secondFound
      firstCritical secondCritical
    exact serial.alone first second firstPc secondPc
      (senders _ _ firstFound firstCritical)
      (senders _ _ secondFound secondCritical) firstCritical secondCritical
  · intro index pc found
    rw [inProgress, completed]
    cases critical : pc.critical with
    | false => exact SendPc.ready_of_not_critical _ _ critical
    | true => exact serial.ready index pc (senders index pc found critical)

/-- Before its window a sender only reads, and it enters the window through the
test of `tts_in_progress`. -/
theorem sendTtsRequestStep_outside {clock : Nat} {choice : SendChoice}
    {pvt after : Pvt} {pc : SendPc} {next : SendNext}
    (stepped : sendTtsRequestStep clock choice pvt pc = some (after, next))
    (outside : pc.critical = false) :
    after = pvt ∧ next ≠ .handed ∧
      ∀ pc', next = .goto pc' → pc'.critical = true →
        pc = .loadInProgress ∧ pc' = .storeCompleted ∧
          pvt.ttsInProgress = false := by
  cases sendTtsRequestStep_moves stepped with
  | connected => exact ⟨rfl, by simp, by simp [SendPc.critical]⟩
  | unconnected => exact ⟨rfl, by simp, by simp⟩
  | free idle => exact ⟨rfl, by simp, by simp [idle]⟩
  | busy => exact ⟨rfl, by simp, by simp⟩
  | _ => cases outside

/-- Inside its window a sender keeps the flags it relies on, and it sends with
both of them set. -/
theorem sendTtsRequestStep_inside {clock : Nat} {choice : SendChoice}
    {pvt after : Pvt} {pc : SendPc} {next : SendNext}
    (stepped : sendTtsRequestStep clock choice pvt pc = some (after, next))
    (inside : pc.critical = true)
    (ready : pc.ready pvt.synthesisCompleted pvt.ttsInProgress = true) :
    (∀ pc', next = .goto pc' →
      pc'.ready after.synthesisCompleted after.ttsInProgress = true) ∧
    (next = .handed →
      after.ttsInProgress = true ∧ after.synthesisCompleted = false) := by
  cases sendTtsRequestStep_moves stepped
  all_goals simp_all [SendPc.critical, SendPc.ready]

section SenderSteps

variable {before after : State} {choice : SendChoice} {position : Nat}
  {pc : SendPc} {next : SendNext}

/-- The invariant holds after the step of a sender if all others are outside
their windows. -/
theorem Serial.of_sole
    (step : SenderStep before after choice position pc next)
    (others : ∀ (index : Nat) (pc' : SendPc), index ≠ position →
      before.senders[index]? = some (some pc') → pc'.critical = false)
    (notClearing : after.clearing = false)
    (request : after.history.outstanding = true →
      after.pvt.ttsInProgress = true ∧
      after.pvt.synthesisCompleted = false ∧ next = .handed)
    (ready : ∀ pc', next = .goto pc' →
      pc'.ready after.pvt.synthesisCompleted after.pvt.ttsInProgress = true) :
    Serial after := by
  have sole (index : Nat) (pc' : SendPc)
      (located : after.senders[index]? = some (some pc'))
      (critical : pc'.critical = true) :
      index = position ∧ next = .goto pc' := by
    rcases step.sender_cases located with here | ⟨different, other⟩
    · exact here
    · rw [others index pc' different other] at critical
      cases critical
  constructor
  · intro open'
    obtain ⟨flag, unfinished, handed⟩ := request open'
    refine ⟨flag, unfinished, ?_, notClearing⟩
    by_contra still
    simp only [Bool.not_eq_false] at still
    obtain ⟨sender, member, critical⟩ := List.any_eq_true.mp still
    obtain ⟨index, located⟩ := List.getElem?_of_mem member
    cases sender with
    | none => simp at critical
    | some pc' =>
        have continues := (sole index pc' located (by simpa using critical)).2
        rw [handed] at continues
        cases continues
  · exact fun _ => notClearing
  · intro first second firstPc secondPc firstFound secondFound firstCritical
      secondCritical
    exact (sole _ _ firstFound firstCritical).1.trans
      (sole _ _ secondFound secondCritical).1.symm
  · intro index pc' located
    cases critical : pc'.critical with
    | false => exact SendPc.ready_of_not_critical _ _ critical
    | true => exact ready pc' (sole index pc' located critical).2

/-- A sender that is outside its window and may enter it. -/
theorem Serial.of_sender_outside (serial : Serial before)
    (step : SenderStep before after choice position pc next)
    (outside : pc.critical = false)
    (clearing : after.clearing = before.clearing)
    (outstanding : after.history.outstanding =
      (before.history.outstanding || decide (next = .handed)))
    (permitted : pc = .loadInProgress →
      before.pvt.ttsInProgress = false →
        before.sending = false ∧ before.clearing = false) :
    Serial after := by
  obtain ⟨samePvt, notHanded, entering⟩ :=
    sendTtsRequestStep_outside step.stepped outside
  have unsent : after.history.outstanding = before.history.outstanding := by
    simp [outstanding, notHanded]
  by_cases enters : ∃ pc', next = .goto pc' ∧ pc'.critical = true
  · obtain ⟨pc', rfl, critical⟩ := enters
    obtain ⟨rfl, rfl, free⟩ := entering pc' rfl critical
    obtain ⟨noSender, noClear⟩ := permitted rfl free
    have settled : before.history.outstanding = false := by
      by_contra open'
      have flag := (serial.request (by simpa using open')).1
      rw [free] at flag
      cases flag
    -- the window that opens is the only one
    refine Serial.of_sole step ?_ (clearing.trans noClear) ?_ ?_
    · exact fun _ _ _ other => not_critical_of_not_sending noSender other
    · intro open'
      rw [unsent, settled] at open'
      cases open'
    · rintro pc' continues
      cases continues
      rfl
  · apply serial.of_quieter
    · rw [samePvt]
    · rw [samePvt]
    · exact fun open' => unsent ▸ open'
    · intro index pc located critical
      rcases step.sender_cases located with ⟨_, here⟩ | ⟨_, other⟩
      · exact (enters ⟨pc, here, critical⟩).elim
      · exact other
    · intro clear
      rwa [clearing] at clear

/-- A sender inside its window. -/
theorem Serial.of_sender_inside (serial : Serial before)
    (step : SenderStep before after choice position pc next)
    (inside : pc.critical = true)
    (clearing : after.clearing = before.clearing)
    (outstanding : after.history.outstanding =
      (before.history.outstanding || decide (next = .handed))) :
    Serial after := by
  have sendingBefore := sending_of_critical step.found inside
  have settled : before.history.outstanding = false := by
    by_contra open'
    have idle := (serial.request (by simpa using open')).2.2.1
    rw [sendingBefore] at idle
    cases idle
  obtain ⟨keeps, sends⟩ := sendTtsRequestStep_inside step.stepped inside
    (serial.ready _ _ step.found)
  refine Serial.of_sole step ?_
    (clearing.trans (serial.exclusive sendingBefore)) ?_ keeps
  · intro index pc' different other
    by_contra critical
    exact different (serial.alone _ _ _ _ other step.found
      (by simpa using critical) inside)
  · intro open'
    have handed : next = .handed := by
      simpa [outstanding, settled] using open'
    exact ⟨(sends handed).1, (sends handed).2, handed⟩

/-- One step of any sender, inside or outside its window. -/
theorem Serial.of_sender (serial : Serial before)
    (step : SenderStep before after choice position pc next)
    (clearing : after.clearing = before.clearing)
    (outstanding : after.history.outstanding =
      (before.history.outstanding || decide (next = .handed)))
    (permitted : pc = .loadInProgress →
      before.pvt.ttsInProgress = false →
        before.sending = false ∧ before.clearing = false) :
    Serial after := by
  cases inside : pc.critical with
  | false =>
      exact serial.of_sender_outside step inside clearing outstanding permitted
  | true => exact serial.of_sender_inside step inside clearing outstanding

end SenderSteps

/-- An agent that is about to clear the flag runs alone. -/
theorem Serial.idle_of_clearing {state : State} (serial : Serial state)
    (clearing : state.clearing = true) :
    state.history.outstanding = false ∧ state.sending = false := by
  constructor
  · by_contra open'
    have quiet := (serial.request (by simpa using open')).2.2.2
    rw [clearing] at quiet
    cases quiet
  · by_contra inside
    have quiet := serial.exclusive (by simpa using inside)
    rw [clearing] at quiet
    cases quiet

/-- No window of the processing thread is open at this position. -/
def ProcPc.quiet (pc : ProcPc) : Bool :=
  !(pc.sender?.any SendPc.critical) && !(Proc.clearing ⟨pc, false, none⟩)

theorem Proc.clearing_of_quiet {proc : Proc} (quiet : proc.pc.quiet = true) :
    proc.clearing = false := by
  simp only [ProcPc.quiet, Bool.and_eq_true, Bool.not_eq_true'] at quiet
  exact quiet.2

theorem not_critical_of_quiet {proc : Proc} {pc : SendPc}
    (quiet : proc.pc.quiet = true) (here : proc.pc.sender? = some pc) :
    pc.critical = false := by
  simp only [ProcPc.quiet, here, Option.any_some, Bool.and_eq_true,
    Bool.not_eq_true'] at quiet
  exact quiet.1

section ProcessingThread

variable {before : State} {pvt : Pvt} {proc : Proc} {history : History}

/-- Moving the processing thread to a quiet position. -/
theorem Serial.of_quiet_proc (serial : Serial before)
    (quiet : proc.pc.quiet = true)
    (inProgress : pvt.ttsInProgress = before.pvt.ttsInProgress)
    (completed : pvt.synthesisCompleted = before.pvt.synthesisCompleted)
    (outstanding : history.outstanding = true →
      before.history.outstanding = true) :
    Serial { before with pvt := pvt, proc := proc, history := history } := by
  apply serial.of_quieter inProgress completed outstanding
  · intro index pc found critical
    cases index with
    | zero =>
        have here : proc.pc.sender? = some pc := by
          simpa [State.senders] using found
        rw [not_critical_of_quiet quiet here] at critical
        cases critical
    | succ index => simpa [State.senders] using found
  · intro clearing
    simp only [State.clearing, Proc.clearing_of_quiet quiet,
      Bool.false_or] at clearing
    simp only [State.clearing, Bool.or_assoc, clearing, Bool.or_true]

/-- Moving the processing thread while no sender is inside its window. -/
theorem Serial.of_idle_proc (settled : history.outstanding = false)
    (idle : before.sending = false) (outside : proc.pc.sender? = none) :
    Serial { before with pvt := pvt, proc := proc, history := history } := by
  apply Serial.of_idle settled
  simp only [State.sending, State.senders, List.any_cons,
    Bool.or_eq_false_iff] at idle
  simp only [State.sending, State.senders, outside, List.any_cons,
    Option.any_none, Bool.false_or]
  exact idle.2

/-- Moving the processing thread while it is committed to clear the flag. -/
theorem Serial.of_clearing_proc (serial : Serial before)
    (clears : before.proc.clearing = true) (outside : proc.pc.sender? = none) :
    Serial { before with pvt := pvt, proc := proc } := by
  have clearing : before.clearing = true := by
    simp [State.clearing, clears]
  obtain ⟨settled, idle⟩ := serial.idle_of_clearing clearing
  exact Serial.of_idle_proc settled idle outside

theorem Proc.clearing_of_sender {pc : SendPc}
    (inside : proc.pc.sender? = some pc) : proc.clearing = false := by
  cases here : proc.pc <;> simp_all [ProcPc.sender?, Proc.clearing]

/-- The processing thread inside `send_tts_request`, for both kinds of
texts. -/
theorem Serial.procStep_inside {choice : SendChoice} {pc : SendPc}
    (serial : Serial before) (inside : before.proc.pc.sender? = some pc)
    (permitted : pc = .loadInProgress →
      before.pvt.ttsInProgress = false →
        before.sending = false ∧ before.clearing = false)
    (agent : processingThreadStep before.clock choice before.pvt
      before.history before.proc = some (pvt, proc, history)) :
    Serial { before with pvt := pvt, proc := proc, history := history } := by
  obtain ⟨next, text, sent, moved, left, rfl⟩ :=
    processingThreadStep_sender inside agent
  have notClearing : proc.clearing = false := by
    cases continues : proc.pc.sender? with
    | none => simp [Proc.clearing, left continues]
    | some pc' => exact Proc.clearing_of_sender continues
  have position : before.senders[0]? = some (some pc) := by
    simp [State.senders, inside]
  refine serial.of_sender ⟨position, sent, ?_⟩ ?_
    History.noteSendNext_outstanding permitted
  · rw [senders_set_proc, moved]
  · simp [State.clearing, notClearing, Proc.clearing_of_sender inside]

/-- The processing thread outside `send_tts_request`. -/
theorem Serial.procStep_outside {choice : SendChoice} (serial : Serial before)
    (outside : before.proc.pc.sender? = none)
    (alive : pvt.ws ≠ .closed) (aliveBefore : before.pvt.ws ≠ .closed)
    (permitted : serialized before (.procStep choice) = true)
    (agent : processingThreadStep before.clock choice before.pvt
      before.history before.proc = some (pvt, proc, history)) :
    Serial { before with pvt := pvt, proc := proc, history := history } := by
  have linkOpen : (before.pvt.ws == .closed) = false := by
    simpa using aliveBefore
  simp only [serialized, linkOpen, Bool.false_or] at permitted
  cases processingThreadStep_moves agent with
  | goto goes =>
      generalize here : before.proc.pc = position at goes
      cases goes with
      | loadCompleted =>
          -- reading a completed synthesis opens the clearing window
          simp only [here] at permitted
          cases completed : before.pvt.synthesisCompleted with
          | false => exact serial.of_quiet_proc rfl rfl rfl id
          | true =>
              simp only [completed, Bool.not_true, Bool.false_or,
                Bool.not_eq_true'] at permitted
              apply Serial.of_idle_proc _ permitted
              · simp [ProcPc.sender?]
              · by_contra open'
                have unfinished := (serial.request (by simpa using open')).2.1
                rw [completed] at unfinished
                cases unfinished
      | _ =>
          refine serial.of_quiet_proc ?_ rfl rfl id
          first
            | rfl
            | (split <;> rfl)
  | storeInProgress here | timeoutCompleted here | timeoutInProgress here =>
      exact serial.of_clearing_proc (by simp [Proc.clearing, here]) rfl
  | @late now here overdue =>
      -- a timeout ends the request, because no data had arrived for it
      simp only [here] at permitted
      have expired : timedOut before.pvt now = true := by
        simp [timedOut, overdue]
      simp only [expired, Bool.not_true, Bool.false_or,
        Bool.and_eq_true, Bool.not_eq_true'] at permitted
      exact Serial.of_idle_proc permitted.2 permitted.1 rfl
  | gotoPopped here | handedPopped here | lostPopped here | failedPopped here
  | gotoPending here | handedPending here | lostPending here
  | failedPending here =>
      rw [here] at outside
      cases outside
  | destroy => exact (alive rfl).elim
  | _ => exact serial.of_quiet_proc rfl rfl rfl id

theorem Serial.procStep {choice : SendChoice} (serial : Serial before)
    (alive : pvt.ws ≠ .closed) (aliveBefore : before.pvt.ws ≠ .closed)
    (permitted : serialized before (.procStep choice) = true)
    (agent : processingThreadStep before.clock choice before.pvt
      before.history before.proc = some (pvt, proc, history)) :
    Serial { before with pvt := pvt, proc := proc, history := history } := by
  cases inside : before.proc.pc.sender? with
  | none =>
      exact serial.procStep_outside inside alive aliveBefore permitted agent
  | some pc =>
      apply serial.procStep_inside inside _ agent
      rintro rfl free
      have linkOpen : (before.pvt.ws == .closed) = false := by
        simpa using aliveBefore
      simp only [serialized, linkOpen, Bool.false_or] at permitted
      cases here : before.proc.pc <;> rw [here] at inside <;> cases inside
      case sendPopped => simpa [here, free] using permitted
      case sendPending => simpa [here, free] using permitted

end ProcessingThread

section DirectSender

variable {before : State} {index : Nat} {feed feed' : Feed} {pvt : Pvt}
  {history : History}

theorem Serial.feedStep {choice : SendChoice} (serial : Serial before)
    (aliveBefore : before.pvt.ws ≠ .closed)
    (permitted : serialized before (.feedStep index choice) = true)
    (found : before.feeds[index]? = some feed)
    (agent : speechFeedTtsStep before.clock choice before.pvt before.history
      feed = some (pvt, feed', history)) :
    Serial { before with
      pvt := pvt, feeds := before.feeds.set index feed',
      history := history } := by
  have linkOpen : (before.pvt.ws == .closed) = false := by
    simpa using aliveBefore
  simp only [serialized, linkOpen, found, Option.map_some,
    Bool.false_or] at permitted
  cases inside : feed.pc.sender? with
  | none =>
      obtain ⟨entered, _, inProgress, completed, _, rfl⟩ :=
        speechFeedTtsStep_elsewhere inside agent
      refine serial.of_quieter inProgress completed id ?_ id
      intro position pc located critical
      rw [senders_set_feed] at located
      rcases senders_set_cases located with ⟨_, here⟩ | ⟨_, other⟩
      · -- the position just before the window is not inside it
        rw [here] at entered
        rcases entered with nowhere | waiting
        · cases nowhere
        · cases waiting
          cases critical
      · exact other
  | some pc =>
      have sending := FeedPc.eq_sending inside
      obtain ⟨next, sent, moved, rfl⟩ :=
        speechFeedTtsStep_sender sending agent
      have position : before.senders[index + 1]? = some (some pc) := by
        simp [State.senders, found, inside]
      refine serial.of_sender ⟨position, sent, ?_⟩ rfl
        History.noteSendNext_outstanding ?_
      · rw [senders_set_feed, moved]
      · rintro rfl free
        simpa [sending, free] using permitted

end DirectSender

section EventLoop

variable {before : State} {pvt : Pvt} {net : NetPc} {history : History}

/-- Moving the event loop to a position where it is not about to clear. -/
theorem Serial.of_quiet_net (serial : Serial before)
    (quiet : net.clearing = false)
    (inProgress : pvt.ttsInProgress = before.pvt.ttsInProgress)
    (completed : pvt.synthesisCompleted = before.pvt.synthesisCompleted)
    (outstanding : history.outstanding = true →
      before.history.outstanding = true) :
    Serial { before with pvt := pvt, net := net, history := history } := by
  apply serial.of_quieter inProgress completed outstanding
  · exact fun _ _ found _ => found
  · intro clearing
    simp only [State.clearing, quiet, Bool.or_false] at clearing
    simp only [State.clearing, Bool.or_eq_true] at clearing ⊢
    rcases clearing with proc | delayed
    · exact .inl (.inl proc)
    · exact .inr delayed

theorem Serial.netStart {event : NetEvent} (serial : Serial before)
    (permitted : serialized before (.netStart event) = true)
    (agent : callbackStart before.pvt before.history event =
      some (pvt, net, history)) :
    Serial { before with pvt := pvt, net := net, history := history } := by
  cases event <;> simp only [callbackStart] at agent
  case opened =>
    split at agent
    · cases agent
      exact serial.of_quiet_net rfl rfl rfl id
    · cases agent
  case closed =>
    split at agent
    · cases agent
    · cases agent
      exact serial.of_quiet_net rfl rfl rfl (by simp)
  case binary =>
    split at agent
    · cases agent
      exact serial.of_quiet_net rfl rfl rfl id
    · cases agent
  case text document request =>
    split at agent
    next =>
      cases read : readHeader document with
      | none =>
          simp only [read] at agent
          cases agent
          exact serial.of_quiet_net rfl rfl rfl id
      | some header =>
          simp only [read] at agent
          simp only [serialized, read] at permitted
          cases agent
          cases ends : header.isError || header.isCompleted with
          | false =>
              simp only [Bool.or_eq_false_iff] at ends
              apply serial.of_quiet_net _ rfl rfl
              · simp only [History.noteText, Bool.and_eq_true]
                exact fun kept => kept.1.1
              · simp [textPc, ends, NetPc.clearing]
          | true =>
              -- an error or a completion ends the request it arrives for
              simp only [ends, Bool.not_true, Bool.false_or,
                Bool.and_eq_true, Bool.not_eq_true'] at permitted
              refine Serial.of_idle ?_ permitted.1
              have answers := permitted.2
              cases error : header.isError with
              | true => simp [History.noteText, error]
              | false =>
                  cases open' : before.history.outstanding with
                  | false => simp [History.noteText, open']
                  | true =>
                      simp_all [History.noteText]
    next => cases agent

/-- Positions of the close callback. -/
def NetPc.closes : NetPc → Bool
  | .closeLoadInProgress => true
  | .closeLoadCompleted => true
  | .closeStoreCompleted => true
  | .closeStoreInProgress => true
  | .closeLoadFinished => true
  | .closeStoreFinished => true
  | .closeStoreClosed => true
  | _ => false

/-- Outside its clearing and closing positions the event loop writes neither of
the two request flags and starts no completion thread. -/
theorem callbackStep_quiet {clock : Nat} {pvt after : Pvt}
    {history history' : History} {net net' : NetPc} {started : Option Delayed}
    (stepped : callbackStep clock pvt history net =
      some (after, net', history', started))
    (notClearing : net.clearing = false) (notClosing : net.closes = false) :
    net'.clearing = false ∧ started = none ∧
      after.ttsInProgress = pvt.ttsInProgress ∧
      after.synthesisCompleted = pvt.synthesisCompleted ∧
      history'.outstanding = history.outstanding := by
  cases net <;> simp only [callbackStep] at stepped
  all_goals try cases notClearing
  all_goals try cases notClosing
  all_goals try split at stepped
  all_goals cases stepped
  all_goals exact ⟨rfl, rfl, rfl, rfl, rfl⟩

theorem Serial.netStep {started : Option Delayed} (serial : Serial before)
    (notClosing : before.net.closes = false)
    (agent : callbackStep before.clock before.pvt before.history before.net =
      some (pvt, net, history, started)) :
    Serial { before with
      pvt := pvt, net := net, history := history,
      delayed := before.delayed ++ started.toList } := by
  cases clears : before.net.clearing with
  | true =>
      have clearing : before.clearing = true := by
        simp [State.clearing, clears]
      obtain ⟨settled, idle⟩ := serial.idle_of_clearing clearing
      obtain ⟨_, _, _, _, rfl⟩ := callbackStep_writes agent
      exact Serial.of_idle settled idle
  | false =>
      obtain ⟨quiet, rfl, inProgress, completed, outstanding⟩ :=
        callbackStep_quiet agent clears notClosing
      simp only [Option.toList_none, List.append_nil]
      apply serial.of_quiet_net quiet inProgress completed
      rw [outstanding]
      exact id

theorem Serial.delayedStep {index : Nat} {delayed delayed' : Delayed}
    (serial : Serial before) (found : before.delayed[index]? = some delayed)
    (agent : delayedCompletionStep before.clock before.pvt delayed =
      some (pvt, delayed')) :
    Serial { before with
      pvt := pvt, delayed := before.delayed.set index delayed' } := by
  have pending : delayed.pending = true := by
    cases here : delayed.pc <;> simp [Delayed.pending, here]
    simp [delayedCompletionStep, here] at agent
  have clearing : before.clearing = true := by
    simp only [State.clearing, Bool.or_eq_true, List.any_eq_true]
    exact .inr ⟨delayed, List.mem_of_getElem? found, pending⟩
  obtain ⟨settled, idle⟩ := serial.idle_of_clearing clearing
  exact Serial.of_idle settled idle

end EventLoop

/-- The close callback starts on a connection that has just been closed. -/
theorem callbackStart_closes {pvt after : Pvt} {history history' : History}
    {event : NetEvent} {net : NetPc}
    (agent : callbackStart pvt history event = some (after, net, history'))
    (closing : net.closes = true) : after.ws = .closed := by
  cases event <;> simp only [callbackStart] at agent
  case text document request =>
    split at agent
    · split at agent
      · cases agent
        cases closing
      · cases agent
        simp only [textPc] at closing
        split at closing
        · cases closing
        · split at closing <;> cases closing
    · cases agent
  case closed =>
    split at agent
    · cases agent
    · cases agent
      rfl
  all_goals split at agent
  all_goals cases agent
  all_goals cases closing

theorem callbackStep_closes {clock : Nat} {pvt after : Pvt}
    {history history' : History} {net net' : NetPc} {started : Option Delayed}
    (agent : callbackStep clock pvt history net =
      some (after, net', history', started))
    (closing : net'.closes = true) : net.closes = true := by
  cases net <;> simp only [callbackStep] at agent
  all_goals first
    | rfl
    | (try split at agent
       all_goals cases agent
       all_goals cases closing)

/-- The close callback runs on a closed connection. -/
theorem step_closes {before after : State} {action : Action}
    (stepped : before.step action = some after)
    (closesBefore : before.net.closes = true → before.pvt.ws = .closed)
    (closing : after.net.closes = true) : after.pvt.ws = .closed := by
  cases step_moves stepped with
  | netStart _ _ agent => exact callbackStart_closes agent closing
  | netStep agent =>
      exact step_keeps_closed stepped
        (closesBefore (callbackStep_closes agent closing))
  | _ => exact step_keeps_closed stepped (closesBefore closing)

/-- The invariant of serialized runs over the whole life of a handle. -/
structure SerialRun (state : State) : Prop where
  closes : state.net.closes = true → state.pvt.ws = .closed
  serial : state.pvt.ws ≠ .closed → Serial state

theorem SerialRun.initial (now : Nat) : SerialRun (State.initial now) where
  closes closing := by simp [State.initial, NetPc.closes] at closing
  serial _ := Serial.of_idle rfl rfl

theorem SerialRun.step {before after : State} {action : Action}
    (run : SerialRun before) (permitted : serialized before action = true)
    (stepped : before.step action = some after) : SerialRun after := by
  refine ⟨step_closes stepped run.closes, ?_⟩
  intro alive
  have aliveBefore : before.pvt.ws ≠ .closed :=
    fun closed => alive (step_keeps_closed stepped closed)
  have serial := run.serial aliveBefore
  cases step_moves stepped with
  | openStep agent =>
      obtain ⟨ws, calls, _, rfl, same | started⟩ :=
        speechOpenStep_writes agent
      · subst same
        exact serial.of_quieter rfl rfl id (fun _ _ found _ => found) id
      · subst started
        have moved : Serial { before with
            pvt := { before.pvt with ws := ws, destroyCalls := calls }
            proc := { before.proc with pc := .loopHead } } :=
          serial.of_quiet_proc rfl rfl rfl id
        exact moved.of_quieter rfl rfl id (fun _ _ found _ => found) id
  | procStep agent => exact serial.procStep alive aliveBefore permitted agent
  | feedStart _ =>
      refine serial.of_quieter rfl rfl id ?_ id
      intro index pc found critical
      exact senders_feedStart_getElem? found
  | feedStep located agent =>
      exact serial.feedStep aliveBefore permitted located agent
  | netStart _ _ agent => exact serial.netStart permitted agent
  | netStep agent =>
      apply serial.netStep _ agent
      by_contra closing
      exact aliveBefore (run.closes (by simpa using closing))
  | delayedStep located agent => exact serial.delayedStep located agent
  | readStep agent =>
      obtain ⟨⟨_, _, _, _, _, rfl⟩, _, _, _, rfl⟩ :=
        speechReadTtsStep_writes agent
      exact serial.of_quieter rfl rfl id (fun _ _ found _ => found) id
  | closeStep agent =>
      obtain ⟨⟨_, _, _, _, rfl⟩, _, rfl⟩ := speechCloseStep_writes agent
      exact serial.of_quieter rfl rfl id (fun _ _ found _ => found) id
  | _ => exact serial.of_quieter rfl rfl id (fun _ _ found _ => found) id

/-- Only a sender that stands at its `send` call adds a StartSynthesis. -/
theorem step_sent {before after : State} {action : Action}
    (stepped : before.step action = some after)
    (idle : before.sending = false) :
    after.history.sent = before.history.sent := by
  have notAtSend {index : Nat}
      (found : before.senders[index]? = some (some .send)) : False := by
    cases not_critical_of_not_sending idle found
  by_cases others : action.handlesTexts = false
  · exact (step_keeps_texts stepped others).2.2.2.2
  cases step_moves stepped with
  | procStep agent =>
      rcases processingThreadStep_sent agent with same | ⟨here, _⟩
      · exact same
      · have position : before.senders[0]? = some (some .send) := by
          simp [State.senders, here]
        exact (notAtSend position).elim
  | @feedStep index _ _ _ _ _ located agent =>
      rcases speechFeedTtsStep_sent agent with same | ⟨here, _⟩
      · exact same
      · have position : before.senders[index + 1]? = some (some .send) := by
          simp [State.senders, located, here]
        exact (notAtSend position).elim
  | openStep => rfl
  | feedStart => rfl
  | resume => rfl
  | _ => exact (others rfl).elim

/-- In every serialized run a StartSynthesis keeps all others back until it has
been answered, has failed, has timed out without data or has lost its
connection. -/
theorem singleRequest_of_serialized (now : Nat) {state : State}
    (reached : PermittedReach State.step
      (fun state action => serialized state action = true)
      (State.initial now) state) :
    SingleRequest state := by
  have run : SerialRun state :=
    reached.invariant (SerialRun.initial now)
      fun _ _ _ run permitted stepped => run.step permitted stepped
  intro alive outstanding
  obtain ⟨flag, _, idle, _⟩ := (run.serial alive).request outstanding
  exact ⟨flag, fun action after stepped => step_sent stepped idle⟩

/-- The same agents as in `racingSchedule`, with the direct send running to its
end before the processing loop looks at the flags. -/
def serializedSchedule : List Action :=
  openingSchedule ++ directSendSchedule 0 [65] ++
    [Action.procStep .handed, Action.procStep .handed]

theorem singleRequest_serializedSchedule :
    ∃ state, PermittedReach State.step
        (fun state action => serialized state action = true)
        (State.initial 1000) state ∧
      (state.pvt.ws == .opened && state.history.outstanding) = true ∧
      SingleRequest state := by
  obtain ⟨state, reached, passed⟩ :=
    exists_permittedReach_of_replay State.step (.initial 1000)
      serializedSchedule
      (fun state => state.pvt.ws == .opened && state.history.outstanding)
      (fun state action => serialized state action = true)
      (by decide)
  exact ⟨state, reached, passed, singleRequest_of_serialized 1000 reached⟩

end AliyunTts

end SpeechModules
