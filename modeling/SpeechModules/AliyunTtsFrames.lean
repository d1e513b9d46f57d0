import SpeechModules.AliyunTtsStep

/-!
# What the agents of a speech handle leave alone

Each agent writes a few of the shared fields only.  The lemmas of this file say
which ones, by writing the result of a step as an update of the old value; every
invariant proof then only has to look at the agents that touch its fields.  The
steps of `send_tts_request` and of the processing thread are listed once, for the
proofs that follow these agents through their positions.
-/

namespace SpeechModules

namespace AliyunTts

open StepSystem

/-- A connection goes through its four states in this order. -/
def Link.rank : Link → Nat
  | .connecting => 0
  | .opened => 1
  | .closing => 2
  | .closed => 3

/-- No message can come any more. -/
def Link.ending : Link → Bool
  | .closing => true
  | .closed => true
  | _ => false

theorem Link.eq_closed_of_le {link : Link}
    (above : Link.closed.rank ≤ link.rank) : link = .closed := by
  cases link <;> simp [Link.rank] at above
  rfl

theorem Link.ending_of_le {before after : Link}
    (above : before.rank ≤ after.rank) (ending : before.ending = true) :
    after.ending = true := by
  cases before <;> cases after <;> simp_all [Link.rank, Link.ending]

theorem Link.rank_le_closed (link : Link) : link.rank ≤ Link.closed.rank := by
  cases link <;> simp [Link.rank]

/-- The steps of `send_tts_request`. -/
inductive SendMove (clock : Nat) (choice : SendChoice) (pvt : Pvt) :
    SendPc → Pvt → SendNext → Prop
  | connected (up : pvt.wsConnected = true) :
      SendMove clock choice pvt .loadConnected pvt (.goto .loadInProgress)
  | unconnected (down : pvt.wsConnected = false) :
      SendMove clock choice pvt .loadConnected pvt .failed
  | free (idle : pvt.ttsInProgress = false) :
      SendMove clock choice pvt .loadInProgress pvt (.goto .storeCompleted)
  | busy (inProgress : pvt.ttsInProgress = true) :
      SendMove clock choice pvt .loadInProgress pvt .failed
  | storeCompleted :
      SendMove clock choice pvt .storeCompleted
        { pvt with synthesisCompleted := false } (.goto .storeAvailable)
  | storeAvailable :
      SendMove clock choice pvt .storeAvailable
        { pvt with audioDataAvailable := false } (.goto .storeInProgress)
  | storeInProgress :
      SendMove clock choice pvt .storeInProgress
        { pvt with ttsInProgress := true } (.goto .storeRequestTime)
  | storeRequestTime :
      SendMove clock choice pvt .storeRequestTime
        { pvt with lastRequestTimeMs := clock } (.goto .prepare)
  | prepared (filled : choice ≠ .emptyRequest) :
      SendMove clock choice pvt .prepare pvt (.goto .send)
  | unprepared (empty : choice = .emptyRequest) :
      SendMove clock choice pvt .prepare pvt (.goto .clearInProgress)
  | handed (accepted : choice = .handed) (up : pvt.ws.carries = true) :
      SendMove clock choice pvt .send pvt .handed
  | lost (refused : choice = .negative) :
      SendMove clock choice pvt .send pvt .lost
  | thrown (refused : choice = .thrown) :
      SendMove clock choice pvt .send pvt (.goto .clearInProgress)
  | clearInProgress :
      SendMove clock choice pvt .clearInProgress
        { pvt with ttsInProgress := false } .failed

/-- The processing thread carries no text and is not giving a request up. -/
def ProcPc.plain : ProcPc → Bool
  | .poppedCheckClosed _ => false
  | .sendPopped _ _ => false
  | .sendPending _ _ => false
  | .timeoutCompleted _ => false
  | .timeoutInProgress _ => false
  | _ => true

/-- The steps of the processing thread that only lead somewhere else. -/
inductive ProcGoto (clock : Nat) (pvt : Pvt) (pendingRequest : Bool) :
    ProcPc → ProcPc → Prop
  | loopHead :
      ProcGoto clock pvt pendingRequest .loopHead
        (if pvt.ttsClosed then .afterLoop else .loadCompleted)
  | loadCompleted :
      ProcGoto clock pvt pendingRequest .loadCompleted
        (if pvt.synthesisCompleted then .storeInProgress
          else .sleeping (clock + 50))
  | recheckClosed :
      ProcGoto clock pvt pendingRequest .recheckClosed
        (if pvt.ttsClosed then .afterLoop else .pick)
  | exitLoadClosed :
      ProcGoto clock pvt pendingRequest .exitLoadClosed
        (if pvt.ttsClosed then .exitLoadInProgress else .loopHead)
  | exitLoadInProgress :
      ProcGoto clock pvt pendingRequest .exitLoadInProgress
        (if pvt.ttsInProgress then .exitPoll 0 else .loopHead)
  | exitPoll {round : Nat} :
      ProcGoto clock pvt pendingRequest (.exitPoll round)
        (if round < 10 ∧ ¬ pvt.audioDataAvailable then
            .exitSleep round (clock + 100)
          else .afterLoop)
  | exitSleep {round wakeAt : Nat} (woken : wakeAt ≤ clock) :
      ProcGoto clock pvt pendingRequest (.exitSleep round wakeAt)
        (.exitPollAgain round)
  | exitPollAgain {round : Nat} :
      ProcGoto clock pvt pendingRequest (.exitPollAgain round)
        (if pvt.audioDataAvailable then .afterLoop else .exitPoll (round + 1))
  | sleeping {wakeAt : Nat} (woken : wakeAt ≤ clock) :
      ProcGoto clock pvt pendingRequest (.sleeping wakeAt) .loadInProgress
  | loadInProgress :
      ProcGoto clock pvt pendingRequest .loadInProgress
        (if pvt.ttsInProgress then .loadAvailable else .loopHead)
  | loadAvailable :
      ProcGoto clock pvt pendingRequest .loadAvailable
        (if ¬ pvt.audioDataAvailable ∧ pendingRequest then .readClock
          else .loopHead)
  | readClock :
      ProcGoto clock pvt pendingRequest .readClock (.loadRequestTime clock)
  | inTime {now : Nat}
      (recent : ¬ (0 < pvt.lastRequestTimeMs ∧ pvt.lastRequestTimeMs < now ∧
        3000 < now - pvt.lastRequestTimeMs)) :
      ProcGoto clock pvt pendingRequest (.loadRequestTime now) .loopHead
  | afterLoop :
      ProcGoto clock pvt pendingRequest .afterLoop (.waitClosed (clock + 3500))
  | waitClosed {deadline : Nat} (waited : pvt.wsClosed ∨ deadline ≤ clock) :
      ProcGoto clock pvt pendingRequest (.waitClosed deadline) .destroying

/-- The steps of the processing thread. -/
inductive ProcMove (clock : Nat) (choice : SendChoice) (pvt : Pvt)
    (history : History) (proc : Proc) : Pvt → Proc → History → Prop
  | goto {pc : ProcPc}
      (goes : ProcGoto clock pvt proc.pendingRequest proc.pc pc) :
      ProcMove clock choice pvt history proc pvt { proc with pc := pc } history
  | storeInProgress (here : proc.pc = .storeInProgress) :
      ProcMove clock choice pvt history proc { pvt with ttsInProgress := false }
        { proc with pc := .recheckClosed, pendingRequest := false } history
  | resend {text : Text} (here : proc.pc = .pick)
      (pending : proc.pendingText = some text) :
      ProcMove clock choice pvt history proc pvt
        { proc with pc := .sendPending text .loadConnected } history
  | pop {text : Text} {rest : List Text} (here : proc.pc = .pick)
      (nothing : proc.pendingText = none)
      (queued : pvt.ttsTextQueue = text :: rest) :
      ProcMove clock choice pvt history proc { pvt with ttsTextQueue := rest }
        { proc with pc := .poppedCheckClosed text } history
  | idle (here : proc.pc = .pick) (nothing : proc.pendingText = none)
      (empty : pvt.ttsTextQueue = []) :
      ProcMove clock choice pvt history proc pvt
        { proc with pc := .exitLoadClosed } history
  | drop {text : Text} (here : proc.pc = .poppedCheckClosed text)
      (closed : pvt.ttsClosed = true) :
      ProcMove clock choice pvt history proc pvt
        { proc with pc := .exitLoadClosed } history
  | enter {text : Text} (here : proc.pc = .poppedCheckClosed text)
      (opened : pvt.ttsClosed = false) :
      ProcMove clock choice pvt history proc pvt
        { proc with pc := .sendPopped text .loadConnected } history
  | gotoPopped {text : Text} {pc next : SendPc} {after : Pvt}
      (here : proc.pc = .sendPopped text pc)
      (sent : sendTtsRequestStep clock choice pvt pc =
        some (after, .goto next)) :
      ProcMove clock choice pvt history proc after
        { proc with pc := .sendPopped text next } history
  | handedPopped {text : Text} {pc : SendPc} {after : Pvt}
      (here : proc.pc = .sendPopped text pc)
      (sent : sendTtsRequestStep clock choice pvt pc = some (after, .handed)) :
      ProcMove clock choice pvt history proc after
        { proc with pc := .exitLoadClosed, pendingRequest := true }
        (history.noteSent text)
  | lostPopped {text : Text} {pc : SendPc} {after : Pvt}
      (here : proc.pc = .sendPopped text pc)
      (sent : sendTtsRequestStep clock choice pvt pc = some (after, .lost)) :
      ProcMove clock choice pvt history proc after
        { proc with pc := .exitLoadClosed, pendingRequest := true } history
  | failedPopped {text : Text} {pc : SendPc} {after : Pvt}
      (here : proc.pc = .sendPopped text pc)
      (sent : sendTtsRequestStep clock choice pvt pc = some (after, .failed)) :
      ProcMove clock choice pvt history proc after
        { proc with pc := .exitLoadClosed, pendingText := some text } history
  | gotoPending {text : Text} {pc next : SendPc} {after : Pvt}
      (here : proc.pc = .sendPending text pc)
      (sent : sendTtsRequestStep clock choice pvt pc =
        some (after, .goto next)) :
      ProcMove clock choice pvt history proc after
        { proc with pc := .sendPending text next } history
  | handedPending {text : Text} {pc : SendPc} {after : Pvt}
      (here : proc.pc = .sendPending text pc)
      (sent : sendTtsRequestStep clock choice pvt pc = some (after, .handed)) :
      ProcMove clock choice pvt history proc after
        ⟨.exitLoadClosed, true, none⟩ (history.noteSent text)
  | lostPending {text : Text} {pc : SendPc} {after : Pvt}
      (here : proc.pc = .sendPending text pc)
      (sent : sendTtsRequestStep clock choice pvt pc = some (after, .lost)) :
      ProcMove clock choice pvt history proc after
        ⟨.exitLoadClosed, true, none⟩ history
  | failedPending {text : Text} {pc : SendPc} {after : Pvt}
      (here : proc.pc = .sendPending text pc)
      (sent : sendTtsRequestStep clock choice pvt pc = some (after, .failed)) :
      ProcMove clock choice pvt history proc after
        { proc with pc := .exitLoadClosed } history
  | late {now : Nat} (here : proc.pc = .loadRequestTime now)
      (overdue : 0 < pvt.lastRequestTimeMs ∧ pvt.lastRequestTimeMs < now ∧
        3000 < now - pvt.lastRequestTimeMs) :
      ProcMove clock choice pvt history proc pvt
        { proc with pc := .timeoutCompleted history.sent.length }
        { history with
          outstanding := history.outstanding && history.packetSinceSend }
  | timeoutCompleted {request : Nat}
      (here : proc.pc = .timeoutCompleted request) :
      ProcMove clock choice pvt history proc
        { pvt with synthesisCompleted := true }
        { proc with pc := .timeoutInProgress request } history
  | timeoutInProgress {request : Nat}
      (here : proc.pc = .timeoutInProgress request) :
      ProcMove clock choice pvt history proc { pvt with ttsInProgress := false }
        { proc with pc := .loopHead, pendingRequest := false } history
  | destroy (here : proc.pc = .destroying) :
      ProcMove clock choice pvt history proc
        { pvt with ws := .closed, destroyCalls := pvt.destroyCalls + 1 }
        { proc with pc := .ended } history

section Agents

variable {clock : Nat} {pvt after : Pvt} {history history' : History}

theorem sendTtsRequestStep_moves {choice : SendChoice} {pc : SendPc}
    {next : SendNext}
    (stepped : sendTtsRequestStep clock choice pvt pc = some (after, next)) :
    SendMove clock choice pvt pc after next := by
  cases pc <;> simp only [sendTtsRequestStep] at stepped
  case loadConnected =>
    cases stepped
    cases up : pvt.wsConnected with
    | true => exact .connected up
    | false => exact .unconnected up
  case loadInProgress =>
    cases stepped
    cases flag : pvt.ttsInProgress with
    | true => exact .busy flag
    | false => exact .free flag
  case prepare =>
    cases stepped
    split
    next empty => exact .unprepared empty
    next filled => exact .prepared filled
  case send =>
    cases choice <;> simp only at stepped
    case handed =>
      split at stepped
      next up =>
        cases stepped
        exact .handed rfl up
      next => cases stepped
    case negative =>
      cases stepped
      exact .lost rfl
    case thrown =>
      cases stepped
      exact .thrown rfl
    case emptyRequest => cases stepped
  all_goals
    cases stepped
    constructor

theorem ProcGoto.plain {pendingRequest : Bool} {pc next : ProcPc}
    (goes : ProcGoto clock pvt pendingRequest pc next) :
    pc.plain = true ∧ next.plain = true := by
  cases goes
  all_goals first
    | exact ⟨rfl, rfl⟩
    | (refine ⟨rfl, ?_⟩; split <;> rfl)

theorem processingThreadStep_moves {choice : SendChoice} {proc proc' : Proc}
    (stepped : processingThreadStep clock choice pvt history proc =
      some (after, proc', history')) :
    ProcMove clock choice pvt history proc after proc' history' := by
  have goto {pc : ProcPc}
      (goes : ProcGoto clock pvt proc.pendingRequest proc.pc pc)
      (same : some (pvt, { proc with pc := pc }, history) =
        some (after, proc', history')) :
      ProcMove clock choice pvt history proc after proc' history' := by
    cases same
    exact .goto goes
  cases here : proc.pc <;> simp only [processingThreadStep, here] at stepped <;>
    rw [here] at goto
  case pick =>
    split at stepped
    next pending =>
      cases stepped
      exact .resend here pending
    next nothing queued =>
      cases stepped
      exact .pop here nothing queued
    next nothing empty =>
      cases stepped
      exact .idle here nothing empty
  case poppedCheckClosed =>
    cases stepped
    cases closed : pvt.ttsClosed with
    | true => exact .drop here closed
    | false => exact .enter here closed
  case sendPopped =>
    split at stepped
    next => cases stepped
    next sent =>
      cases stepped
      exact .gotoPopped here sent
    next sent =>
      cases stepped
      exact .handedPopped here sent
    next sent =>
      cases stepped
      exact .lostPopped here sent
    next sent =>
      cases stepped
      exact .failedPopped here sent
  case sendPending =>
    split at stepped
    next => cases stepped
    next sent =>
      cases stepped
      exact .gotoPending here sent
    next sent =>
      cases stepped
      exact .handedPending here sent
    next sent =>
      cases stepped
      exact .lostPending here sent
    next sent =>
      cases stepped
      exact .failedPending here sent
  case exitSleep | sleeping | waitClosed =>
    split at stepped
    next ready => exact goto (by constructor; exact ready) stepped
    next => cases stepped
  case loadRequestTime =>
    split at stepped
    next overdue =>
      cases stepped
      exact .late here overdue
    next recent => exact goto (.inTime recent) stepped
  case storeInProgress =>
    cases stepped
    exact .storeInProgress here
  case timeoutCompleted =>
    cases stepped
    exact .timeoutCompleted here
  case timeoutInProgress =>
    cases stepped
    exact .timeoutInProgress here
  case destroying =>
    cases stepped
    exact .destroy here
  case notStarted | ended => cases stepped
  all_goals exact goto (by constructor) stepped

/-- A step of `send_tts_request` writes the four fields of its reset. -/
theorem sendTtsRequestStep_writes {choice : SendChoice} {pc : SendPc}
    {next : SendNext}
    (stepped : sendTtsRequestStep clock choice pvt pc = some (after, next)) :
    ∃ completed available inProgress requestTime,
      after = { pvt with
        synthesisCompleted := completed
        audioDataAvailable := available
        ttsInProgress := inProgress
        lastRequestTimeMs := requestTime } := by
  cases sendTtsRequestStep_moves stepped
  all_goals exact ⟨_, _, _, _, rfl⟩

/-- A message leaves from the `send` position only, over a live connection, and
the shared fields stay as they were. -/
theorem sendTtsRequestStep_handed {choice : SendChoice} {pc : SendPc}
    (stepped : sendTtsRequestStep clock choice pvt pc =
      some (after, .handed)) :
    pc = .send ∧ choice = .handed ∧ after = pvt ∧ pvt.ws.carries = true := by
  cases sendTtsRequestStep_moves stepped with
  | handed accepted up => exact ⟨rfl, accepted, rfl, up⟩

/-- A message gets lost at the `send` position only. -/
theorem sendTtsRequestStep_lost {choice : SendChoice} {pc : SendPc}
    (stepped : sendTtsRequestStep clock choice pvt pc = some (after, .lost)) :
    pc = .send ∧ choice = .negative ∧ after = pvt := by
  cases sendTtsRequestStep_moves stepped with
  | lost refused => exact ⟨rfl, refused, rfl⟩

/-- `aliyuntts_speech_feed_tts` adds the text queue to these. -/
theorem speechFeedTtsStep_writes {choice : SendChoice} {feed feed' : Feed}
    (stepped : speechFeedTtsStep clock choice pvt history feed =
      some (after, feed', history')) :
    ∃ completed available inProgress requestTime queue,
      after = { pvt with
        synthesisCompleted := completed
        audioDataAvailable := available
        ttsInProgress := inProgress
        lastRequestTimeMs := requestTime
        ttsTextQueue := queue } := by
  cases here : feed.pc <;> simp only [speechFeedTtsStep, here] at stepped
  case sending pc =>
    split at stepped
    next => cases stepped
    all_goals
      next sent =>
        obtain ⟨_, _, _, _, rfl⟩ := sendTtsRequestStep_writes sent
        cases stepped
        exact ⟨_, _, _, _, _, rfl⟩
  all_goals try split at stepped
  all_goals first
    | (cases stepped; done)
    | (cases stepped; exact ⟨_, _, _, _, _, rfl⟩)

/-- The processing thread also destroys the handle, which closes the
connection. -/
theorem processingThreadStep_writes {choice : SendChoice} {proc proc' : Proc}
    (stepped : processingThreadStep clock choice pvt history proc =
      some (after, proc', history')) :
    ∃ completed available inProgress requestTime queue ws destroyCalls,
      (ws = pvt.ws ∨ ws = .closed) ∧
      after = { pvt with
        synthesisCompleted := completed
        audioDataAvailable := available
        ttsInProgress := inProgress
        lastRequestTimeMs := requestTime
        ttsTextQueue := queue
        ws := ws
        destroyCalls := destroyCalls } := by
  have sender {pc : SendPc} {next : SendNext} {middle : Pvt}
      (sent : sendTtsRequestStep clock choice pvt pc = some (middle, next)) :
      ∃ completed available inProgress requestTime queue ws destroyCalls,
        (ws = pvt.ws ∨ ws = .closed) ∧
        middle = { pvt with
          synthesisCompleted := completed
          audioDataAvailable := available
          ttsInProgress := inProgress
          lastRequestTimeMs := requestTime
          ttsTextQueue := queue
          ws := ws
          destroyCalls := destroyCalls } := by
    obtain ⟨_, _, _, _, rfl⟩ := sendTtsRequestStep_writes sent
    exact ⟨_, _, _, _, _, _, _, .inl rfl, rfl⟩
  cases processingThreadStep_moves stepped with
  | gotoPopped _ sent | handedPopped _ sent | lostPopped _ sent
  | failedPopped _ sent | gotoPending _ sent | handedPending _ sent
  | lostPending _ sent | failedPending _ sent => exact sender sent
  | destroy => exact ⟨_, _, _, _, _, _, _, .inr rfl, rfl⟩
  | _ => exact ⟨_, _, _, _, _, _, _, .inl rfl, rfl⟩

/-- A callback starts by moving the connection, and only forward. -/
theorem callbackStart_writes {event : NetEvent} {net : NetPc}
    (stepped : callbackStart pvt history event = some (after, net, history')) :
    (∃ ws wsConnected, pvt.ws.rank ≤ ws.rank ∧
      after = { pvt with ws := ws, wsConnected := wsConnected }) ∧
    ∃ outstanding packetSinceSend arrivals,
      (outstanding = true → history.outstanding = true) ∧
      history' = { history with
        outstanding := outstanding
        packetSinceSend := packetSinceSend
        arrivals := arrivals } := by
  cases event <;> simp only [callbackStart] at stepped
  case opened =>
    split at stepped
    next connecting =>
      cases stepped
      refine ⟨⟨_, _, ?_, rfl⟩, _, _, _, id, rfl⟩
      simp [connecting, Link.rank]
    next => cases stepped
  case closed =>
    split at stepped
    · cases stepped
    · cases stepped
      exact ⟨⟨_, _, pvt.ws.rank_le_closed, rfl⟩, _, _, _, by simp, rfl⟩
  case text =>
    split at stepped
    · split at stepped
      · cases stepped
        exact ⟨⟨_, _, Nat.le_refl _, rfl⟩, _, _, _, id, rfl⟩
      · cases stepped
        refine ⟨⟨_, _, Nat.le_refl _, rfl⟩, _, _, _, ?_, rfl⟩
        simp only [Bool.and_eq_true]
        exact fun kept => kept.1.1
    · cases stepped
  case binary =>
    split at stepped
    · cases stepped
      exact ⟨⟨_, _, Nat.le_refl _, rfl⟩, _, _, _, id, rfl⟩
    · cases stepped

/-- A running callback leaves the connection and the text queue alone. -/
theorem callbackStep_writes {net net' : NetPc} {started : Option Delayed}
    (stepped : callbackStep clock pvt history net =
      some (after, net', history', started)) :
    (∃ connFinished completed inProgress wsClosed buffer available
        readAudioData stopped,
      (pvt.wsClosed = true → wsClosed = true) ∧
      after = { pvt with
        connFinished := connFinished
        synthesisCompleted := completed
        ttsInProgress := inProgress
        wsClosed := wsClosed
        audioBuffer := buffer
        audioDataAvailable := available
        readAudioData := readAudioData
        playBackStopped := stopped }) ∧
    ∃ withheld underrun events,
      history' = { history with
        withheld := withheld
        underrun := underrun
        events := events } := by
  cases net <;> simp only [callbackStep] at stepped
  all_goals try split at stepped
  all_goals first
    | (cases stepped; done)
    | (cases stepped
       exact ⟨⟨_, _, _, _, _, _, _, _, id, rfl⟩, _, _, _, rfl⟩)
    | (cases stepped
       exact ⟨⟨_, _, _, _, _, _, _, _, fun _ => rfl, rfl⟩, _, _, _, rfl⟩)

/-- Opening a handle writes the connection only when it gives up. -/
theorem speechOpenStep_writes {choice : OpenChoice} {proc proc' : Proc}
    {opener opener' : OpenPc}
    (stepped : speechOpenStep clock choice pvt proc opener =
      some (after, proc', opener')) :
    ∃ ws destroyCalls, (ws = pvt.ws ∨ ws = .closed) ∧
      after = { pvt with ws := ws, destroyCalls := destroyCalls } ∧
      (proc' = proc ∨ proc' = { proc with pc := .loopHead }) := by
  cases opener <;> simp only [speechOpenStep] at stepped
  all_goals try split at stepped
  all_goals first
    | (cases stepped; done)
    | (cases stepped; exact ⟨_, _, .inl rfl, rfl, .inl rfl⟩)
    | (cases stepped; exact ⟨_, _, .inl rfl, rfl, .inr rfl⟩)
    | (cases stepped; exact ⟨_, _, .inr rfl, rfl, .inl rfl⟩)

/-- `aliyuntts_speech_read_tts` touches neither the request flags nor the text
queue nor the connection. -/
theorem speechReadTtsStep_writes {reader reader' : Reader}
    (stepped : speechReadTtsStep clock pvt history reader =
      some (after, reader', history')) :
    (∃ readAudioData stopped available mtx buffer,
      after = { pvt with
        readAudioData := readAudioData
        playBackStopped := stopped
        audioDataAvailable := available
        mtx := mtx
        audioBuffer := buffer }) ∧
    ∃ underrun returned events,
      history' = { history with
        underrun := underrun
        returned := returned
        events := events } := by
  have bufferRead_writes (reader : Reader) (otherwise : ReadPc) :
      bufferRead pvt history reader otherwise = (after, reader', history') →
      (∃ readAudioData stopped available mtx buffer,
        after = { pvt with
          readAudioData := readAudioData
          playBackStopped := stopped
          audioDataAvailable := available
          mtx := mtx
          audioBuffer := buffer }) ∧
      ∃ underrun returned events,
        history' = { history with
          underrun := underrun
          returned := returned
          events := events } := by
    intro read
    unfold bufferRead at read
    split at read
    all_goals cases read
    all_goals exact ⟨⟨_, _, _, _, _, rfl⟩, _, _, _, rfl⟩
  cases here : reader.pc <;> simp only [speechReadTtsStep, here] at stepped
  all_goals try split at stepped
  all_goals try split at stepped
  all_goals first
    | exact bufferRead_writes _ _ (Option.some.inj stepped)
    | (cases stepped; done)
    | (cases stepped; exact ⟨⟨_, _, _, _, _, rfl⟩, _, _, _, rfl⟩)

/-- A detached completion thread writes the two request flags. -/
theorem delayedCompletionStep_writes {delayed delayed' : Delayed}
    (stepped : delayedCompletionStep clock pvt delayed =
      some (after, delayed')) :
    ∃ completed inProgress mtx,
      after = { pvt with
        synthesisCompleted := completed
        ttsInProgress := inProgress
        mtx := mtx } := by
  cases here : delayed.pc <;>
    simp only [delayedCompletionStep, here] at stepped
  all_goals try split at stepped
  all_goals try split at stepped
  all_goals try split at stepped
  all_goals first
    | (cases stepped; done)
    | (cases stepped; exact ⟨_, _, _, rfl⟩)

/-- `aliyuntts_speech_close` marks the handle closed and shuts the websocket
down, which never brings a closed one back. -/
theorem speechCloseStep_writes {closer closer' : ClosePc}
    (stepped : speechCloseStep clock pvt history closer =
      some (after, closer', history')) :
    (∃ ws ttsClosed, (ws = pvt.ws ∨ (pvt.ws ≠ .closed ∧ ws = .closing)) ∧
      (pvt.ttsClosed = true → ttsClosed = true) ∧
      after = { pvt with ws := ws, ttsClosed := ttsClosed }) ∧
    ∃ events, history' = { history with events := events } := by
  cases closer <;> simp only [speechCloseStep] at stepped
  case shutdown =>
    split at stepped
    · cases stepped
      exact ⟨⟨_, _, .inl rfl, id, rfl⟩, _, rfl⟩
    · cases stepped
      refine ⟨⟨_, _, ?_, id, rfl⟩, _, rfl⟩
      split
      next closed => exact .inl closed.symm
      next alive => exact .inr ⟨alive, rfl⟩
  case storeClosed =>
    cases stepped
    exact ⟨⟨_, _, .inl rfl, fun _ => rfl, rfl⟩, _, rfl⟩
  all_goals try split at stepped
  all_goals first
    | (cases stepped; done)
    | (cases stepped; exact ⟨⟨_, _, .inl rfl, id, rfl⟩, _, rfl⟩)

end Agents

section Inversion

variable {state after : State}

/-- What each action can do to the handle, with the step of the agent it
moves. -/
inductive HandleMove (state : State) : Action → State → Prop
  | tick {ms : Nat} :
      HandleMove state (.tick ms) { state with clock := state.clock + ms }
  | openStep {choice : OpenChoice} {pvt : Pvt} {proc : Proc} {opener : OpenPc}
      (agent : speechOpenStep state.clock choice state.pvt state.proc
        state.opener = some (pvt, proc, opener)) :
      HandleMove state (.openStep choice)
        { state with pvt := pvt, proc := proc, opener := opener }
  | procStep {choice : SendChoice} {pvt : Pvt} {proc : Proc}
      {history : History}
      (agent : processingThreadStep state.clock choice state.pvt state.history
        state.proc = some (pvt, proc, history)) :
      HandleMove state (.procStep choice)
        { state with pvt := pvt, proc := proc, history := history }
  | feedStart {text : Text} (opened : state.opener = .opened) :
      HandleMove state (.feedStart text)
        { state with feeds := state.feeds ++ [⟨text, .loadClosed⟩] }
  | feedStep {index : Nat} {choice : SendChoice} {feed feed' : Feed}
      {pvt : Pvt} {history : History}
      (located : state.feeds[index]? = some feed)
      (agent : speechFeedTtsStep state.clock choice state.pvt state.history
        feed = some (pvt, feed', history)) :
      HandleMove state (.feedStep index choice)
        { state with
          pvt := pvt
          feeds := state.feeds.set index feed'
          history := history }
  | netStart {event : NetEvent} {pvt : Pvt} {net : NetPc} {history : History}
      (idle : state.net = .idle) (dialled : state.opener.dialled = true)
      (agent : callbackStart state.pvt state.history event =
        some (pvt, net, history)) :
      HandleMove state (.netStart event)
        { state with pvt := pvt, net := net, history := history }
  | netStep {pvt : Pvt} {net : NetPc} {history : History}
      {started : Option Delayed}
      (agent : callbackStep state.clock state.pvt state.history state.net =
        some (pvt, net, history, started)) :
      HandleMove state .netStep
        { state with
          pvt := pvt
          net := net
          history := history
          delayed := state.delayed ++ started.toList }
  | delayedStep {index : Nat} {delayed delayed' : Delayed} {pvt : Pvt}
      (located : state.delayed[index]? = some delayed)
      (agent : delayedCompletionStep state.clock state.pvt delayed =
        some (pvt, delayed')) :
      HandleMove state (.delayedStep index)
        { state with
          pvt := pvt
          delayed := state.delayed.set index delayed' }
  | readStart {want : Nat} {blocking : Bool}
      (idle : state.reader.pc = .idle) (opened : state.opener = .opened)
      (positive : 0 < want) :
      HandleMove state (.readStart want blocking)
        { state with reader := ⟨.firstRead, want, blocking, 0, 0, false⟩ }
  | readStep {pvt : Pvt} {reader : Reader} {history : History}
      (agent : speechReadTtsStep state.clock state.pvt state.history
        state.reader = some (pvt, reader, history)) :
      HandleMove state .readStep
        { state with pvt := pvt, reader := reader, history := history }
  | closeStart (idle : state.closer = .idle)
      (opened : state.opener = .opened) :
      HandleMove state .closeStart { state with closer := .loadInProgress }
  | closeStep {pvt : Pvt} {closer : ClosePc} {history : History}
      (agent : speechCloseStep state.clock state.pvt state.history
        state.closer = some (pvt, closer, history)) :
      HandleMove state .closeStep
        { state with pvt := pvt, closer := closer, history := history }
  | flush (idle : state.reader.pc = .idle)
      (opened : state.opener = .opened) :
      HandleMove state .flush
        { state with pvt := { state.pvt with audioBuffer := [] } }
  | resume {text : Text} (published : state.opener.published = true) :
      HandleMove state (.resume text)
        { state with
          pvt := { state.pvt with
            ttsTextQueue := state.pvt.ttsTextQueue ++ [text] }
          history := state.history.noteAccepted text }

theorem step_moves {action : Action}
    (stepped : state.step action = some after) :
    HandleMove state action after := by
  cases action with
  | tick ms =>
      cases stepped
      exact .tick
  | openStep choice =>
      obtain ⟨_, agent, rfl⟩ := Option.map_eq_some_iff.mp stepped
      exact .openStep agent
  | procStep choice =>
      obtain ⟨_, agent, rfl⟩ := Option.map_eq_some_iff.mp stepped
      exact .procStep agent
  | feedStep index choice =>
      obtain ⟨_, located, stepped⟩ := Option.bind_eq_some_iff.mp stepped
      obtain ⟨_, agent, rfl⟩ := Option.map_eq_some_iff.mp stepped
      exact .feedStep located agent
  | netStep =>
      obtain ⟨_, agent, rfl⟩ := Option.map_eq_some_iff.mp stepped
      exact .netStep agent
  | delayedStep index =>
      obtain ⟨_, located, stepped⟩ := Option.bind_eq_some_iff.mp stepped
      obtain ⟨_, agent, rfl⟩ := Option.map_eq_some_iff.mp stepped
      exact .delayedStep located agent
  | readStep =>
      obtain ⟨_, agent, rfl⟩ := Option.map_eq_some_iff.mp stepped
      exact .readStep agent
  | closeStep =>
      obtain ⟨_, agent, rfl⟩ := Option.map_eq_some_iff.mp stepped
      exact .closeStep agent
  | netStart event =>
      obtain ⟨⟨idle, dialled⟩, stepped⟩ :=
        Option.ite_none_right_eq_some.mp stepped
      obtain ⟨_, agent, rfl⟩ := Option.map_eq_some_iff.mp stepped
      exact .netStart idle dialled agent
  | feedStart text =>
      obtain ⟨opened, stepped⟩ := Option.ite_none_right_eq_some.mp stepped
      cases stepped
      exact .feedStart opened
  | readStart want blocking =>
      obtain ⟨⟨idle, opened, positive⟩, stepped⟩ :=
        Option.ite_none_right_eq_some.mp stepped
      cases stepped
      exact .readStart idle opened positive
  | closeStart =>
      obtain ⟨⟨idle, opened⟩, stepped⟩ :=
        Option.ite_none_right_eq_some.mp stepped
      cases stepped
      exact .closeStart idle opened
  | flush =>
      obtain ⟨⟨idle, opened⟩, stepped⟩ :=
        Option.ite_none_right_eq_some.mp stepped
      cases stepped
      exact .flush idle opened
  | resume text =>
      obtain ⟨⟨published, _⟩, stepped⟩ :=
        Option.ite_none_right_eq_some.mp stepped
      cases stepped
      exact .resume published

/-- The agents that open, close or give up the connection. -/
def Action.handlesConnection : Action → Bool
  | .openStep _ => true
  | .procStep _ => true
  | .netStart _ => true
  | .closeStep => true
  | _ => false

/-- All others leave the connection and the life of the handle alone. -/
theorem step_keeps_connection {action : Action}
    (stepped : state.step action = some after)
    (others : action.handlesConnection = false) :
    after.pvt.ws = state.pvt.ws ∧
      after.pvt.wsConnected = state.pvt.wsConnected ∧
      after.pvt.ttsClosed = state.pvt.ttsClosed ∧
      after.pvt.destroyCalls = state.pvt.destroyCalls := by
  cases step_moves stepped with
  | feedStep _ agent =>
      obtain ⟨_, _, _, _, _, rfl⟩ := speechFeedTtsStep_writes agent
      exact ⟨rfl, rfl, rfl, rfl⟩
  | netStep agent =>
      obtain ⟨⟨_, _, _, _, _, _, _, _, _, rfl⟩, _⟩ := callbackStep_writes agent
      exact ⟨rfl, rfl, rfl, rfl⟩
  | delayedStep _ agent =>
      obtain ⟨_, _, _, rfl⟩ := delayedCompletionStep_writes agent
      exact ⟨rfl, rfl, rfl, rfl⟩
  | readStep agent =>
      obtain ⟨⟨_, _, _, _, _, rfl⟩, _⟩ := speechReadTtsStep_writes agent
      exact ⟨rfl, rfl, rfl, rfl⟩
  | tick => exact ⟨rfl, rfl, rfl, rfl⟩
  | feedStart => exact ⟨rfl, rfl, rfl, rfl⟩
  | readStart => exact ⟨rfl, rfl, rfl, rfl⟩
  | closeStart => exact ⟨rfl, rfl, rfl, rfl⟩
  | flush => exact ⟨rfl, rfl, rfl, rfl⟩
  | resume => exact ⟨rfl, rfl, rfl, rfl⟩
  | _ => cases others

/-- The connection only moves forward. -/
theorem step_link {action : Action}
    (stepped : state.step action = some after) :
    state.pvt.ws.rank ≤ after.pvt.ws.rank := by
  by_cases others : action.handlesConnection = false
  · exact Nat.le_of_eq
      (congrArg Link.rank (step_keeps_connection stepped others).1.symm)
  have shutOrSame {ws : Link} (link : ws = state.pvt.ws ∨ ws = .closed) :
      state.pvt.ws.rank ≤ ws.rank := by
    rcases link with rfl | rfl
    · exact Nat.le_refl _
    · exact state.pvt.ws.rank_le_closed
  cases step_moves stepped with
  | openStep agent =>
      obtain ⟨ws, _, link, rfl, _⟩ := speechOpenStep_writes agent
      exact shutOrSame link
  | procStep agent =>
      obtain ⟨_, _, _, _, _, ws, _, link, rfl⟩ :=
        processingThreadStep_writes agent
      exact shutOrSame link
  | netStart _ _ agent =>
      obtain ⟨⟨ws, _, forward, rfl⟩, _⟩ := callbackStart_writes agent
      exact forward
  | closeStep agent =>
      obtain ⟨⟨ws, _, same | ⟨alive, shut⟩, _, rfl⟩, _⟩ :=
        speechCloseStep_writes agent
      · exact Nat.le_of_eq (congrArg Link.rank same.symm)
      · cases here : state.pvt.ws <;> simp_all [Link.rank]
  | _ => exact (others rfl).elim

/-- A closed connection never comes back. -/
theorem step_keeps_closed {action : Action}
    (stepped : state.step action = some after)
    (closed : state.pvt.ws = .closed) : after.pvt.ws = .closed :=
  Link.eq_closed_of_le (closed ▸ step_link stepped)

/-- A step leaves the connection lasting only if it was lasting before. -/
theorem step_lasting {action : Action}
    (stepped : state.step action = some after)
    (lasting : after.pvt.ws.ending = false) : state.pvt.ws.ending = false := by
  by_contra finished
  rw [Link.ending_of_le (step_link stepped) (by simpa using finished)] at lasting
  cases lasting

/-- A closed handle stays closed. -/
theorem step_ttsClosed {action : Action}
    (stepped : state.step action = some after)
    (closed : state.pvt.ttsClosed = true) : after.pvt.ttsClosed = true := by
  by_cases others : action.handlesConnection = false
  · exact (step_keeps_connection stepped others).2.2.1.trans closed
  cases step_moves stepped with
  | openStep agent =>
      obtain ⟨_, _, _, rfl, _⟩ := speechOpenStep_writes agent
      exact closed
  | procStep agent =>
      obtain ⟨_, _, _, _, _, _, _, _, rfl⟩ := processingThreadStep_writes agent
      exact closed
  | netStart _ _ agent =>
      obtain ⟨⟨_, _, _, rfl⟩, _⟩ := callbackStart_writes agent
      exact closed
  | closeStep agent =>
      obtain ⟨⟨_, _, _, stays, rfl⟩, _⟩ := speechCloseStep_writes agent
      exact stays closed
  | _ => exact (others rfl).elim

/-- A step leaves the handle unclosed only if it was unclosed before. -/
theorem step_unclosed {action : Action}
    (stepped : state.step action = some after)
    (opened : after.pvt.ttsClosed = false) : state.pvt.ttsClosed = false := by
  by_contra closed
  rw [step_ttsClosed stepped (by simpa using closed)] at opened
  cases opened

/-- The agents that bring, carry or send texts, and the opening that starts one
of them. -/
def Action.handlesTexts : Action → Bool
  | .openStep _ => true
  | .procStep _ => true
  | .feedStart _ => true
  | .feedStep _ _ => true
  | .resume _ => true
  | _ => false

/-- All others leave the texts and their carriers alone. -/
theorem step_keeps_texts {action : Action}
    (stepped : state.step action = some after)
    (others : action.handlesTexts = false) :
    after.proc = state.proc ∧ after.feeds = state.feeds ∧
      after.pvt.ttsTextQueue = state.pvt.ttsTextQueue ∧
      after.history.accepted = state.history.accepted ∧
      after.history.sent = state.history.sent := by
  cases step_moves stepped with
  | netStart _ _ agent =>
      obtain ⟨⟨_, _, _, rfl⟩, _, _, _, _, rfl⟩ := callbackStart_writes agent
      exact ⟨rfl, rfl, rfl, rfl, rfl⟩
  | netStep agent =>
      obtain ⟨⟨_, _, _, _, _, _, _, _, _, rfl⟩, _, _, _, rfl⟩ :=
        callbackStep_writes agent
      exact ⟨rfl, rfl, rfl, rfl, rfl⟩
  | delayedStep _ agent =>
      obtain ⟨_, _, _, rfl⟩ := delayedCompletionStep_writes agent
      exact ⟨rfl, rfl, rfl, rfl, rfl⟩
  | readStep agent =>
      obtain ⟨⟨_, _, _, _, _, rfl⟩, _, _, _, rfl⟩ :=
        speechReadTtsStep_writes agent
      exact ⟨rfl, rfl, rfl, rfl, rfl⟩
  | closeStep agent =>
      obtain ⟨⟨_, _, _, _, rfl⟩, _, rfl⟩ := speechCloseStep_writes agent
      exact ⟨rfl, rfl, rfl, rfl, rfl⟩
  | tick => exact ⟨rfl, rfl, rfl, rfl, rfl⟩
  | readStart => exact ⟨rfl, rfl, rfl, rfl, rfl⟩
  | closeStart => exact ⟨rfl, rfl, rfl, rfl, rfl⟩
  | flush => exact ⟨rfl, rfl, rfl, rfl, rfl⟩
  | _ => cases others

end Inversion

section Opening

/-- Until the opening has succeeded the processing thread does not exist and no
entry point is called. -/
structure BeforeOpened (state : State) : Prop where
  proc : state.proc.pc = .notStarted
  feeds : state.feeds = []
  reader : state.reader.pc = .idle
  closer : state.closer = .idle

theorem beforeOpened_initial (now : Nat) :
    BeforeOpened (State.initial now) :=
  ⟨rfl, rfl, rfl, rfl⟩

/-- An opened handle is not opened again. -/
theorem speechOpenStep_unopened {clock : Nat} {choice : OpenChoice}
    {pvt after : Pvt} {proc proc' : Proc} {opener opener' : OpenPc}
    (stepped : speechOpenStep clock choice pvt proc opener =
      some (after, proc', opener')) :
    opener ≠ .opened := by
  rintro rfl
  cases stepped

/-- The processing thread is started by the opening that succeeds. -/
theorem speechOpenStep_notStarted {clock : Nat} {choice : OpenChoice}
    {pvt after : Pvt} {proc proc' : Proc} {opener opener' : OpenPc}
    (stepped : speechOpenStep clock choice pvt proc opener =
      some (after, proc', opener'))
    (notStarted : proc.pc = .notStarted) (unopened : opener' ≠ .opened) :
    proc'.pc = .notStarted := by
  cases opener <;> simp only [speechOpenStep] at stepped
  case loadConnected =>
    split at stepped
    · cases stepped
      exact (unopened rfl).elim
    · cases stepped
      exact notStarted
  all_goals try split at stepped
  all_goals first
    | (cases stepped; done)
    | (cases stepped; exact notStarted)

/-- Once opened, a handle is opened for good. -/
theorem step_keeps_opened {before after : State} {action : Action}
    (stepped : before.step action = some after)
    (opened : before.opener = .opened) : after.opener = .opened := by
  cases step_moves stepped with
  | openStep agent => exact (speechOpenStep_unopened agent opened).elim
  | _ => exact opened

/-- The agents of an opened handle wait for the opening. -/
theorem step_beforeOpened {before after : State} {action : Action}
    (earlier : before.opener ≠ .opened → BeforeOpened before)
    (stepped : before.step action = some after)
    (unopened : after.opener ≠ .opened) : BeforeOpened after := by
  have unopenedBefore : before.opener ≠ .opened :=
    fun opened => unopened (step_keeps_opened stepped opened)
  have waiting := earlier unopenedBefore
  obtain ⟨noProc, noFeeds, noReader, noCloser⟩ := waiting
  cases step_moves stepped with
  | openStep agent =>
      exact ⟨speechOpenStep_notStarted agent noProc unopened, noFeeds, noReader,
        noCloser⟩
  | procStep agent => simp [processingThreadStep, noProc] at agent
  | feedStart opened => exact (unopenedBefore opened).elim
  | feedStep located _ => simp [noFeeds] at located
  | readStart _ opened _ => exact (unopenedBefore opened).elim
  | readStep agent => simp [speechReadTtsStep, noReader] at agent
  | closeStart _ opened => exact (unopenedBefore opened).elim
  | closeStep agent => simp [speechCloseStep, noCloser] at agent
  | flush _ opened => exact (unopenedBefore opened).elim
  | _ => exact ⟨noProc, noFeeds, noReader, noCloser⟩

theorem beforeOpened_of_reach {permits : State → Action → Prop} {now : Nat}
    {state : State}
    (reached : PermittedReach State.step permits (State.initial now) state) :
    state.opener ≠ .opened → BeforeOpened state :=
  reached.invariant (fun _ => beforeOpened_initial now)
    fun _ _ _ earlier _ stepped => step_beforeOpened earlier stepped

end Opening

end AliyunTts

end SpeechModules
