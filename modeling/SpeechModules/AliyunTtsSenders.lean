import SpeechModules.AliyunTtsFrames

/-!
# The senders of a speech handle

`send_tts_request` is entered from two places of the processing thread and from
`aliyuntts_speech_feed_tts`.  This file collects the positions of all senders in
one list and describes the steps of the two kinds of callers as either a step of
`send_tts_request` or a step that stays away from the audio fields.
-/

namespace SpeechModules

namespace AliyunTts

def FeedPc.sender? : FeedPc → Option SendPc
  | .sending pc => some pc
  | _ => none

def ProcPc.sender? : ProcPc → Option SendPc
  | .sendPopped _ pc => some pc
  | .sendPending _ pc => some pc
  | _ => none

/-- The positions inside `send_tts_request`: of the processing thread first,
then of the direct senders. -/
def State.senders (state : State) : List (Option SendPc) :=
  state.proc.pc.sender? :: state.feeds.map fun feed => feed.pc.sender?

/-- The position, if any, at which a step of `send_tts_request` leaves its
caller. -/
def SendNext.sender? : SendNext → Option SendPc
  | .goto pc => some pc
  | _ => none

theorem senders_set_cases {state : State} {position index : Nat}
    {sender : Option SendPc} {pc : SendPc}
    (found : (state.senders.set position sender)[index]? = some (some pc)) :
    (index = position ∧ sender = some pc) ∨
      (index ≠ position ∧ state.senders[index]? = some (some pc)) := by
  rw [List.getElem?_set] at found
  split at found
  next same =>
    split at found
    · exact .inl ⟨same.symm, by simpa using found⟩
    · cases found
  next different => exact .inr ⟨fun same => different same.symm, found⟩

/-- Replacing a list element by one with the same test result does not change
whether some element passes the test. -/
theorem any_set_of_eq {α : Type*} {list : List α} {test : α → Bool}
    {position : Nat} {old new : α} (found : list[position]? = some old)
    (same : test new = test old) :
    (list.set position new).any test = list.any test := by
  induction list generalizing position with
  | nil => simp
  | cons head tail ih =>
      cases position with
      | zero =>
          simp only [List.getElem?_cons_zero, Option.some.injEq] at found
          simp [found, same]
      | succ position =>
          simp only [List.getElem?_cons_succ] at found
          simp [ih found]

theorem any_of_getElem? {α : Type*} {list : List α} {test : α → Bool}
    {position : Nat} {element : α} (found : list[position]? = some element)
    (passed : test element = true) : list.any test = true :=
  List.any_eq_true.mpr ⟨element, List.mem_of_getElem? found, passed⟩

theorem senders_set_proc {before : State} {proc : Proc} {pvt : Pvt}
    {history : History} :
    State.senders { before with pvt := pvt, proc := proc, history := history } =
      before.senders.set 0 proc.pc.sender? := by
  simp [State.senders]

theorem senders_set_feed {before : State} {index : Nat} {feed : Feed}
    {pvt : Pvt} {history : History} :
    State.senders { before with
      pvt := pvt, feeds := before.feeds.set index feed,
      history := history } =
      before.senders.set (index + 1) feed.pc.sender? := by
  simp [State.senders, List.map_set]

theorem senders_feedStart {before : State} {text : Text} :
    State.senders { before with
      feeds := before.feeds ++ [⟨text, .loadClosed⟩] } =
      before.senders ++ [none] := by
  simp [State.senders, FeedPc.sender?]

/-- A call that has just been made is not a sender. -/
theorem senders_feedStart_getElem? {before : State} {text : Text}
    {index : Nat} {pc : SendPc}
    (found : (State.senders { before with
      feeds := before.feeds ++ [⟨text, .loadClosed⟩] })[index]? =
        some (some pc)) :
    before.senders[index]? = some (some pc) := by
  rw [senders_feedStart, List.getElem?_append] at found
  split at found
  · exact found
  · have last := List.mem_of_getElem? found
    simp at last

/-- What the observer notes when a step of `send_tts_request` ends; a direct
sender's text is accepted at that moment. -/
def History.noteSendNext (history : History) (direct : Bool) (text : Text) :
    SendNext → History
  | .handed =>
      (if direct then history.noteAccepted text else history).noteSent text
  | .lost => if direct then history.noteAccepted text else history
  | _ => history

theorem SendNext.eq_goto {next : SendNext} {pc : SendPc}
    (here : next.sender? = some pc) : next = .goto pc := by
  cases next with
  | goto pc' => rw [Option.some.inj here]
  | handed => cases here
  | lost => cases here
  | failed => cases here

/-- Unless a message is handed over, the observer notes at most that a text has
been accepted. -/
theorem History.noteSendNext_unsent {history : History} {direct : Bool}
    {text : Text} {next : SendNext} (unsent : next ≠ .handed) :
    ∃ accepted, history.noteSendNext direct text next =
      { history with accepted := accepted } := by
  cases next with
  | handed => exact (unsent rfl).elim
  | lost => cases direct <;> exact ⟨_, rfl⟩
  | goto => exact ⟨_, rfl⟩
  | failed => exact ⟨_, rfl⟩

/-- A request is outstanding from the moment it is handed over. -/
theorem History.noteSendNext_outstanding {history : History} {direct : Bool}
    {text : Text} {next : SendNext} :
    (history.noteSendNext direct text next).outstanding =
      (history.outstanding || decide (next = .handed)) := by
  cases next <;> cases direct <;>
    simp [History.noteSendNext, History.noteSent, History.noteAccepted]

/-- The sender at a position of the list makes a step of `send_tts_request`. -/
structure SenderStep (before after : State) (choice : SendChoice)
    (position : Nat) (pc : SendPc) (next : SendNext) : Prop where
  found : before.senders[position]? = some (some pc)
  stepped : sendTtsRequestStep before.clock choice before.pvt pc =
    some (after.pvt, next)
  senders : after.senders = before.senders.set position next.sender?

section SenderSteps

variable {before after : State} {choice : SendChoice} {position : Nat}
  {pc : SendPc} {next : SendNext}

/-- The senders after the step: the one that has moved, and all others. -/
theorem SenderStep.sender_cases
    (step : SenderStep before after choice position pc next) {index : Nat}
    {pc' : SendPc} (located : after.senders[index]? = some (some pc')) :
    (index = position ∧ next = .goto pc') ∨
      (index ≠ position ∧ before.senders[index]? = some (some pc')) := by
  rw [step.senders] at located
  rcases senders_set_cases located with ⟨same, here⟩ | other
  · exact .inl ⟨same, SendNext.eq_goto here⟩
  · exact .inr other

theorem SenderStep.moved {pc' : SendPc}
    (step : SenderStep before after choice position pc (.goto pc')) :
    after.senders[position]? = some (some pc') := by
  rw [step.senders, List.getElem?_set_self
    (List.getElem?_eq_some_iff.mp step.found).1]
  rfl

/-- A test on the positions that the step does not change. -/
theorem SenderStep.any_eq
    (step : SenderStep before after choice position pc next)
    {test : SendPc → Bool} (same : next.sender?.any test = test pc) :
    after.senders.any (fun sender => sender.any test) =
      before.senders.any fun sender => sender.any test := by
  rw [step.senders]
  exact any_set_of_eq step.found (by simpa using same)

theorem SenderStep.link
    (step : SenderStep before after choice position pc next) :
    after.pvt.ws = before.pvt.ws := by
  obtain ⟨_, _, _, _, same⟩ := sendTtsRequestStep_writes step.stepped
  rw [same]

theorem SenderStep.audioBuffer
    (step : SenderStep before after choice position pc next) :
    after.pvt.audioBuffer = before.pvt.audioBuffer := by
  obtain ⟨_, _, _, _, same⟩ := sendTtsRequestStep_writes step.stepped
  rw [same]

end SenderSteps

section Callers

variable {clock : Nat} {choice : SendChoice} {pvt after : Pvt}
  {history history' : History}

theorem ProcPc.sender?_of_plain {pc : ProcPc} (plain : pc.plain = true) :
    pc.sender? = none := by
  cases pc <;> first | rfl | cases plain

/-- The processing thread inside `send_tts_request`. -/
theorem processingThreadStep_sender {proc proc' : Proc} {pc : SendPc}
    (inside : proc.pc.sender? = some pc)
    (stepped : processingThreadStep clock choice pvt history proc =
      some (after, proc', history')) :
    ∃ next text,
      sendTtsRequestStep clock choice pvt pc = some (after, next) ∧
      proc'.pc.sender? = next.sender? ∧
      (proc'.pc.sender? = none → proc'.pc = .exitLoadClosed) ∧
      history' = history.noteSendNext false text next := by
  cases processingThreadStep_moves stepped with
  | goto goes =>
      rw [ProcPc.sender?_of_plain goes.plain.1] at inside
      cases inside
  | @gotoPopped text _ _ _ here sent | @gotoPending text _ _ _ here sent =>
      rw [here] at inside
      cases inside
      exact ⟨_, text, sent, rfl, by simp [ProcPc.sender?], rfl⟩
  | @handedPopped text _ _ here sent | @lostPopped text _ _ here sent
  | @failedPopped text _ _ here sent | @handedPending text _ _ here sent
  | @lostPending text _ _ here sent | @failedPending text _ _ here sent =>
      rw [here] at inside
      cases inside
      exact ⟨_, text, sent, rfl, fun _ => rfl, rfl⟩
  | _ here =>
      rw [here] at inside
      cases inside

/-- The processing thread outside `send_tts_request`. -/
theorem processingThreadStep_elsewhere {proc proc' : Proc}
    (outside : proc.pc.sender? = none)
    (stepped : processingThreadStep clock choice pvt history proc =
      some (after, proc', history')) :
    (proc'.pc.sender? = none ∨ proc'.pc.sender? = some .loadConnected) ∧
      after.audioDataAvailable = pvt.audioDataAvailable ∧
      ∃ outstanding, history' = { history with outstanding := outstanding } := by
  cases processingThreadStep_moves stepped with
  | goto goes =>
      exact ⟨.inl (ProcPc.sender?_of_plain goes.plain.2), rfl, _, rfl⟩
  | resend | enter => exact ⟨.inr rfl, rfl, _, rfl⟩
  | gotoPopped here | handedPopped here | lostPopped here | failedPopped here
  | gotoPending here | handedPending here | lostPending here
  | failedPending here =>
      rw [here] at outside
      cases outside
  | _ => exact ⟨.inl rfl, rfl, _, rfl⟩

/-- A direct sender inside `send_tts_request`. -/
theorem speechFeedTtsStep_sender {feed feed' : Feed} {pc : SendPc}
    (inside : feed.pc = .sending pc)
    (stepped : speechFeedTtsStep clock choice pvt history feed =
      some (after, feed', history')) :
    ∃ next,
      sendTtsRequestStep clock choice pvt pc = some (after, next) ∧
      feed'.pc.sender? = next.sender? ∧
      history' = history.noteSendNext true feed.text next := by
  simp only [speechFeedTtsStep, inside] at stepped
  split at stepped
  next => cases stepped
  all_goals
    next sent =>
      cases stepped
      exact ⟨_, sent, rfl, rfl⟩

/-- A direct sender outside `send_tts_request`. -/
theorem speechFeedTtsStep_elsewhere {feed feed' : Feed}
    (outside : feed.pc.sender? = none)
    (stepped : speechFeedTtsStep clock choice pvt history feed =
      some (after, feed', history')) :
    (feed'.pc.sender? = none ∨ feed'.pc.sender? = some .loadConnected) ∧
      after.audioDataAvailable = pvt.audioDataAvailable ∧
      after.ttsInProgress = pvt.ttsInProgress ∧
      after.synthesisCompleted = pvt.synthesisCompleted ∧
      ∃ accepted, history' = { history with accepted := accepted } := by
  cases here : feed.pc <;> rw [here] at outside <;> try cases outside
  all_goals simp only [speechFeedTtsStep, here] at stepped
  case loadInProgress =>
    cases stepped
    refine ⟨?_, rfl, rfl, rfl, _, rfl⟩
    simp only
    split
    · exact .inl rfl
    · exact .inr rfl
  all_goals try split at stepped
  all_goals first
    | (cases stepped; done)
    | (cases stepped; exact ⟨.inl rfl, rfl, rfl, rfl, _, rfl⟩)

theorem FeedPc.eq_sending {pc : FeedPc} {sender : SendPc}
    (inside : pc.sender? = some sender) : pc = .sending sender := by
  cases pc <;> simp_all [FeedPc.sender?]

/-- A call of `aliyuntts_speech_feed_tts` sends at one position only. -/
theorem speechFeedTtsStep_sent {feed feed' : Feed}
    (stepped : speechFeedTtsStep clock choice pvt history feed =
      some (after, feed', history')) :
    history'.sent = history.sent ∨
      (feed.pc.sender? = some .send ∧ choice = .handed) := by
  cases position : feed.pc.sender? with
  | none =>
      obtain ⟨_, _, _, _, _, rfl⟩ :=
        speechFeedTtsStep_elsewhere position stepped
      exact .inl rfl
  | some pc =>
      obtain ⟨next, sent, _, rfl⟩ :=
        speechFeedTtsStep_sender (FeedPc.eq_sending position) stepped
      cases next with
      | handed =>
          obtain ⟨rfl, rfl, _⟩ := sendTtsRequestStep_handed sent
          exact .inr ⟨rfl, rfl⟩
      | goto => exact .inl rfl
      | lost => exact .inl rfl
      | failed => exact .inl rfl

/-- So does the processing thread, which then leaves `send_tts_request`. -/
theorem processingThreadStep_sent {proc proc' : Proc}
    (stepped : processingThreadStep clock choice pvt history proc =
      some (after, proc', history')) :
    history'.sent = history.sent ∨
      (proc.pc.sender? = some .send ∧ choice = .handed ∧
        proc'.pc = .exitLoadClosed) := by
  cases position : proc.pc.sender? with
  | none =>
      obtain ⟨_, _, _, rfl⟩ := processingThreadStep_elsewhere position stepped
      exact .inl rfl
  | some pc =>
      obtain ⟨next, _, sent, sender, left, rfl⟩ :=
        processingThreadStep_sender position stepped
      cases next with
      | handed =>
          obtain ⟨rfl, rfl, _⟩ := sendTtsRequestStep_handed sent
          exact .inr ⟨rfl, rfl, left sender⟩
      | goto => exact .inl rfl
      | lost => exact .inl rfl
      | failed => exact .inl rfl

end Callers

end AliyunTts

end SpeechModules
