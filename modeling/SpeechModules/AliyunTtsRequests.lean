import SpeechModules.AliyunTtsSenders

/-!
# The requests of the senders

A sender inside `send_tts_request` has a text and a position.  The steps of the
two kinds of callers move its position, keep its text and hand exactly this text
over; the observer of the handle sees the texts that are handed over and no
others.
-/

namespace SpeechModules

namespace AliyunTts

def ProcPc.request? : ProcPc → Option (Text × SendPc)
  | .sendPopped text pc => some (text, pc)
  | .sendPending text pc => some (text, pc)
  | _ => none

def Feed.request? (feed : Feed) : Option (Text × SendPc) :=
  feed.pc.sender?.map fun pc => (feed.text, pc)

/-- The text and the position of a sender inside `send_tts_request`: the
processing thread has the number 0, the direct senders come after it. -/
def State.request? (state : State) : Nat → Option (Text × SendPc)
  | 0 => state.proc.pc.request?
  | index + 1 => state.feeds[index]?.bind Feed.request?

/-- The sender that an action moves. -/
def Action.sender? : Action → Option (Nat × SendChoice)
  | .procStep choice => some (0, choice)
  | .feedStep index choice => some (index + 1, choice)
  | _ => none

/-- The text that a sender at this position hands over to the connection. -/
def handedText : Option (Text × SendPc) → SendChoice → Option Text
  | some (text, .send), .handed => some text
  | _, _ => none

theorem handedText_eq_some {request : Option (Text × SendPc)}
    {choice : SendChoice} {text : Text}
    (handed : handedText request choice = some text) :
    request = some (text, .send) ∧ choice = .handed := by
  unfold handedText at handed
  split at handed
  · cases handed
    exact ⟨rfl, rfl⟩
  · cases handed

/-- The text that the action hands over. -/
def State.handed? (state : State) (action : Action) : Option Text :=
  action.sender?.bind fun (sender, choice) =>
    handedText (state.request? sender) choice

/-- A step of a caller of `send_tts_request`: it enters at the start, or it moves
by a step of `send_tts_request` with the text it has entered with. -/
def RequestStep (clock : Nat) (choice : SendChoice) (direct : Bool)
    (pvt after : Pvt) (history history' : History) :
    Option (Text × SendPc) → Option (Text × SendPc) → Prop
  | none, request =>
      history'.sent = history.sent ∧
        ∀ text pc, request = some (text, pc) → pc = .loadConnected
  | some (text, pc), request =>
      ∃ next, sendTtsRequestStep clock choice pvt pc = some (after, next) ∧
        request = next.sender?.map (fun pc => (text, pc)) ∧
        history' = history.noteSendNext direct text next

section Agents

variable {clock : Nat} {choice : SendChoice} {direct : Bool}
  {pvt after : Pvt} {history history' : History}

theorem ProcPc.request?_of_plain {pc : ProcPc} (plain : pc.plain = true) :
    pc.request? = none := by
  cases pc <;> first | rfl | cases plain

theorem processingThreadStep_request {proc proc' : Proc}
    (stepped : processingThreadStep clock choice pvt history proc =
      some (after, proc', history')) :
    RequestStep clock choice false pvt after history history'
      proc.pc.request? proc'.pc.request? := by
  cases processingThreadStep_moves stepped with
  | goto goes =>
      rw [ProcPc.request?_of_plain goes.plain.1,
        ProcPc.request?_of_plain goes.plain.2]
      exact ⟨rfl, by simp⟩
  | gotoPopped here sent | handedPopped here sent | lostPopped here sent
  | failedPopped here sent | gotoPending here sent | handedPending here sent
  | lostPending here sent | failedPending here sent =>
      rw [here]
      exact ⟨_, sent, rfl, rfl⟩
  | _ here =>
      rw [here]
      simp [ProcPc.request?, RequestStep]

/-- A call of `aliyuntts_speech_feed_tts` keeps its text. -/
theorem speechFeedTtsStep_text {feed feed' : Feed}
    (stepped : speechFeedTtsStep clock choice pvt history feed =
      some (after, feed', history')) : feed'.text = feed.text := by
  cases here : feed.pc <;> simp only [speechFeedTtsStep, here] at stepped
  all_goals try split at stepped
  all_goals first
    | (cases stepped; done)
    | (cases stepped; rfl)

theorem speechFeedTtsStep_request {feed feed' : Feed}
    (stepped : speechFeedTtsStep clock choice pvt history feed =
      some (after, feed', history')) :
    RequestStep clock choice true pvt after history history'
      feed.request? feed'.request? := by
  cases inside : feed.pc.sender? with
  | none =>
      simp only [Feed.request?, inside, Option.map_none, RequestStep]
      obtain ⟨entered, _, _, _, _, rfl⟩ :=
        speechFeedTtsStep_elsewhere inside stepped
      refine ⟨rfl, ?_⟩
      intro text pc position
      rcases entered with nowhere | atStart
      · simp [nowhere] at position
      · simp only [atStart, Option.map_some, Option.some.injEq,
          Prod.mk.injEq] at position
        exact position.2.symm
  | some pc =>
      simp only [Feed.request?, inside, Option.map_some, RequestStep]
      obtain ⟨next, sent, moved, noted⟩ :=
        speechFeedTtsStep_sender (FeedPc.eq_sending inside) stepped
      refine ⟨next, sent, ?_, noted⟩
      rw [moved, speechFeedTtsStep_text stepped]

/-- A sender comes to its `send` call from the preparation of its own text. -/
theorem RequestStep.atSend {request request' : Option (Text × SendPc)}
    {text : Text}
    (step : RequestStep clock choice direct pvt after history history'
      request request')
    (atSend : request' = some (text, .send)) :
    request = some (text, .prepare) := by
  cases request with
  | none => cases step.2 _ _ atSend
  | some sending =>
      obtain ⟨next, sent, goes, _⟩ := step
      obtain ⟨position, here, same⟩ :=
        Option.map_eq_some_iff.mp (goes.symm.trans atSend)
      cases same
      rw [SendNext.eq_goto here] at sent
      cases sending
      cases sendTtsRequestStep_moves sent
      rfl

/-- The observer notes what is handed over. -/
theorem RequestStep.sent {request request' : Option (Text × SendPc)}
    (step : RequestStep clock choice direct pvt after history history'
      request request') :
    history'.sent = history.sent ++ (handedText request choice).toList := by
  cases request with
  | none => simpa [handedText] using step.1
  | some sending =>
      obtain ⟨next, sent, _, rfl⟩ := step
      cases sending
      cases sendTtsRequestStep_moves sent with
      | handed accepted up =>
          subst accepted
          cases direct <;>
            simp [handedText, History.noteSendNext, History.noteSent,
              History.noteAccepted]
      | lost refused =>
          subst refused
          cases direct <;>
            simp [handedText, History.noteSendNext, History.noteAccepted]
      | thrown refused =>
          subst refused
          simp [handedText, History.noteSendNext]
      | _ => simp [handedText, History.noteSendNext]

end Agents

section Steps

variable {before after : State} {action : Action}

/-- The observer of the handle sees the texts that are handed over. -/
theorem step_sent_eq (stepped : before.step action = some after) :
    after.history.sent =
      before.history.sent ++ (before.handed? action).toList := by
  by_cases others : action.handlesTexts = false
  · have silent : before.handed? action = none := by
      cases action <;> first | rfl | cases others
    rw [silent, (step_keeps_texts stepped others).2.2.2.2]
    simp
  cases step_moves stepped with
  | openStep => simp [State.handed?, Action.sender?]
  | procStep agent => exact (processingThreadStep_request agent).sent
  | feedStart => simp [State.handed?, Action.sender?]
  | feedStep located agent =>
      simp only [State.handed?, Action.sender?, State.request?, located,
        Option.bind_some]
      exact (speechFeedTtsStep_request agent).sent
  | resume => simp [State.handed?, Action.sender?, History.noteAccepted]
  | _ => exact (others rfl).elim

/-- A sender stands at its `send` call because it has just prepared its text, or
because others move. -/
theorem step_request {sender : Nat} {text : Text}
    (stepped : before.step action = some after)
    (atSend : after.request? sender = some (text, .send)) :
    (before.request? sender = some (text, .send) ∧
        ∀ choice, action.sender? ≠ some (sender, choice)) ∨
      (before.request? sender = some (text, .prepare) ∧
        ∃ choice, action.sender? = some (sender, choice)) := by
  cases step_moves stepped with
  | openStep agent =>
      obtain ⟨_, _, _, _, rfl | rfl⟩ := speechOpenStep_writes agent
      · exact .inl ⟨by cases sender <;> exact atSend, by simp [Action.sender?]⟩
      · cases sender with
        | zero => cases atSend
        | succ index => exact .inl ⟨atSend, by simp [Action.sender?]⟩
  | procStep agent =>
      cases sender with
      | zero =>
          exact .inr
            ⟨(processingThreadStep_request agent).atSend atSend, _, rfl⟩
      | succ index => exact .inl ⟨atSend, by simp [Action.sender?]⟩
  | @feedStep index choice feed feed' _ _ located agent =>
      cases sender with
      | zero => exact .inl ⟨atSend, by simp [Action.sender?]⟩
      | succ other =>
          simp only [State.request?] at atSend ⊢
          by_cases same : index = other
          · subst same
            have inRange := (List.getElem?_eq_some_iff.mp located).1
            rw [List.getElem?_set_self inRange, Option.bind_some] at atSend
            refine .inr ⟨?_, choice, rfl⟩
            rw [located, Option.bind_some]
            exact (speechFeedTtsStep_request agent).atSend atSend
          · rw [List.getElem?_set_ne same] at atSend
            refine .inl ⟨atSend, ?_⟩
            simpa [Action.sender?] using same
  | feedStart opened =>
      cases sender with
      | zero => exact .inl ⟨atSend, by simp [Action.sender?]⟩
      | succ index =>
          refine .inl ⟨?_, by simp [Action.sender?]⟩
          simp only [State.request?, List.getElem?_append] at atSend ⊢
          split at atSend
          · exact atSend
          · obtain ⟨feed, last, inside⟩ := Option.bind_eq_some_iff.mp atSend
            have fresh := List.mem_of_getElem? last
            rw [List.mem_singleton.mp fresh] at inside
            cases inside
  | _ =>
      refine .inl ⟨?_, by simp [Action.sender?]⟩
      cases sender <;> exact atSend

end Steps

end AliyunTts

end SpeechModules
