import SpeechModules.AliyunTtsStep

/-!
# One call of `send_tts_request`

The call changes four fields before the two places where it can still fail, and
takes back only one of them.  A negative result of `WebSocketClient::send` is
not looked at.  This file runs the steps of the call in a row and says for which
states and outcomes its answer is true and a failure leaves the fields alone.
-/

namespace SpeechModules

namespace AliyunTts

/-- Follow the steps of the call from a position on. -/
def runSend (clock : Nat) (choice : SendChoice) :
    Nat → Pvt → SendPc → Option (Pvt × SendNext)
  | 0, _, _ => none
  | fuel + 1, pvt, pc =>
      match sendTtsRequestStep clock choice pvt pc with
      | some (after, .goto next) => runSend clock choice fuel after next
      | result => result

/-- The call has nine positions and visits each of them at most once. -/
def sendTtsRequest (clock : Nat) (choice : SendChoice) (pvt : Pvt) :
    Option (Pvt × SendNext) :=
  runSend clock choice 9 pvt .loadConnected

/-- The fields after the stores that precede the preparation. -/
def Pvt.started (pvt : Pvt) (clock : Nat) : Pvt :=
  { pvt with
    synthesisCompleted := false
    audioDataAvailable := false
    ttsInProgress := true
    lastRequestTimeMs := clock }

/-- How the call ends after these stores. -/
def finishSend (started : Pvt) : SendChoice → Option (Pvt × SendNext)
  | .handed => if started.ws.carries then some (started, .handed) else none
  | .negative => some (started, .lost)
  | .thrown => some ({ started with ttsInProgress := false }, .failed)
  | .emptyRequest => some ({ started with ttsInProgress := false }, .failed)

theorem sendTtsRequest_eq (clock : Nat) (choice : SendChoice) (pvt : Pvt) :
    sendTtsRequest clock choice pvt =
      if pvt.wsConnected = false ∨ pvt.ttsInProgress = true then
        some (pvt, .failed)
      else finishSend (pvt.started clock) choice := by
  cases connected : pvt.wsConnected with
  | false => simp [sendTtsRequest, runSend, sendTtsRequestStep, connected]
  | true =>
      cases busy : pvt.ttsInProgress with
      | true =>
          simp [sendTtsRequest, runSend, sendTtsRequestStep, connected, busy]
      | false =>
          cases choice with
          | handed =>
              cases carries : pvt.ws.carries <;>
                simp [sendTtsRequest, runSend, sendTtsRequestStep, connected,
                  busy, finishSend, Pvt.started, carries]
          | negative =>
              simp [sendTtsRequest, runSend, sendTtsRequestStep, connected,
                busy, finishSend, Pvt.started]
          | thrown =>
              simp [sendTtsRequest, runSend, sendTtsRequestStep, connected,
                busy, finishSend, Pvt.started]
          | emptyRequest =>
              simp [sendTtsRequest, runSend, sendTtsRequestStep, connected,
                busy, finishSend, Pvt.started]

/-- The value that the call returns. -/
def SendNext.result : SendNext → Bool
  | .handed => true
  | .lost => true
  | _ => false

/-- The four fields that the call writes. -/
def SameRequestFields (before after : Pvt) : Prop :=
  after.synthesisCompleted = before.synthesisCompleted ∧
    after.audioDataAvailable = before.audioDataAvailable ∧
    after.ttsInProgress = before.ttsInProgress ∧
    after.lastRequestTimeMs = before.lastRequestTimeMs

/-- The answer is true exactly when the message was handed to a connection that
is open, and the answer false leaves the four fields alone. -/
def TruthfulEnd (before after : Pvt) (next : SendNext) : Prop :=
  (next.result = true ↔ next = .handed ∧ before.ws.carries = true) ∧
    (next.result = false → SameRequestFields before after)

/-- The call comes to such an end. -/
def SendsTruthfully (clock : Nat) (choice : SendChoice) (pvt : Pvt) : Prop :=
  ∃ after next, sendTtsRequest clock choice pvt = some (after, next) ∧
    TruthfulEnd pvt after next

/-- The stores of a call that then fails change nothing except the flag that is
taken back. -/
def AlreadyStarted (clock : Nat) (pvt : Pvt) : Prop :=
  pvt.synthesisCompleted = false ∧ pvt.audioDataAvailable = false ∧
    pvt.lastRequestTimeMs = clock

theorem exists_some_iff {result : Pvt × SendNext} {pvt : Pvt} :
    (∃ after next, some result = some (after, next) ∧
      TruthfulEnd pvt after next) ↔ TruthfulEnd pvt result.1 result.2 := by
  constructor
  · rintro ⟨after, next, equation, truthful⟩
    obtain rfl := Option.some.inj equation
    exact truthful
  · intro truthful
    exact ⟨result.1, result.2, rfl, truthful⟩

/-- A failure that leaves the fields as they are is told truthfully. -/
theorem truthfulEnd_failed_iff {before after : Pvt} :
    TruthfulEnd before after .failed ↔ SameRequestFields before after := by
  simp [TruthfulEnd, SendNext.result]

theorem sameRequestFields_failed_iff {clock : Nat} {pvt : Pvt}
    (idle : pvt.ttsInProgress = false) :
    SameRequestFields pvt
        { pvt.started clock with ttsInProgress := false } ↔
      AlreadyStarted clock pvt := by
  simp only [SameRequestFields, AlreadyStarted, Pvt.started, idle, true_and]
  constructor
  · rintro ⟨completed, available, requestTime⟩
    exact ⟨completed.symm, available.symm, requestTime.symm⟩
  · rintro ⟨completed, available, requestTime⟩
    exact ⟨completed.symm, available.symm, requestTime.symm⟩

/-- The call is truthful and atomic exactly when it is refused, when the
message is handed over, or when it fails in a state that its stores do not
change. -/
theorem sendsTruthfully_iff (clock : Nat) (choice : SendChoice) (pvt : Pvt)
    (handedOnlyIfOpen : choice = .handed → pvt.ws.carries = true) :
    SendsTruthfully clock choice pvt ↔
      pvt.wsConnected = false ∨ pvt.ttsInProgress = true ∨
        choice = .handed ∨
        ((choice = .thrown ∨ choice = .emptyRequest) ∧
          AlreadyStarted clock pvt) := by
  unfold SendsTruthfully
  rw [sendTtsRequest_eq]
  by_cases refused : pvt.wsConnected = false ∨ pvt.ttsInProgress = true
  · rw [if_pos refused, exists_some_iff, truthfulEnd_failed_iff]
    constructor
    · intro _
      rcases refused with disconnected | busy
      · exact Or.inl disconnected
      · exact Or.inr (Or.inl busy)
    · intro _
      exact ⟨rfl, rfl, rfl, rfl⟩
  · rw [if_neg refused]
    rw [not_or, Bool.not_eq_false, Bool.not_eq_true] at refused
    obtain ⟨connected, idle⟩ := refused
    cases choice with
    | handed =>
        have carries := handedOnlyIfOpen rfl
        have stillCarries : (pvt.started clock).ws.carries = true := carries
        rw [finishSend, if_pos stillCarries, exists_some_iff]
        simp [TruthfulEnd, SendNext.result, carries]
    | negative =>
        -- the caller is told that the message is on its way
        rw [finishSend, exists_some_iff]
        simp [TruthfulEnd, SendNext.result, connected, idle]
    | thrown =>
        rw [finishSend, exists_some_iff, truthfulEnd_failed_iff,
          sameRequestFields_failed_iff idle]
        simp [connected, idle]
    | emptyRequest =>
        rw [finishSend, exists_some_iff, truthfulEnd_failed_iff,
          sameRequestFields_failed_iff idle]
        simp [connected, idle]

/-- The fields of an open handle that has sent nothing yet. -/
def openedPvt : Pvt :=
  { Pvt.initial with ws := .opened, wsConnected := true, connFinished := true }

/-- The fields after its connection was closed by the server: `onclose` leaves
`ws_connected` set. -/
def closedPvt : Pvt :=
  { openedPvt with ws := .closed, wsClosed := true }

theorem sendsTruthfully_openedPvt : SendsTruthfully 1000 .handed openedPvt :=
  (sendsTruthfully_iff 1000 .handed openedPvt (fun _ => rfl)).mpr
    (Or.inr (Or.inr (Or.inl rfl)))

/-- A negative result on the closed connection is reported as a success. -/
theorem not_sendsTruthfully_closedPvt :
    ¬ SendsTruthfully 1000 .negative closedPvt := by
  rintro ⟨after, next, equation, truthful, -⟩
  cases equation
  have handed := truthful.mp rfl
  cases handed.1

end AliyunTts

end SpeechModules
