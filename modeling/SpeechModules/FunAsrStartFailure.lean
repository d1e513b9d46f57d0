import SpeechModules.ResourceLedger

/-!
# What a failed `start_asr` leaves behind

All failures of `start_funasr_session_function` go to one label that calls
`destroy` if a status variable says so.  `destroy` was written for a session that
runs: it waits until the session hangs up before it releases anything.
-/

namespace SpeechModules

namespace FunAsr

namespace StartFailure

inductive Resource where
  | pool
  | writeMutex
  | audioQueue
  | cond
  | bug
  deriving DecidableEq

/-- The answers of the libraries during one call, in the order of the source.
`switch_core_alloc` does not fail. -/
structure Environment where
  poolCreated : Bool
  mutexCreated : Bool
  queueCreated : Bool
  condCreated : Bool
  bugAdded : Bool
  threadCreated : Bool
  deriving DecidableEq

/-- The session that `start_asr` builds up: what it holds, whether the channel's
private value `funasr_mod` refers to it, whether it is marked as hung up and
whether its sender thread runs. -/
structure State where
  ledger : Ledger Resource
  isPrivate : Bool
  hangup : Bool
  threadRuns : Bool

/-- The application returns, or it enters a wait that nobody ends.  Only the media
bug's close callback signals the condition, and a call that fails before the bug
has been added has not even created the condition it waits on. -/
inductive Outcome where
  | returned (state : State)
  | waiting (state : State)

def State.acquire (resource : Resource) (state : State) : State :=
  { state with ledger := state.ledger.acquire resource }

/-- The order in which `destroy` releases. -/
def destroyOrder : List Resource :=
  [.audioQueue, .writeMutex, .cond, .pool]

/-- `destroy`. -/
def destroy (state : State) : Outcome :=
  if state.hangup = false ∧ Resource.bug ∉ state.ledger.held then
    .waiting state
  else
    .returned { state with
      ledger := Ledger.releaseAll destroyOrder state.ledger }

/-- The `INIT` callback: a thread that cannot be created is only logged. -/
def mediabugInit (environment : Environment) (state : State) : State :=
  if state.hangup = false then
    { state with threadRuns := environment.threadCreated }
  else state

/-- `start_funasr_session_function` with its argument present.  Adding the media
bug runs the `INIT` callback; if it fails the status is left as it is. -/
def startFunasrSession (environment : Environment) : Outcome :=
  let start : State := ⟨.empty, false, false, false⟩
  if environment.poolCreated = false then .returned start
  else
    let state := start.acquire .pool
    if environment.mutexCreated = false then destroy state
    else
      let state := state.acquire .writeMutex
      if environment.queueCreated = false then destroy state
      else
        let state := state.acquire .audioQueue
        if environment.condCreated = false then destroy state
        else
          let state := { state.acquire .cond with isPrivate := true }
          if environment.bugAdded = false then .returned state
          else .returned (mediabugInit environment (state.acquire .bug))

/-- Some step of the call fails. -/
def Environment.Fails (environment : Environment) : Prop :=
  environment.poolCreated = false ∨ environment.mutexCreated = false ∨
    environment.queueCreated = false ∨ environment.condCreated = false ∨
    environment.bugAdded = false ∨ environment.threadCreated = false

/-- The application has returned, everything it acquired has been released once
and the channel does not refer to the session. -/
def Undone : Outcome → Prop
  | .returned state => state.ledger.Settled ∧ state.isPrivate = false
  | .waiting _ => False

/-- A session without a media bug is never hung up. -/
theorem destroy_eq_waiting {state : State} (running : state.hangup = false)
    (noBug : Resource.bug ∉ state.ledger.held) :
    destroy state = .waiting state :=
  if_pos ⟨running, noBug⟩

theorem mediabugInit_ledger (environment : Environment) (state : State) :
    (mediabugInit environment state).ledger = state.ledger := by
  unfold mediabugInit
  split <;> rfl

/-- A call that comes past the pool is not undone. -/
theorem not_undone_of_poolCreated {environment : Environment}
    (created : ¬ environment.poolCreated = false) :
    ¬ Undone (startFunasrSession environment) := by
  unfold startFunasrSession
  rw [if_neg created]
  by_cases noMutex : environment.mutexCreated = false
  · rw [if_pos noMutex, destroy_eq_waiting rfl (by decide)]
    exact id
  rw [if_neg noMutex]
  by_cases noQueue : environment.queueCreated = false
  · rw [if_pos noQueue, destroy_eq_waiting rfl (by decide)]
    exact id
  rw [if_neg noQueue]
  by_cases noCond : environment.condCreated = false
  · rw [if_pos noCond, destroy_eq_waiting rfl (by decide)]
    exact id
  rw [if_neg noCond]
  by_cases noBug : environment.bugAdded = false
  · -- the status still says success, so nothing is destroyed
    rw [if_pos noBug]
    rintro ⟨-, notPrivate⟩
    cases notPrivate
  · rw [if_neg noBug]
    rintro ⟨settled, -⟩
    rw [mediabugInit_ledger] at settled
    exact Ledger.not_settled_of_mem List.mem_cons_self settled

/-- Whatever step fails, the call is undone. -/
def UndoesFailure (environment : Environment) : Prop :=
  environment.Fails → Undone (startFunasrSession environment)

/-- A failure is undone only if it happens at the first step. -/
theorem undoesFailure_iff (environment : Environment) :
    UndoesFailure environment ↔
      environment.poolCreated = false ∨ ¬ environment.Fails := by
  constructor
  · intro undoes
    by_cases fails : environment.Fails
    · left
      by_contra created
      exact not_undone_of_poolCreated created (undoes fails)
    · exact Or.inr fails
  · rintro (noPool | succeeds) fails
    · rw [startFunasrSession, if_pos noPool]
      exact ⟨Ledger.settled_empty, rfl⟩
    · exact absurd fails succeeds

/-- The media bug cannot be added. -/
def bugFails : Environment where
  poolCreated := true
  mutexCreated := true
  queueCreated := true
  condCreated := true
  bugAdded := false
  threadCreated := true

/-- The application returns with everything still held. -/
theorem not_undoesFailure_bugFails : ¬ UndoesFailure bugFails := by
  intro undoes
  have undone := undoes (by simp [Environment.Fails, bugFails])
  cases undone.2

end StartFailure

end FunAsr

end SpeechModules
