import SpeechModules.ResourceLedger

/-!
# What a failed `aliyuntts_speech_open` leaves behind

The call acquires its resources one after the other and undoes them through
`destroy`, which finds them through the fields of `pvt`.  The field of the memory
pool is filled in late, the channel's private data are never reset, and the
websocket is dropped without waiting for its event loop.
-/

namespace SpeechModules

namespace AliyunTts

namespace OpenFailure

inductive Resource where
  | pool
  | mtx
  | cv
  | mtxForClose
  | cvForClose
  | ws
  | audioBuffer
  | pcmFile
  | ttsTextQueue
  deriving DecidableEq

inductive Connection where
  | opened
  | refused
  | timedOut
  deriving DecidableEq

/-- The answers of the libraries during one call.  `pcmOpened` says that
recording is enabled and its file could be opened; `callbackRunning` says that
the event loop is inside one of the callbacks when `destroy` drops the
websocket. -/
structure Environment where
  poolCreated : Bool
  structAllocated : Bool
  bufferCreated : Bool
  queueCreated : Bool
  tokenObtained : Bool
  pcmOpened : Bool
  connection : Connection
  callbackRunning : Bool

/-- The channel's private value `aliyuntts_mod`, as far as the call is
concerned.  The structure of the call is a new object. -/
inductive PrivateValue where
  | asBefore
  | thisCall
  deriving DecidableEq

/-- What the call has acquired, which fields of `pvt` are filled in, the private
value and whether callbacks that hold `pvt` can run. -/
structure State where
  ledger : Ledger Resource
  fields : List Resource
  privateValue : PrivateValue
  callbacksAttached : Bool

def State.initial : State where
  ledger := .empty
  fields := []
  privateValue := .asBefore
  callbacksAttached := false

/-- Acquire a resource and keep it in its field. -/
def State.fill (resource : Resource) (state : State) : State :=
  { state with
    ledger := state.ledger.acquire resource
    fields := resource :: state.fields }

/-- The order in which `destroy` looks at the fields. -/
def destroyOrder : List Resource :=
  [.mtx, .cv, .mtxForClose, .cvForClose, .ws, .audioBuffer, .pcmFile,
    .ttsTextQueue, .pool]

/-- `destroy`: release what the fields hold.  Dropping the websocket detaches
its callbacks, except for one that is running. -/
def destroy (environment : Environment) (state : State) : State :=
  { state with
    ledger := Ledger.releaseAll
      (destroyOrder.filter fun resource => resource ∈ state.fields)
      state.ledger
    fields := []
    callbacksAttached :=
      state.callbacksAttached && environment.callbackRunning }

/-- `connect_ws`: the token, the recording file, the websocket with its
callbacks, and the wait for the connection. -/
def connectWs (environment : Environment) (state : State) : State × Bool :=
  if environment.tokenObtained = false then (state, false)
  else
    let state :=
      if environment.pcmOpened then state.fill .pcmFile else state
    ({ state.fill .ws with callbacksAttached := true },
      decide (environment.connection = .opened))

/-- The state before the first step that can fail after the allocations: the
pool is held by a local variable only. -/
def allocated : State :=
  { State.initial with ledger := Ledger.empty.acquire .pool }

/-- The mutexes and condition variables. -/
def synchronised : State :=
  (((allocated.fill .mtx).fill .cv).fill .mtxForClose).fill .cvForClose

/-- The audio buffer, and the field of the pool. -/
def buffered : State :=
  { synchronised.fill .audioBuffer with
    fields := .pool :: (synchronised.fill .audioBuffer).fields }

/-- The text queue, and the private value. -/
def published : State :=
  { buffered.fill .ttsTextQueue with privateValue := .thisCall }

/-- `aliyuntts_speech_open` up to the start of its thread, with its result. -/
def speechOpen (environment : Environment) : State × Bool :=
  if environment.poolCreated = false then (.initial, false)
  else if environment.structAllocated = false then
    ({ allocated with ledger := allocated.ledger.release .pool }, false)
  else if environment.bufferCreated = false then
    (destroy environment synchronised, false)
  else if environment.queueCreated = false then
    (destroy environment buffered, false)
  else
    let connected := connectWs environment published
    if connected.2 then (connected.1, true)
    else (destroy environment connected.1, false)

/-- Everything acquired has been released once, the private value is the old one
and no callback can use `pvt`. -/
def LeavesNothing (state : State) : Prop :=
  state.ledger.Settled ∧ state.privateValue = .asBefore ∧
    state.callbacksAttached = false

/-- The pool is not in its field while the audio buffer is being created. -/
theorem not_settled_synchronised (environment : Environment) :
    ¬ (destroy environment synchronised).ledger.Settled := by
  apply Ledger.not_settled_of_mem
  apply @Ledger.mem_releaseAll _ _ _ _ Resource.pool
  · decide
  · decide

theorem settled_buffered (environment : Environment) :
    (destroy environment buffered).ledger.Settled := by
  apply Ledger.releaseAll_settled
  · decide
  · rfl

/-- `destroy` does not look at the channel. -/
theorem connectWs_privateValue (environment : Environment) :
    (destroy environment (connectWs environment published).1).privateValue =
      .thisCall := by
  unfold connectWs
  split
  · rfl
  · split <;> rfl

/-- A failed call leaves nothing behind exactly when it fails at the pool, at
the structure or at the text queue. -/
theorem speechOpen_leavesNothing_iff (environment : Environment)
    (failed : (speechOpen environment).2 = false) :
    LeavesNothing (speechOpen environment).1 ↔
      environment.poolCreated = false ∨
        environment.structAllocated = false ∨
        (environment.bufferCreated = true ∧
          environment.queueCreated = false) := by
  unfold speechOpen at failed ⊢
  by_cases noPool : environment.poolCreated = false
  · rw [if_pos noPool]
    simp only [noPool, true_or, iff_true]
    exact ⟨Ledger.settled_empty, rfl, rfl⟩
  rw [if_neg noPool] at failed ⊢
  by_cases noStruct : environment.structAllocated = false
  · rw [if_pos noStruct]
    simp only [noStruct, true_or, or_true, iff_true]
    exact ⟨⟨rfl, rfl⟩, rfl, rfl⟩
  rw [if_neg noStruct] at failed ⊢
  by_cases noBuffer : environment.bufferCreated = false
  · rw [if_pos noBuffer]
    constructor
    · intro leaves
      exact absurd leaves.1 (not_settled_synchronised environment)
    · rintro (poolFailed | structFailed | ⟨created, -⟩)
      · exact absurd poolFailed noPool
      · exact absurd structFailed noStruct
      · rw [noBuffer] at created
        cases created
  rw [if_neg noBuffer] at failed ⊢
  by_cases noQueue : environment.queueCreated = false
  · rw [if_pos noQueue]
    constructor
    · intro _
      exact Or.inr (Or.inr ⟨(Bool.not_eq_false _).mp noBuffer, noQueue⟩)
    · intro _
      exact ⟨settled_buffered environment, rfl, rfl⟩
  · rw [if_neg noQueue] at failed ⊢
    have notConnected : (connectWs environment published).2 = false := by
      by_contra connected
      rw [Bool.not_eq_false] at connected
      simp only [connected, if_true] at failed
      cases failed
    simp only [notConnected, Bool.false_eq_true, if_false]
    constructor
    · rintro ⟨-, unchanged, -⟩
      rw [connectWs_privateValue] at unchanged
      cases unchanged
    · rintro (poolFailed | structFailed | ⟨-, queueFailed⟩)
      · exact absurd poolFailed noPool
      · exact absurd structFailed noStruct
      · exact absurd queueFailed noQueue

/-- The text queue cannot be created. -/
def queueFails : Environment where
  poolCreated := true
  structAllocated := true
  bufferCreated := true
  queueCreated := false
  tokenObtained := true
  pcmOpened := false
  connection := .opened
  callbackRunning := false

/-- The server does not answer. -/
def connectTimesOut : Environment :=
  { queueFails with queueCreated := true, connection := .timedOut }

theorem queueFails_leavesNothing : LeavesNothing (speechOpen queueFails).1 :=
  (speechOpen_leavesNothing_iff queueFails rfl).mpr
    (Or.inr (Or.inr ⟨rfl, rfl⟩))

/-- After a failed connection the channel still refers to the destroyed
structure. -/
theorem connectTimesOut_leavesPrivate :
    (speechOpen connectTimesOut).2 = false ∧
      ¬ LeavesNothing (speechOpen connectTimesOut).1 := by
  refine ⟨rfl, ?_⟩
  rintro ⟨-, unchanged, -⟩
  cases unchanged

end OpenFailure

end AliyunTts

end SpeechModules
