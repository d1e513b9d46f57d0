import SpeechModules.StepSystem

/-!
# The token cache

`getToken` hands out one access token to all synthesis handles.  A caller reads
the clock on entry and takes the cached token if it is good for more than an
hour; otherwise it takes the module's mutex, looks again and, if there is less
than an hour left, asks for a new token with `CreateToken`.

Any number of callers run at the same time, each a program counter over the
single accesses of the source.  The main result is that a caller only asks if
nobody has been given a new token since it entered.
-/

namespace SpeechModules

namespace AliyunToken

open StepSystem

/-! ## Callers and their steps -/

/-- Positions inside `getToken`. -/
inductive TokenPc where
  | check
  | lock
  | checkLocked
  | apply
  | storeToken (token : String) (expireTime : Int)
  | storeExpireTime (expireTime : Int)
  | unlock
  | read
  | returned (token : String)
  deriving DecidableEq

/-- A call of `getToken` with its clock reading.  The last two fields are notes
of an observer: how many successful replies there had been when the caller
entered and when it took the mutex. -/
structure Caller where
  now : Int
  pc : TokenPc
  enteredAfter : Nat
  lockedAfter : Option Nat
  deriving DecidableEq

/-- The token part of `globals` with the callers.  `mutex` is the caller that
holds the mutex.  The observer keeps the successful replies in order, and how
many of them have reached `globals.token`. -/
structure State where
  token : String
  tokenExpireTime : Int
  mutex : Option Nat
  callers : List Caller
  replies : List (String × Int)
  stored : Nat

/-- No caller yet, with any token in the cache. -/
def State.initial (token : String) (tokenExpireTime : Int) : State where
  token := token
  tokenExpireTime := tokenExpireTime
  mutex := none
  callers := []
  replies := []
  stored := 0

/-- The caller goes on. -/
def State.put (state : State) (index : Nat) (caller : Caller) : State :=
  { state with callers := state.callers.set index caller }

/-- One access of a caller.  `reply` is what `AccessToken::apply` obtains, a
token and its expire time, or nothing if it throws; without a token in the
answer the expire time stays 0. -/
def State.callerStep (state : State) (index : Nat) (caller : Caller)
    (reply : Option (String × Int)) : Option State :=
  match caller.pc with
  | .check =>
      some (state.put index { caller with
        pc := if state.tokenExpireTime - caller.now > 3600 then .read
          else .lock })
  | .lock =>
      match state.mutex with
      | some _ => none
      | none =>
          some ({ state with mutex := some index }.put index { caller with
            pc := .checkLocked
            lockedAfter := some state.replies.length })
  | .checkLocked =>
      some (state.put index { caller with
        pc := if state.tokenExpireTime - caller.now < 3600 then .apply
          else .unlock })
  | .apply =>
      match reply with
      | none => some (state.put index { caller with pc := .unlock })
      | some (token, expireTime) =>
          if expireTime > 0 then
            some ({ state with
              replies := state.replies ++ [(token, expireTime)] }.put index
                { caller with pc := .storeToken token expireTime })
          else some (state.put index { caller with pc := .unlock })
  | .storeToken token expireTime =>
      some ({ state with token := token, stored := state.stored + 1 }.put index
        { caller with pc := .storeExpireTime expireTime })
  | .storeExpireTime expireTime =>
      some ({ state with tokenExpireTime := expireTime }.put index
        { caller with pc := .unlock })
  | .unlock =>
      some ({ state with mutex := none }.put index { caller with pc := .read })
  | .read =>
      some (state.put index { caller with pc := .returned state.token })
  | .returned _ => none

inductive Action where
  | enter (now : Int)
  | callerStep (index : Nat) (reply : Option (String × Int))

def State.step (state : State) : Action → Option State
  | .enter now =>
      some { state with
        callers := state.callers ++
          [⟨now, .check, state.replies.length, none⟩] }
  | .callerStep index reply =>
      state.callers[index]?.bind fun caller =>
        state.callerStep index caller reply

/-! ## The property -/

/-- A caller that is about to ask for a token has seen no successful reply since
it entered, and a caller that took the mutex after some successful replies
returns the token of the last of them or of a later one. -/
def SingleFlight (state : State) : Prop :=
  ∀ caller ∈ state.callers,
    (caller.pc = .apply → caller.enteredAfter = state.replies.length) ∧
    ∀ token refreshes, caller.pc = .returned token →
      caller.lockedAfter = some refreshes → 0 < refreshes →
        ∃ position, refreshes ≤ position + 1 ∧
          (state.replies[position]?).map Prod.fst = some token

/-- Every successful reply is good for an hour after the clock reading of every
caller that has entered. -/
def repliesLast (state : State) : Action → Bool
  | .enter _ => true
  | .callerStep index reply =>
      match (state.callers[index]?).map Caller.pc, reply with
      | some .apply, some (_, expireTime) =>
          expireTime ≤ 0 || state.callers.all fun caller =>
            decide (expireTime - caller.now ≥ 3600)
      | _, _ => true

/-! ## The invariant -/

/-- The positions at which a caller holds the mutex. -/
def TokenPc.locked : TokenPc → Bool
  | .checkLocked | .apply | .storeToken _ _ | .storeExpireTime _ | .unlock =>
      true
  | _ => false

/-- Nothing of the last successful reply is left to be stored. -/
structure State.Settled (state : State) : Prop where
  stored : state.stored = state.replies.length
  expireTime : ∀ reply, state.replies.getLast? = some reply →
    state.tokenExpireTime = reply.2

/-- What the holder of the mutex has done so far. -/
def State.Progress (state : State) (caller : Caller) : TokenPc → Prop
  | .checkLocked | .unlock => state.Settled
  | .apply =>
      state.Settled ∧ caller.enteredAfter = state.replies.length
  | .storeToken token expireTime =>
      state.replies.getLast? = some (token, expireTime) ∧
        state.stored + 1 = state.replies.length
  | .storeExpireTime expireTime =>
      (∃ token, state.replies.getLast? = some (token, expireTime)) ∧
        state.stored = state.replies.length
  | _ => True

structure CallerRun (state : State) (caller : Caller) : Prop where
  /-- The last reply covers every caller that entered before it. -/
  covered : caller.enteredAfter < state.replies.length →
    ∃ reply, state.replies.getLast? = some reply ∧
      caller.now + 3600 ≤ reply.2
  entered : caller.enteredAfter ≤ state.replies.length
  locked : ∀ refreshes, caller.lockedAfter = some refreshes →
    refreshes ≤ state.stored
  returned : ∀ token refreshes, caller.pc = .returned token →
    caller.lockedAfter = some refreshes → 0 < refreshes →
      ∃ position, refreshes ≤ position + 1 ∧
        (state.replies[position]?).map Prod.fst = some token

structure TokenRun (state : State) : Prop where
  settled : state.mutex = none → state.Settled
  stored : state.stored ≤ state.replies.length
  token : 0 < state.stored →
    (state.replies[state.stored - 1]?).map Prod.fst = some state.token
  callers : ∀ caller ∈ state.callers, CallerRun state caller
  holder : ∀ (index : Nat) (caller : Caller),
    state.callers[index]? = some caller → caller.pc.locked = true →
      state.mutex = some index ∧ state.Progress caller caller.pc

theorem TokenRun.singleFlight {state : State} (run : TokenRun state) :
    SingleFlight state := by
  intro caller member
  refine ⟨fun here => ?_, (run.callers caller member).returned⟩
  obtain ⟨index, located⟩ := List.mem_iff_getElem?.mp member
  obtain ⟨_, progress⟩ := run.holder index caller located (by rw [here]; rfl)
  rw [here] at progress
  exact progress.2

section Steps

variable {before after : State} {index : Nat} {caller caller' : Caller}

/-- Facts about a caller survive while nobody is given a token and what has been
stored stays. -/
theorem CallerRun.of_grown (run : CallerRun before caller)
    (sameReplies : after.replies = before.replies)
    (stored : before.stored ≤ after.stored) : CallerRun after caller := by
  refine ⟨?_, ?_, fun refreshes noted => ?_, ?_⟩
  · rw [sameReplies]
    exact run.covered
  · rw [sameReplies]
    exact run.entered
  · exact Nat.le_trans (run.locked refreshes noted) stored
  · rw [sameReplies]
    exact run.returned

/-- A successful reply that covers the caller. -/
theorem CallerRun.of_reply {token : String} {expireTime : Int}
    (run : CallerRun before caller)
    (covers : caller.now + 3600 ≤ expireTime)
    (replied : after.replies = before.replies ++ [(token, expireTime)])
    (sameStored : after.stored = before.stored) : CallerRun after caller := by
  refine ⟨fun _ => ⟨(token, expireTime), ?_, covers⟩, ?_,
    fun refreshes noted => ?_,
    fun found refreshes here noted positive => ?_⟩
  · rw [replied, List.getLast?_concat]
  · rw [replied, List.length_append]
    exact Nat.le_trans run.entered (Nat.le_add_right _ _)
  · rw [sameStored]
    exact run.locked refreshes noted
  · obtain ⟨position, later, isToken⟩ :=
      run.returned found refreshes here noted positive
    obtain ⟨reply, located, rfl⟩ := Option.map_eq_some_iff.mp isToken
    have inside : position < before.replies.length :=
      (List.getElem?_eq_some_iff.mp located).1
    refine ⟨position, later, ?_⟩
    rw [replied, List.getElem?_append_left inside, isToken]

/-- The notes of a caller stay good while it moves on without returning. -/
theorem CallerRun.goto (run : CallerRun before caller) {pc : TokenPc}
    (running : ∀ token, pc ≠ .returned token) :
    CallerRun before { caller with pc := pc } :=
  ⟨run.covered, run.entered, run.locked,
    fun token _ here => absurd here (running token)⟩

theorem State.Settled.withCallers (settled : before.Settled)
    (callers : List Caller) : State.Settled { before with callers := callers } :=
  ⟨settled.stored, settled.expireTime⟩

theorem State.Progress.withCallers {pc : TokenPc}
    (progress : before.Progress caller pc) (callers : List Caller) :
    State.Progress { before with callers := callers } caller pc := by
  cases pc with
  | checkLocked => exact State.Settled.withCallers progress callers
  | unlock => exact State.Settled.withCallers progress callers
  | apply => exact ⟨progress.1.withCallers callers, progress.2⟩
  | _ => exact progress

/-- A caller moves on.  Either it changes nothing that is shared, or nobody else
holds the mutex. -/
theorem TokenRun.put {shared : State} (run : TokenRun before)
    (sameCallers : shared.callers = before.callers)
    (settled : shared.mutex = none → shared.Settled)
    (stored : shared.stored ≤ shared.replies.length)
    (token : 0 < shared.stored →
      (shared.replies[shared.stored - 1]?).map Prod.fst = some shared.token)
    (kept : ∀ other ∈ before.callers, CallerRun shared other)
    (moved : CallerRun shared caller')
    (holds : caller'.pc.locked = true →
      shared.mutex = some index ∧ shared.Progress caller' caller'.pc)
    (alone : shared = before ∨ before.mutex = none ∨
      before.mutex = some index) :
    TokenRun (shared.put index caller') := by
  refine ⟨fun free => ?_, stored, token, fun other member => ?_,
    fun position other located locked => ?_⟩
  · exact (settled free).withCallers _
  · have same : CallerRun shared other := by
      rcases List.mem_or_eq_of_mem_set member with old | rfl
      · exact kept other (sameCallers ▸ old)
      · exact moved
    exact ⟨same.covered, same.entered, same.locked, same.returned⟩
  · change (shared.callers.set index caller')[position]? = some other at located
    by_cases here : index = position
    · subst here
      have isMoved : caller' = other := by
        obtain ⟨inside, isOther⟩ := List.getElem?_eq_some_iff.mp located
        simpa using isOther
      subst isMoved
      obtain ⟨held, progress⟩ := holds locked
      exact ⟨held, progress.withCallers _⟩
    · rw [List.getElem?_set_ne here, sameCallers] at located
      obtain ⟨held, progress⟩ := run.holder position other located locked
      rcases alone with rfl | free | mine
      · exact ⟨held, progress.withCallers _⟩
      · rw [free] at held
        cases held
      · rw [mine] at held
        exact absurd (Option.some.inj held) here

/-- The holder of the mutex changes what is shared and moves on. -/
theorem TokenRun.advance {shared : State} {pc : TokenPc} (run : TokenRun before)
    (located : before.callers[index]? = some caller)
    (held : before.mutex = some index)
    (running : ∀ token, pc ≠ .returned token)
    (sameCallers : shared.callers = before.callers)
    (settled : shared.mutex = none → shared.Settled)
    (stored : shared.stored ≤ shared.replies.length)
    (token : 0 < shared.stored →
      (shared.replies[shared.stored - 1]?).map Prod.fst = some shared.token)
    (kept : ∀ other ∈ before.callers, CallerRun shared other)
    (holds : pc.locked = true → shared.mutex = some index ∧
      shared.Progress { caller with pc := pc } pc) :
    TokenRun (shared.put index { caller with pc := pc }) := by
  have member := List.mem_of_getElem? located
  exact run.put sameCallers settled stored token kept
    ((kept caller member).goto running) holds (.inr (.inr held))

/-- The caller moves on without touching what is shared. -/
theorem TokenRun.goto (run : TokenRun before) {pc : TokenPc}
    (located : before.callers[index]? = some caller)
    (running : ∀ token, pc ≠ .returned token)
    (holds : pc.locked = true →
      before.mutex = some index ∧ before.Progress caller pc) :
    TokenRun (before.put index { caller with pc := pc }) := by
  have member := List.mem_of_getElem? located
  refine run.put rfl run.settled run.stored run.token run.callers
    ((run.callers caller member).goto running) (fun locked => ?_) (.inl rfl)
  obtain ⟨held, progress⟩ := holds locked
  refine ⟨held, ?_⟩
  cases pc <;> exact progress

/-- The holder of the mutex finds that no token has come since it entered, or
has nothing to ask for. -/
theorem TokenRun.checkLocked (run : TokenRun before)
    (located : before.callers[index]? = some caller)
    (held : before.mutex = some index) (settled : before.Settled) :
    TokenRun (before.put index { caller with
      pc := if before.tokenExpireTime - caller.now < 3600 then .apply
        else .unlock }) := by
  have own := run.callers caller (List.mem_of_getElem? located)
  split
  next soon =>
    refine run.goto located (fun _ => nofun) fun _ => ⟨held, settled, ?_⟩
    -- a reply since the entry would still be good for an hour
    refine Nat.le_antisymm own.entered (Nat.le_of_not_lt fun refreshed => ?_)
    obtain ⟨last, isLast, covers⟩ := own.covered refreshed
    have expires := settled.expireTime last isLast
    omega
  next => exact run.goto located (fun _ => nofun) fun _ => ⟨held, settled⟩

/-- A new token that is good for an hour for everybody who has entered. -/
theorem TokenRun.applySucceeds {token : String} {expireTime : Int}
    (run : TokenRun before) (located : before.callers[index]? = some caller)
    (held : before.mutex = some index) (settled : before.Settled)
    (covers : ∀ other ∈ before.callers, 3600 ≤ expireTime - other.now) :
    TokenRun ({ before with
      replies := before.replies ++ [(token, expireTime)] }.put index
        { caller with pc := .storeToken token expireTime }) := by
  refine run.advance located held (fun _ => nofun) rfl ?_ ?_ ?_ ?_ ?_
  · exact fun free => nomatch held.symm.trans free
  · simpa using Nat.le_succ_of_le run.stored
  · intro some
    have inside : before.stored - 1 < before.replies.length := by
      have := run.stored
      simp only at some
      omega
    change ((before.replies ++ _)[before.stored - 1]?).map _ = _
    rw [List.getElem?_append_left inside]
    exact run.token some
  · intro other isOther
    have covered : other.now + 3600 ≤ expireTime := by
      have long := covers other isOther
      omega
    exact (run.callers other isOther).of_reply covered rfl rfl
  · refine fun _ => ⟨held, ?_, ?_⟩
    · exact List.getLast?_concat
    · simp [settled.stored]

theorem TokenRun.storeToken {token : String} {expireTime : Int}
    (run : TokenRun before) (located : before.callers[index]? = some caller)
    (held : before.mutex = some index)
    (last : before.replies.getLast? = some (token, expireTime))
    (isLast : before.stored + 1 = before.replies.length) :
    TokenRun ({ before with
      token := token
      stored := before.stored + 1 }.put index
        { caller with pc := .storeExpireTime expireTime }) := by
  refine run.advance located held (fun _ => nofun) rfl ?_ ?_ ?_ ?_ ?_
  · exact fun free => nomatch held.symm.trans free
  · exact Nat.le_of_eq isLast
  · intro _
    have position : before.stored = before.replies.length - 1 := by omega
    change (before.replies[before.stored]?).map Prod.fst = some token
    rw [position, ← List.getLast?_eq_getElem?, last]
    rfl
  · exact fun other isOther =>
      (run.callers other isOther).of_grown rfl (Nat.le_succ _)
  · exact fun _ => ⟨held, ⟨token, last⟩, isLast⟩

theorem TokenRun.callerStep {reply : Option (String × Int)}
    (run : TokenRun before) (located : before.callers[index]? = some caller)
    (permitted : repliesLast before (.callerStep index reply) = true)
    (stepped : before.callerStep index caller reply = some after) :
    TokenRun after := by
  have member := List.mem_of_getElem? located
  have own := run.callers caller member
  have holds := run.holder index caller located
  cases here : caller.pc <;> simp only [State.callerStep, here] at stepped holds
  case check =>
    cases stepped
    split
    next => exact run.goto located (fun _ => nofun) nofun
    next => exact run.goto located (fun _ => nofun) nofun
  case lock =>
    cases free : before.mutex <;> simp only [free] at stepped
    case some => cases stepped
    cases stepped
    have settled := run.settled free
    refine run.put rfl nofun run.stored run.token ?_ ?_ ?_ (.inr (.inl free))
    · intro other isOther
      exact (run.callers other isOther).of_grown rfl (Nat.le_refl _)
    · refine ⟨own.covered, own.entered, fun refreshes noted => ?_,
        fun _ _ => nofun⟩
      cases noted
      exact Nat.le_of_eq settled.stored.symm
    · exact fun _ => ⟨rfl, settled.stored, settled.expireTime⟩
  case checkLocked =>
    cases stepped
    obtain ⟨held, settled⟩ := holds rfl
    exact run.checkLocked located held settled
  case apply =>
    obtain ⟨held, settled, _⟩ := holds rfl
    split at stepped
    next =>
      cases stepped
      exact run.goto located (fun _ => nofun) fun _ => ⟨held, settled⟩
    next token expireTime =>
      split at stepped
      next positive =>
        cases stepped
        apply run.applySucceeds located held settled
        simpa [repliesLast, located, here, Int.not_le.mpr positive]
          using permitted
      next =>
        cases stepped
        exact run.goto located (fun _ => nofun) fun _ => ⟨held, settled⟩
  case storeToken token expireTime =>
    cases stepped
    obtain ⟨held, last, isLast⟩ := holds rfl
    exact run.storeToken located held last isLast
  case storeExpireTime expireTime =>
    cases stepped
    obtain ⟨held, ⟨token, last⟩, stored⟩ := holds rfl
    have settled :
        State.Settled { before with tokenExpireTime := expireTime } := by
      refine ⟨stored, fun reply isLast => ?_⟩
      rw [last] at isLast
      cases isLast
      rfl
    refine run.advance located held (fun _ => nofun) rfl (fun _ => settled)
      run.stored run.token ?_ ?_
    · exact fun other isOther =>
        (run.callers other isOther).of_grown rfl (Nat.le_refl _)
    · exact fun _ => ⟨held, settled⟩
  case unlock =>
    cases stepped
    obtain ⟨held, settled⟩ := holds rfl
    refine run.advance located held (fun _ => nofun) rfl ?_ run.stored
      run.token ?_ nofun
    · exact fun _ => ⟨settled.stored, settled.expireTime⟩
    · exact fun other isOther =>
        (run.callers other isOther).of_grown rfl (Nat.le_refl _)
  case read =>
    cases stepped
    refine run.put rfl run.settled run.stored run.token run.callers ?_ nofun
      (.inl rfl)
    refine ⟨own.covered, own.entered, own.locked, ?_⟩
    intro token refreshes isToken noted positive
    cases isToken
    have stored := own.locked refreshes noted
    exact ⟨before.stored - 1, by omega, run.token (by omega)⟩
  case returned token => cases stepped

theorem TokenRun.enter (run : TokenRun before) (now : Int) :
    TokenRun { before with
      callers := before.callers ++
        [⟨now, .check, before.replies.length, none⟩] } := by
  refine ⟨fun free => ?_, run.stored, run.token, fun caller member => ?_,
    fun index caller located locked => ?_⟩
  · exact (run.settled free).withCallers _
  · rcases List.mem_append.mp member with old | new
    · exact (run.callers caller old).of_grown rfl (Nat.le_refl _)
    · obtain rfl := List.mem_singleton.mp new
      exact ⟨fun later => absurd later (Nat.lt_irrefl _), Nat.le_refl _, nofun,
        fun _ _ => nofun⟩
  · change (before.callers ++ _)[index]? = some caller at located
    rw [List.getElem?_append] at located
    split at located
    next =>
      obtain ⟨held, progress⟩ := run.holder index caller located locked
      exact ⟨held, progress.withCallers _⟩
    next =>
      have isNew := List.mem_of_getElem? located
      obtain rfl := List.mem_singleton.mp isNew
      cases locked

theorem TokenRun.step {action : Action} (run : TokenRun before)
    (permitted : repliesLast before action = true)
    (stepped : before.step action = some after) : TokenRun after := by
  cases action with
  | enter now =>
      cases stepped
      exact run.enter now
  | callerStep index reply =>
      obtain ⟨caller, located, moved⟩ := Option.bind_eq_some_iff.mp stepped
      exact run.callerStep located permitted moved

end Steps

/-- In every run whose successful replies are good for an hour for all callers
that have entered, only a caller without a new token since its entry asks for
one, and no caller that waits for a refresh returns an older token. -/
theorem singleFlight_of_repliesLast (token : String) (tokenExpireTime : Int)
    {state : State}
    (reached : PermittedReach State.step
      (fun state action => repliesLast state action = true)
      (State.initial token tokenExpireTime) state) :
    SingleFlight state := by
  have run : TokenRun state :=
    reached.invariant
      ⟨fun _ => ⟨rfl, nofun⟩, Nat.le_refl _, nofun, nofun, nofun⟩
      fun _ _ _ run permitted stepped => run.step permitted stepped
  exact run.singleFlight

/-- Two callers find no token; the second waits for the mutex until the first
has stored one that is good for exactly an hour. -/
def waitingCallerSchedule : List Action :=
  [Action.enter 100, Action.enter 100, Action.callerStep 0 none,
    Action.callerStep 1 none] ++
    List.replicate 2 (Action.callerStep 0 none) ++
    Action.callerStep 0 (some ("fresh", 3700)) ::
      List.replicate 4 (Action.callerStep 0 none) ++
    List.replicate 4 (Action.callerStep 1 none)

theorem singleFlight_waitingCallerSchedule :
    ∃ state, PermittedReach State.step
        (fun state action => repliesLast state action = true)
        (State.initial "" 0) state ∧
      (state.replies.length == 1 && state.callers.all fun caller =>
        caller.pc == .returned "fresh") = true ∧
      SingleFlight state := by
  obtain ⟨state, reached, passed⟩ :=
    exists_permittedReach_of_replay State.step (State.initial "" 0)
      waitingCallerSchedule
      (fun state => state.replies.length == 1 && state.callers.all
        fun caller => caller.pc == .returned "fresh")
      (fun state action => repliesLast state action = true)
      (by decide)
  exact ⟨state, reached, passed, singleFlight_of_repliesLast "" 0 reached⟩

end AliyunToken

end SpeechModules
