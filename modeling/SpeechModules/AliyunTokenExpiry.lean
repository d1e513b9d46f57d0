import SpeechModules.AliyunToken

/-!
# Expired tokens

`getToken` answers with whatever is in the cache after it has tried to refresh
it, so a refresh that fails hands out the old token, expired or not.  As long as
refreshes fail only while there is no token or one that is still good, every
answer is empty or good at the caller's clock reading, also while other callers
are storing a new token.
-/

namespace SpeechModules

namespace AliyunToken

open StepSystem

/-- The clock does not run backwards, and a new token expires in the future:
after every clock reading so far. -/
def timely (state : State) : Action → Bool
  | .enter now => state.callers.all fun caller => decide (caller.now ≤ now)
  | .callerStep index reply =>
      match (state.callers[index]?).map Caller.pc, reply with
      | some .apply, some (_, expireTime) =>
          expireTime ≤ 0 || state.callers.all fun caller =>
            decide (caller.now < expireTime)
      | _, _ => true

/-- An attempt to create a token fails only while the cache is empty or its
token is still good for the caller. -/
def failsHarmlessly (state : State) : Action → Bool
  | .enter _ => true
  | .callerStep index reply =>
      match state.callers[index]? with
      | none => true
      | some caller =>
          caller.pc != .apply || (reply.any fun answer => 0 < answer.2) ||
            state.token == "" || decide (caller.now < state.tokenExpireTime)

/-- Some reply gave the token with an expire time after the clock reading. -/
def State.GoodToken (state : State) (token : String) (now : Int) : Prop :=
  token = "" ∨ ∃ expireTime, (token, expireTime) ∈ state.replies ∧
    now < expireTime

/-- Every answer is empty or a token that was good when the caller read the
clock. -/
def NeverExpired (state : State) : Prop :=
  ∀ caller ∈ state.callers, ∀ token, caller.pc = .returned token →
    state.GoodToken token caller.now

/-! ## The invariant -/

/-- The cached token is the one of the cached expire time. -/
def State.InSync (state : State) : Prop :=
  state.token = "" ∨ (state.token, state.tokenExpireTime) ∈ state.replies

/-- The positions before the mutex. -/
def TokenPc.waiting : TokenPc → Bool
  | .check | .lock => true
  | _ => false

/-- The expire time of a reply that is being stored. -/
def TokenPc.inFlight : TokenPc → Option Int
  | .storeToken _ expireTime => some expireTime
  | .storeExpireTime expireTime => some expireTime
  | _ => none

/-- A reply that is being stored is good for a caller, unless the caller entered
later and has not come past the mutex. -/
def Caller.CoveredBy (caller holder : Caller) (expireTime : Int) : Prop :=
  caller.now < expireTime ∨
    (holder.now ≤ caller.now ∧ caller.pc.waiting = true)

/-- What is known of the shared fields while the mutex is held at a position. -/
def State.Holding (state : State) (holder : Caller) : TokenPc → Prop
  | .checkLocked => state.InSync
  | .apply => state.InSync ∧ state.tokenExpireTime - holder.now < 3600
  | .storeToken token expireTime =>
      state.InSync ∧ state.tokenExpireTime - holder.now < 3600 ∧
        (token, expireTime) ∈ state.replies
  | .storeExpireTime expireTime =>
      state.tokenExpireTime - holder.now < 3600 ∧
        (state.token, expireTime) ∈ state.replies
  | .unlock => state.InSync ∧ state.GoodToken state.token holder.now
  | _ => True

structure FreshRun (state : State) : Prop where
  free : state.mutex = none → state.InSync
  held : ∀ index, state.mutex = some index →
    ∃ holder, state.callers[index]? = some holder ∧ holder.pc.locked = true
  holder : ∀ (index : Nat) (holder : Caller),
    state.callers[index]? = some holder → holder.pc.locked = true →
      state.mutex = some index ∧ state.Holding holder holder.pc
  covered : ∀ holder ∈ state.callers, ∀ expireTime,
    holder.pc.inFlight = some expireTime →
      ∀ caller ∈ state.callers, caller.CoveredBy holder expireTime
  reading : ∀ caller ∈ state.callers, caller.pc = .read →
    state.GoodToken state.token caller.now
  returned : NeverExpired state

section Steps

variable {before after shared : State} {index : Nat} {caller caller' : Caller}

theorem State.GoodToken.mono {token : String} {now : Int}
    (good : before.GoodToken token now)
    (grown : ∀ reply ∈ before.replies, reply ∈ after.replies) :
    after.GoodToken token now := by
  rcases good with empty | ⟨expireTime, member, later⟩
  · exact Or.inl empty
  · exact Or.inr ⟨expireTime, grown _ member, later⟩

theorem State.InSync.goodToken {now : Int} (sync : before.InSync)
    (later : before.token = "" ∨ now < before.tokenExpireTime) :
    before.GoodToken before.token now := by
  rcases later with empty | later
  · exact Or.inl empty
  · rcases sync with empty | member
    · exact Or.inl empty
    · exact Or.inr ⟨before.tokenExpireTime, member, later⟩

/-- A caller that finds more than an hour left gets a good token, also between
the two stores of a refresh. -/
theorem FreshRun.goodToken_of_check (run : FreshRun before)
    (member : caller ∈ before.callers)
    (left : before.tokenExpireTime - caller.now > 3600) :
    before.GoodToken before.token caller.now := by
  have later : before.token = "" ∨ caller.now < before.tokenExpireTime := by
    right
    omega
  cases lock : before.mutex with
  | none => exact (run.free lock).goodToken later
  | some index =>
      obtain ⟨holder, located, locked⟩ := run.held index lock
      obtain ⟨-, holding⟩ := run.holder index holder located locked
      cases here : holder.pc <;> rw [here] at holding locked
      case checkLocked => exact State.InSync.goodToken holding later
      case apply => exact holding.1.goodToken later
      case storeToken token expireTime => exact holding.1.goodToken later
      case storeExpireTime expireTime =>
        -- the old expire time is too short for callers that came after
        obtain ⟨short, stored⟩ := holding
        have covers := run.covered holder (List.mem_of_getElem? located)
          expireTime (by rw [here]; rfl) caller member
        rcases covers with good | ⟨entered, -⟩
        · exact Or.inr ⟨expireTime, stored, good⟩
        · omega
      case unlock => exact holding.1.goodToken later
      all_goals cases locked

theorem TokenPc.locked_of_inFlight {pc : TokenPc} {expireTime : Int}
    (inFlight : pc.inFlight = some expireTime) : pc.locked = true := by
  cases pc <;> cases inFlight <;> rfl

/-- Nobody else is inside the mutex while it is free or held by a caller. -/
theorem FreshRun.alone (run : FreshRun before)
    (mine : before.mutex = none ∨ before.mutex = some index)
    {position : Nat} {other : Caller} (different : position ≠ index)
    (found : before.callers[position]? = some other) :
    ¬ other.pc.locked = true := by
  intro locked
  have isTheirs := (run.holder position other found locked).1
  rcases mine with free | held
  · rw [free] at isTheirs
    cases isTheirs
  · rw [held] at isTheirs
    exact different (Option.some.inj isTheirs).symm

/-- A reply that is being stored replaces an expire time that is too short for
its holder. -/
theorem FreshRun.short_of_inFlight (run : FreshRun before)
    {holder : Caller} (member : holder ∈ before.callers) {expireTime : Int}
    (inFlight : holder.pc.inFlight = some expireTime) :
    before.tokenExpireTime - holder.now < 3600 := by
  obtain ⟨position, found⟩ := List.mem_iff_getElem?.mp member
  have holding := (run.holder position holder found
    (TokenPc.locked_of_inFlight inFlight)).2
  cases here : holder.pc <;> rw [here] at inFlight holding <;> cases inFlight
  · exact holding.2.1
  · exact holding.1

/-- A caller moves on.  The premises say what has to be known of the shared
fields after its access, of the caller itself and of the others. -/
theorem FreshRun.put (run : FreshRun before)
    (sameCallers : shared.callers = before.callers)
    (located : before.callers[index]? = some caller)
    (free : shared.mutex = none → shared.InSync)
    (lock : ∀ other, shared.mutex = some other →
      (other = index ∧ caller'.pc.locked = true) ∨
        (other ≠ index ∧ before.mutex = some other))
    (own : caller'.pc.locked = true →
      shared.mutex = some index ∧ shared.Holding caller' caller'.pc)
    (others : ∀ position other, position ≠ index →
      before.callers[position]? = some other → other.pc.locked = true →
        shared.mutex = some position ∧ shared.Holding other other.pc)
    (covers : ∀ expireTime, caller'.pc.inFlight = some expireTime →
      caller'.now < expireTime ∧
        ∀ other ∈ before.callers, other.CoveredBy caller' expireTime)
    (coveredByOthers : ∀ position holder expireTime, position ≠ index →
      before.callers[position]? = some holder →
        holder.pc.inFlight = some expireTime →
          caller'.CoveredBy holder expireTime)
    (reading : ∀ other ∈ before.callers, other.pc = .read →
      shared.GoodToken shared.token other.now)
    (ownReading : caller'.pc = .read →
      shared.GoodToken shared.token caller'.now)
    (grown : ∀ reply ∈ before.replies, reply ∈ shared.replies)
    (ownReturned : ∀ token, caller'.pc = .returned token →
      shared.GoodToken token caller'.now) :
    FreshRun (shared.put index caller') := by
  have inside : index < shared.callers.length := by
    rw [sameCallers]
    exact (List.getElem?_eq_some_iff.mp located).1
  have here : (shared.callers.set index caller')[index]? = some caller' :=
    List.getElem?_set_self inside
  have elsewhere : ∀ position, position ≠ index →
      (shared.callers.set index caller')[position]? =
        before.callers[position]? := by
    intro position different
    rw [List.getElem?_set_ne different.symm, sameCallers]
  have members : ∀ other ∈ shared.callers.set index caller',
      other = caller' ∨ ∃ position, position ≠ index ∧
        before.callers[position]? = some other := by
    intro other member
    obtain ⟨position, found⟩ := List.mem_iff_getElem?.mp member
    by_cases same : position = index
    · subst same
      left
      exact (Option.some.inj (here.symm.trans found)).symm
    · right
      exact ⟨position, same, (elsewhere position same).symm.trans found⟩
  refine ⟨free, ?_, ?_, ?_, ?_, ?_⟩
  · intro other isLocked
    rcases lock other isLocked with ⟨rfl, locked⟩ | ⟨different, wasLocked⟩
    · exact ⟨caller', here, locked⟩
    · obtain ⟨holder, found, locked⟩ := run.held other wasLocked
      exact ⟨holder, (elsewhere other different).trans found, locked⟩
  · intro position other found locked
    by_cases same : position = index
    · subst same
      obtain rfl := Option.some.inj (here.symm.trans found)
      exact own locked
    · exact others position other same
        ((elsewhere position same).symm.trans found) locked
  · intro holder holderMember expireTime inFlight other otherMember
    rcases members holder holderMember with rfl | ⟨position, different, found⟩
    · rcases members other otherMember with rfl | ⟨_, -, otherFound⟩
      · exact Or.inl (covers expireTime inFlight).1
      · exact (covers expireTime inFlight).2 other
          (List.mem_of_getElem? otherFound)
    · rcases members other otherMember with rfl | ⟨_, -, otherFound⟩
      · exact coveredByOthers position holder expireTime different found
          inFlight
      · exact run.covered holder (List.mem_of_getElem? found) expireTime
          inFlight other (List.mem_of_getElem? otherFound)
  · intro other member isReading
    rcases members other member with rfl | ⟨_, -, found⟩
    · exact ownReading isReading
    · exact reading other (List.mem_of_getElem? found) isReading
  · intro other member token isReturned
    rcases members other member with rfl | ⟨_, -, found⟩
    · exact ownReturned token isReturned
    · exact State.GoodToken.mono (run.returned other (List.mem_of_getElem? found) token
        isReturned) grown

/-- A caller outside the mutex moves on without touching what is shared. -/
theorem FreshRun.move {pc : TokenPc} (run : FreshRun before)
    (located : before.callers[index]? = some caller)
    (outside : caller.pc.locked = false) (stays : pc.locked = false)
    (covered : ∀ holder ∈ before.callers, ∀ expireTime,
      holder.pc.inFlight = some expireTime →
        Caller.CoveredBy { caller with pc := pc } holder expireTime)
    (ownReading : pc = .read → before.GoodToken before.token caller.now)
    (ownReturned : ∀ token, pc = .returned token →
      before.GoodToken token caller.now) :
    FreshRun (before.put index { caller with pc := pc }) := by
  apply run.put rfl located run.free
  · intro other isLocked
    obtain ⟨holder, found, locked⟩ := run.held other isLocked
    right
    refine ⟨?_, isLocked⟩
    rintro rfl
    obtain rfl := Option.some.inj (located.symm.trans found)
    rw [outside] at locked
    cases locked
  · intro locked
    rw [stays] at locked
    cases locked
  · intro position other _ found locked
    exact run.holder position other found locked
  · intro expireTime inFlight
    cases pc <;> cases inFlight <;> cases stays
  · intro position holder expireTime _ found inFlight
    exact covered holder (List.mem_of_getElem? found) expireTime inFlight
  · exact run.reading
  · exact ownReading
  · exact fun _ member => member
  · exact ownReturned

/-- Whoever has the mutex, or takes it while it is free, need not look at the
others. -/
theorem FreshRun.putAlone (run : FreshRun before)
    (mine : before.mutex = none ∨ before.mutex = some index)
    (sameCallers : shared.callers = before.callers)
    (located : before.callers[index]? = some caller)
    (free : shared.mutex = none → shared.InSync)
    (lock : ∀ other, shared.mutex = some other →
      other = index ∧ caller'.pc.locked = true)
    (own : caller'.pc.locked = true →
      shared.mutex = some index ∧ shared.Holding caller' caller'.pc)
    (covers : ∀ expireTime, caller'.pc.inFlight = some expireTime →
      caller'.now < expireTime ∧
        ∀ other ∈ before.callers, other.CoveredBy caller' expireTime)
    (reading : ∀ other ∈ before.callers, other.pc = .read →
      shared.GoodToken shared.token other.now)
    (ownReading : caller'.pc = .read →
      shared.GoodToken shared.token caller'.now)
    (grown : ∀ reply ∈ before.replies, reply ∈ shared.replies)
    (running : ∀ token, caller'.pc ≠ .returned token) :
    FreshRun (shared.put index caller') := by
  apply run.put sameCallers located free
  · intro other isLocked
    exact Or.inl (lock other isLocked)
  · exact own
  · intro position other different found locked
    exact absurd locked (run.alone mine different found)
  · exact covers
  · intro position holder expireTime different found inFlight
    exact absurd (TokenPc.locked_of_inFlight inFlight)
      (run.alone mine different found)
  · exact reading
  · exact ownReading
  · exact grown
  · intro token isReturned
    exact absurd isReturned (running token)

/-- The holder of the mutex changes what is shared and moves on. -/
theorem FreshRun.advance {pc : TokenPc} (run : FreshRun before)
    (located : before.callers[index]? = some caller)
    (inside : caller.pc.locked = true)
    (sameCallers : shared.callers = before.callers)
    (sameMutex : shared.mutex = before.mutex) (stays : pc.locked = true)
    (holding : shared.Holding { caller with pc := pc } pc)
    (covers : ∀ expireTime, pc.inFlight = some expireTime →
      caller.now < expireTime ∧
        ∀ other ∈ before.callers, other.CoveredBy caller expireTime)
    (reading : ∀ other ∈ before.callers, other.pc = .read →
      shared.GoodToken shared.token other.now)
    (grown : ∀ reply ∈ before.replies, reply ∈ shared.replies) :
    FreshRun (shared.put index { caller with pc := pc }) := by
  have isMine := (run.holder index caller located inside).1
  apply run.putAlone (Or.inr isMine) sameCallers located
  · intro noLock
    rw [sameMutex, isMine] at noLock
    cases noLock
  · intro other isLocked
    rw [sameMutex, isMine] at isLocked
    exact ⟨(Option.some.inj isLocked).symm, stays⟩
  · intro _
    exact ⟨sameMutex.trans isMine, holding⟩
  · exact covers
  · exact reading
  · intro isReading
    subst isReading
    cases stays
  · exact grown
  · intro token isReturned
    subst isReturned
    cases stays

/-- The holder of the mutex moves on and changes nothing that is shared. -/
theorem FreshRun.advanceOnly {pc : TokenPc} (run : FreshRun before)
    (located : before.callers[index]? = some caller)
    (inside : caller.pc.locked = true) (stays : pc.locked = true)
    (holding : before.Holding { caller with pc := pc } pc)
    (stored : pc.inFlight = none) :
    FreshRun (before.put index { caller with pc := pc }) := by
  apply run.advance located inside rfl rfl stays holding
  · intro expireTime inFlight
    rw [stored] at inFlight
    cases inFlight
  · exact run.reading
  · exact fun _ isReply => isReply

/-- A reply is good for the caller that stores it. -/
theorem FreshRun.ownCovered (run : FreshRun before)
    (member : caller ∈ before.callers) {expireTime : Int}
    (inFlight : caller.pc.inFlight = some expireTime) :
    caller.now < expireTime := by
  rcases run.covered caller member expireTime inFlight caller member with
    early | ⟨-, waiting⟩
  · exact early
  · cases here : caller.pc <;> rw [here] at inFlight waiting <;>
      cases inFlight <;> cases waiting

/-- A caller past the mutex is covered by the replies themselves. -/
theorem FreshRun.early_of_passed (run : FreshRun before)
    (member : caller ∈ before.callers) (passed : caller.pc.waiting = false)
    {holder : Caller} (holderMember : holder ∈ before.callers)
    {expireTime : Int} (inFlight : holder.pc.inFlight = some expireTime) :
    caller.now < expireTime := by
  rcases run.covered holder holderMember expireTime inFlight caller member with
    early | ⟨-, waiting⟩
  · exact early
  · rw [passed] at waiting
    cases waiting

/-! ## The accesses of `getToken` -/

theorem FreshRun.check (run : FreshRun before)
    (located : before.callers[index]? = some caller)
    (here : caller.pc = .check) :
    FreshRun (before.put index { caller with
      pc := if before.tokenExpireTime - caller.now > 3600 then .read
        else .lock }) := by
  have member := List.mem_of_getElem? located
  have outside : caller.pc.locked = false := by
    rw [here]
    rfl
  split
  next left =>
    have good := run.goodToken_of_check member left
    apply run.move located outside rfl ?_ (fun _ => good) (fun _ => by simp)
    intro holder holderMember expireTime inFlight
    rcases run.covered holder holderMember expireTime inFlight caller member
      with early | ⟨entered, -⟩
    · exact Or.inl early
    · -- whoever entered after the holder does not find an hour left
      have short := run.short_of_inFlight holderMember inFlight
      omega
  next =>
    apply run.move located outside rfl ?_ (by simp) (fun _ => by simp)
    intro holder holderMember expireTime inFlight
    rcases run.covered holder holderMember expireTime inFlight caller member
      with early | ⟨entered, -⟩
    · exact Or.inl early
    · exact Or.inr ⟨entered, rfl⟩

theorem FreshRun.lock {lockedAfter : Option Nat} (run : FreshRun before)
    (located : before.callers[index]? = some caller)
    (free : before.mutex = none) :
    FreshRun ({ before with mutex := some index }.put index { caller with
      pc := .checkLocked
      lockedAfter := lockedAfter }) := by
  refine run.putAlone (Or.inl free) rfl located ?_ ?_ ?_ ?_ ?_ ?_ ?_ ?_
  · intro noLock
    cases noLock
  · intro other isLocked
    exact ⟨(Option.some.inj isLocked).symm, rfl⟩
  · intro _
    exact ⟨rfl, run.free free⟩
  · intro expireTime inFlight
    cases inFlight
  · exact run.reading
  · intro isReading
    cases isReading
  · exact fun _ isReply => isReply
  · intro token isReturned
    cases isReturned

theorem FreshRun.checkLocked (run : FreshRun before)
    (located : before.callers[index]? = some caller)
    (here : caller.pc = .checkLocked) :
    FreshRun (before.put index { caller with
      pc := if before.tokenExpireTime - caller.now < 3600 then .apply
        else .unlock }) := by
  have inside : caller.pc.locked = true := by
    rw [here]
    rfl
  have sync : before.InSync := by
    have holding := (run.holder index caller located inside).2
    rw [here] at holding
    exact holding
  split
  next short =>
    exact run.advanceOnly located inside rfl ⟨sync, short⟩ rfl
  next enough =>
    have good : before.GoodToken before.token caller.now :=
      sync.goodToken (Or.inr (by omega))
    exact run.advanceOnly located inside rfl ⟨sync, good⟩ rfl

/-- What the holder knows when it asks for a token. -/
theorem FreshRun.asking (run : FreshRun before)
    (located : before.callers[index]? = some caller)
    (here : caller.pc = .apply) :
    caller.pc.locked = true ∧ before.InSync ∧
      before.tokenExpireTime - caller.now < 3600 := by
  have inside : caller.pc.locked = true := by
    rw [here]
    rfl
  have holding := (run.holder index caller located inside).2
  rw [here] at holding
  exact ⟨inside, holding⟩

/-- Without a new token the old one is empty or still good. -/
theorem FreshRun.applyFails (run : FreshRun before)
    (located : before.callers[index]? = some caller)
    (here : caller.pc = .apply)
    (later : before.token = "" ∨ caller.now < before.tokenExpireTime) :
    FreshRun (before.put index { caller with pc := .unlock }) := by
  obtain ⟨inside, sync, -⟩ := run.asking located here
  exact run.advanceOnly located inside rfl ⟨sync, sync.goodToken later⟩ rfl

theorem FreshRun.applySucceeds {token : String} {expireTime : Int}
    (run : FreshRun before) (located : before.callers[index]? = some caller)
    (here : caller.pc = .apply)
    (future : ∀ other ∈ before.callers, other.now < expireTime) :
    FreshRun ({ before with
      replies := before.replies ++ [(token, expireTime)] }.put index
        { caller with pc := .storeToken token expireTime }) := by
  obtain ⟨inside, sync, short⟩ := run.asking located here
  have grown : ∀ old ∈ before.replies,
      old ∈ before.replies ++ [(token, expireTime)] := by
    intro old isReply
    exact List.mem_append_left _ isReply
  refine run.advance located inside rfl rfl rfl ?_ ?_ ?_ ?_
  · refine ⟨?_, short, List.mem_append_right _ (by simp)⟩
    rcases sync with empty | isReply
    · exact Or.inl empty
    · exact Or.inr (grown _ isReply)
  · intro newest inFlight
    cases inFlight
    refine ⟨future caller (List.mem_of_getElem? located), ?_⟩
    intro other otherMember
    exact Or.inl (future other otherMember)
  · intro other otherMember isReading
    exact (run.reading other otherMember isReading).mono grown
  · exact grown

theorem FreshRun.storeToken {token : String} {expireTime : Int}
    (run : FreshRun before) (located : before.callers[index]? = some caller)
    (here : caller.pc = .storeToken token expireTime) :
    FreshRun ({ before with
      token := token
      stored := before.stored + 1 }.put index
        { caller with pc := .storeExpireTime expireTime }) := by
  have member := List.mem_of_getElem? located
  have inFlight : caller.pc.inFlight = some expireTime := by
    rw [here]
    rfl
  have inside := TokenPc.locked_of_inFlight inFlight
  have holding := (run.holder index caller located inside).2
  rw [here] at holding
  obtain ⟨-, short, isReply⟩ := holding
  refine run.advance located inside rfl rfl rfl ?_ ?_ ?_ ?_
  · exact ⟨short, isReply⟩
  · intro newest stores
    cases stores
    exact ⟨run.ownCovered member inFlight,
      run.covered caller member expireTime inFlight⟩
  · intro other otherMember isReading
    have passed : other.pc.waiting = false := by
      rw [isReading]
      rfl
    exact Or.inr ⟨expireTime, isReply,
      run.early_of_passed otherMember passed member inFlight⟩
  · exact fun _ isReply => isReply

theorem FreshRun.storeExpireTime {expireTime : Int} (run : FreshRun before)
    (located : before.callers[index]? = some caller)
    (here : caller.pc = .storeExpireTime expireTime) :
    FreshRun ({ before with tokenExpireTime := expireTime }.put index
      { caller with pc := .unlock }) := by
  have member := List.mem_of_getElem? located
  have inFlight : caller.pc.inFlight = some expireTime := by
    rw [here]
    rfl
  have inside := TokenPc.locked_of_inFlight inFlight
  have holding := (run.holder index caller located inside).2
  rw [here] at holding
  obtain ⟨-, isReply⟩ := holding
  refine run.advance located inside rfl rfl rfl ?_ ?_ ?_ ?_
  · exact ⟨Or.inr isReply,
      Or.inr ⟨expireTime, isReply, run.ownCovered member inFlight⟩⟩
  · intro newest stores
    cases stores
  · exact run.reading
  · exact fun _ isReply => isReply

theorem FreshRun.unlock (run : FreshRun before)
    (located : before.callers[index]? = some caller)
    (here : caller.pc = .unlock) :
    FreshRun ({ before with mutex := none }.put index
      { caller with pc := .read }) := by
  obtain ⟨isMine, holding⟩ := run.holder index caller located (by
    rw [here]
    rfl)
  rw [here] at holding
  obtain ⟨sync, good⟩ := holding
  refine run.putAlone (Or.inr isMine) rfl located ?_ ?_ ?_ ?_ ?_ ?_ ?_ ?_
  · exact fun _ => sync
  · intro other isLocked
    cases isLocked
  · intro locked
    cases locked
  · intro expireTime inFlight
    cases inFlight
  · exact run.reading
  · exact fun _ => good
  · exact fun _ isReply => isReply
  · intro token isReturned
    cases isReturned

theorem FreshRun.read (run : FreshRun before)
    (located : before.callers[index]? = some caller)
    (here : caller.pc = .read) :
    FreshRun (before.put index
      { caller with pc := .returned before.token }) := by
  have member := List.mem_of_getElem? located
  have outside : caller.pc.locked = false := by
    rw [here]
    rfl
  have passed : caller.pc.waiting = false := by
    rw [here]
    rfl
  apply run.move located outside rfl
  · intro holder holderMember expireTime inFlight
    exact Or.inl (run.early_of_passed member passed holderMember inFlight)
  · intro isReading
    cases isReading
  · intro token isReturned
    cases isReturned
    exact run.reading caller member here

theorem FreshRun.callerStep {reply : Option (String × Int)}
    (run : FreshRun before) (located : before.callers[index]? = some caller)
    (onTime : timely before (.callerStep index reply) = true)
    (harmless : failsHarmlessly before (.callerStep index reply) = true)
    (stepped : before.callerStep index caller reply = some after) :
    FreshRun after := by
  cases here : caller.pc <;> simp only [State.callerStep, here] at stepped
  case check =>
    cases stepped
    exact run.check located here
  case lock =>
    cases free : before.mutex <;> simp only [free] at stepped
    case some => cases stepped
    cases stepped
    exact run.lock located free
  case checkLocked =>
    cases stepped
    exact run.checkLocked located here
  case apply =>
    have failing (failed : (reply.any fun answer => 0 < answer.2) = false) :
        FreshRun (before.put index { caller with pc := .unlock }) := by
      apply run.applyFails located here
      simpa [failsHarmlessly, located, here, failed] using harmless
    split at stepped
    next =>
      cases stepped
      exact failing rfl
    next token expireTime =>
      split at stepped
      next positive =>
        cases stepped
        apply run.applySucceeds located here
        simpa [timely, located, here, Int.not_le.mpr positive] using onTime
      next notPositive =>
        cases stepped
        apply failing
        simpa using notPositive
  case storeToken token expireTime =>
    cases stepped
    exact run.storeToken located here
  case storeExpireTime expireTime =>
    cases stepped
    exact run.storeExpireTime located here
  case unlock =>
    cases stepped
    exact run.unlock located here
  case read =>
    cases stepped
    exact run.read located here
  case returned token => cases stepped

theorem FreshRun.enter {now : Int} (run : FreshRun before)
    (onTime : timely before (.enter now) = true) :
    FreshRun { before with
      callers := before.callers ++
        [⟨now, .check, before.replies.length, none⟩] } := by
  have notBefore : ∀ caller ∈ before.callers, caller.now ≤ now := by
    simpa [timely] using onTime
  refine ⟨run.free, ?_, ?_, ?_, ?_, ?_⟩
  · intro index isLocked
    obtain ⟨holder, found, locked⟩ := run.held index isLocked
    have inside := (List.getElem?_eq_some_iff.mp found).1
    exact ⟨holder, (List.getElem?_append_left inside).trans found, locked⟩
  · intro index holder found locked
    change (before.callers ++ _)[index]? = some holder at found
    rw [List.getElem?_append] at found
    split at found
    · exact run.holder index holder found locked
    · obtain rfl := List.mem_singleton.mp (List.mem_of_getElem? found)
      cases locked
  · intro holder holderMember expireTime inFlight caller member
    rcases List.mem_append.mp holderMember with old | new
    · rcases List.mem_append.mp member with oldCaller | newCaller
      · exact run.covered holder old expireTime inFlight caller oldCaller
      · obtain rfl := List.mem_singleton.mp newCaller
        exact Or.inr ⟨notBefore holder old, rfl⟩
    · obtain rfl := List.mem_singleton.mp new
      cases inFlight
  · intro caller member isReading
    rcases List.mem_append.mp member with old | new
    · exact run.reading caller old isReading
    · obtain rfl := List.mem_singleton.mp new
      cases isReading
  · intro caller member token isReturned
    rcases List.mem_append.mp member with old | new
    · exact run.returned caller old token isReturned
    · obtain rfl := List.mem_singleton.mp new
      cases isReturned

theorem FreshRun.step {action : Action} (run : FreshRun before)
    (onTime : timely before action = true)
    (harmless : failsHarmlessly before action = true)
    (stepped : before.step action = some after) : FreshRun after := by
  cases action with
  | enter now =>
      cases stepped
      exact run.enter onTime
  | callerStep index reply =>
      obtain ⟨caller, located, moved⟩ := Option.bind_eq_some_iff.mp stepped
      exact run.callerStep located onTime harmless moved

end Steps

/-- The module starts with an empty cache. -/
theorem freshRun_initial : FreshRun (State.initial "" 0) := by
  refine ⟨fun _ => Or.inl rfl, ?_, ?_, ?_, ?_, ?_⟩
  · intro index isLocked
    cases isLocked
  · intro index holder found
    cases found
  · intro holder member
    cases member
  · intro caller member
    cases member
  · intro caller member
    cases member

/-- In every history of calls whose attempts to create a token fail only while
there is none or it is still good, no caller is given an expired token. -/
theorem neverExpired_of_failsHarmlessly {state : State}
    (reached : PermittedReach State.step
      (fun state action => timely state action = true ∧
        failsHarmlessly state action = true)
      (State.initial "" 0) state) :
    NeverExpired state := by
  have run : FreshRun state :=
    reached.invariant freshRun_initial
      fun _ _ _ run permitted stepped =>
        run.step permitted.1 permitted.2 stepped
  exact run.returned

/-- A caller obtains a token that is good until 5000. -/
def firstCallSchedule : List Action :=
  Action.enter 100 :: List.replicate 3 (Action.callerStep 0 none) ++
    Action.callerStep 0 (some ("fresh", 5000)) ::
      List.replicate 4 (Action.callerStep 0 none)

/-- A second caller tries to refresh the token in vain at 4900. -/
def earlyFailureSchedule : List Action :=
  firstCallSchedule ++ .enter 4900 :: List.replicate 6 (.callerStep 1 none)

/-- A second caller tries to refresh the token in vain at 6000. -/
def lateFailureSchedule : List Action :=
  firstCallSchedule ++ .enter 6000 :: List.replicate 6 (.callerStep 1 none)

theorem neverExpired_earlyFailureSchedule :
    ∃ state, PermittedReach State.step
        (fun state action => timely state action = true ∧
          failsHarmlessly state action = true)
        (State.initial "" 0) state ∧
      (state.callers.all fun caller =>
        caller.pc == .returned "fresh") = true ∧
      NeverExpired state := by
  obtain ⟨state, reached, passed⟩ :=
    exists_permittedReach_of_replay State.step (State.initial "" 0)
      earlyFailureSchedule
      (fun state => state.callers.all
        fun caller => caller.pc == .returned "fresh")
      (fun state action => timely state action = true ∧
        failsHarmlessly state action = true)
      (by decide)
  exact ⟨state, reached, passed, neverExpired_of_failsHarmlessly reached⟩

/-- After the failed refresh the second caller is given the expired token. -/
theorem expired_lateFailureSchedule :
    ∃ state, PermittedReach State.step
        (fun state action => timely state action = true)
        (State.initial "" 0) state ∧ ¬ NeverExpired state := by
  obtain ⟨state, reached, passed⟩ :=
    exists_permittedReach_of_replay State.step (State.initial "" 0)
      lateFailureSchedule
      (fun state => state.replies == [("fresh", 5000)] &&
        state.callers.any fun caller =>
          caller.pc == .returned "fresh" && caller.now == 6000)
      (fun state action => timely state action = true)
      (by decide)
  refine ⟨state, reached, ?_⟩
  intro never
  simp only [Bool.and_eq_true, beq_iff_eq, List.any_eq_true] at passed
  obtain ⟨onlyReply, caller, member, isReturned, isNow⟩ := passed
  rcases never caller member "fresh" isReturned with
    empty | ⟨expireTime, isReply, later⟩
  · revert empty
    decide
  · rw [onlyReply, List.mem_singleton] at isReply
    cases isReply
    omega

end AliyunToken

end SpeechModules
