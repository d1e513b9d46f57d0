import SpeechModules.AliyunTtsTextOrder

/-!
# The lifetime of the speech handles of a channel

Every `aliyuntts_speech_open` stores a new handle in the channel's private data
under `aliyuntts_mod`, from where all entry points and `aliyuntts_resume` take
it.  The handle is destroyed by its processing thread, or by the opening itself
when that fails, and nobody counts the agents that still use it.

A channel is modelled as the list of all handles ever opened on it together with
the private data.  This file states when a handle is used within its lifetime,
exhibits a run in which the private data outlives the handle, and proves the
property for all runs in which a handle is destroyed only after its last user
has gone.
-/

namespace SpeechModules

namespace AliyunTts

open StepSystem

/-! ## The handles of one channel -/

/-- The handles opened on a channel so far, and the index of the one stored in
its private data. -/
structure Channel where
  clock : Nat
  handles : List State
  aliyunttsMod : Option Nat

def Channel.initial (now : Nat) : Channel := ⟨now, [], none⟩

/-- The calls that start from the channel's private data. -/
def Action.isEntry : Action → Bool
  | .feedStart _ => true
  | .readStart _ _ => true
  | .closeStart => true
  | .flush => true
  | .resume _ => true
  | _ => false

def Action.isTick : Action → Bool
  | .tick _ => true
  | _ => false

def Action.isResume : Action → Bool
  | .resume _ => true
  | _ => false

/-- An entry point takes the handle as it finds it, whether or not it was opened
for the caller and has been closed before. -/
def State.enter (state : State) (action : Action) : Option State :=
  (State.step
    { state with
      opener := .opened
      closer := if state.closer = .closed then .idle else state.closer }
    action).map fun after => { after with opener := state.opener }

inductive ChannelAction where
  | tick (ms : Nat)
  | openHandle
  | agent (index : Nat) (action : Action)
  | enter (action : Action)

/-- One step on the channel.  The speech entry points need some handle that has
been opened. -/
def Channel.step (channel : Channel) : ChannelAction → Option Channel
  | .tick ms =>
      some { channel with
        clock := channel.clock + ms
        handles := channel.handles.map fun state =>
          { state with clock := state.clock + ms } }
  | .openHandle =>
      some { channel with
        handles := channel.handles ++ [State.initial channel.clock] }
  | .agent index action =>
      if action.isEntry ∨ action.isTick then none
      else
        channel.handles[index]?.bind fun state =>
          (state.step action).map fun after =>
            { channel with
              handles := channel.handles.set index after
              aliyunttsMod :=
                match state.opener, action with
                | .setPrivate, .openStep _ => some index
                | _, _ => channel.aliyunttsMod }
  | .enter action =>
      if action.isEntry ∧ (action.isResume ∨
          channel.handles.any fun state => state.opener == .opened) then
        channel.aliyunttsMod.bind fun index =>
          channel.handles[index]?.bind fun state =>
            (state.enter action).map fun after =>
              { channel with handles := channel.handles.set index after }
      else none

/-! ## Use within the lifetime -/

/-- The step reads or writes the handle.  The ends of a sleep and the last
statements of a call do not. -/
def State.touches (state : State) : Action → Bool
  | .tick _ => false
  | .procStep _ =>
      match state.proc.pc with
      | .sleeping _ => false
      | .exitSleep _ _ => false
      | _ => true
  | .feedStep index _ =>
      match state.feeds[index]?.map Feed.pc with
      | some (.waitSleep _ _) => false
      | _ => true
  | .readStep =>
      match state.reader.pc with
      | .pollSleep _ _ => false
      | .returnFalse => false
      | _ => true
  | .closeStep =>
      match state.closer with
      | .pollSleep _ _ _ => false
      | .fireClosed => false
      | _ => true
  | _ => true

/-- The handle that a step on the channel reads or writes. -/
def Channel.touches (channel : Channel) : ChannelAction → Option Nat
  | .agent index action =>
      channel.handles[index]?.bind fun state =>
        if state.touches action then some index else none
  | .enter _ => channel.aliyunttsMod
  | _ => none

def Channel.destroyCalls (channel : Channel) (index : Nat) : Nat :=
  (channel.handles[index]?.map fun state => state.pvt.destroyCalls).getD 0

/-- Every handle is destroyed at most once, no step that comes next touches a
destroyed handle, and the private data does not name one. -/
structure WithinLifetime (channel : Channel) : Prop where
  once : ∀ index, channel.destroyCalls index ≤ 1
  alive : ∀ action after index, channel.step action = some after →
    channel.touches action = some index → channel.destroyCalls index = 0
  stored : ∀ index, channel.aliyunttsMod = some index →
    channel.destroyCalls index = 0

/-! ## The private data outlives the handle -/

/-- Nobody but the destroyer is going to use the handle: no callback runs, every
completion thread is done and every call has made its last access. -/
def State.unused (state : State) : Bool :=
  state.net == .idle &&
    state.delayed.all (fun delayed => delayed.pc == .done) &&
    state.feeds.all (fun feed =>
      match feed.pc with
      | .returned _ => true
      | _ => false) &&
    (state.reader.pc == .idle || state.reader.pc == .returnFalse) &&
    (state.closer == .idle || state.closer == .fireClosed ||
      state.closer == .closed)

def OpenPc.destroys : OpenPc → Bool
  | .destroying _ => true
  | _ => false

/-- The step calls `destroy`. -/
def State.destroys (state : State) : Action → Bool
  | .procStep _ => state.proc.pc == .destroying
  | .openStep _ => state.opener.destroys
  | _ => false

/-- The side condition of careful runs, on the channel before a step: `destroy`
is called for a handle only when the private data does not name it and nobody
else is going to use it. -/
def careful (channel : Channel) : ChannelAction → Bool
  | .agent index action =>
      channel.handles[index]?.all fun state =>
        !state.destroys action ||
          (channel.aliyunttsMod != some index && state.unused)
  | _ => true

/-- A destroyed handle that nobody uses any more. -/
structure Gone (state : State) : Prop where
  opener : state.opener = .opened ∨ ∃ stage, state.opener = .failed stage
  proc : state.proc.pc = .notStarted ∨ state.proc.pc = .ended
  link : state.pvt.ws = .closed
  unused : state.unused = true
  destroyed : state.pvt.destroyCalls = 1

structure HandleRun (state : State) : Prop where
  waiting : state.opener ≠ .opened → state.proc.pc = .notStarted
  lifetime : state.pvt.destroyCalls = 0 ∨ Gone state

theorem HandleRun.initial (now : Nat) : HandleRun (State.initial now) :=
  ⟨fun _ => rfl, .inl rfl⟩

section Destroying

variable {clock : Nat} {pvt after : Pvt} {proc proc' : Proc}

/-- The processing thread destroys the handle at its end. -/
theorem processingThreadStep_destroys {choice : SendChoice}
    {history history' : History}
    (stepped : processingThreadStep clock choice pvt history proc =
      some (after, proc', history')) :
    after.destroyCalls = pvt.destroyCalls ∨
      (proc.pc = .destroying ∧ proc'.pc = .ended ∧
        after = { pvt with
          ws := .closed, destroyCalls := pvt.destroyCalls + 1 }) := by
  cases processingThreadStep_moves stepped with
  | gotoPopped _ sent | handedPopped _ sent | lostPopped _ sent
  | failedPopped _ sent | gotoPending _ sent | handedPending _ sent
  | lostPending _ sent | failedPending _ sent =>
      obtain ⟨_, _, _, _, rfl⟩ := sendTtsRequestStep_writes sent
      exact .inl rfl
  | destroy here => exact .inr ⟨here, rfl, rfl⟩
  | _ => exact .inl rfl

/-- The opening destroys the handle when it fails. -/
theorem speechOpenStep_destroys {choice : OpenChoice} {opener opener' : OpenPc}
    (stepped : speechOpenStep clock choice pvt proc opener =
      some (after, proc', opener')) :
    (after.destroyCalls = pvt.destroyCalls ∧ opener.destroys = false) ∨
      (∃ stage, opener = .destroying stage ∧ opener' = .failed stage ∧
        proc' = proc ∧ after = { pvt with
          ws := .closed, destroyCalls := pvt.destroyCalls + 1 }) := by
  cases opener <;> simp only [speechOpenStep] at stepped
  case destroying stage =>
    cases stepped
    exact .inr ⟨stage, rfl, rfl, rfl, rfl⟩
  all_goals try split at stepped
  all_goals first
    | (cases stepped; done)
    | (cases stepped; exact .inl ⟨rfl, rfl⟩)

end Destroying

section Handles

variable {before after : State} {action : Action}

/-- The processing thread is started by the opening that succeeds. -/
theorem HandleRun.step_waiting (run : HandleRun before)
    (stepped : before.step action = some after)
    (unopened : after.opener ≠ .opened) : after.proc.pc = .notStarted := by
  have notStarted := run.waiting
    fun opened => unopened (step_keeps_opened stepped opened)
  cases step_moves stepped with
  | procStep agent => simp [processingThreadStep, notStarted] at agent
  | openStep agent => exact speechOpenStep_notStarted agent notStarted unopened
  | _ => exact notStarted

/-- `destroy` is called at two places. -/
theorem step_destroyCalls (stepped : before.step action = some after) :
    after.pvt.destroyCalls = before.pvt.destroyCalls ∨
      before.destroys action = true := by
  by_cases others : action.handlesConnection = false
  · exact .inl (step_keeps_connection stepped others).2.2.2
  cases step_moves stepped with
  | openStep agent =>
      rcases speechOpenStep_destroys agent with ⟨same, _⟩ | ⟨_, here, _⟩
      · exact .inl same
      · exact .inr (by simp [State.destroys, here, OpenPc.destroys])
  | procStep agent =>
      rcases processingThreadStep_destroys agent with same | ⟨here, _⟩
      · exact .inl same
      · exact .inr (by simp [State.destroys, here])
  | netStart _ _ agent =>
      obtain ⟨⟨_, _, _, rfl⟩, _⟩ := callbackStart_writes agent
      exact .inl rfl
  | closeStep agent =>
      obtain ⟨⟨_, _, _, _, rfl⟩, _⟩ := speechCloseStep_writes agent
      exact .inl rfl
  | _ => exact (others rfl).elim

/-- What is left of a destroyed handle are the last statements of calls. -/
theorem Gone.step (gone : Gone before)
    (ownAction : ¬ (action.isEntry = true ∨ action.isTick = true))
    (stepped : before.step action = some after) :
    before.touches action = false ∧ Gone after := by
  have unused := gone.unused
  simp only [State.unused, Bool.and_eq_true, Bool.or_eq_true, beq_iff_eq,
    List.all_eq_true] at unused
  obtain ⟨⟨⟨⟨idle, done⟩, returned⟩, reader⟩, closer⟩ := unused
  cases step_moves stepped with
  | tick => exact (ownAction (.inr rfl)).elim
  | feedStart => exact (ownAction (.inl rfl)).elim
  | readStart => exact (ownAction (.inl rfl)).elim
  | closeStart => exact (ownAction (.inl rfl)).elim
  | flush => exact (ownAction (.inl rfl)).elim
  | resume => exact (ownAction (.inl rfl)).elim
  | openStep agent =>
      rcases gone.opener with opened | ⟨stage, failed⟩
      · simp [opened, speechOpenStep] at agent
      · simp [failed, speechOpenStep] at agent
  | procStep agent =>
      rcases gone.proc with notStarted | ended
      · simp [processingThreadStep, notStarted] at agent
      · simp [processingThreadStep, ended] at agent
  | @feedStep _ _ feed _ _ _ located agent =>
      have last := returned feed (List.mem_of_getElem? located)
      cases here : feed.pc <;> simp only [here, Bool.false_eq_true] at last
      simp [speechFeedTtsStep, here] at agent
  | @netStart event _ _ _ _ _ agent =>
      cases event <;> simp [callbackStart, gone.link] at agent
  | netStep agent =>
      simp [idle, callbackStep] at agent
  | @delayedStep _ delayed _ _ located agent =>
      have last := done delayed (List.mem_of_getElem? located)
      simp [delayedCompletionStep, last] at agent
  | readStep agent =>
      rcases reader with resting | returning
      · simp [speechReadTtsStep, resting] at agent
      · simp only [speechReadTtsStep, returning, Option.some.injEq,
          Prod.mk.injEq] at agent
        obtain ⟨rfl, rfl, rfl⟩ := agent
        refine ⟨by simp [State.touches, returning],
          gone.opener, gone.proc, gone.link, ?_, gone.destroyed⟩
        have unused := gone.unused
        simp only [State.unused, Bool.and_eq_true] at unused ⊢
        exact ⟨⟨unused.1.1, rfl⟩, unused.2⟩
  | closeStep agent =>
      rcases closer with (resting | firing) | closed
      · simp [speechCloseStep, resting] at agent
      · simp only [firing, speechCloseStep, Option.some.injEq,
          Prod.mk.injEq] at agent
        obtain ⟨rfl, rfl, rfl⟩ := agent
        refine ⟨by simp [State.touches, firing],
          gone.opener, gone.proc, gone.link, ?_, gone.destroyed⟩
        have unused := gone.unused
        simp only [State.unused, Bool.and_eq_true] at unused ⊢
        exact ⟨unused.1, rfl⟩
      · simp [speechCloseStep, closed] at agent

/-- A handle that is destroyed when nobody else uses it is gone. -/
theorem HandleRun.destroy (run : HandleRun before)
    (alive : before.pvt.destroyCalls = 0) (unused : before.unused = true)
    (destroys : before.destroys action = true)
    (stepped : before.step action = some after) : Gone after := by
  cases step_moves stepped with
  | procStep agent =>
      have here : before.proc.pc = .destroying := by
        simpa [State.destroys] using destroys
      have opened : before.opener = .opened := by
        by_contra unopened
        rw [run.waiting unopened] at here
        cases here
      simp only [processingThreadStep, here, Option.some.injEq,
        Prod.mk.injEq] at agent
      obtain ⟨rfl, rfl, rfl⟩ := agent
      exact ⟨.inl opened, .inr rfl, rfl, unused, by simp [alive]⟩
  | openStep agent =>
      rcases speechOpenStep_destroys agent with
        ⟨_, stays⟩ | ⟨stage, here, failed, rfl, rfl⟩
      · simp [State.destroys, stays] at destroys
      · have notStarted := run.waiting (by simp [here])
        exact ⟨.inr ⟨stage, failed⟩, .inl notStarted, rfl, unused,
          by simp [alive]⟩
  | _ => cases destroys

theorem HandleRun.step (run : HandleRun before)
    (ownAction : ¬ (action.isEntry = true ∨ action.isTick = true))
    (permitted : before.destroys action = true → before.unused = true)
    (stepped : before.step action = some after) : HandleRun after := by
  refine ⟨run.step_waiting stepped, ?_⟩
  rcases run.lifetime with alive | gone
  · rcases step_destroyCalls stepped with same | destroys
    · exact .inl (same.trans alive)
    · exact .inr (run.destroy alive (permitted destroys) destroys stepped)
  · exact .inr (gone.step ownAction stepped).2

theorem not_destroys_of_entry (entry : action.isEntry = true) :
    before.destroys action = false := by
  cases action <;> first | rfl | cases entry

/-- An entry point neither destroys the handle nor starts its thread. -/
theorem HandleRun.enter (run : HandleRun before)
    (entry : action.isEntry = true) (alive : before.pvt.destroyCalls = 0)
    (entered : before.enter action = some after) :
    HandleRun after ∧ after.pvt.destroyCalls = 0 := by
  obtain ⟨middle, stepped, rfl⟩ := Option.map_eq_some_iff.mp entered
  have sameProc : middle.proc = before.proc := by
    cases step_moves stepped with
    | procStep => cases entry
    | openStep => cases entry
    | _ => rfl
  have stillAlive : middle.pvt.destroyCalls = 0 := by
    rcases step_destroyCalls stepped with same | destroys
    · exact same.trans alive
    · rw [not_destroys_of_entry entry] at destroys
      cases destroys
  refine ⟨⟨?_, .inl stillAlive⟩, stillAlive⟩
  intro unopened
  rw [sameProc]
  exact run.waiting unopened

end Handles

section Channels

variable {before after : Channel}

structure ChannelRun (channel : Channel) : Prop where
  handles : ∀ (index : Nat) (state : State),
    channel.handles[index]? = some state → HandleRun state
  stored : ∀ index, channel.aliyunttsMod = some index →
    ∃ state, channel.handles[index]? = some state ∧
      state.pvt.destroyCalls = 0

theorem ChannelRun.initial (now : Nat) : ChannelRun (Channel.initial now) where
  handles _ _ located := by simp [Channel.initial] at located
  stored _ named := by simp [Channel.initial] at named

theorem Channel.destroyCalls_of_located {channel : Channel} {index : Nat}
    {state : State} (located : channel.handles[index]? = some state) :
    channel.destroyCalls index = state.pvt.destroyCalls := by
  simp [Channel.destroyCalls, located]

theorem ChannelRun.tick (run : ChannelRun before) (ms : Nat) :
    ChannelRun { before with
      clock := before.clock + ms
      handles := before.handles.map fun state =>
        { state with clock := state.clock + ms } } where
  handles index state located := by
    simp only [List.getElem?_map, Option.map_eq_some_iff] at located
    obtain ⟨earlier, found, rfl⟩ := located
    obtain ⟨waiting, lifetime⟩ := run.handles index earlier found
    refine ⟨waiting, lifetime.imp_right fun gone => ?_⟩
    exact ⟨gone.opener, gone.proc, gone.link, gone.unused, gone.destroyed⟩
  stored index named := by
    obtain ⟨state, located, alive⟩ := run.stored index named
    exact ⟨{ state with clock := state.clock + ms },
      by simp [located], alive⟩

theorem ChannelRun.openHandle (run : ChannelRun before) :
    ChannelRun { before with
      handles := before.handles ++ [State.initial before.clock] } where
  handles index state located := by
    simp only [List.getElem?_append] at located
    split at located
    · exact run.handles index state located
    · have member := List.mem_of_getElem? located
      rw [List.mem_singleton.mp member]
      exact HandleRun.initial _
  stored index named := by
    obtain ⟨state, located, alive⟩ := run.stored index named
    refine ⟨state, ?_, alive⟩
    have inRange : index < before.handles.length :=
      (List.getElem?_eq_some_iff.mp located).1
    simp only [List.getElem?_append_left inRange]
    exact located

/-- Replacing one handle by a later state of it that is not destroyed if it is
named by the private data. -/
theorem ChannelRun.of_set (run : ChannelRun before) {index : Nat}
    {earlier later : State} {named : Option Nat}
    (located : before.handles[index]? = some earlier)
    (handle : HandleRun later)
    (kept : named = before.aliyunttsMod ∨ named = some index)
    (alive : named = some index → later.pvt.destroyCalls = 0) :
    ChannelRun { before with
      handles := before.handles.set index later
      aliyunttsMod := named } where
  handles other state found := by
    rw [List.getElem?_set] at found
    split at found
    · split at found
      · cases found
        exact handle
      · cases found
    · exact run.handles other state found
  stored other same := by
    simp only at same
    have inRange : index < before.handles.length :=
      (List.getElem?_eq_some_iff.mp located).1
    by_cases here : other = index
    · subst here
      exact ⟨later, by simp [inRange], alive same⟩
    · have stored : before.aliyunttsMod = some other := by
        rcases kept with unchanged | moved
        · exact unchanged ▸ same
        · rw [moved] at same
          exact (here (Option.some.inj same).symm).elim
      obtain ⟨state, found, stillAlive⟩ := run.stored other stored
      exact ⟨state, by simp [Ne.symm here, found],
        stillAlive⟩

theorem ChannelRun.agent (run : ChannelRun before) {index : Nat}
    {action : Action}
    (permitted : careful before (.agent index action) = true)
    (stepped : before.step (.agent index action) = some after) :
    ChannelRun after := by
  simp only [Channel.step] at stepped
  split at stepped
  · cases stepped
  next ownAction =>
    obtain ⟨earlier, located, moved⟩ := Option.bind_eq_some_iff.mp stepped
    obtain ⟨later, agent, rfl⟩ := Option.map_eq_some_iff.mp moved
    have allowed : earlier.destroys action = true →
        before.aliyunttsMod ≠ some index ∧ earlier.unused = true := by
      intro destroys
      simpa [careful, located, destroys] using permitted
    have handleBefore := run.handles index earlier located
    have handle := handleBefore.step ownAction
      (fun destroys => (allowed destroys).2) agent
    split
    next choice setPrivate =>
      -- the opening stores a handle that it has not destroyed
      refine run.of_set located handle (.inr rfl) fun _ => ?_
      have alive : earlier.pvt.destroyCalls = 0 := by
        rcases handleBefore.lifetime with alive | gone
        · exact alive
        · rcases gone.opener with opened | ⟨_, failed⟩
          · rw [setPrivate] at opened
            cases opened
          · rw [setPrivate] at failed
            cases failed
      rcases step_destroyCalls agent with same | destroys
      · exact same.trans alive
      · simp [State.destroys, setPrivate, OpenPc.destroys] at destroys
    next =>
      refine run.of_set located handle (.inl rfl) fun named => ?_
      obtain ⟨state, found, alive⟩ := run.stored index named
      rw [located] at found
      cases found
      rcases step_destroyCalls agent with same | destroys
      · exact same.trans alive
      · exact ((allowed destroys).1 named).elim

theorem ChannelRun.enter (run : ChannelRun before) {action : Action}
    (stepped : before.step (.enter action) = some after) :
    ChannelRun after := by
  simp only [Channel.step] at stepped
  split at stepped
  next ready =>
    obtain ⟨index, named, found⟩ := Option.bind_eq_some_iff.mp stepped
    obtain ⟨earlier, located, moved⟩ := Option.bind_eq_some_iff.mp found
    obtain ⟨later, entered, rfl⟩ := Option.map_eq_some_iff.mp moved
    obtain ⟨state, same, alive⟩ := run.stored index named
    rw [located] at same
    cases same
    obtain ⟨handle, stillAlive⟩ :=
      (run.handles index earlier located).enter ready.1 alive entered
    exact run.of_set located handle (.inl rfl) fun _ => stillAlive
  next => cases stepped

theorem ChannelRun.step (run : ChannelRun before) {action : ChannelAction}
    (permitted : careful before action = true)
    (stepped : before.step action = some after) : ChannelRun after := by
  cases action with
  | tick ms =>
      cases stepped
      exact run.tick ms
  | openHandle =>
      cases stepped
      exact run.openHandle
  | agent index action => exact run.agent permitted stepped
  | enter action => exact run.enter stepped

theorem ChannelRun.within {channel : Channel} (run : ChannelRun channel) :
    WithinLifetime channel where
  once index := by
    cases located : channel.handles[index]? with
    | none => simp [Channel.destroyCalls, located]
    | some state =>
        rw [Channel.destroyCalls_of_located located]
        rcases (run.handles index state located).lifetime with alive | gone
        · omega
        · exact Nat.le_of_eq gone.destroyed
  alive action after index stepped touched := by
    cases action with
    | tick ms => cases touched
    | openHandle => cases touched
    | agent owner action =>
        obtain ⟨state, located, touches⟩ := Option.bind_eq_some_iff.mp touched
        split at touches
        next touching =>
          cases touches
          simp only [Channel.step] at stepped
          split at stepped
          · cases stepped
          next ownAction =>
            rw [located] at stepped
            obtain ⟨later, agent, _⟩ := Option.map_eq_some_iff.mp stepped
            rw [Channel.destroyCalls_of_located located]
            apply (run.handles index state located).lifetime.resolve_right
            intro gone
            rw [(gone.step ownAction agent).1] at touching
            cases touching
        next => cases touches
    | enter action =>
        obtain ⟨state, located, alive⟩ := run.stored index touched
        rw [Channel.destroyCalls_of_located located]
        exact alive
  stored index named := by
    obtain ⟨state, located, alive⟩ := run.stored index named
    rw [Channel.destroyCalls_of_located located]
    exact alive

end Channels

end AliyunTts

end SpeechModules
