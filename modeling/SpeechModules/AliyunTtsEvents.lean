import SpeechModules.AliyunTtsFrames

/-!
# The playback events

The callback for binary messages fires PLAYBACK_START when it finds
`play_back_stopped` set, and `aliyuntts_speech_read_tts` fires PLAYBACK_STOP
when it finds nothing to read and the flag not set.  Each stores to the flag
first and fires its event later, so that the stores alternate but the events
need not, and `aliyuntts_speech_close` looks at neither.
-/

namespace SpeechModules

namespace AliyunTts

open StepSystem

/-- The playback events are a beginning of START, STOP, START, STOP, …, and
whenever Speech-Closed is fired there have been as many of the one as of the
other. -/
structure EventsPaired (events : List PlaybackEvent) : Prop where
  alternate : ∃ rounds, events.filter (fun event => event != .speechClosed) <+:
    (List.replicate rounds [PlaybackEvent.start, .stop]).flatten
  closed : ∀ earlier later, events = earlier ++ .speechClosed :: later →
    earlier.count .start = earlier.count .stop

/-! ## A stop before its start -/

/-- The read stores to `play_back_stopped` and fires its event between the store
and the event of the callback. -/
def swappedEventsSchedule : List Action :=
  openingSchedule ++
    Action.readStart 4 false :: List.replicate 2 Action.readStep ++
    directSendSchedule 0 [65] ++
    Action.netStart (.binary [1]) :: List.replicate 6 Action.netStep ++
    List.replicate 4 Action.readStep

theorem eventsPaired_fails :
    ¬ ∀ state, Reach State.step (State.initial 1000) state →
      EventsPaired state.history.events := by
  intro always
  obtain ⟨state, reached, swapped⟩ :=
    exists_reach_of_replay State.step (.initial 1000) swappedEventsSchedule
      (fun state => state.history.events == [.stop]) (by decide)
  obtain ⟨rounds, prefixed⟩ := (always state reached).alternate
  rw [beq_iff_eq.mp swapped] at prefixed
  cases rounds with
  | zero => cases List.prefix_nil.mp prefixed
  | succ rounds =>
      rw [List.replicate_succ, List.flatten_cons] at prefixed
      cases (List.cons_prefix_cons.mp prefixed).1

/-! ## Runs that fire in the order of the stores -/

/-- The callback has stored to the flag and has not fired its event. -/
def NetPc.startPending (net : NetPc) : Bool := net == .packetFireStart

/-- The read has stored to the flag and has not fired its event. -/
def ReadPc.stopPending : ReadPc → Bool
  | .stopAvailable | .stopFire => true
  | _ => false

/-- The side condition, on the state before a step.  START is fired only if no
STOP is pending, unless the flag has been set again meanwhile; STOP is fired only
if no START is pending, unless the flag has been cleared again meanwhile; and the
handle is closed only when the events that are pending are as many STARTs as the
flag and the pending STOP call for. -/
def firesInOrder (state : State) : Action → Bool
  | .netStep =>
      !state.net.startPending || !state.reader.pc.stopPending ||
        state.pvt.playBackStopped
  | .readStep =>
      state.reader.pc != .stopFire || !state.net.startPending ||
        !state.pvt.playBackStopped
  | .closeStep =>
      state.closer != .fireClosed ||
        state.net.startPending.toNat ==
          state.reader.pc.stopPending.toNat +
            (!state.pvt.playBackStopped).toNat
  | _ => true

/-- Events that alternate, with whether a START is the last of them. -/
inductive Paired : List PlaybackEvent → Bool → Prop
  | nil : Paired [] false
  | start {events : List PlaybackEvent} (paired : Paired events false) :
      Paired (events ++ [.start]) true
  | stop {events : List PlaybackEvent} (paired : Paired events true) :
      Paired (events ++ [.stop]) false
  | closed {events : List PlaybackEvent} (paired : Paired events false) :
      Paired (events ++ [.speechClosed]) false

section Alternation

variable {events : List PlaybackEvent} {playing : Bool}

theorem Paired.count (paired : Paired events playing) :
    events.count .start = events.count .stop + playing.toNat := by
  induction paired with
  | nil => rfl
  | start _ ih => simp [List.count_append, ih]
  | stop _ ih => simpa [List.count_append] using ih
  | closed _ ih => simpa [List.count_append] using ih

theorem Paired.alternate (paired : Paired events playing) :
    ∃ rounds, events.filter (fun event => event != .speechClosed) =
      (List.replicate rounds [PlaybackEvent.start, .stop]).flatten ++
        if playing then [.start] else [] := by
  induction paired with
  | nil => exact ⟨0, rfl⟩
  | start _ ih =>
      obtain ⟨rounds, same⟩ := ih
      refine ⟨rounds, ?_⟩
      rw [List.filter_append, same]
      simp
  | stop _ ih =>
      obtain ⟨rounds, same⟩ := ih
      refine ⟨rounds + 1, ?_⟩
      rw [List.filter_append, same, List.replicate_succ']
      simp
  | closed _ ih =>
      obtain ⟨rounds, same⟩ := ih
      refine ⟨rounds, ?_⟩
      rw [List.filter_append, same]
      simp

/-- Speech-Closed comes at the end or is among the events before the last. -/
theorem closed_append {last : PlaybackEvent}
    {earlier later : List PlaybackEvent}
    (split : events ++ [last] = earlier ++ .speechClosed :: later) :
    (last = .speechClosed ∧ earlier = events) ∨
      ∃ rest, events = earlier ++ .speechClosed :: rest := by
  rcases List.eq_nil_or_concat later with rfl | ⟨rest, final, rfl⟩
  · obtain ⟨sameEvents, sameLast⟩ :=
      List.append_inj' split rfl
    exact .inl ⟨(List.cons.inj sameLast).1, sameEvents.symm⟩
  · rw [List.concat_eq_append, ← List.cons_append, ← List.append_assoc] at split
    exact .inr ⟨rest, (List.append_inj' split rfl).1⟩

theorem Paired.closedBalanced (paired : Paired events playing) :
    ∀ earlier later, events = earlier ++ .speechClosed :: later →
      earlier.count .start = earlier.count .stop := by
  induction paired with
  | nil =>
      intro earlier later split
      simp at split
  | start _ ih =>
      intro earlier later split
      rcases closed_append split with ⟨isClosed, _⟩ | ⟨rest, before⟩
      · cases isClosed
      · exact ih earlier rest before
  | stop _ ih =>
      intro earlier later split
      rcases closed_append split with ⟨isClosed, _⟩ | ⟨rest, before⟩
      · cases isClosed
      · exact ih earlier rest before
  | closed paired ih =>
      intro earlier later split
      rcases closed_append split with ⟨_, rfl⟩ | ⟨rest, before⟩
      · exact paired.count
      · exact ih earlier rest before

theorem Paired.eventsPaired (paired : Paired events playing) :
    EventsPaired events := by
  obtain ⟨rounds, same⟩ := paired.alternate
  refine ⟨⟨rounds + 1, ?_⟩, paired.closedBalanced⟩
  rw [same, List.replicate_succ', List.flatten_append]
  apply (List.prefix_append_right_inj _).mpr
  cases playing with
  | true => exact ⟨[.stop], rfl⟩
  | false => exact List.nil_prefix

end Alternation

/-! ## What the agents do to the flag and the events -/

section Agents

variable {clock : Nat} {pvt after : Pvt} {history history' : History}

theorem speechFeedTtsStep_events {choice : SendChoice} {feed feed' : Feed}
    (stepped : speechFeedTtsStep clock choice pvt history feed =
      some (after, feed', history')) : history'.events = history.events := by
  cases here : feed.pc <;> simp only [speechFeedTtsStep, here] at stepped
  all_goals try split at stepped
  all_goals first
    | (cases stepped; done)
    | (cases stepped; rfl)

theorem processingThreadStep_events {choice : SendChoice} {proc proc' : Proc}
    (stepped : processingThreadStep clock choice pvt history proc =
      some (after, proc', history')) : history'.events = history.events := by
  cases processingThreadStep_moves stepped <;> rfl

/-- A callback does not begin in the middle of its work on the flag. -/
theorem callbackStart_playback {event : NetEvent} {net : NetPc}
    (stepped : callbackStart pvt history event = some (after, net, history')) :
    net ≠ .packetStoreStopped ∧ net ≠ .packetFireStart := by
  have ofText (header : Header) (request : Nat) :
      textPc header request ≠ .packetStoreStopped ∧
        textPc header request ≠ .packetFireStart := by
    unfold textPc
    split
    · exact ⟨by simp, by simp⟩
    · split <;> exact ⟨by simp, by simp⟩
  cases event <;> simp only [callbackStart] at stepped <;> split at stepped
  case text.isTrue =>
    split at stepped
    · cases stepped
      exact ⟨by simp, by simp⟩
    · cases stepped
      exact ofText _ _
  all_goals first
    | (cases stepped; done)
    | (cases stepped; exact ⟨by simp, by simp⟩)

/-- A callback and the flag: it fires, stores, is about to store, or has nothing
to do with the flag. -/
theorem callbackStep_playback {net net' : NetPc} {started : Option Delayed}
    (stepped : callbackStep clock pvt history net =
      some (after, net', history', started)) :
    (net = .packetFireStart ∧ net' = .idle ∧
      after.playBackStopped = pvt.playBackStopped ∧
      history'.events = history.events ++ [.start]) ∨
    (net ≠ .packetFireStart ∧ history'.events = history.events ∧
      ((net = .packetStoreStopped ∧ net' = .packetFireStart ∧
          after.playBackStopped = false) ∨
        (net ≠ .packetStoreStopped ∧ net' ≠ .packetFireStart ∧
          after.playBackStopped = pvt.playBackStopped ∧
          (net' = .packetStoreStopped → pvt.playBackStopped = true)))) := by
  cases net <;> simp only [callbackStep] at stepped
  case packetLoadStopped =>
    cases stepped
    refine .inr ⟨by simp, rfl, .inr ⟨by simp, ?_, rfl, ?_⟩⟩
    · split <;> simp
    · intro stores
      cases stopped : pvt.playBackStopped with
      | true => rfl
      | false =>
          rw [stopped] at stores
          cases stores
  case packetStoreStopped =>
    cases stepped
    exact .inr ⟨by simp, rfl, .inl ⟨rfl, rfl, rfl⟩⟩
  case packetFireStart =>
    cases stepped
    exact .inl ⟨rfl, rfl, rfl, rfl⟩
  all_goals try split at stepped
  all_goals first
    | (cases stepped; done)
    | (cases stepped
       refine .inr ⟨by simp, rfl, .inr ⟨by simp, ?_, rfl, ?_⟩⟩
       all_goals simp)

/-- The end of a read, where it deals with the flag. -/
def ReadPc.stops : ReadPc → Bool
  | .stopStore | .stopAvailable | .stopFire => true
  | _ => false

theorem ReadPc.not_stopPending {pc : ReadPc} (apart : pc.stops = false) :
    pc.stopPending = false := by
  cases pc with
  | stopAvailable => cases apart
  | stopFire => cases apart
  | _ => rfl

theorem blockingPc_stops (reader : Reader) :
    (blockingPc reader).stops = false := by
  unfold blockingPc
  split <;> rfl

theorem bufferRead_playback {reader reader' : Reader} {otherwise : ReadPc}
    (before : otherwise.stops = false)
    (read : bufferRead pvt history reader otherwise =
      (after, reader', history')) :
    reader'.pc.stops = false ∧
      after.playBackStopped = pvt.playBackStopped ∧
      history'.events = history.events := by
  unfold bufferRead at read
  split at read
  · cases read
    exact ⟨before, rfl, rfl⟩
  · cases read
    exact ⟨rfl, rfl, rfl⟩

/-- Before its end a read leaves the flag and the events alone, and it comes to
its store only if it has found the flag not set. -/
theorem speechReadTtsStep_before {reader reader' : Reader}
    (before : reader.pc.stops = false)
    (stepped : speechReadTtsStep clock pvt history reader =
      some (after, reader', history')) :
    (reader'.pc.stops = true →
      reader'.pc = .stopStore ∧ pvt.playBackStopped = false) ∧
      after.playBackStopped = pvt.playBackStopped ∧
      history'.events = history.events := by
  have ofRead (reader₁ : Reader) (otherwise : ReadPc)
      (early : otherwise.stops = false)
      (read : bufferRead pvt history reader₁ otherwise =
        (after, reader', history')) :
      (reader'.pc.stops = true →
        reader'.pc = .stopStore ∧ pvt.playBackStopped = false) ∧
        after.playBackStopped = pvt.playBackStopped ∧
        history'.events = history.events := by
    obtain ⟨apart, same⟩ := bufferRead_playback early read
    rw [apart]
    exact ⟨nofun, same⟩
  have blocking := blockingPc_stops reader
  cases here : reader.pc <;> rw [here] at before <;> try cases before
  all_goals simp only [speechReadTtsStep, here] at stepped
  case stopLoad =>
    cases stepped
    refine ⟨fun stops => ?_, rfl, rfl⟩
    cases stopped : pvt.playBackStopped with
    | true =>
        rw [stopped] at stops
        cases stops
    | false => exact ⟨rfl, rfl⟩
  case firstRead => exact ofRead _ _ rfl (Option.some.inj stepped)
  case pollRead => exact ofRead _ _ blocking (Option.some.inj stepped)
  case waitRead => exact ofRead _ _ rfl (Option.some.inj stepped)
  case lastRead => exact ofRead _ _ rfl (Option.some.inj stepped)
  all_goals try split at stepped
  all_goals try split at stepped
  all_goals first
    | (cases stepped; done)
    | (cases stepped
       refine ⟨?_, rfl, rfl⟩
       try split
       all_goals first
         | (intro stops; cases stops)
         | (rw [blocking]; exact nofun))

theorem speechReadTtsStep_playback {reader reader' : Reader}
    (stepped : speechReadTtsStep clock pvt history reader =
      some (after, reader', history')) :
    (reader.pc = .stopFire ∧ reader'.pc = .returnFalse ∧
      after.playBackStopped = pvt.playBackStopped ∧
      history'.events = history.events ++ [.stop]) ∨
    (reader.pc ≠ .stopFire ∧ history'.events = history.events ∧
      ((reader.pc = .stopStore ∧ reader'.pc = .stopAvailable ∧
          after.playBackStopped = true) ∨
        (reader.pc ≠ .stopStore ∧
          reader'.pc.stopPending = reader.pc.stopPending ∧
          after.playBackStopped = pvt.playBackStopped ∧
          (reader'.pc = .stopStore → pvt.playBackStopped = false)))) := by
  cases stops : reader.pc.stops with
  | true =>
      cases here : reader.pc <;> rw [here] at stops <;> try cases stops
      all_goals
        simp only [speechReadTtsStep, here] at stepped
        cases stepped
      · exact .inr ⟨by simp, rfl, .inl ⟨rfl, rfl, rfl⟩⟩
      · exact .inr ⟨by simp, rfl, .inr ⟨by simp, rfl, rfl, by simp⟩⟩
      · exact .inl ⟨rfl, rfl, rfl, rfl⟩
  | false =>
      obtain ⟨stores, sameFlag, sameEvents⟩ :=
        speechReadTtsStep_before stops stepped
      have notFiring : reader.pc ≠ .stopFire := by
        intro here
        rw [here] at stops
        cases stops
      have notStoring : reader.pc ≠ .stopStore := by
        intro here
        rw [here] at stops
        cases stops
      refine .inr ⟨notFiring, sameEvents, .inr ⟨notStoring, ?_, sameFlag, ?_⟩⟩
      · cases later : reader'.pc.stops with
        | true =>
            rw [(stores later).1, ReadPc.not_stopPending stops]
            rfl
        | false =>
            rw [ReadPc.not_stopPending later, ReadPc.not_stopPending stops]
      · intro here
        exact (stores (by rw [here]; rfl)).2

theorem speechCloseStep_playback {closer closer' : ClosePc}
    (stepped : speechCloseStep clock pvt history closer =
      some (after, closer', history')) :
    after.playBackStopped = pvt.playBackStopped ∧
      ((closer = .fireClosed ∧
          history'.events = history.events ++ [.speechClosed]) ∨
        (closer ≠ .fireClosed ∧ history'.events = history.events)) := by
  cases closer <;> simp only [speechCloseStep] at stepped
  all_goals try split at stepped
  all_goals first
    | (cases stepped; done)
    | (cases stepped; exact ⟨rfl, .inr ⟨by simp, rfl⟩⟩)
    | (cases stepped; exact ⟨rfl, .inl ⟨rfl, rfl⟩⟩)

end Agents

/-! ## The invariant -/

/-- A pending store goes against the value of the flag, and the events fired and
pending add up to the stores made. -/
structure EventRun (state : State) : Prop where
  clears : state.net = .packetStoreStopped → state.pvt.playBackStopped = true
  sets : state.reader.pc = .stopStore → state.pvt.playBackStopped = false
  paired : ∃ playing, Paired state.history.events playing ∧
    playing.toNat + state.net.startPending.toNat =
      state.reader.pc.stopPending.toNat + (!state.pvt.playBackStopped).toNat

section Runs

variable {before after : State}

theorem NetPc.not_startPending {net : NetPc} (other : net ≠ .packetFireStart) :
    net.startPending = false :=
  beq_eq_false_iff_ne.mpr other

/-- Nothing happens to the flag and the events, and a callback or a read at most
begins. -/
theorem EventRun.of_frame (run : EventRun before)
    (net : after.net = before.net ∨ (before.net = .idle ∧
      after.net ≠ .packetStoreStopped ∧ after.net ≠ .packetFireStart))
    (reader : after.reader.pc = before.reader.pc ∨
      (before.reader.pc = .idle ∧ after.reader.pc.stops = false))
    (sameFlag : after.pvt.playBackStopped = before.pvt.playBackStopped)
    (sameEvents : after.history.events = before.history.events) :
    EventRun after := by
  have sameStart : after.net.startPending = before.net.startPending := by
    rcases net with same | ⟨idle, _, notFiring⟩
    · rw [same]
    · rw [idle, NetPc.not_startPending notFiring]
      rfl
  have sameStop :
      after.reader.pc.stopPending = before.reader.pc.stopPending := by
    rcases reader with same | ⟨idle, early⟩
    · rw [same]
    · rw [idle, ReadPc.not_stopPending early]
      rfl
  refine ⟨fun stores => ?_, fun stores => ?_, ?_⟩
  · rcases net with same | ⟨_, notStoring, _⟩
    · exact sameFlag.trans (run.clears (same.symm.trans stores))
    · exact absurd stores notStoring
  · rcases reader with same | ⟨_, early⟩
    · exact sameFlag.trans (run.sets (same.symm.trans stores))
    · rw [stores] at early
      cases early
  · rw [sameStart, sameStop, sameFlag, sameEvents]
    exact run.paired

theorem EventRun.netStep {pvt : Pvt} {net : NetPc} {history : History}
    {started : Option Delayed} (run : EventRun before)
    (permitted : firesInOrder before .netStep = true)
    (agent : callbackStep before.clock before.pvt before.history before.net =
      some (pvt, net, history, started)) :
    EventRun { before with
      pvt := pvt
      net := net
      history := history
      delayed := before.delayed ++ started.toList } := by
  obtain ⟨playing, paired, balance⟩ := run.paired
  rcases callbackStep_playback agent with
    ⟨here, rfl, sameFlag, fired⟩ | ⟨notFiring, sameEvents, ⟨here, rfl, cleared⟩ |
      ⟨notStoring, notPending, sameFlag, loaded⟩⟩
  · have pending : before.net.startPending = true := by rw [here]; rfl
    rw [pending] at balance
    have silent : playing = false := by
      simp only [firesInOrder, pending, Bool.not_true, Bool.false_or,
        Bool.or_eq_true, Bool.not_eq_true'] at permitted
      cases playing with
      | false => rfl
      | true =>
          rcases permitted with noStop | stopped
          · rw [noStop] at balance
            cases flag : before.pvt.playBackStopped <;>
              simp [flag] at balance
          · rw [stopped] at balance
            cases stop : before.reader.pc.stopPending <;>
              simp [stop] at balance
    subst silent
    refine ⟨nofun, ?_, true, ?_, ?_⟩
    · simp only [sameFlag]
      exact run.sets
    · simp only [fired]
      exact paired.start
    · simp only [sameFlag]
      exact balance
  · have set := run.clears here
    rw [NetPc.not_startPending notFiring, set] at balance
    refine ⟨nofun, fun _ => cleared, playing, ?_, ?_⟩
    · simp only [sameEvents]
      exact paired
    · simp only [cleared]
      exact congrArg (· + 1) balance
  · refine ⟨fun stores => ?_, ?_, playing, ?_, ?_⟩
    · exact sameFlag.trans (loaded stores)
    · simp only [sameFlag]
      exact run.sets
    · simp only [sameEvents]
      exact paired
    · simp only [sameFlag]
      rw [NetPc.not_startPending notFiring] at balance
      rw [NetPc.not_startPending notPending]
      exact balance

theorem EventRun.readStep {pvt : Pvt} {reader : Reader} {history : History}
    (run : EventRun before)
    (permitted : firesInOrder before .readStep = true)
    (agent : speechReadTtsStep before.clock before.pvt before.history
      before.reader = some (pvt, reader, history)) :
    EventRun { before with
      pvt := pvt, reader := reader, history := history } := by
  obtain ⟨playing, paired, balance⟩ := run.paired
  rcases speechReadTtsStep_playback agent with
    ⟨here, arrived, sameFlag, fired⟩ | ⟨notFiring, sameEvents,
      ⟨here, arrived, set⟩ | ⟨notStoring, samePending, sameFlag, loaded⟩⟩
  · have pending : before.reader.pc.stopPending = true := by rw [here]; rfl
    rw [pending] at balance
    have sounding : playing = true := by
      simp only [firesInOrder, here, bne_self_eq_false, Bool.false_or,
        Bool.or_eq_true, Bool.not_eq_true'] at permitted
      cases playing with
      | true => rfl
      | false =>
          rcases permitted with noStart | cleared
          · rw [noStart] at balance
            cases flag : before.pvt.playBackStopped <;>
              simp [flag] at balance
          · rw [cleared] at balance
            cases start : before.net.startPending <;>
              simp [start] at balance
    subst sounding
    refine ⟨?_, ?_, false, ?_, ?_⟩
    · simp only [sameFlag]
      exact run.clears
    · simp only [arrived]
      exact nofun
    · simp only [fired]
      exact paired.stop
    · simp only [sameFlag, arrived, ReadPc.stopPending]
      exact congrArg (false.toNat + ·) (Nat.add_left_cancel balance)
  · have cleared := run.sets here
    rw [here, cleared] at balance
    refine ⟨fun _ => set, ?_, playing, ?_, ?_⟩
    · simp only [arrived]
      exact nofun
    · simp only [sameEvents]
      exact paired
    · simp only [set, arrived]
      exact balance
  · refine ⟨?_, fun stores => ?_, playing, ?_, ?_⟩
    · simp only [sameFlag]
      exact run.clears
    · exact sameFlag.trans (loaded stores)
    · simp only [sameEvents]
      exact paired
    · simp only [sameFlag, samePending]
      exact balance

theorem EventRun.closeStep {pvt : Pvt} {closer : ClosePc} {history : History}
    (run : EventRun before)
    (permitted : firesInOrder before .closeStep = true)
    (agent : speechCloseStep before.clock before.pvt before.history
      before.closer = some (pvt, closer, history)) :
    EventRun { before with
      pvt := pvt, closer := closer, history := history } := by
  obtain ⟨sameFlag, ⟨here, fired⟩ | ⟨_, sameEvents⟩⟩ :=
    speechCloseStep_playback agent
  · obtain ⟨playing, paired, balance⟩ := run.paired
    simp only [firesInOrder, here, bne_self_eq_false, Bool.false_or,
      beq_iff_eq] at permitted
    have silent : playing = false := by
      cases playing with
      | false => rfl
      | true =>
          rw [← permitted] at balance
          simp at balance
    subst silent
    refine ⟨?_, ?_, false, ?_, ?_⟩
    · simp only [sameFlag]
      exact run.clears
    · simp only [sameFlag]
      exact run.sets
    · simp only [fired]
      exact paired.closed
    · simp only [sameFlag]
      exact balance
  · exact run.of_frame (.inl rfl) (.inl rfl) sameFlag sameEvents

theorem EventRun.step {action : Action} (run : EventRun before)
    (permitted : firesInOrder before action = true)
    (stepped : before.step action = some after) : EventRun after := by
  cases step_moves stepped with
  | tick => exact run.of_frame (.inl rfl) (.inl rfl) rfl rfl
  | openStep agent =>
      obtain ⟨_, _, _, rfl, _⟩ := speechOpenStep_writes agent
      exact run.of_frame (.inl rfl) (.inl rfl) rfl rfl
  | procStep agent =>
      have sameEvents := processingThreadStep_events agent
      obtain ⟨_, _, _, _, _, _, _, _, rfl⟩ := processingThreadStep_writes agent
      exact run.of_frame (.inl rfl) (.inl rfl) rfl sameEvents
  | feedStart => exact run.of_frame (.inl rfl) (.inl rfl) rfl rfl
  | feedStep located agent =>
      have sameEvents := speechFeedTtsStep_events agent
      obtain ⟨_, _, _, _, _, rfl⟩ := speechFeedTtsStep_writes agent
      exact run.of_frame (.inl rfl) (.inl rfl) rfl sameEvents
  | netStart idle dialled agent =>
      obtain ⟨notStoring, notFiring⟩ := callbackStart_playback agent
      obtain ⟨⟨_, _, _, rfl⟩, _, _, _, _, rfl⟩ := callbackStart_writes agent
      exact run.of_frame (.inr ⟨idle, notStoring, notFiring⟩) (.inl rfl) rfl rfl
  | netStep agent => exact run.netStep permitted agent
  | delayedStep located agent =>
      obtain ⟨_, _, _, rfl⟩ := delayedCompletionStep_writes agent
      exact run.of_frame (.inl rfl) (.inl rfl) rfl rfl
  | readStart idle =>
      exact run.of_frame (.inl rfl) (.inr ⟨idle, rfl⟩) rfl rfl
  | readStep agent => exact run.readStep permitted agent
  | closeStart => exact run.of_frame (.inl rfl) (.inl rfl) rfl rfl
  | closeStep agent => exact run.closeStep permitted agent
  | flush => exact run.of_frame (.inl rfl) (.inl rfl) rfl rfl
  | resume => exact run.of_frame (.inl rfl) (.inl rfl) rfl rfl

end Runs

/-- In every run that fires its events in the order of the stores, and closes the
handle when the playback has stopped, the events are paired. -/
theorem eventsPaired_of_firesInOrder (now : Nat) {state : State}
    (reached : PermittedReach State.step
      (fun state action => firesInOrder state action = true)
      (State.initial now) state) :
    EventsPaired state.history.events := by
  have run : EventRun state :=
    reached.invariant ⟨nofun, nofun, false, .nil, rfl⟩
      fun _ _ _ run permitted stepped => run.step permitted stepped
  obtain ⟨_, paired, _⟩ := run.paired
  exact paired.eventsPaired

/-- A text is spoken to its end and the handle is closed. -/
def spokenSchedule : List Action :=
  openingSchedule ++ directSendSchedule 0 [65] ++ firstPacketSchedule [1] ++
    Action.netStart (.text (some synthesisCompletedMessage) 1) ::
    Action.netStep ::
    [Action.tick 500, Action.delayedStep 0, Action.delayedStep 0] ++
    List.replicate 3 (Action.procStep .handed) ++
    Action.readStart 4 false :: List.replicate 7 Action.readStep ++
    Action.closeStart :: List.replicate 4 Action.closeStep

theorem eventsPaired_spokenSchedule :
    ∃ state, PermittedReach State.step
        (fun state action => firesInOrder state action = true)
        (State.initial 1000) state ∧
      (state.history.events == [.start, .stop, .speechClosed]) = true ∧
      EventsPaired state.history.events := by
  obtain ⟨state, reached, passed⟩ :=
    exists_permittedReach_of_replay State.step (.initial 1000) spokenSchedule
      (fun state => state.history.events == [.start, .stop, .speechClosed])
      (fun state action => firesInOrder state action = true)
      (by decide)
  exact ⟨state, reached, passed, eventsPaired_of_firesInOrder 1000 reached⟩

end AliyunTts

end SpeechModules
