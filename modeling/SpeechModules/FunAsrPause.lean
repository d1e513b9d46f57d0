import SpeechModules.FunAsrStreaming

/-!
# Paused audio never reaches the recogniser

While `paused` is set, the READ callback writes silence of the frame's length
into the queue in place of the frame.  So two sessions whose callbacks come at
the same moments and differ only in the content of frames that were captured
while paused send the same payloads, whatever the resampler makes of them.

The two sessions run in lockstep.  The relation between them is that they are
equal but for the frame that a READ callback holds before it has tested
`paused`.
-/

namespace SpeechModules

namespace FunAsr

open StepSystem

/-! ## What is sent -/

/-- The blocks handed to `ws.send` or to the resampler, each with the thread
that does it. -/
abbrev BlockLog := List (Nat × Bytes)

/-- Note the block of a thread that is about to send it. -/
def noteBlockSent (state : State) (action : Action) (log : BlockLog) :
    BlockLog :=
  match action with
  | .threadStep index _ =>
      match state.threads[index]?.map Sender.pc with
      | some (.sendBlock block) => log ++ [(index, block)]
      | _ => log
  | _ => log

/-- The same action with another frame from `switch_core_media_bug_read`. -/
def Action.withFrame (frame : Option Bytes) : Action → Action
  | .readStart _ => .readStart frame
  | action => action

/-- Two sessions, watched, that take the same actions except for the frames. -/
def pairedStep (config : Config) :
    (State × BlockLog) × (State × BlockLog) → Action × Option Bytes →
      Option ((State × BlockLog) × (State × BlockLog)) :=
  lockstep (watched (State.step config) noteBlockSent) Prod.fst
    fun choice => choice.1.withFrame choice.2

/-- The frames have the same lengths, and the same content unless `paused` is
set when the READ callback looks at it. -/
def differsOnlyPaused (states : (State × BlockLog) × (State × BlockLog))
    (choice : Action × Option Bytes) : Bool :=
  match choice.1 with
  | .readStart frame => frame.map List.length == choice.2.map List.length
  | .readStep =>
      match states.1.1.reader.pc, states.2.1.reader.pc with
      | .loadPaused data, .loadPaused other =>
          states.1.1.pvt.paused != 0 || data == other
      | _, _ => true
  | _ => true

/-- The two READ callbacks are at the same place, and hold the same data once
they have tested `paused`. -/
structure Reader.Agrees (reader other : Reader) : Prop where
  pc : reader.pc = other.pc ∨ ∃ data otherData,
    reader.pc = .loadPaused data ∧ other.pc = .loadPaused otherData ∧
      data.length = otherData.length
  frame : reader.frame.map List.length = other.frame.map List.length

/-- The two sessions are equal but for the frames. -/
structure State.Agrees (state other : State) : Prop where
  same : other = { state with reader := other.reader }
  reader : state.reader.Agrees other.reader

/-- The two sessions agree and have sent the same blocks. -/
def SentSame (states : (State × BlockLog) × (State × BlockLog)) : Prop :=
  states.1.1.Agrees states.2.1 ∧ states.1.2 = states.2.2

section Steps

variable {config : Config}

/-- No action but those of the READ callback looks at the callback. -/
theorem step_with_reader (state : State) (reader : Reader) {action : Action}
    (notRead : ∀ frame, action ≠ .readStart frame)
    (notReadStep : action ≠ .readStep) :
    State.step config { state with reader := reader } action =
      (state.step config action).map fun after =>
        { after with reader := reader } := by
  cases action with
  | tick ms => rfl
  | startStep success =>
      simp only [State.step, State.startStep]
      cases state.starter <;> rfl
  | threadStep index choice =>
      simp only [State.step]
      cases state.threads[index]? with
      | none => rfl
      | some sender =>
          simp only [Option.bind_some, Option.map_map]
          rfl
  | callbackStart index event =>
      simp only [State.step]
      cases state.threads[index]? with
      | none => rfl
      | some sender =>
          simp only [Option.bind_some]
          cases sender.callback <;> simp only [Option.map_map] <;> rfl
  | callbackStep index =>
      simp only [State.step]
      cases state.threads[index]? with
      | none => rfl
      | some sender =>
          simp only [Option.bind_some, Option.map_map]
          rfl
  | readStart frame => exact absurd rfl (notRead frame)
  | readStep => exact absurd rfl notReadStep
  | sessionClose =>
      simp only [State.step]
      split <;> rfl
  | closeStep =>
      simp only [State.step, Option.map_map]
      rfl
  | pauseStart paused =>
      simp only [State.step]
      split <;> rfl
  | stopStart =>
      simp only [State.step]
      split <;> rfl
  | appStep =>
      simp only [State.step, State.appStep]
      cases state.app <;> first | rfl | (simp only; split <;> rfl)
  | dropPrivate =>
      simp only [State.step]
      split <;> rfl

theorem step_keeps_reader {state after : State} {action : Action}
    (notRead : ∀ frame, action ≠ .readStart frame)
    (notReadStep : action ≠ .readStep)
    (stepped : state.step config action = some after) :
    after.reader = state.reader := by
  have framed := @step_with_reader config state state.reader action notRead
    notReadStep
  rw [stepped] at framed
  have same : after = { after with reader := state.reader } :=
    Option.some.inj framed
  rw [same]

/-- A session that differs in its READ callback takes the same step. -/
theorem step_of_reader_changed {state after otherAfter : State}
    {reader : Reader} {action : Action}
    (notRead : ∀ frame, action ≠ .readStart frame)
    (notReadStep : action ≠ .readStep)
    (stepped : state.step config action = some after)
    (otherStepped : State.step config { state with reader := reader } action =
      some otherAfter) :
    otherAfter = { after with reader := reader } := by
  rw [step_with_reader state reader notRead notReadStep, stepped] at otherStepped
  exact (Option.some.inj otherStepped).symm

/-- What `switch_core_media_bug_read` leads to, by the length of the frame. -/
theorem bugRead_agrees {frame other : Option Bytes}
    (sameLength : frame.map List.length = other.map List.length) :
    (frame = none ∧ other = none) ∨ (frame = some [] ∧ other = some []) ∨
      ∃ data otherData, frame = some data ∧ other = some otherData ∧
        data ≠ [] ∧ otherData ≠ [] ∧ data.length = otherData.length := by
  cases frame with
  | none =>
      cases other with
      | none => exact .inl ⟨rfl, rfl⟩
      | some otherData => cases sameLength
  | some data =>
      cases other with
      | none => cases sameLength
      | some otherData =>
          have same : data.length = otherData.length :=
            Option.some.inj sameLength
          by_cases empty : data = []
          · subst empty
            have otherEmpty : otherData = [] :=
              List.length_eq_zero_iff.mp same.symm
            exact .inr (.inl ⟨rfl, by rw [otherEmpty]⟩)
          · refine .inr (.inr ⟨data, otherData, rfl, rfl, empty, ?_, same⟩)
            rintro rfl
            exact empty (List.length_eq_zero_iff.mp same)

/-- The two callbacks take the same step, and write the same data if the frames
differ only while `paused` is set. -/
theorem readStep_agrees {pvt after otherAfter : Pvt}
    {history history' otherHistory : History}
    {reader reader' other other' : Reader} (agrees : reader.Agrees other)
    (sameData : ∀ data otherData, reader.pc = .loadPaused data →
      other.pc = .loadPaused otherData → pvt.paused ≠ 0 ∨ data = otherData)
    (stepped : readStep pvt history reader = some (after, reader', history'))
    (otherStepped : readStep pvt history other =
      some (otherAfter, other', otherHistory)) :
    otherAfter = after ∧ otherHistory = history' ∧ reader'.Agrees other' := by
  obtain ⟨samePc | ⟨data, otherData, here, otherHere, sameLength⟩, sameFrame⟩ :=
    agrees
  · cases here : reader.pc <;> rw [here] at samePc <;>
      simp only [readStep, here, ← samePc] at stepped otherStepped
    case idle => cases stepped
    case bugRead =>
      cases stepped
      cases otherStepped
      refine ⟨rfl, rfl, ?_, sameFrame⟩
      rcases bugRead_agrees sameFrame with
        ⟨noFrame, noOther⟩ | ⟨empty, otherEmpty⟩ |
          ⟨data, otherData, some, otherSome, nonempty, otherNonempty, sameLength⟩
      · exact .inl (by rw [noFrame, noOther])
      · exact .inl (by rw [empty, otherEmpty])
      · refine .inr ⟨data, otherData, ?_, ?_, sameLength⟩
        · cases data with
          | nil => exact absurd rfl nonempty
          | cons first rest => rw [some]
        · cases otherData with
          | nil => exact absurd rfl otherNonempty
          | cons first rest => rw [otherSome]
    case lock =>
      split at stepped
      next => cases stepped
      next free =>
        rw [if_neg free] at otherStepped
        cases stepped
        cases otherStepped
        exact ⟨rfl, rfl, .inl rfl, sameFrame⟩
    all_goals
      cases stepped
      cases otherStepped
      exact ⟨rfl, rfl, .inl rfl, sameFrame⟩
  · simp only [readStep, here] at stepped
    simp only [readStep, otherHere] at otherStepped
    cases stepped
    cases otherStepped
    refine ⟨rfl, rfl, .inl ?_, sameFrame⟩
    rcases sameData data otherData here otherHere with isPaused | rfl
    · simp only [isPaused, if_true, sameLength, ne_eq, not_false_eq_true]
    · rfl

theorem State.Agrees.step
    {states after : (State × BlockLog) × (State × BlockLog)}
    {choice : Action × Option Bytes} (agrees : states.1.1.Agrees states.2.1)
    (permitted : differsOnlyPaused states choice = true)
    (moved : states.1.1.step config choice.1 = some after.1.1)
    (otherMoved : states.2.1.step config (choice.1.withFrame choice.2) =
      some after.2.1) :
    after.1.1.Agrees after.2.1 := by
  obtain ⟨⟨state, log⟩, ⟨other, otherLog⟩⟩ := states
  obtain ⟨⟨state', log'⟩, ⟨other', otherLog'⟩⟩ := after
  obtain ⟨action, frame⟩ := choice
  obtain ⟨same, sameReader⟩ := agrees
  simp only at same sameReader moved otherMoved ⊢
  by_cases isReadStart : ∃ given, action = .readStart given
  · obtain ⟨given, rfl⟩ := isReadStart
    obtain ⟨_, _, rfl⟩ := step_readStart moved
    obtain ⟨_, _, rfl⟩ := step_readStart otherMoved
    refine ⟨?_, .inl rfl, ?_⟩
    · rw [same]
    · simpa [differsOnlyPaused] using permitted
  by_cases isReadStep : action = .readStep
  · subst isReadStep
    obtain ⟨pvt, reader, history, agent, rfl⟩ := step_readStep moved
    obtain ⟨otherPvt, otherReader, otherHistory, otherAgent, rfl⟩ :=
      step_readStep otherMoved
    have sameData (data otherData : Bytes)
        (here : state.reader.pc = .loadPaused data)
        (otherHere : other.reader.pc = .loadPaused otherData) :
        state.pvt.paused ≠ 0 ∨ data = otherData := by
      simpa [differsOnlyPaused, here, otherHere] using permitted
    have samePvt : other.pvt = state.pvt := by rw [same]
    have sameHistory : other.history = state.history := by rw [same]
    rw [samePvt, sameHistory] at otherAgent
    obtain ⟨rfl, rfl, agree⟩ :=
      readStep_agrees sameReader sameData agent otherAgent
    refine ⟨?_, agree⟩
    rw [same]
  · have notRead (given : Option Bytes) : action ≠ .readStart given :=
      fun isRead => isReadStart ⟨given, isRead⟩
    have sameAction : action.withFrame frame = action := by
      cases action with
      | readStart given => exact absurd rfl (notRead given)
      | _ => rfl
    rw [sameAction, same] at otherMoved
    have sameAfter :=
      step_of_reader_changed notRead isReadStep moved otherMoved
    have kept := step_keeps_reader notRead isReadStep moved
    rw [sameAfter]
    exact ⟨rfl, kept ▸ sameReader⟩

/-- Sessions that agree send the same blocks. -/
theorem noteBlockSent_agrees {state other : State} {log : BlockLog}
    {action : Action} {frame : Option Bytes} (agrees : state.Agrees other) :
    noteBlockSent other (action.withFrame frame) log =
      noteBlockSent state action log := by
  have sameThreads : other.threads = state.threads := by rw [agrees.same]
  cases action <;> simp only [Action.withFrame, noteBlockSent, sameThreads]

theorem SentSame.step {states after : (State × BlockLog) × (State × BlockLog)}
    {choice : Action × Option Bytes} (sentSame : SentSame states)
    (permitted : differsOnlyPaused states choice = true)
    (stepped : pairedStep config states choice = some after) :
    SentSame after := by
  obtain ⟨agrees, sameLog⟩ := sentSame
  obtain ⟨first, second⟩ := lockstep_eq stepped
  obtain ⟨moved, noted⟩ := watched_eq first
  obtain ⟨otherMoved, otherNoted⟩ := watched_eq second
  refine ⟨agrees.step permitted moved otherMoved, ?_⟩
  rw [noted, otherNoted, noteBlockSent_agrees agrees, sameLog]

end Steps

end FunAsr

end SpeechModules
