import SpeechModules.FunAsrStep

/-!
# The applications of one channel

`start_asr` attaches a media bug for a new session and stores the session in the
channel's private data `funasr_mod`; `pause_asr` and `stop_asr` look the session
up there.  The channel has one such slot, and `start_asr` does not look whether
it is taken.

This file follows the commands executed on one channel.  What a command does to
a session is connected to the steps of the session at the end.
-/

namespace SpeechModules

namespace FunAsr

open StepSystem

/-- What the applications see of a session: whether its media bug is attached,
and the two fields they write. -/
structure Session where
  bug : Bool
  hangup : Bool
  paused : Int
  deriving DecidableEq

/-- The sessions that `start_asr` has created on the channel, and the one that
its private data points to. -/
structure Channel where
  sessions : List Session
  funasrMod : Option Nat
  deriving DecidableEq

def Channel.initial : Channel := ⟨[], none⟩

/-- A command from the dialplan or a controller.  `start_asr` has its data and
tells whether the resources of the session could be created, `pause_asr` has the
number that `atoi` makes of its first argument, if there is one. -/
inductive Command where
  | start (data : String) (resources : Bool)
  | pause (argument : Option Int)
  | stop
  deriving DecidableEq

/-- The command creates a session. -/
def Command.creates : Command → Bool
  | .start data resources => data != "" && resources
  | _ => false

/-! ## The commands -/

/-- The bug is added. -/
def Session.addBug (session : Session) : Session := { session with bug := true }

/-- The bug is removed. -/
def Session.removeBug (session : Session) : Session :=
  { session with bug := false }

/-- The CLOSE callback. -/
def Session.close (session : Session) : Session := { session with hangup := true }

def Session.pause (paused : Int) (session : Session) : Session :=
  { session with paused := paused }

def Channel.modify (channel : Channel) (index : Nat)
    (change : Session → Session) : Channel :=
  { channel with sessions := channel.sessions.modify index change }

/-- `start_funasr_session_function`: the channel after it has set the private
data and after it has added the bug. -/
def Channel.startFunasrSession (channel : Channel) : List Channel :=
  let published : Channel :=
    ⟨channel.sessions ++ [⟨false, false, 0⟩], some channel.sessions.length⟩
  [published, published.modify channel.sessions.length Session.addBug]

/-- `pause_funasr_session_function`. -/
def Channel.pauseFunasrSession (channel : Channel) (paused : Int) :
    List Channel :=
  match channel.funasrMod with
  | none => []
  | some index => [channel.modify index (Session.pause paused)]

/-- `stop_funasr`: the channel after it has unset the private data, after it has
removed the bug and after the CLOSE callback. -/
def Channel.stopFunasr (channel : Channel) : List Channel :=
  match channel.funasrMod with
  | none => []
  | some index =>
      let unset : Channel := { channel with funasrMod := none }
      let removed := unset.modify index Session.removeBug
      [unset, removed, removed.modify index Session.close]

/-- The channel after each statement of a command that changes it. -/
def Channel.through (channel : Channel) : Command → List Channel
  | .start data resources =>
      if (Command.start data resources).creates then
        channel.startFunasrSession
      else []
  | .pause none => []
  | .pause (some paused) => channel.pauseFunasrSession paused
  | .stop => channel.stopFunasr

/-- The channel after a whole command. -/
def Channel.execute (channel : Channel) (command : Command) : Channel :=
  (channel.through command).getLastD channel

/-! ## The property -/

/-- The session is fed with audio. -/
def Session.recognises (session : Session) : Bool :=
  session.bug && !session.hangup

def Channel.AtMostOne (channel : Channel) : Prop :=
  ∀ (index other : Nat) (session otherSession : Session),
    channel.sessions[index]? = some session →
    channel.sessions[other]? = some otherSession →
    session.recognises = true → otherSession.recognises = true → index = other

/-- What a command promises of the channel it leaves. -/
def Command.Done (channel : Channel) : Command → Prop
  | .stop => ∀ session ∈ channel.sessions, session.recognises = false
  | .pause (some paused) =>
      ∀ session ∈ channel.sessions, session.bug = true →
        session.paused = paused
  | _ => True

/-- At every point at most one session is fed with audio, and every command does
what it promises. -/
def Channel.Obeys : Channel → List Command → Prop
  | channel, [] => channel.AtMostOne
  | channel, command :: rest =>
      channel.AtMostOne ∧
      (∀ point ∈ channel.through command, point.AtMostOne) ∧
      command.Done (channel.execute command) ∧
      (channel.execute command).Obeys rest

/-- No session is created while another one has not been stopped. -/
def startsStopped : Bool → List Command → Bool
  | _, [] => true
  | _, .stop :: rest => startsStopped false rest
  | running, command :: rest =>
      if command.creates then !running && startsStopped true rest
      else startsStopped running rest

/-! ## The slot and the bugs -/

/-- The session in the private data is the one whose bug is attached. -/
structure Channel.Tidy (channel : Channel) : Prop where
  attached : ∀ (index : Nat) (session : Session),
    channel.sessions[index]? = some session → session.bug = true →
      channel.funasrMod = some index
  current : ∀ index, channel.funasrMod = some index →
    ∃ session, channel.sessions[index]? = some session ∧ session.bug = true ∧
      session.hangup = false

section Commands

variable {channel : Channel}

theorem Session.bug_of_recognises {session : Session}
    (recognises : session.recognises = true) : session.bug = true :=
  (Bool.and_eq_true_iff.mp recognises).1

theorem Channel.Tidy.atMostOne (tidy : channel.Tidy) : channel.AtMostOne := by
  intro index other session otherSession located otherLocated recognises
    otherRecognises
  have here := tidy.attached index session located
    (Session.bug_of_recognises recognises)
  have there := tidy.attached other otherSession otherLocated
    (Session.bug_of_recognises otherRecognises)
  exact Option.some.inj (here.symm.trans there)

theorem Channel.modify_getElem? (channel : Channel) (index position : Nat)
    (change : Session → Session) :
    (channel.modify index change).sessions[position]? =
      if index = position then (channel.sessions[position]?).map change
      else channel.sessions[position]? := by
  simp only [Channel.modify, List.getElem?_modify]
  split <;> simp

/-- No bug is attached. -/
def Channel.Detached (channel : Channel) : Prop :=
  ∀ (index : Nat) (session : Session),
    channel.sessions[index]? = some session → session.bug = false

theorem Channel.Detached.atMostOne (detached : channel.Detached) :
    channel.AtMostOne := by
  intro index _ session _ located _ recognises
  have attached := Session.bug_of_recognises recognises
  rw [detached index session located] at attached
  cases attached

theorem Channel.Tidy.detached (tidy : channel.Tidy)
    (empty : channel.funasrMod = none) : channel.Detached := by
  intro index session located
  cases attached : session.bug with
  | false => rfl
  | true => cases empty.symm.trans (tidy.attached index session located attached)

/-- Removing the bug of the session in the slot. -/
theorem Channel.Tidy.removeBug {index : Nat} (tidy : channel.Tidy)
    (found : channel.funasrMod = some index) :
    (Channel.modify { channel with funasrMod := none } index
      Session.removeBug).Detached := by
  intro position session located
  rw [Channel.modify_getElem?] at located
  split at located
  next =>
    obtain ⟨old, _, rfl⟩ := Option.map_eq_some_iff.mp located
    rfl
  next other =>
    cases attached : session.bug with
    | false => rfl
    | true =>
        have current := tidy.attached position session located attached
        exact absurd (Option.some.inj (found.symm.trans current)) other

theorem Channel.Detached.close (detached : channel.Detached) (index : Nat) :
    (channel.modify index Session.close).Detached := by
  intro position session located
  rw [Channel.modify_getElem?] at located
  split at located
  next =>
    obtain ⟨old, isOld, rfl⟩ := Option.map_eq_some_iff.mp located
    exact detached position old isOld
  next => exact detached position session located

theorem Channel.Detached.tidy (detached : channel.Detached)
    (empty : channel.funasrMod = none) : channel.Tidy := by
  refine ⟨fun index session located attached => ?_, fun index found => ?_⟩
  · rw [detached index session located] at attached
    cases attached
  · cases empty.symm.trans found

theorem Channel.Detached.stopDone (detached : channel.Detached) :
    Command.stop.Done channel := by
  intro session member
  obtain ⟨index, located⟩ := List.mem_iff_getElem?.mp member
  simp [Session.recognises, detached index session located]

/-- A command leaves the channel tidy and does what it promises. -/
structure Channel.Fulfils (channel : Channel) (command : Command)
    (running : Bool) : Prop where
  through : ∀ point ∈ channel.through command, point.AtMostOne
  promised : command.Done (channel.execute command)
  tidy : (channel.execute command).Tidy
  running : (channel.execute command).funasrMod.isSome = running

/-- A command that changes nothing. -/
theorem Channel.Tidy.idle {command : Command} (tidy : channel.Tidy)
    (nothing : channel.through command = [])
    (promised : command.Done channel) :
    channel.Fulfils command channel.funasrMod.isSome := by
  have same : channel.execute command = channel := by
    rw [Channel.execute, nothing]
    rfl
  refine ⟨?_, by rwa [same], by rwa [same], by rw [same]⟩
  rw [nothing]
  exact nofun

theorem Channel.Tidy.stop (tidy : channel.Tidy) :
    channel.Fulfils .stop false := by
  cases found : channel.funasrMod with
  | none =>
      have idle := @Channel.Tidy.idle channel .stop tidy
        (by simp only [Channel.through, Channel.stopFunasr, found])
        (tidy.detached found).stopDone
      rwa [found] at idle
  | some index =>
      have removed := tidy.removeBug found
      have closed := removed.close index
      refine ⟨fun point member => ?_, ?_, ?_, ?_⟩
      · simp only [Channel.through, Channel.stopFunasr, found, List.mem_cons,
          List.not_mem_nil, or_false] at member
        rcases member with rfl | rfl | rfl
        · exact tidy.atMostOne
        · exact removed.atMostOne
        · exact closed.atMostOne
      all_goals
        simp only [Channel.execute, Channel.through, Channel.stopFunasr, found]
      · exact closed.stopDone
      · exact closed.tidy rfl
      · rfl

theorem Channel.Tidy.pause (tidy : channel.Tidy) (paused : Int) :
    channel.Fulfils (.pause (some paused)) channel.funasrMod.isSome := by
  cases found : channel.funasrMod with
  | none =>
      rw [← found]
      refine tidy.idle ?_ fun session member attached => ?_
      · simp only [Channel.through, Channel.pauseFunasrSession, found]
      · obtain ⟨index, located⟩ := List.mem_iff_getElem?.mp member
        rw [tidy.detached found index session located] at attached
        cases attached
  | some index =>
      have tidyAfter : (channel.modify index (Session.pause paused)).Tidy := by
        refine ⟨fun position session located attached => ?_,
          fun position current => ?_⟩
        · rw [Channel.modify_getElem?] at located
          split at located
          next =>
            obtain ⟨old, isOld, rfl⟩ := Option.map_eq_some_iff.mp located
            exact tidy.attached position old isOld attached
          next => exact tidy.attached position session located attached
        · obtain ⟨session, located, attached, live⟩ :=
            tidy.current position current
          have here : index = position :=
            Option.some.inj (found.symm.trans current)
          refine ⟨session.pause paused, ?_, attached, live⟩
          rw [Channel.modify_getElem?, if_pos here, located]
          rfl
      refine ⟨fun point member => ?_, ?_, ?_, ?_⟩
      · simp only [Channel.through, Channel.pauseFunasrSession, found,
          List.mem_singleton] at member
        subst member
        exact tidyAfter.atMostOne
      all_goals
        simp only [Channel.execute, Channel.through,
          Channel.pauseFunasrSession, found]
      · intro session member attached
        obtain ⟨position, located⟩ := List.mem_iff_getElem?.mp member
        change (channel.modify index (Session.pause paused)).sessions[position]? =
          some session at located
        have here : index = position := by
          have current := tidyAfter.attached position session located attached
          exact Option.some.inj (found.symm.trans current)
        rw [Channel.modify_getElem?, if_pos here] at located
        obtain ⟨old, _, rfl⟩ := Option.map_eq_some_iff.mp located
        rfl
      · exact tidyAfter
      · simp [Channel.modify, found]

theorem modify_length_append {α : Type*} (list : List α) (last : α)
    (change : α → α) :
    (list ++ [last]).modify list.length change = list ++ [change last] := by
  induction list with
  | nil => rfl
  | cons first rest ih => simpa using ih

/-- The channel after the two statements of `start_asr`. -/
theorem Channel.through_start {command : Command}
    (creates : command.creates = true) :
    channel.through command =
      [⟨channel.sessions ++ [⟨false, false, 0⟩], some channel.sessions.length⟩,
        ⟨channel.sessions ++ [⟨true, false, 0⟩],
          some channel.sessions.length⟩] := by
  cases command with
  | start data resources =>
      simp only [Channel.through, creates, if_true, Channel.startFunasrSession,
        Channel.modify, modify_length_append]
      rfl
  | pause argument => cases creates
  | stop => cases creates

theorem Channel.execute_start {command : Command}
    (creates : command.creates = true) :
    channel.execute command =
      ⟨channel.sessions ++ [⟨true, false, 0⟩],
        some channel.sessions.length⟩ := by
  rw [Channel.execute, Channel.through_start creates]
  rfl

/-- Where a session is once another one has been added. -/
theorem append_cases {sessions : List Session} {last session : Session}
    {index : Nat} (located : (sessions ++ [last])[index]? = some session) :
    sessions[index]? = some session ∨
      (index = sessions.length ∧ session = last) := by
  rw [List.getElem?_append] at located
  split at located
  next => exact .inl located
  next outside =>
    obtain ⟨inside, isLast⟩ := List.getElem?_eq_some_iff.mp located
    rw [List.length_singleton] at inside
    refine .inr ⟨by omega, ?_⟩
    rw [← isLast, List.getElem_singleton]

/-- `start_asr` on a channel without a session. -/
theorem Channel.Tidy.start {command : Command} (tidy : channel.Tidy)
    (creates : command.creates = true) (empty : channel.funasrMod = none) :
    channel.Fulfils command true := by
  have detached := tidy.detached empty
  have tidyAfter : (channel.execute command).Tidy := by
    rw [Channel.execute_start creates]
    refine ⟨fun index session located attached => ?_, fun index current => ?_⟩
    · rcases append_cases located with old | ⟨rfl, _⟩
      · rw [detached index session old] at attached
        cases attached
      · rfl
    · cases current
      exact ⟨_, List.getElem?_concat_length, rfl, rfl⟩
  refine ⟨fun point member => ?_, ?_, tidyAfter, ?_⟩
  · rw [Channel.through_start creates] at member
    rcases List.mem_pair.mp member with rfl | rfl
    · have published : Channel.Detached
          ⟨channel.sessions ++ [⟨false, false, 0⟩],
            some channel.sessions.length⟩ := by
        intro index session located
        rcases append_cases located with old | ⟨_, rfl⟩
        · exact detached index session old
        · rfl
      exact published.atMostOne
    · rw [← Channel.execute_start creates]
      exact tidyAfter.atMostOne
  · cases command with
    | start data resources => trivial
    | pause argument => cases creates
    | stop => cases creates
  · rw [Channel.execute_start creates]
    rfl

/-- `start_asr` while a session is there leaves two of them. -/
theorem Channel.Tidy.start_twice {command : Command} (tidy : channel.Tidy)
    (creates : command.creates = true)
    (running : channel.funasrMod.isSome = true) :
    ¬ (channel.execute command).AtMostOne := by
  obtain ⟨index, found⟩ := Option.isSome_iff_exists.mp running
  obtain ⟨session, located, attached, live⟩ := tidy.current index found
  have inside := (List.getElem?_eq_some_iff.mp located).1
  intro once
  rw [Channel.execute_start creates] at once
  have same := once index channel.sessions.length session ⟨true, false, 0⟩
    (by rw [List.getElem?_append_left inside, located])
    List.getElem?_concat_length (by simp [Session.recognises, attached, live])
    rfl
  omega

theorem Channel.Obeys.atMostOne {commands : List Command}
    (obeys : channel.Obeys commands) : channel.AtMostOne := by
  cases commands with
  | nil => exact obeys
  | cons command rest => exact obeys.1

/-- From a tidy channel, the commands are obeyed exactly if no session is
created while another one has not been stopped. -/
theorem Channel.Tidy.obeys_iff (tidy : channel.Tidy) (commands : List Command) :
    channel.Obeys commands ↔
      startsStopped channel.funasrMod.isSome commands = true := by
  induction commands generalizing channel with
  | nil => exact ⟨fun _ => rfl, fun _ => tidy.atMostOne⟩
  | cons command rest ih =>
      -- a command that is fulfilled leaves the question to the rest
      have onwards {running : Bool} (fulfils : channel.Fulfils command running) :
          channel.Obeys (command :: rest) ↔
            startsStopped running rest = true := by
        rw [← fulfils.running, ← ih fulfils.tidy]
        exact ⟨fun obeys => obeys.2.2.2, fun obeys =>
          ⟨tidy.atMostOne, fulfils.through, fulfils.promised, obeys⟩⟩
      cases command with
      | stop => exact onwards tidy.stop
      | pause argument =>
          cases argument with
          | none => exact onwards (tidy.idle rfl trivial)
          | some paused => exact onwards (tidy.pause paused)
      | start data resources =>
          simp only [startsStopped]
          cases creates : (Command.start data resources).creates with
          | false =>
              refine onwards (tidy.idle ?_ trivial)
              simp only [Channel.through, creates]
              rfl
          | true =>
              cases found : channel.funasrMod with
              | none => exact onwards (tidy.start creates found)
              | some index =>
                  have running : channel.funasrMod.isSome = true := by
                    rw [found]
                    rfl
                  exact ⟨fun obeys => absurd obeys.2.2.2.atMostOne
                    (tidy.start_twice creates running), nofun⟩

end Commands

theorem Channel.Tidy.initial : Channel.initial.Tidy := ⟨nofun, nofun⟩

/-- The commands executed on a channel are obeyed exactly if every session is
stopped before the next one is started. -/
theorem obeys_iff_startsStopped (commands : List Command) :
    Channel.initial.Obeys commands ↔ startsStopped false commands = true :=
  Channel.Tidy.initial.obeys_iff commands

/-- `start_asr` twice, then `stop_asr`. -/
def restartCommands : List Command :=
  [.start "hello" true, .start "hello" true, .stop]

theorem obeys_restartCommands_fails :
    ¬ ∀ commands, Channel.initial.Obeys commands := by
  intro always
  have obeyed := Channel.Tidy.initial.obeys_iff restartCommands
  exact absurd (obeyed.mp (always restartCommands)) (by decide)

/-! ## The steps of a session

Run without interruption, a command does to its session what the steps of the
session do. -/

section Steps

variable {config : Config} {state : State}

/-- What the applications see of a session with all its agents. -/
def State.session (state : State) : Session :=
  ⟨state.bug, state.pvt.hangup, state.pvt.paused⟩

theorem replay_start (now : Nat) :
    (replay (State.step config) (State.initial now) startSchedule).map
      State.session = some (Session.addBug ⟨false, false, 0⟩) :=
  rfl

/-- `pause_asr` finds the session and stores to `paused`. -/
def pauseSchedule (paused : Int) : List Action :=
  [.pauseStart paused, .appStep, .appStep]

theorem replay_pause (paused : Int) (found : state.funasrMod = true)
    (started : state.starter = .done) (ready : state.app = .idle) :
    (replay (State.step config) state (pauseSchedule paused)).map
      State.session = some (state.session.pause paused) := by
  simp [pauseSchedule, replay, State.step, State.appStep, found, started,
    ready, State.session, Session.pause]

/-- `stop_asr` finds the session, unsets the private data and removes the bug,
which runs the CLOSE callback. -/
def stopSchedule : List Action :=
  [Action.stopStart, Action.appStep, Action.appStep] ++
    List.replicate 5 Action.closeStep ++ [Action.appStep]

theorem replay_stop (found : state.funasrMod = true)
    (started : state.starter = .done) (ready : state.app = .idle)
    (attached : state.bug = true) (alive : state.pvt.destroyed = false)
    (live : state.pvt.hangup = false) (free : state.pvt.writeMutex = false) :
    (replay (State.step config) state stopSchedule).map State.session =
      some state.session.removeBug.close := by
  simp [stopSchedule, replay, State.step, State.appStep, closeStep, found,
    started, ready, attached, alive, live, free, State.session,
    Session.removeBug, Session.close]

/-- A later `start_asr` takes the session out of the private data and does
nothing else to it. -/
theorem dropPrivate_session {after : State}
    (stepped : state.step config .dropPrivate = some after) :
    after.session = state.session := by
  simp only [State.step] at stepped
  split at stepped
  · cases stepped
    rfl
  · cases stepped

end Steps

end FunAsr

end SpeechModules
