import SpeechModules.FunAsrFrames
import Mathlib.Algebra.BigOperators.Group.List.Basic
import Mathlib.Algebra.GroupWithZero.Nat

/-!
# Bounded reconnection and the last owner of a session

A sender thread leaves its function by one of five exits.  On one of them it has
created the thread of the next connection attempt, on the other four it has
entered `destroy`.  Threads are therefore numbered by `ws_conn_retry`, which
bounds the number of attempts, and the last thread of the chain is the only one
that can own the session.
-/

namespace SpeechModules

namespace FunAsr

open StepSystem

/-- How often `destroy` has been entered for the session. -/
def State.destroyCalls (state : State) : Nat :=
  (state.threads.map Sender.destroyCalls).sum

/-- A bounded number of attempts, and one owner that destroys the session. -/
structure SingleOwner (config : Config) (state : State) : Prop where
  attempts : (state.history.attempts : Int) ≤ 1 + max config.wsConnRetryMax 0
  endings : ∀ sender ∈ state.threads, sender.pc = .ended →
    (sender.successors = 1 ∧ sender.destroyCalls = 0) ∨
      (sender.successors = 0 ∧ sender.destroyCalls = 1)
  atMostOnce : state.destroyCalls ≤ 1
  exactlyOnce : state.threads ≠ [] →
    (∀ sender ∈ state.threads, sender.pc = .ended) → state.destroyCalls = 1

/-- The stages of a thread: before its attempt, during the attempt, after it has
counted the attempt in `ws_conn_retry`, when it has decided to retry, and from
its call of `destroy` or its hand-over on. -/
inductive Stage where
  | opening
  | attempting
  | counted
  | retrying
  | leaving
  deriving DecidableEq

def SenderPc.stage : SenderPc → Stage
  | .start | .openWs => .opening
  | .loadHangup | .checkRetry => .counted
  | .sleepRetry _ | .loadHangupAgain | .createThread => .retrying
  | .destroyTest | .destroyEnter | .destroyWait | .destroyWoken
  | .destroyRelease | .unwinding | .ended => .leaving
  | _ => .attempting

/-- What a step of a thread that creates no successor does to its accounts. -/
inductive StageStep (config : Config) (pvt after : Pvt)
    (history history' : History) (sender sender' : Sender) : Prop
  | stay (stage : sender'.pc.stage = sender.pc.stage)
      (retry : after.wsConnRetry = pvt.wsConnRetry)
      (attempts : history'.attempts = history.attempts)
      (destroyCalls : sender'.destroyCalls = sender.destroyCalls)
      (successors : sender'.successors = sender.successors)
  | attempt (stage : sender.pc.stage = .opening)
      (next : sender'.pc.stage = .attempting)
      (retry : after.wsConnRetry = pvt.wsConnRetry)
      (attempts : history'.attempts = history.attempts + 1)
      (destroyCalls : sender'.destroyCalls = sender.destroyCalls)
      (successors : sender'.successors = sender.successors)
  | count (stage : sender.pc.stage = .attempting)
      (next : sender'.pc.stage = .counted)
      (retry : after.wsConnRetry = pvt.wsConnRetry + 1)
      (attempts : history'.attempts = history.attempts)
      (destroyCalls : sender'.destroyCalls = sender.destroyCalls)
      (successors : sender'.successors = sender.successors)
  | retry (stage : sender.pc.stage = .counted)
      (next : sender'.pc.stage = .retrying)
      (retry : after.wsConnRetry = pvt.wsConnRetry)
      (allowed : pvt.wsConnRetry ≤ config.wsConnRetryMax)
      (attempts : history'.attempts = history.attempts)
      (destroyCalls : sender'.destroyCalls = sender.destroyCalls)
      (successors : sender'.successors = sender.successors)
  | destroy (stage : sender.pc.stage ≠ .leaving)
      (next : sender'.pc.stage = .leaving)
      (retry : after.wsConnRetry = pvt.wsConnRetry)
      (attempts : history'.attempts = history.attempts)
      (destroyCalls : sender'.destroyCalls = sender.destroyCalls + 1)
      (successors : sender'.successors = sender.successors)

/-- What holds of the last of `count` threads. -/
structure LastThread (config : Config) (count : Nat) (retry : Int)
    (attempts : Nat) (sender : Sender) : Prop where
  successors : sender.successors = 0
  attemptsLe : attempts ≤ count
  retryLe : retry ≤ count
  accounts : match sender.pc.stage with
    | .opening =>
        retry + 1 = count ∧ attempts < count ∧ sender.destroyCalls = 0
    | .attempting => retry + 1 = count ∧ sender.destroyCalls = 0
    | .counted => retry = count ∧ sender.destroyCalls = 0
    | .retrying =>
        retry = count ∧ retry ≤ config.wsConnRetryMax ∧
          sender.destroyCalls = 0
    | .leaving => sender.destroyCalls = 1

/-- The accounts of a chain of threads. -/
structure RetryRun (config : Config) (state : State) : Prop where
  handedOn : ∀ (index : Nat) (sender : Sender),
    state.threads[index]? = some sender → index + 1 < state.threads.length →
    sender.successors = 1 ∧ sender.destroyCalls = 0
  last : ∀ (index : Nat) (sender : Sender),
    state.threads[index]? = some sender → index + 1 = state.threads.length →
    LastThread config state.threads.length state.pvt.wsConnRetry
      state.history.attempts sender
  unused : state.threads = [] →
    state.pvt.wsConnRetry = 0 ∧ state.history.attempts = 0
  bounded : (state.threads.length : Int) ≤ 1 + max config.wsConnRetryMax 0

section Threads

variable {config : Config} {clock : Nat} {choice : SenderChoice}
  {pvt after : Pvt} {history history' : History} {sender sender' : Sender}
  {count : Nat}

theorem Edge.stage {source target : SenderPc}
    (edge : Edge config pvt sender source target) :
    target.stage = source.stage ∨
      (source.stage = .counted ∧ target.stage = .retrying ∧
        pvt.wsConnRetry ≤ config.wsConnRetryMax) := by
  cases edge with
  | retry allowed => exact .inr ⟨rfl, rfl, allowed⟩
  | _ => exact .inl rfl

theorem Sender.readsTo.stage {queue : AudioQueue}
    {result : AudioQueue.ReadResult}
    (here : sender.readsTo choice queue result) :
    sender.pc.stage = .attempting := by
  rcases here with ⟨here, _⟩ | ⟨_, here, _⟩ <;> rw [here] <;> rfl

theorem SenderPc.givesUp_stage {pc : SenderPc} (here : pc.givesUp = true) :
    pc.stage ≠ .leaving := by
  cases pc <;> simp_all [SenderPc.givesUp, SenderPc.stage]

theorem senderStep_stage
    (stepped : senderStep config clock choice pvt history sender =
      some (after, sender', history', false)) :
    StageStep config pvt after history history' sender sender' := by
  cases senderStep_moves stepped with
  | goto edge =>
      rcases edge.stage with same | ⟨counted, retrying, allowed⟩
      · exact .stay same rfl rfl rfl rfl
      · exact .retry counted retrying rfl allowed rfl rfl rfl
  | attempt here => exact .attempt (by rw [here]; rfl) rfl rfl rfl rfl rfl
  | read here ends =>
      refine .stay ?_ rfl rfl rfl rfl
      rw [here.stage]
      cases ends <;> rfl
  | send here =>
      refine .stay (by rw [here]; rfl) rfl ?_ rfl rfl
      unfold History.noteBlock
      split <;> rfl
  | count here => exact .count (by rw [here]; rfl) rfl rfl rfl rfl rfl
  | destroy here =>
      exact .destroy (SenderPc.givesUp_stage here) rfl rfl rfl rfl rfl
  | _ here => exact .stay (by rw [here]; rfl) rfl rfl rfl rfl

/-- A step that creates no successor keeps the accounts of the last thread. -/
theorem LastThread.step
    (last : LastThread config count pvt.wsConnRetry history.attempts sender)
    (stepped : senderStep config clock choice pvt history sender =
      some (after, sender', history', false)) :
    LastThread config count after.wsConnRetry history'.attempts sender' := by
  obtain ⟨none, attemptsLe, retryLe, accounts⟩ := last
  cases senderStep_stage stepped with
  | stay stage retry attempts destroyCalls successors =>
      refine ⟨by omega, by omega, by omega, ?_⟩
      rw [stage, retry, attempts, destroyCalls]
      exact accounts
  | attempt stage next retry attempts destroyCalls successors =>
      rw [stage] at accounts
      obtain ⟨retryEq, attemptsLt, notDestroyed⟩ := accounts
      refine ⟨by omega, by omega, by omega, ?_⟩
      rw [next]
      exact ⟨by omega, by omega⟩
  | count stage next retry attempts destroyCalls successors =>
      rw [stage] at accounts
      obtain ⟨retryEq, notDestroyed⟩ := accounts
      refine ⟨by omega, by omega, by omega, ?_⟩
      rw [next]
      exact ⟨by omega, by omega⟩
  | retry stage next retry allowed attempts destroyCalls successors =>
      rw [stage] at accounts
      obtain ⟨retryEq, notDestroyed⟩ := accounts
      refine ⟨by omega, by omega, by omega, ?_⟩
      rw [next]
      exact ⟨by omega, by omega, by omega⟩
  | destroy stage next retry attempts destroyCalls successors =>
      have notDestroyed : sender.destroyCalls = 0 := by
        cases here : sender.pc.stage <;> simp only [here] at accounts
        case leaving => exact (stage here).elim
        all_goals omega
      refine ⟨by omega, by omega, by omega, ?_⟩
      rw [next]
      show sender'.destroyCalls = 1
      omega

/-- The accounts see only a thread's stage and its two counters. -/
theorem LastThread.congr {retry : Int} {attempts : Nat}
    (last : LastThread config count retry attempts sender)
    (stage : sender'.pc.stage = sender.pc.stage)
    (successors : sender'.successors = sender.successors)
    (destroyCalls : sender'.destroyCalls = sender.destroyCalls) :
    LastThread config count retry attempts sender' := by
  refine ⟨successors.trans last.successors, last.attemptsLe, last.retryLe, ?_⟩
  rw [stage, destroyCalls]
  exact last.accounts

/-- The accounts of a thread that has just been created. -/
theorem lastThread_initial {retry : Int} {attempts : Nat}
    (retryEq : retry = count) (attemptsLe : attempts ≤ count) :
    LastThread config (count + 1) retry attempts Sender.initial :=
  ⟨rfl, by omega, by omega, by push_cast; omega, by omega, rfl⟩

end Threads

section Runs

variable {config : Config} {before after : State}

/-- Steps under which every thread keeps its stage and its counters. -/
theorem RetryRun.of_frame (run : RetryRun config before)
    (length : after.threads.length = before.threads.length)
    (threads : ∀ (index : Nat) (sender' : Sender),
      after.threads[index]? = some sender' →
      ∃ sender, before.threads[index]? = some sender ∧
        sender'.pc.stage = sender.pc.stage ∧
        sender'.successors = sender.successors ∧
        sender'.destroyCalls = sender.destroyCalls)
    (retry : after.pvt.wsConnRetry = before.pvt.wsConnRetry)
    (attempts : after.history.attempts = before.history.attempts) :
    RetryRun config after := by
  refine ⟨?_, ?_, ?_, ?_⟩
  · intro index sender' found earlier
    obtain ⟨sender, located, _, successors, destroyCalls⟩ :=
      threads index sender' found
    rw [successors, destroyCalls]
    exact run.handedOn index sender located (by omega)
  · intro index sender' found atEnd
    obtain ⟨sender, located, stage, successors, destroyCalls⟩ :=
      threads index sender' found
    rw [length, retry, attempts]
    exact (run.last index sender located (by omega)).congr stage successors
      destroyCalls
  · intro none
    rw [retry, attempts]
    exact run.unused (List.eq_nil_of_length_eq_zero (by simp [← length, none]))
  · rw [length]
    exact run.bounded

/-- Steps that do not touch the threads at all. -/
theorem RetryRun.of_threads (run : RetryRun config before)
    (threads : after.threads = before.threads)
    (retry : after.pvt.wsConnRetry = before.pvt.wsConnRetry)
    (attempts : after.history.attempts = before.history.attempts) :
    RetryRun config after := by
  refine run.of_frame (by rw [threads]) ?_ retry attempts
  intro index sender' found
  exact ⟨sender', threads ▸ found, rfl, rfl, rfl⟩

/-- Replacing one thread by one with the same stage and counters. -/
theorem RetryRun.of_set {index : Nat} {sender sender' : Sender}
    (run : RetryRun config before)
    (located : before.threads[index]? = some sender)
    (threads : after.threads = before.threads.set index sender')
    (stage : sender'.pc.stage = sender.pc.stage)
    (successors : sender'.successors = sender.successors)
    (destroyCalls : sender'.destroyCalls = sender.destroyCalls)
    (retry : after.pvt.wsConnRetry = before.pvt.wsConnRetry)
    (attempts : after.history.attempts = before.history.attempts) :
    RetryRun config after := by
  refine run.of_frame (by rw [threads, List.length_set]) ?_ retry attempts
  intro position other found
  rw [threads] at found
  rcases set_cases located found with ⟨rfl, rfl⟩ | ⟨_, elsewhere⟩
  · exact ⟨sender, located, stage, successors, destroyCalls⟩
  · exact ⟨other, elsewhere, rfl, rfl, rfl⟩

theorem Sender.wake_counters (sender : Sender) :
    sender.wake.pc.stage = sender.pc.stage ∧
      sender.wake.successors = sender.successors ∧
      sender.wake.destroyCalls = sender.destroyCalls := by
  unfold Sender.wake
  split
  next here => exact ⟨by rw [here]; rfl, rfl, rfl⟩
  next => exact ⟨rfl, rfl, rfl⟩

theorem RetryRun.threadStep {index : Nat} {choice : SenderChoice}
    (chain : ChainRun before) (run : RetryRun config before)
    (stepped : before.step config (.threadStep index choice) = some after) :
    RetryRun config after := by
  obtain ⟨sender, located, pvt, sender', history, created, agent, rfl⟩ :=
    step_threadStep stepped
  by_cases leaving : sender.leaving = true
  · obtain ⟨rfl, rfl, rfl, here, rfl⟩ := senderStep_leaving leaving agent
    exact run.of_set located (List.append_nil _) (by rw [here]; rfl) rfl rfl rfl
      rfl
  -- only the last thread of the chain is still inside its body
  have atEnd : index + 1 = before.threads.length :=
    chain.chain.last located (by simpa using leaving)
  have last := run.last index sender located atEnd
  cases created with
  | false =>
      have kept := last.step agent
      refine ⟨?_, ?_, ?_, ?_⟩
      · intro position other found earlier
        simp only [Bool.false_eq_true, if_false, List.append_nil,
          List.length_set] at found earlier
        rcases set_cases located found with ⟨rfl, rfl⟩ | ⟨_, elsewhere⟩
        · omega
        · exact run.handedOn position other elsewhere earlier
      · intro position other found isLast
        simp only [Bool.false_eq_true, if_false, List.append_nil,
          List.length_set] at found isLast ⊢
        rcases set_cases located found with ⟨rfl, rfl⟩ | ⟨different, _⟩
        · exact kept
        · omega
      · intro none
        have some := ne_nil_of_located located
        simp [some] at none
      · simpa using run.bounded
  | true =>
      obtain ⟨here, rfl, rfl, rfl⟩ := senderStep_created agent
      have accounts := last.accounts
      simp only [here, SenderPc.stage] at accounts
      obtain ⟨retryEq, allowed, notDestroyed⟩ := accounts
      refine ⟨?_, ?_, ?_, ?_⟩
      · intro position other found earlier
        simp only [if_true, List.length_append, List.length_set,
          List.length_singleton] at earlier
        rcases thread_cases located found with
          ⟨rfl, rfl⟩ | ⟨different, elsewhere⟩ | ⟨_, new, _⟩
        · exact ⟨by simp [last.successors], notDestroyed⟩
        · exact run.handedOn position other elsewhere (by omega)
        · omega
      · intro position other found isLast
        simp only [if_true, List.length_append, List.length_set,
          List.length_singleton] at isLast ⊢
        rcases thread_cases located found with
          ⟨rfl, rfl⟩ | ⟨_, elsewhere⟩ | ⟨_, _, rfl⟩
        · omega
        · have inRange := (List.getElem?_eq_some_iff.mp elsewhere).1
          omega
        · exact lastThread_initial retryEq last.attemptsLe
      · intro none
        simp at none
      · simp only [if_true, List.length_append, List.length_set,
          List.length_singleton]
        push_cast
        omega

theorem RetryRun.step {action : Action} (chain : ChainRun before)
    (run : RetryRun config before)
    (stepped : before.step config action = some after) :
    RetryRun config after := by
  cases step_moves stepped with
  | around => exact run.of_threads rfl rfl rfl
  | create here =>
      have none := chain.unstarted (by simp [here, StartPc.unstarted])
      obtain ⟨retryZero, attemptsZero⟩ := run.unused none
      refine ⟨?_, ?_, ?_, ?_⟩
      · intro position other _ earlier
        simp [none] at earlier
      · intro position other found _
        have first : other = Sender.initial := by
          simpa [none] using List.mem_of_getElem? found
        rw [first]
        simp only [none, List.nil_append, List.length_singleton]
        exact @lastThread_initial config 0 _ _ (by simpa using retryZero)
          (by omega)
      · intro empty
        simp at empty
      · simp only [none, List.nil_append, List.length_singleton]
        omega
  | thread => exact run.threadStep chain stepped
  | callbackStart located agent =>
      obtain ⟨_, _, rfl⟩ := callbackStart_writes agent
      exact run.of_set located rfl rfl rfl rfl rfl rfl
  | callback located agent =>
      obtain ⟨⟨_, _, rfl⟩, ⟨_, _, _, _, _, rfl⟩, _, rfl⟩ :=
        callbackStep_writes agent
      exact run.of_set located rfl rfl rfl rfl rfl rfl
  | readStart => exact run.of_threads rfl rfl rfl
  | read agent =>
      obtain ⟨⟨_, _, rfl⟩, _, rfl⟩ := readStep_writes agent
      exact run.of_threads rfl rfl rfl
  | close agent =>
      obtain ⟨⟨_, _, _, rfl⟩, rfl | rfl⟩ := closeStep_writes agent
      · exact run.of_threads rfl rfl rfl
      · refine run.of_frame (List.length_map _) ?_ rfl rfl
        intro position other found
        obtain ⟨sleeper, located, rfl⟩ :=
          Option.map_eq_some_iff.mp (List.getElem?_map ▸ found)
        exact ⟨sleeper, located, sleeper.wake_counters⟩

theorem retryRun_of_reach {now : Nat} {state : State}
    (reached : Reach (State.step config) (State.initial now) state) :
    RetryRun config state := by
  refine reached.invariant_of_known
    (fun _ earlier => chainRun_of_reach earlier) ?_
    fun _ _ _ chain run _ stepped => run.step chain stepped
  refine ⟨?_, ?_, fun _ => ⟨rfl, rfl⟩, ?_⟩
  · intro index sender found
    simp [State.initial] at found
  · intro index sender found
    simp [State.initial] at found
  · simp [State.initial]
    omega

end Runs

section Owner

variable {config : Config} {now : Nat} {state : State}

/-- All threads but the last have left without `destroy`. -/
theorem RetryRun.destroyCalls_eq (run : RetryRun config state)
    {earlier : List Sender} {sender : Sender}
    (threads : state.threads = earlier ++ [sender]) :
    state.destroyCalls = sender.destroyCalls := by
  have silent : ∀ count ∈ earlier.map Sender.destroyCalls, count = 0 := by
    intro count member
    obtain ⟨other, inEarlier, rfl⟩ := List.mem_map.mp member
    obtain ⟨index, located⟩ := List.getElem?_of_mem inEarlier
    have inRange := (List.getElem?_eq_some_iff.mp located).1
    refine (run.handedOn index other ?_ ?_).2
    · rw [threads, List.getElem?_append_left inRange]
      exact located
    · simp [threads]
      exact inRange
  unfold State.destroyCalls
  rw [threads, List.map_append, List.sum_append, List.sum_eq_zero silent]
  simp

theorem RetryRun.last_of_append (run : RetryRun config state)
    {earlier : List Sender} {sender : Sender}
    (threads : state.threads = earlier ++ [sender]) :
    LastThread config state.threads.length state.pvt.wsConnRetry
      state.history.attempts sender :=
  run.last earlier.length sender (by simp [threads]) (by simp [threads])

theorem LastThread.destroyCalls_le {count attempts : Nat} {retry : Int}
    {sender : Sender} (last : LastThread config count retry attempts sender) :
    sender.destroyCalls ≤ 1 := by
  have accounts := last.accounts
  cases here : sender.pc.stage <;> simp only [here] at accounts <;> omega

/-- The counter never passes its limit by more than one. -/
theorem wsConnRetry_le
    (reached : Reach (State.step config) (State.initial now) state) :
    state.pvt.wsConnRetry ≤ 1 + max config.wsConnRetryMax 0 := by
  have run := retryRun_of_reach reached
  have bounded := run.bounded
  rcases List.eq_nil_or_concat state.threads with none | ⟨earlier, sender, threads⟩
  · have unused := run.unused none
    omega
  · have last := (run.last_of_append (by simpa using threads)).retryLe
    omega

/-- Every run of a session makes a bounded number of connection attempts, and
its threads pass the ownership on until one of them enters `destroy`. -/
theorem singleOwner_of_reach
    (reached : Reach (State.step config) (State.initial now) state) :
    SingleOwner config state := by
  have run := retryRun_of_reach reached
  have bounded := run.bounded
  rcases List.eq_nil_or_concat state.threads with none | ⟨earlier, sender, threads⟩
  · have unused := run.unused none
    refine ⟨by omega, ?_, ?_, fun some => (some none).elim⟩
    · simp [none]
    · simp [State.destroyCalls, none]
  rw [List.concat_eq_append] at threads
  have last := run.last_of_append threads
  have attemptsLe := last.attemptsLe
  refine ⟨by omega, ?_, ?_, ?_⟩
  · intro other member hasEnded
    obtain ⟨index, located⟩ := List.getElem?_of_mem member
    have inRange := (List.getElem?_eq_some_iff.mp located).1
    by_cases earlierThread : index + 1 < state.threads.length
    · exact .inl (run.handedOn index other located earlierThread)
    · have accounts := run.last index other located (by omega)
      refine .inr ⟨accounts.successors, ?_⟩
      simpa [hasEnded, SenderPc.stage] using accounts.accounts
  · rw [run.destroyCalls_eq threads]
    exact last.destroyCalls_le
  · intro _ allEnded
    rw [run.destroyCalls_eq threads]
    have hasEnded := allEnded sender (by simp [threads])
    simpa [hasEnded, SenderPc.stage] using last.accounts

/-- Both attempts that the configuration allows are made and closed by the
server; the second thread waits for the end of the session and destroys it. -/
def exhaustedSchedule : List Action :=
  startSchedule ++ connectSchedule 0 ++ disconnectSchedule 0 ++
    handOnSchedule 0 ++ connectSchedule 1 ++ disconnectSchedule 1 ++
    threadSchedule 1 2 ++
    Action.sessionClose :: List.replicate 5 Action.closeStep ++
    threadSchedule 1 3

theorem singleOwner_exhaustedSchedule :
    ∃ state, Reach (State.step .retryOnce) (State.initial 0) state ∧
      (state.history.attempts == 2 && state.threads.length == 2 &&
        state.threads.all (fun sender => sender.pc == .ended)) = true ∧
      SingleOwner .retryOnce state := by
  obtain ⟨state, reached, passed⟩ :=
    exists_reach_of_replay (State.step .retryOnce) (State.initial 0)
      exhaustedSchedule
      (fun state => state.history.attempts == 2 &&
        state.threads.length == 2 &&
        state.threads.all fun sender => sender.pc == .ended)
      (by decide)
  exact ⟨state, reached, passed, singleOwner_of_reach reached⟩

end Owner

end FunAsr

end SpeechModules
