import SpeechModules.RnnoiseFrames

/-!
# Who releases the data of a connection

The handlers of a connection and its sender threads share one `rnnoise_data_t`,
and the thread that ends last is meant to destroy it.  Nothing enforces that: a
second init request starts a second thread, a client that never sends one has
nobody to destroy its data, and a thread whose recogniser hangs up destroys it
under the handlers.  With one init request, answered by one thread that destroys
after the client has gone, the data has exactly one owner.
-/

namespace SpeechModules

namespace Rnnoise

open StepSystem

/-- The next step of the handler accesses the `rnnoise_data_t`. -/
def HandlerPc.touches : HandlerPc → Bool
  | .idle | .parse _ _ | .closed => false
  | _ => true

def HandlerPc.isClosed : HandlerPc → Bool
  | .closed => true
  | _ => false

def SenderPc.running : SenderPc → Bool
  | .ended => false
  | _ => true

/-- At most one thread, at most one destruction, no access of a handler after
it, and exactly one destruction when nobody is left. -/
structure Owned (state : State) : Prop where
  oneThread : state.threads.countP (fun sender => sender.pc.running) ≤ 1
  destroyedOnce : state.pvt.destroyCalls ≤ 1
  untouched : state.handler.touches = true → state.pvt.destroyCalls = 0
  destroyed : state.handler = .closed →
    (∀ sender ∈ state.threads, sender.pc = .ended) →
    state.pvt.destroyCalls = 1

/-! ## Two init requests -/

theorem owned_fails :
    ¬ ∀ (config : Config) (state : State),
      Reach (State.step config) (State.initial 0) state → Owned state := by
  intro always
  obtain ⟨state, reached, two⟩ :=
    exists_reach_of_replay (State.step .telephone) (State.initial 0)
      (initSchedule ++ initSchedule)
      (fun state => 1 < state.threads.countP fun sender => sender.pc.running)
      (by decide)
  have one := (always .telephone state reached).oneThread
  have more := of_decide_eq_true two
  omega

/-! ## Connections with one owner -/

/-- An init request comes once and gets its thread, the client stays until it
has sent one, and a thread destroys after the client has gone. -/
def soleOwner (state : State) : Action → Bool
  | .close => !state.threads.isEmpty
  | .handlerStep success =>
      match state.handler with
      | .createThread => success && state.threads.isEmpty
      | _ => true
  | .threadStep index _ =>
      match state.threads[index]? with
      | none => true
      | some sender => sender.pc != .destroying || state.handler.isClosed
  | _ => true

def SenderPc.released : SenderPc → Bool
  | .unwinding | .ended => true
  | _ => false

/-- Every destruction is that of a thread, and follows the end of the client. -/
structure OwnedRun (state : State) : Prop where
  single : state.threads.length ≤ 1
  counted : state.pvt.destroyCalls =
    state.threads.countP fun sender => sender.pc.released
  afterClose : 0 < state.pvt.destroyCalls → state.handler = .closed
  started : state.handler.closing = true → state.threads ≠ []
  working : state.handler ≠ .destroyFailed

theorem HandlerPc.eq_closed {handler : HandlerPc}
    (closed : handler.isClosed = true) : handler = .closed := by
  cases handler <;> first
    | rfl
    | cases closed

theorem SenderPc.plain_not_released {pc : SenderPc} (plain : pc.plain = true) :
    pc.released = false := by
  cases pc <;> first
    | rfl
    | cases plain

section Threads

/-- A thread destroys the data or leaves both counts alone. -/
theorem SenderMove.released {config : Config} {choice : FunAsr.SenderChoice}
    {pvt after : Pvt} {history history' : History} {sender sender' : Sender}
    (moved : SenderMove config choice pvt history sender after sender'
      history') :
    (after.destroyCalls = pvt.destroyCalls ∧
        sender'.pc.released = sender.pc.released) ∨
      (sender.pc = .destroying ∧ sender'.pc = .unwinding ∧
        after.destroyCalls = pvt.destroyCalls + 1) := by
  cases moved with
  | goto source target =>
      refine .inl ⟨rfl, ?_⟩
      rw [SenderPc.plain_not_released source]
      exact SenderPc.plain_not_released target
  | wait source target _ =>
      refine .inl ⟨rfl, ?_⟩
      rw [SenderPc.plain_not_released source]
      exact SenderPc.plain_not_released target
  | read source _ _ =>
      refine .inl ⟨rfl, ?_⟩
      rw [SenderPc.plain_not_released source]
      rfl
  | drop here _ _ _ =>
      refine .inl ⟨rfl, ?_⟩
      rw [here]
      rfl
  | send here =>
      refine .inl ⟨rfl, ?_⟩
      rw [here]
      rfl
  | destroy here => exact .inr ⟨here, rfl, rfl⟩
  | leave here =>
      refine .inl ⟨rfl, ?_⟩
      rw [here]
      rfl

/-- In a list of at most one thread every thread is the only one. -/
theorem eq_singleton_of_located {threads : List Sender} {index : Nat}
    {sender : Sender} (single : threads.length ≤ 1)
    (located : threads[index]? = some sender) :
    index = 0 ∧ threads = [sender] := by
  have inRange := (List.getElem?_eq_some_iff.mp located).1
  have first : index = 0 := by omega
  subst first
  obtain ⟨only, rfl⟩ := List.length_eq_one_iff.mp
    (show threads.length = 1 by omega)
  cases located
  exact ⟨rfl, rfl⟩

end Threads

section Runs

variable {config : Config} {before after : State}

/-- While the connection is open nothing has been destroyed. -/
theorem OwnedRun.alive {state : State} (run : OwnedRun state)
    (stillOpen : state.handler ≠ .closed) : state.pvt.destroyCalls = 0 := by
  by_contra destroyed
  exact stillOpen (run.afterClose (by omega))

/-- A handler that does not close the connection leaves its owner alone. -/
theorem OwnedRun.of_handler {pvt : Pvt} {next : HandlerPc} {history : History}
    (run : OwnedRun before) (stillOpen : before.handler ≠ .closed)
    (destroyCalls : pvt.destroyCalls = before.pvt.destroyCalls)
    (target : next.closing = false) (working : next ≠ .destroyFailed) :
    OwnedRun { before with pvt := pvt, handler := next, history := history } where
  single := run.single
  counted := destroyCalls.trans run.counted
  afterClose := by
    intro destroyed
    have alive := run.alive stillOpen
    simp only at destroyed
    omega
  started := by
    intro closing
    rw [target] at closing
    cases closing
  working := working

theorem OwnedRun.handlerStep {success created : Bool} {pvt : Pvt}
    {next : HandlerPc} {history : History} (run : OwnedRun before)
    (permitted : soleOwner before (.handlerStep success) = true)
    (moved : HandlerMove success before.pvt before.history before.handler pvt
      next history created) :
    OwnedRun { before with
      pvt := pvt
      handler := next
      history := history
      threads := before.threads ++
        if created then [Sender.initial] else [] } := by
  cases moved with
  | goto source target working _ =>
      simp only [Bool.false_eq_true, if_false, List.append_nil]
      refine run.of_handler ?_ rfl target working
      intro closed
      rw [closed] at source
      cases source
  | accept here _ =>
      simp only [Bool.false_eq_true, if_false, List.append_nil]
      refine run.of_handler ?_ rfl rfl nofun
      rw [here]
      exact nofun
  | create here created =>
      simp only [soleOwner, here, created, Bool.true_and,
        List.isEmpty_iff] at permitted
      have alive := run.alive (by rw [here]; exact nofun)
      refine ⟨by simp [permitted], ?_, ?_, nofun, nofun⟩
      · simp [permitted, alive, Sender.initial, SenderPc.released]
      · intro destroyed
        simp only at destroyed
        omega
  | fail here failed =>
      simp [soleOwner, here, failed] at permitted
  | destroy here => exact (run.working here).elim
  | close here =>
      simp only [Bool.false_eq_true, if_false, List.append_nil]
      refine ⟨run.single, run.counted, fun _ => rfl, fun _ => ?_, nofun⟩
      apply run.started
      rw [here]
      rfl

theorem OwnedRun.threadStep {index : Nat} {choice : FunAsr.SenderChoice}
    {pvt : Pvt} {sender sender' : Sender} {history : History}
    (run : OwnedRun before)
    (permitted : soleOwner before (.threadStep index choice) = true)
    (located : before.threads[index]? = some sender)
    (moved : SenderMove config choice before.pvt before.history sender pvt
      sender' history) :
    OwnedRun { before with
      pvt := pvt
      history := history
      threads := before.threads.set index sender' } := by
  obtain ⟨rfl, only⟩ := eq_singleton_of_located run.single located
  have counted := run.counted
  rw [only] at counted
  rcases moved.released with ⟨destroyCalls, same⟩ |
    ⟨here, unwinding, destroyCalls⟩
  · refine ⟨by simp [only], ?_, ?_, fun _ => by simp [only], run.working⟩
    · simpa [only, same, destroyCalls] using counted
    · intro destroyed
      exact run.afterClose (destroyCalls ▸ destroyed)
  · simp only [soleOwner, located, here, bne_self_eq_false,
      Bool.false_or] at permitted
    refine ⟨by simp [only], ?_, fun _ => HandlerPc.eq_closed permitted,
      fun _ => by simp [only], run.working⟩
    simp [here, SenderPc.released] at counted
    simp [only, unwinding, SenderPc.released, destroyCalls, counted]

theorem OwnedRun.step {action : Action} (run : OwnedRun before)
    (permitted : soleOwner before action = true)
    (stepped : before.step config action = some after) : OwnedRun after := by
  cases step_moves stepped with
  | tick =>
      exact ⟨run.single, run.counted, run.afterClose, run.started, run.working⟩
  | @message message idle =>
      refine run.of_handler (by rw [idle]; exact nofun) rfl ?_ ?_ <;>
        cases message <;> first
          | rfl
          | exact nofun
  | close idle =>
      have alive := run.alive (by rw [idle]; exact nofun)
      refine ⟨run.single, run.counted, ?_, fun _ => ?_, nofun⟩
      · intro destroyed
        simp only at destroyed
        omega
      · simpa [soleOwner] using permitted
  | handler moved => exact run.handlerStep permitted moved
  | thread located moved => exact run.threadStep permitted located moved
  | callback _ located same =>
      obtain ⟨rfl, only⟩ := eq_singleton_of_located run.single located
      have counted := run.counted
      rw [only] at counted
      refine ⟨by simp [only], ?_, run.afterClose, fun _ => by simp [only],
        run.working⟩
      simpa [only, same] using counted

theorem OwnedRun.owned {state : State} (run : OwnedRun state) :
    Owned state where
  oneThread := Nat.le_trans List.countP_le_length run.single
  destroyedOnce := by
    rw [run.counted]
    exact Nat.le_trans List.countP_le_length run.single
  untouched := by
    intro touches
    apply run.alive
    intro closed
    rw [closed] at touches
    cases touches
  destroyed := by
    intro closed ended
    rw [run.counted]
    have started := List.length_pos_iff.mpr
      (run.started (by rw [closed]; rfl))
    have single := run.single
    obtain ⟨sender, only⟩ := List.length_eq_one_iff.mp
      (show state.threads.length = 1 by omega)
    have finished := ended sender (by simp [only])
    simp [only, finished, SenderPc.released]

end Runs

/-- In every run in which the data of the connection has a sole owner, it is
destroyed once, after its last use by a handler. -/
theorem owned_of_soleOwner (config : Config) (now : Nat) {state : State}
    (reached : PermittedReach (State.step config)
      (fun state action => soleOwner state action = true)
      (State.initial now) state) :
    Owned state := by
  have run : OwnedRun state := by
    refine reached.invariant ⟨by simp [State.initial], rfl, ?_, nofun, nofun⟩
      fun _ _ _ run permitted stepped => run.step permitted stepped
    intro destroyed
    cases destroyed
  exact run.owned

/-- The client sends its init request and goes; the thread ends the conversation,
closes its connection, and destroys. -/
def soleOwnerSchedule : List Action :=
  initSchedule ++ connectSchedule 0 ++ .close :: .handlerStep true ::
    threadSchedule 0 4 ++ .tick 2000 :: threadSchedule 0 3 ++
    .callbackStart 0 .closed :: .callbackStep 0 :: threadSchedule 0 3

theorem owned_soleOwnerSchedule :
    ∃ state, PermittedReach (State.step .telephone)
        (fun state action => soleOwner state action = true)
        (State.initial 0) state ∧
      (state.handler.isClosed && state.pvt.destroyCalls == 1 &&
        state.threads.all fun sender => sender.pc == .ended) = true ∧
      Owned state := by
  obtain ⟨state, reached, passed⟩ :=
    exists_permittedReach_of_replay (State.step .telephone) (State.initial 0)
      soleOwnerSchedule
      (fun state => state.handler.isClosed && state.pvt.destroyCalls == 1 &&
        state.threads.all fun sender => sender.pc == .ended)
      (fun state action => soleOwner state action = true)
      (by decide)
  exact ⟨state, reached, passed, owned_of_soleOwner .telephone 0 reached⟩

end Rnnoise

end SpeechModules
