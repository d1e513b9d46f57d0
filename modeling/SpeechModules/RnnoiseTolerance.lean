import SpeechModules.RnnoiseMessages
import Mathlib.Data.List.Induction

/-!
# Texts that a connection tolerates

A sequence of texts does no harm in any run of a connection exactly if each of
its texts is tolerated on its own.  As long as the texts are, whoever is going to
read the mode of an init request will find one.  The first text that is not can
be followed until `onmessage` throws or the `onopen` it leads to.
-/

namespace SpeechModules

namespace Rnnoise

open StepSystem

/-! ## What a run prepares -/

/-- What a handler deals with is the last text, it stores only what it found in
an object, and whoever is going to read the mode will find one. -/
structure Prepared (parse : JsonParser) (session : Session) : Prop where
  parsing : ∀ length document,
    session.state.handler = .parse length document →
      ∃ msg, session.received.getLast? = some msg ∧
        textMessage parse msg = .text length document
  storing : session.state.handler.stores = true →
    ∃ msg, session.received.getLast? = some msg ∧
      isObjectText parse msg = true
  pending : ∀ json, session.state.handler.pending = some json →
    hasMode json = true
  creating : session.state.handler = .createThread →
    hasMode session.state.pvt.requestJson = true
  started : session.state.threads ≠ [] →
    hasMode session.state.pvt.requestJson = true

section Frames

theorem Prepared.readable {parse : JsonParser} {session : Session}
    {length : Nat} {json : Json} (prepared : Prepared parse session)
    (tolerable : ∀ msg ∈ session.received, tolerated parse msg = true)
    (here : session.state.handler = .parse length (some json)) :
    (json.subscript? "is_speaking").isSome = true := by
  obtain ⟨msg, last, isText⟩ := prepared.parsing length (some json) here
  have tolerableLast := tolerable msg (List.mem_of_getLast? last)
  obtain ⟨-, isDocument⟩ := (ClientMessage.text.injEq ..).mp isText
  rcases tolerated_cases tolerableLast isDocument with ⟨rfl, -⟩ |
    ⟨isObject, -⟩
  · rfl
  · cases json with
    | object members =>
        simp only [Json.subscript?]
        cases members.lookup "is_speaking" with
        | none => rfl
        | some member => rfl
    | _ => cases isObject

variable {parse : JsonParser} {before : Session} {after : State}
  {received : List Bytes}

/-- The handler does not move and nothing is stored to `request_json`. -/
theorem Prepared.of_frame (prepared : Prepared parse before)
    (sameHandler : after.handler = before.state.handler)
    (sameJson : after.pvt.requestJson = before.state.pvt.requestJson)
    (sameThreads : after.threads ≠ [] → before.state.threads ≠ []) :
    Prepared parse ⟨after, before.received⟩ := by
  constructor
  · rw [sameHandler]
    exact prepared.parsing
  · rw [sameHandler]
    exact prepared.storing
  · rw [sameHandler]
    exact prepared.pending
  · rw [sameHandler, sameJson]
    exact prepared.creating
  · intro nonempty
    rw [sameJson]
    exact prepared.started (sameThreads nonempty)

/-- The handler is done with the text. -/
theorem Prepared.of_quiet (quiet : after.handler.remaining = 0)
    (ready : after.threads ≠ [] → hasMode after.pvt.requestJson = true) :
    Prepared parse ⟨after, received⟩ := by
  constructor
  · intro length document here
    rw [show after.handler = .parse length document from here] at quiet
    cases quiet
  · intro stores
    have idle := HandlerPc.stores_of_quiet quiet
    rw [show after.handler.stores = true from stores] at idle
    cases idle
  · intro json found
    have nothing := HandlerPc.pending_of_quiet quiet
    rw [show after.handler.pending = some json from found] at nothing
    cases nothing
  · intro here
    rw [show after.handler = .createThread from here] at quiet
    cases quiet
  · exact ready

/-- The handler is about to store what it found in an object. -/
theorem Prepared.of_object {msg : Bytes}
    (last : received.getLast? = some msg)
    (object : isObjectText parse msg = true)
    (stores : after.handler.stores = true)
    (pending : ∀ json, after.handler.pending = some json →
      hasMode json = true)
    (creating : after.handler = .createThread →
      hasMode after.pvt.requestJson = true)
    (started : after.threads ≠ [] → hasMode after.pvt.requestJson = true) :
    Prepared parse ⟨after, received⟩ := by
  constructor
  · intro length document here
    rw [show after.handler = .parse length document from here] at stores
    cases stores
  · intro _
    exact ⟨msg, last, object⟩
  · exact pending
  · exact creating
  · exact started

/-- `onmessage` looks into a text it tolerates. -/
theorem Prepared.look {msg : Bytes} {json member found : Json}
    (prepared : Prepared parse before)
    (last : before.received.getLast? = some msg)
    (tolerable : tolerated parse msg = true)
    (parsed : document parse msg = some json)
    (looked : json.subscript? "is_speaking" = some (member, found)) :
    Prepared parse
      ⟨{ before.state with
          handler := match member.bool? with
            | some value => .speakStore value msg.length found
            | none => afterSpeaking msg.length found }, before.received⟩ := by
  rcases tolerated_cases tolerable parsed with ⟨rfl, short⟩ |
    ⟨isObject, shortOrMode⟩
  · obtain ⟨rfl, rfl⟩ := Prod.mk.inj (Option.some.inj looked)
    apply Prepared.of_quiet
    · simp only [Json.bool?, afterSpeaking, Nat.not_lt.mpr short, if_false]
      rfl
    · exact prepared.started
  · have object : isObjectText parse msg = true := by
      rw [isObjectText, parse_of_document parsed]
      exact isObject
    have mode : initLength < msg.length → hasMode found = true := by
      intro long
      rw [hasMode_of_subscript? looked]
      exact shortOrMode.resolve_left (Nat.not_le.mpr long)
    cases member.bool? with
    | some value =>
        apply Prepared.of_object last object rfl
        · intro stored pending
          simp only [HandlerPc.pending] at pending
          split at pending
          next long =>
            obtain rfl := Option.some.inj pending
            exact mode long
          next => cases pending
        · exact nofun
        · exact prepared.started
    | none =>
        rcases afterSpeaking_cases msg.length found with ⟨-, idle⟩ |
          ⟨long, request⟩
        · apply Prepared.of_quiet
          · simp only [idle]
            rfl
          · exact prepared.started
        · simp only [request]
          apply Prepared.of_object last object rfl
          · intro stored pending
            obtain rfl := Option.some.inj pending
            exact mode long
          · exact nofun
          · exact prepared.started

/-- A step of a handler. -/
theorem Prepared.handlerStep {success created : Bool} {pvt : Pvt}
    {next : HandlerPc} {history : History}
    (prepared : Prepared parse before)
    (tolerable : ∀ msg ∈ before.received, tolerated parse msg = true)
    (moved : handlerStep success before.state.pvt before.state.history
      before.state.handler = some (pvt, next, history, created)) :
    Prepared parse
      ⟨{ before.state with
          pvt := pvt
          handler := next
          history := history
          threads := before.state.threads ++
            if created then [Sender.initial] else [] }, before.received⟩ := by
  cases here : before.state.handler
  all_goals rw [here] at moved
  case parse length parsed =>
    obtain ⟨msg, last, isText⟩ := prepared.parsing length parsed here
    have tolerableLast := tolerable msg (List.mem_of_getLast? last)
    obtain ⟨rfl, isDocument⟩ := (ClientMessage.text.injEq ..).mp isText
    cases parsed with
    | none =>
        cases moved
        apply Prepared.of_quiet rfl
        simpa using prepared.started
    | some json =>
        obtain ⟨⟨member, found⟩, looked, equation⟩ :=
          Option.map_eq_some_iff.mp moved
        cases equation
        simp only [Bool.false_eq_true, if_false, List.append_nil]
        exact prepared.look last tolerableLast isDocument looked
  case speakStore value length json =>
    obtain ⟨msg, last, object⟩ := prepared.storing (by rw [here]; rfl)
    have pending := prepared.pending
    rw [here] at pending
    cases moved
    simp only [Bool.false_eq_true, if_false, List.append_nil]
    apply Prepared.of_object last object rfl
    · exact pending
    · exact nofun
    · exact prepared.started
  case speakLoad length json =>
    obtain ⟨msg, last, object⟩ := prepared.storing (by rw [here]; rfl)
    have pending := prepared.pending json
    rw [here] at pending
    cases moved
    simp only [Bool.false_eq_true, if_false, List.append_nil]
    rcases afterSpeaking_cases length json with ⟨-, idle⟩ | ⟨long, request⟩
    · rw [idle]
      exact .of_quiet rfl prepared.started
    · rw [request]
      apply Prepared.of_object last object rfl
      · intro stored isPending
        obtain rfl := Option.some.inj isPending
        exact pending (if_pos long)
      · exact nofun
      · exact prepared.started
  case requestStore json =>
    obtain ⟨msg, last, object⟩ := prepared.storing (by rw [here]; rfl)
    have mode := prepared.pending json (by rw [here]; rfl)
    cases moved
    simp only [Bool.false_eq_true, if_false, List.append_nil]
    apply Prepared.of_object last object rfl
    · exact nofun
    · exact fun _ => mode
    · exact fun _ => mode
  case createThread =>
    obtain ⟨msg, last, object⟩ := prepared.storing (by rw [here]; rfl)
    have mode := prepared.creating here
    cases moved
    cases success with
    | true => exact .of_quiet rfl fun _ => mode
    | false =>
        apply Prepared.of_object last object rfl
        · exact nofun
        · exact nofun
        · exact fun _ => mode
  case destroyFailed =>
    cases moved
    simp only [Bool.false_eq_true, if_false, List.append_nil]
    exact .of_quiet rfl prepared.started
  -- the other positions have no text to deal with
  all_goals
    obtain ⟨quiet, -, sameJson, rfl⟩ := handlerStep_of_quiet rfl moved
    simp only [Bool.false_eq_true, if_false, List.append_nil]
    apply Prepared.of_quiet quiet
    simp only [sameJson]
    exact prepared.started

end Frames

section Steps

variable {parse : JsonParser} {config : Config}

theorem Prepared.other {before : Session} {after : State} {action : Action}
    (prepared : Prepared parse before)
    (tolerable : ∀ msg ∈ before.received, tolerated parse msg = true)
    (notText : action.isText = false)
    (stepped : before.state.step config action = some after) :
    Prepared parse ⟨after, before.received⟩ := by
  cases step_moves stepped with
  | tick => exact prepared.of_frame rfl rfl id
  | @message message idle =>
      cases message with
      | text length document => cases notText
      | binary data => exact .of_quiet rfl prepared.started
  | close idle => exact .of_quiet rfl prepared.started
  | handler _ =>
      obtain ⟨⟨pvt, next, history, created⟩, moved, sameState⟩ :=
        Option.map_eq_some_iff.mp stepped
      rw [← sameState]
      exact prepared.handlerStep tolerable moved
  | thread located moved =>
      apply prepared.of_frame
      · rfl
      · exact moved.requestJson
      · simp
  | callback running located same =>
      apply prepared.of_frame
      · rfl
      · rfl
      · simp

theorem Prepared.text {before : Session} {after : State} {msg : Bytes}
    (prepared : Prepared parse before)
    (stepped : before.state.step config (.message (textMessage parse msg)) =
      some after) :
    Prepared parse ⟨after, before.received ++ [msg]⟩ := by
  cases step_moves stepped with
  | message idle =>
      constructor
      · intro length document here
        refine ⟨msg, List.getLast?_concat, ?_⟩
        cases here
        rfl
      · exact nofun
      · exact nofun
      · exact nofun
      · exact prepared.started
  | callback running _ _ =>
      rcases running with ⟨event, contra⟩ | contra <;> cases contra

theorem Session.step_cases {session after : Session} {event : Event}
    (stepped : session.step parse config event = some after) :
    (∃ msg state, session.state.step config
        (.message (textMessage parse msg)) = some state ∧
        after = ⟨state, session.received ++ [msg]⟩) ∨
      ∃ action state, action.isText = false ∧
        session.state.step config action = some state ∧
        after = ⟨state, session.received⟩ := by
  cases event with
  | text msg =>
      obtain ⟨state, inner, rfl⟩ := Option.map_eq_some_iff.mp stepped
      exact .inl ⟨msg, state, inner, rfl⟩
  | other action =>
      simp only [Session.step] at stepped
      split at stepped
      next => cases stepped
      next notText =>
        obtain ⟨state, inner, rfl⟩ := Option.map_eq_some_iff.mp stepped
        exact .inr ⟨action, state, Bool.eq_false_iff.mpr notText, inner, rfl⟩

/-- As long as every text is tolerated. -/
theorem prepared_of_tolerated {now : Nat} {session : Session}
    (reached : Session.Reached parse config now session)
    (tolerable : ∀ msg ∈ session.received, tolerated parse msg = true) :
    Prepared parse session := by
  revert tolerable
  refine @PermittedReach.invariant _ _ _ _ _ (fun session =>
    (∀ msg ∈ session.received, tolerated parse msg = true) →
      Prepared parse session) ?_ ?_ _ reached
  · intro _
    exact .of_quiet rfl fun nonempty => absurd rfl nonempty
  · intro before event after prepared _ stepped tolerable
    rcases Session.step_cases stepped with ⟨msg, state, inner, rfl⟩ |
      ⟨action, state, notText, inner, rfl⟩
    · apply Prepared.text _ inner
      apply prepared
      intro earlier member
      exact tolerable earlier (List.mem_append_left _ member)
    · exact (prepared tolerable).other tolerable notText inner

/-- A handler with a text it tolerates comes nearer to its end. -/
theorem Prepared.onmessage {session : Session}
    (prepared : Prepared parse session)
    (tolerable : ∀ msg ∈ session.received, tolerated parse msg = true)
    (busy : 0 < session.state.handler.remaining) (success : Bool) :
    ∃ after, session.state.step config (.handlerStep success) = some after ∧
      after.handler.remaining < session.state.handler.remaining := by
  obtain ⟨pvt, next, created, moved, nearer, -, -⟩ :=
    handlerStep_text success session.state.pvt session.state.history busy
      fun length json here => prepared.readable tolerable here
  exact ⟨_, step_handlerStep moved, nearer⟩

/-- `onopen` of a thread finds a mode. -/
theorem Prepared.onopen {session : Session} {index : Nat} {sender : Sender}
    (prepared : Prepared parse session)
    (located : session.state.threads[index]? = some sender)
    (busy : 0 < sender.callback.remaining) :
    ∃ after sender',
      session.state.step config (.callbackStep index) = some after ∧
        after.threads[index]? = some sender' ∧
        sender'.callback.remaining < sender.callback.remaining := by
  have nonempty : session.state.threads ≠ [] := by
    intro empty
    rw [empty] at located
    cases located
  have mode := prepared.started nonempty
  obtain ⟨pvt, sender', history, moved, nearer⟩ :=
    callbackStep_open session.state.history mode busy
  have inRange := (List.getElem?_eq_some_iff.mp located).1
  exact ⟨_, sender', step_callbackStep located moved,
    List.getElem?_set_self inRange, nearer⟩

/-- What is no object leads to no store. -/
theorem Prepared.inert {session : Session} {msg : Bytes} {success : Bool}
    {after : State} (prepared : Prepared parse session)
    (last : session.received.getLast? = some msg)
    (notObject : isObjectText parse msg = false)
    (stepped : session.state.step config (.handlerStep success) = some after) :
    after.pvt.isSpeaking = session.state.pvt.isSpeaking ∧
      after.pvt.requestJson = session.state.pvt.requestJson ∧
      after.threads = session.state.threads := by
  have looksOnly : session.state.handler.stores = false := by
    by_contra storing
    obtain ⟨other, lastOther, object⟩ :=
      prepared.storing (Bool.not_eq_false _ ▸ storing)
    obtain rfl := Option.some.inj (last.symm.trans lastOther)
    rw [notObject] at object
    cases object
  obtain ⟨⟨pvt, next, history, created⟩, moved, rfl⟩ :=
    Option.map_eq_some_iff.mp stepped
  obtain ⟨sameSpeaking, sameJson, rfl⟩ := handlerStep_looks looksOnly moved
  exact ⟨sameSpeaking, sameJson, List.append_nil _⟩

theorem harmless_of_tolerated {now : Nat} {session : Session}
    (reached : Session.Reached parse config now session)
    (tolerable : ∀ msg ∈ session.received, tolerated parse msg = true) :
    Harmless parse config session := by
  have prepared := prepared_of_tolerated reached tolerable
  constructor
  · exact prepared.onmessage tolerable
  · intro index sender located busy
    exact prepared.onopen located busy
  · intro msg last notObject success after stepped
    exact prepared.inert last notObject stepped

end Steps

/-! ## What a text that is not tolerated does -/

section Harm

variable {parse : JsonParser} {config : Config} {now : Nat}
  {session : Session}

/-- The connection goes on without a text. -/
theorem reach_other {state : State} {action : Action}
    (reached : Session.Reached parse config now session)
    (notText : action.isText = false)
    (stepped : session.state.step config action = some state) :
    Session.Reached parse config now ⟨state, session.received⟩ := by
  have inner : session.step parse config (.other action) =
      some ⟨state, session.received⟩ := by
    rw [Session.step, notText, if_neg Bool.false_ne_true, stepped]
    rfl
  exact .next reached trivial inner

theorem reach_text (msg : Bytes)
    (reached : Session.Reached parse config now session)
    (idle : session.state.handler = .idle) :
    Session.Reached parse config now ⟨{ session.state with
          handler := .parse msg.length (document parse msg) },
        session.received ++ [msg]⟩ := by
  have inner : session.step parse config (.text msg) =
      some ⟨{ session.state with
          handler := .parse msg.length (document parse msg) },
        session.received ++ [msg]⟩ := by
    rw [Session.step, State.step, idle]
    rfl
  exact .next reached trivial inner

/-- `onmessage` runs to its end with a text that is tolerated. -/
theorem exists_idle_of_tolerated
    (reached : Session.Reached parse config now session)
    (tolerable : ∀ msg ∈ session.received, tolerated parse msg = true)
    (onText : session.state.handler = .idle ∨
      0 < session.state.handler.remaining) :
    ∃ state, Session.Reached parse config now ⟨state, session.received⟩ ∧
      state.handler = .idle ∧
      state.pvt.wsClientClosed = session.state.pvt.wsClientClosed := by
  -- by induction on the steps the handler has left
  induction bound : session.state.handler.remaining using
    Nat.strong_induction_on generalizing session with
  | h count ih =>
      rcases onText with idle | busy
      · exact ⟨session.state, reached, idle, rfl⟩
      · have prepared := prepared_of_tolerated reached tolerable
        obtain ⟨pvt, next, created, moved, nearer, further, sameClosed⟩ :=
          handlerStep_text true session.state.pvt session.state.history busy
            fun length json here => prepared.readable tolerable here
        have reachedNext := reach_other reached rfl (step_handlerStep moved)
        obtain ⟨state, reachedLast, idle, closed⟩ :=
          ih next.remaining (bound ▸ nearer) reachedNext tolerable further rfl
        exact ⟨state, reachedLast, idle, closed.trans sameClosed⟩

/-- A connection can receive texts that are tolerated and be idle after them. -/
theorem exists_idle_after (config : Config) (now : Nat) {texts : List Bytes}
    (tolerable : ∀ msg ∈ texts, tolerated parse msg = true) :
    ∃ state, Session.Reached parse config now ⟨state, texts⟩ ∧
      state.handler = .idle ∧ state.pvt.wsClientClosed = false := by
  induction texts using List.reverseRecOn with
  | nil => exact ⟨.initial now, .start, rfl, rfl⟩
  | append_singleton texts msg ih =>
      obtain ⟨state, reached, idle, stillOpen⟩ := ih fun earlier member =>
        tolerable earlier (List.mem_append_left _ member)
      obtain ⟨last, reachedLast, idleLast, sameClosed⟩ :=
        exists_idle_of_tolerated (reach_text msg reached idle) tolerable
          (.inr (Nat.succ_pos 5))
      exact ⟨last, reachedLast, idleLast, sameClosed.trans stillOpen⟩

/-- A text that `onmessage` takes for an init request comes to be stored. -/
theorem exists_requestStore {length : Nat} {json member found : Json}
    (reached : Session.Reached parse config now session)
    (here : session.state.handler = .parse length (some json))
    (long : initLength < length)
    (looked : json.subscript? "is_speaking" = some (member, found)) :
    ∃ state, Session.Reached parse config now ⟨state, session.received⟩ ∧
      state.handler = .requestStore found ∧
      state.pvt.wsClientClosed = session.state.pvt.wsClientClosed := by
  have request : afterSpeaking length found = .requestStore found :=
    if_pos long
  have parsed := @handlerStep_parse true session.state.pvt
    session.state.history length _ _ _ looked
  rw [← here] at parsed
  have reachedParsed := reach_other reached rfl (step_handlerStep parsed)
  cases spoken : member.bool? with
  | none =>
      rw [spoken, request] at reachedParsed
      exact ⟨_, reachedParsed, rfl, rfl⟩
  | some value =>
      rw [spoken] at reachedParsed
      have reachedStored := reach_other reachedParsed rfl
        (@step_handlerStep config _ true _ _ _ _ rfl)
      have reachedLoaded := reach_other reachedStored rfl
        (@step_handlerStep config _ true _ _ _ _ rfl)
      exact ⟨_, reachedLoaded, request, rfl⟩

/-- It gets a thread. -/
theorem exists_sender {json : Json}
    (reached : Session.Reached parse config now session)
    (here : session.state.handler = .requestStore json) :
    ∃ state, ∃ index : Nat,
      Session.Reached parse config now ⟨state, session.received⟩ ∧
      state.threads[index]? = some Sender.initial ∧
      state.pvt.requestJson = json ∧
      state.pvt.wsClientClosed = session.state.pvt.wsClientClosed := by
  have stored : handlerStep true session.state.pvt session.state.history
      session.state.handler =
        some ({ session.state.pvt with requestJson := json }, .createThread,
          session.state.history, false) := by
    rw [here]
    rfl
  have reachedStored := reach_other reached rfl (step_handlerStep stored)
  have reachedCreated := reach_other reachedStored rfl
    (@step_handlerStep config _ true _ _ _ _ rfl)
  refine ⟨_, session.state.threads.length, reachedCreated, ?_, rfl, rfl⟩
  simp

/-- A thread goes on by itself. -/
theorem exists_threadStep {index : Nat} {choice : FunAsr.SenderChoice}
    {sender sender' : Sender}
    (reached : Session.Reached parse config now session)
    (located : session.state.threads[index]? = some sender)
    (moved : senderStep config session.state.clock choice session.state.pvt
      session.state.history sender =
        some (session.state.pvt, sender', session.state.history)) :
    ∃ state, Session.Reached parse config now ⟨state, session.received⟩ ∧
      state.threads[index]? = some sender' ∧
      state.pvt = session.state.pvt := by
  have inRange := (List.getElem?_eq_some_iff.mp located).1
  have reachedNext := reach_other reached rfl (step_threadStep located moved)
  exact ⟨_, reachedNext, List.getElem?_set_self inRange, rfl⟩

/-- The thread connects, and `onopen` is about to read the mode. -/
theorem exists_openSend {index : Nat}
    (reached : Session.Reached parse config now session)
    (located : session.state.threads[index]? = some Sender.initial)
    (stillOpen : session.state.pvt.wsClientClosed = false) :
    ∃ state sender, Session.Reached parse config now ⟨state, session.received⟩ ∧
      state.threads[index]? = some sender ∧ sender.callback = .openSend ∧
      state.pvt.requestJson = session.state.pvt.requestJson := by
  have started : senderStep config session.state.clock ⟨true, false⟩
      session.state.pvt session.state.history Sender.initial =
        some (session.state.pvt, { Sender.initial with pc := .openWs },
          session.state.history) := by
    simp [senderStep, Sender.initial, stillOpen]
  obtain ⟨first, reachedFirst, locatedFirst, samePvt⟩ :=
    exists_threadStep reached located started
  obtain ⟨second, reachedSecond, locatedSecond, samePvtAgain⟩ :=
    @exists_threadStep _ _ _ _ index ⟨true, false⟩ _ _ reachedFirst
      locatedFirst rfl
  have inRange := (List.getElem?_eq_some_iff.mp locatedSecond).1
  have opened : second.step config (.callbackStart index .opened) =
      some { second with
        threads := second.threads.set index
          { Sender.initial with
            pc := .waitOpen (first.clock + config.wsConnTimeoutMs)
            socket := .opened
            callback := .openSend } } := by
    rw [State.step, locatedSecond]
    rfl
  have reachedOpened := reach_other reachedSecond rfl opened
  refine ⟨_, _, reachedOpened, List.getElem?_set_self inRange, rfl, ?_⟩
  change second.pvt.requestJson = session.state.pvt.requestJson
  rw [samePvtAgain, samePvt]

/-- Without a mode `onopen` throws. -/
theorem hasMode_of_openSend {state after : State} {sender : Sender}
    {index : Nat} (located : state.threads[index]? = some sender)
    (opening : sender.callback = .openSend)
    (stepped : state.step config (.callbackStep index) = some after) :
    hasMode state.pvt.requestJson = true := by
  rw [State.step, located, Option.bind_some] at stepped
  obtain ⟨moved, opened, -⟩ := Option.map_eq_some_iff.mp stepped
  simp only [callbackStep, opening] at opened
  obtain ⟨⟨member, json⟩, found, rest⟩ := Option.bind_eq_some_iff.mp opened
  obtain ⟨text, isString, -⟩ := Option.map_eq_some_iff.mp rest
  rw [hasMode, ← Json.subscript?_bind_string?, found, Option.bind_some,
    isString]
  rfl

/-- A text that `onmessage` can look into and that is not tolerated is an init
request without a mode. -/
theorem intolerable_cases {msg : Bytes} {json member found : Json}
    (intolerable : tolerated parse msg ≠ true)
    (parsed : document parse msg = some json)
    (looked : json.subscript? "is_speaking" = some (member, found)) :
    initLength < msg.length ∧ hasMode json = false := by
  unfold tolerated at intolerable
  rw [parse_of_document parsed] at intolerable
  cases json with
  | null =>
      have long := of_decide_eq_false (Bool.eq_false_iff.mpr intolerable)
      exact ⟨Nat.lt_of_not_le long, rfl⟩
  | object members =>
      rw [Ne, Bool.or_eq_true, decide_eq_true_eq, not_or] at intolerable
      exact ⟨Nat.lt_of_not_le intolerable.1,
        Bool.eq_false_iff.mpr intolerable.2⟩
  | _ => cases looked

/-- What is not JSON is tolerated. -/
theorem tolerated_of_not_parsed {msg : Bytes}
    (notParsed : document parse msg = none) : tolerated parse msg = true := by
  rw [document_eq] at notParsed
  unfold tolerated
  split at notParsed
  next rejected => rw [rejected]
  next => cases notParsed

/-- The first text that is not tolerated does harm: `onmessage` throws, or
`onopen` of the thread it gets. -/
theorem Safe.tolerated_next {front back : List Bytes} {msg : Bytes}
    (safe : Safe parse (front ++ msg :: back))
    (tolerable : ∀ earlier ∈ front, tolerated parse earlier = true) :
    tolerated parse msg = true := by
  by_contra intolerable
  obtain ⟨state, reached, idle, stillOpen⟩ :=
    exists_idle_after .telephone 0 tolerable
  have reachedText := reach_text msg reached idle
  have isPrefix : front ++ [msg] <+: front ++ msg :: back :=
    ⟨back, by simp⟩
  have harmless := safe .telephone 0 _ reachedText isPrefix
  cases parsed : document parse msg with
  | none => exact intolerable (tolerated_of_not_parsed parsed)
  | some json =>
      rw [parsed] at reachedText harmless
      obtain ⟨after, stepped, -⟩ := harmless.onmessage (Nat.succ_pos 5) true
      obtain ⟨moved, parsedStep, -⟩ := Option.map_eq_some_iff.mp stepped
      obtain ⟨⟨member, found⟩, looked, -⟩ :=
        Option.map_eq_some_iff.mp parsedStep
      obtain ⟨long, noMode⟩ := intolerable_cases intolerable parsed looked
      obtain ⟨storing, reachedStoring, here, sameClosed⟩ :=
        exists_requestStore reachedText rfl long looked
      obtain ⟨created, index, reachedCreated, located, requested,
        sameClosedAgain⟩ := exists_sender reachedStoring here
      obtain ⟨opening, sender, reachedOpening, locatedOpening, openSend,
        sameJson⟩ := exists_openSend reachedCreated located
          (sameClosedAgain.trans (sameClosed.trans stillOpen))
      have harmlessOpening := safe .telephone 0 _ reachedOpening isPrefix
      obtain ⟨afterOpen, sender', openStepped, -, -⟩ :=
        harmlessOpening.onopen index sender locatedOpening
          (by rw [openSend]; exact Nat.succ_pos 2)
      have mode := hasMode_of_openSend locatedOpening openSend openStepped
      rw [sameJson, requested, hasMode_of_subscript? looked, noMode] at mode
      cases mode

theorem Safe.allTolerated {texts : List Bytes} (safe : Safe parse texts) :
    ∀ msg ∈ texts, tolerated parse msg = true := by
  have fronts : ∀ front back, front ++ back = texts →
      ∀ msg ∈ front, tolerated parse msg = true := by
    intro front
    induction front using List.reverseRecOn with
    | nil => exact nofun
    | append_singleton front last ih =>
        intro back whole msg member
        have next : front ++ last :: back = texts := by simpa using whole
        have tolerable := ih (last :: back) next
        rcases List.mem_append.mp member with earlier | now
        · exact tolerable msg earlier
        · obtain rfl := List.mem_singleton.mp now
          exact Safe.tolerated_next (next ▸ safe) tolerable
  exact fronts texts [] (List.append_nil texts)

end Harm

/-- The texts of a client do no harm exactly if each of them is tolerated: it is
not JSON, it is null and too short for an init request, or it is an object that
has a mode if it is long enough for one. -/
theorem safe_iff (parse : JsonParser) (texts : List Bytes) :
    Safe parse texts ↔ ∀ msg ∈ texts, tolerated parse msg = true := by
  constructor
  · intro safe
    exact safe.allTolerated
  · intro tolerable config now session reached received
    apply harmless_of_tolerated reached
    intro msg member
    exact tolerable msg (received.subset member)

/-- A text of two bytes ends the worker. -/
theorem not_safe_emptyArray : ¬ Safe parseText [bytesOf "[]"] := by
  intro safe
  have tolerable := safe.allTolerated (bytesOf "[]") (List.mem_singleton.mpr rfl)
  cases tolerable

end Rnnoise

end SpeechModules
