import SpeechModules.RnnoiseFrames
import SpeechModules.CBuffer
import SpeechModules.JsonText

/-!
# The text messages of a client

`onmessage` reads a text of the client with `parse_json` and looks into the
result as if it were an object; so does `onopen` with the last init request.
Both use operations of `nlohmann::json` that throw on other values, and nobody
catches what they throw.  (The log line of an init request calls `dump`, which
throws only on strings that are not UTF-8; the parser accepts none.)

The runs here are those of a connection whose texts are byte strings.
-/

namespace SpeechModules

/-! ## Reading a text -/

namespace Json

/-- The strings of a document as they stand in a `std::string`, one character for
each byte. -/
def ofBytes (bytes : List UInt8) : String :=
  String.ofList (bytes.map fun byte => Char.ofNat byte.toNat)

mutual

def ofValue : JsonText.Value → Json
  | .null => .null
  | .bool value => .bool value
  | .int value => .int value
  | .double literal => .double (ofBytes literal)
  | .string bytes => .string (ofBytes bytes)
  | .array elements => .array (ofValues elements)
  | .object members => .object (ofMembers members)

def ofValues : List JsonText.Value → List Json
  | [] => []
  | value :: values => ofValue value :: ofValues values

/-- A later member of the same name replaces an earlier one, so it comes
first. -/
def ofMembers : List (List UInt8 × JsonText.Value) → List (String × Json)
  | [] => []
  | (name, value) :: members =>
      ofMembers members ++ [(ofBytes name, ofValue value)]

end

end Json

namespace Rnnoise

open StepSystem

/-- An exception of `nlohmann::json`. -/
structure JsonException where
  ename : Bytes
  id : Nat
  message : Bytes

def JsonException.what (exception : JsonException) : Bytes :=
  bytesOf "[json.exception." ++ exception.ename ++ bytesOf "." ++
    bytesOf (toString exception.id) ++ bytesOf "] " ++ exception.message

/-- `nlohmann::json::parse` of a text: its value or an exception. -/
abbrev JsonParser := Bytes → Except JsonException Json

/-- The texts of RFC 8259. -/
def parseText : JsonParser := fun text =>
  match JsonText.parse text with
  | some value => .ok (.ofValue value)
  | none => .error ⟨bytesOf "parse_error", 101, bytesOf "syntax error"⟩

/-- `parse_json`: the return value, the error text and the value. -/
def parseJson (parse : JsonParser) (str : Bytes) : Int × Bytes × Json :=
  match parse str with
  | .error exception => (-1, exception.what, .null)
  | .ok .null => (-1, [], .null)
  | .ok json => (0, [], json)

/-- What `onmessage` goes on with.  It passes the text as a C string. -/
def document (parse : JsonParser) (msg : Bytes) : Option Json :=
  let (ret, errmsg, json) := parseJson parse (msg.takeWhile (· ≠ 0))
  if ret ≠ 0 ∧ errmsg.length ≠ 0 then none else some json

theorem JsonException.what_length_ne (exception : JsonException) :
    exception.what.length ≠ 0 := by
  have bracket : (bytesOf "[json.exception.").length = 16 := rfl
  simp only [JsonException.what, List.length_append, bracket]
  omega

/-- `onmessage` returns early exactly when the parser throws. -/
theorem document_eq (parse : JsonParser) (msg : Bytes) :
    document parse msg =
      match parse (msg.takeWhile (· ≠ 0)) with
      | .error _ => none
      | .ok json => some json := by
  unfold document parseJson
  cases parse (msg.takeWhile (· ≠ 0)) with
  | error exception =>
      simp only
      rw [if_pos ⟨by decide, exception.what_length_ne⟩]
  | ok json => cases json <;> rfl

theorem parse_of_document {parse : JsonParser} {msg : Bytes} {json : Json}
    (parsed : document parse msg = some json) :
    parse (msg.takeWhile (· ≠ 0)) = .ok json := by
  rw [document_eq] at parsed
  split at parsed
  next => cases parsed
  next value accepted =>
    obtain rfl := Option.some.inj parsed
    exact accepted

/-- A text as `onmessage` receives it. -/
def textMessage (parse : JsonParser) (msg : Bytes) : ClientMessage :=
  .text msg.length (document parse msg)

/-- The text is an object.  A zero byte ends it for the parser as it does for
C. -/
def isObjectText (parse : JsonParser) (msg : Bytes) : Bool :=
  match parse (msg.takeWhile (· ≠ 0)) with
  | .error _ => false
  | .ok json => json.isObject

/-! ## Connections that receive texts -/

/-- A connection with the texts it has received. -/
structure Session where
  state : State
  received : List Bytes

def Session.initial (now : Nat) : Session := ⟨.initial now, []⟩

def Action.isText : Action → Bool
  | .message (.text _ _) => true
  | _ => false

/-- The client sends a text, or anything else happens. -/
inductive Event where
  | text (msg : Bytes)
  | other (action : Action)

def Session.step (parse : JsonParser) (config : Config) (session : Session) :
    Event → Option Session
  | .text msg =>
      (session.state.step config (.message (textMessage parse msg))).map
        fun state => ⟨state, session.received ++ [msg]⟩
  | .other action =>
      if action.isText then none
      else
        (session.state.step config action).map
          fun state => ⟨state, session.received⟩

/-- The sessions that the runs from a connection's beginning reach. -/
abbrev Session.Reached (parse : JsonParser) (config : Config) (now : Nat) :
    Session → Prop :=
  Reach (Session.step parse config) (Session.initial now)

/-- How many steps `onmessage` takes at most from here on with a text. -/
def HandlerPc.remaining : HandlerPc → Nat
  | .parse _ _ => 6
  | .speakStore _ _ _ => 5
  | .speakLoad _ _ => 4
  | .requestStore _ => 3
  | .createThread => 2
  | .destroyFailed => 1
  | _ => 0

/-- How many steps `onopen` of a thread takes from here on. -/
def CallbackPc.remaining : CallbackPc → Nat
  | .openSend => 3
  | .openStore => 2
  | .openShare => 1
  | _ => 0

/-- A handler that has a text to deal with goes on towards its end, and so does
`onopen` of a thread.  A text that is no object changes nothing. -/
structure Harmless (parse : JsonParser) (config : Config)
    (session : Session) : Prop where
  onmessage : 0 < session.state.handler.remaining → ∀ success, ∃ after,
    session.state.step config (.handlerStep success) = some after ∧
      after.handler.remaining < session.state.handler.remaining
  onopen : ∀ index sender, session.state.threads[index]? = some sender →
    0 < sender.callback.remaining → ∃ after sender',
      session.state.step config (.callbackStep index) = some after ∧
        after.threads[index]? = some sender' ∧
        sender'.callback.remaining < sender.callback.remaining
  inert : ∀ msg, session.received.getLast? = some msg →
    isObjectText parse msg = false → ∀ success after,
      session.state.step config (.handlerStep success) = some after →
        after.pvt.isSpeaking = session.state.pvt.isSpeaking ∧
          after.pvt.requestJson = session.state.pvt.requestJson ∧
          after.threads = session.state.threads

/-- No run of a connection that receives these texts comes to harm. -/
def Safe (parse : JsonParser) (texts : List Bytes) : Prop :=
  ∀ (config : Config) (now : Nat) (session : Session),
    Session.Reached parse config now session →
      session.received <+: texts → Harmless parse config session

/-! ## The texts that do no harm -/

/-- The member `mode` can be converted to a string. -/
def hasMode (json : Json) : Bool :=
  ((json.member? "mode").bind Json.string?).isSome

/-- A text that is not JSON is dropped.  Null is taken for an empty object; an
object that is long enough to be an init request has a mode. -/
def tolerated (parse : JsonParser) (msg : Bytes) : Bool :=
  match parse (msg.takeWhile (· ≠ 0)) with
  | .error _ => true
  | .ok .null => decide (msg.length ≤ initLength)
  | .ok (.object members) =>
      decide (msg.length ≤ initLength) || hasMode (.object members)
  | .ok _ => false

/-! ## The steps of a handler with a text -/

/-- `onmessage` has found `is_speaking` set, or a text that is long enough to be
an init request. -/
def HandlerPc.stores : HandlerPc → Bool
  | .speakStore _ _ _ | .speakLoad _ _ | .requestStore _ | .createThread
  | .destroyFailed => true
  | _ => false

/-- The value that `onmessage` is going to store to `request_json`. -/
def HandlerPc.pending : HandlerPc → Option Json
  | .speakStore _ length json | .speakLoad length json =>
      if length > initLength then some json else none
  | .requestStore json => some json
  | _ => none

theorem HandlerPc.stores_of_quiet {handler : HandlerPc}
    (quiet : handler.remaining = 0) : handler.stores = false := by
  cases handler <;> first
    | rfl
    | cases quiet

theorem HandlerPc.pending_of_quiet {handler : HandlerPc}
    (quiet : handler.remaining = 0) : handler.pending = none := by
  cases handler <;> first
    | rfl
    | cases quiet

theorem afterSpeaking_cases (length : Nat) (json : Json) :
    (length ≤ initLength ∧ afterSpeaking length json = .idle) ∨
      (initLength < length ∧ afterSpeaking length json = .requestStore json) := by
  unfold afterSpeaking
  split
  next long => exact .inr ⟨long, rfl⟩
  next short => exact .inl ⟨Nat.le_of_not_lt short, rfl⟩

/-- A handler without a text stores nothing that a text can set. -/
theorem handlerStep_of_quiet {success created : Bool} {pvt after : Pvt}
    {history history' : History} {handler next : HandlerPc}
    (quiet : handler.remaining = 0)
    (moved : handlerStep success pvt history handler =
      some (after, next, history', created)) :
    next.remaining = 0 ∧ after.isSpeaking = pvt.isSpeaking ∧
      after.requestJson = pvt.requestJson ∧ created = false := by
  cases handler
  case write data =>
    simp only [handlerStep] at moved
    cases moved
    refine ⟨?_, rfl, rfl, rfl⟩
    split <;> rfl
  case lock data =>
    simp only [handlerStep] at moved
    split at moved
    · cases moved
    · cases moved
      exact ⟨rfl, rfl, rfl, rfl⟩
  case guardAsrClosed data =>
    cases moved
    refine ⟨?_, rfl, rfl, rfl⟩
    split
    · rfl
    · split <;> rfl
  all_goals first
    | (cases quiet; done)
    | (cases moved; done)
    | (cases moved
       refine ⟨?_, rfl, rfl, rfl⟩
       first
         | rfl
         | (split <;> rfl))

/-- Until it has found something to store, a handler changes nothing that a text
can set. -/
theorem handlerStep_looks {success created : Bool} {pvt after : Pvt}
    {history history' : History} {handler next : HandlerPc}
    (looksOnly : handler.stores = false)
    (moved : handlerStep success pvt history handler =
      some (after, next, history', created)) :
    after.isSpeaking = pvt.isSpeaking ∧
      after.requestJson = pvt.requestJson ∧ created = false := by
  by_cases quiet : handler.remaining = 0
  · exact (handlerStep_of_quiet quiet moved).2
  · cases handler
    case parse length document =>
      cases document with
      | none =>
          cases moved
          exact ⟨rfl, rfl, rfl⟩
      | some json =>
          obtain ⟨⟨member, found⟩, -, equation⟩ :=
            Option.map_eq_some_iff.mp moved
          cases equation
          exact ⟨rfl, rfl, rfl⟩
    all_goals first
      | (cases looksOnly; done)
      | exact absurd rfl quiet

theorem handlerStep_parse {success : Bool} {pvt : Pvt} {history : History}
    {length : Nat} {json member found : Json}
    (looked : json.subscript? "is_speaking" = some (member, found)) :
    handlerStep success pvt history (.parse length (some json)) =
      some (pvt,
        match member.bool? with
        | some value => .speakStore value length found
        | none => afterSpeaking length found, history, false) := by
  rw [handlerStep, looked]
  rfl

/-- A handler with a text that it can look into goes on until it is idle. -/
theorem handlerStep_text (success : Bool) (pvt : Pvt) (history : History)
    {handler : HandlerPc} (busy : 0 < handler.remaining)
    (readable : ∀ length json, handler = .parse length (some json) →
      (json.subscript? "is_speaking").isSome = true) :
    ∃ after next created,
      handlerStep success pvt history handler =
          some (after, next, history, created) ∧
        next.remaining < handler.remaining ∧
        (next = .idle ∨ 0 < next.remaining) ∧
        after.wsClientClosed = pvt.wsClientClosed := by
  have aside : ∀ length json,
      (afterSpeaking length json).remaining < 4 ∧
        (afterSpeaking length json = .idle ∨
          0 < (afterSpeaking length json).remaining) := by
    intro length json
    rcases afterSpeaking_cases length json with ⟨-, idle⟩ | ⟨-, request⟩
    · rw [idle]
      exact ⟨Nat.succ_pos 3, .inl rfl⟩
    · rw [request]
      exact ⟨Nat.lt_succ_self 3, .inr (Nat.succ_pos 2)⟩
  cases handler
  case parse length document =>
    cases document with
    | none => exact ⟨pvt, .idle, false, rfl, Nat.succ_pos 5, .inl rfl, rfl⟩
    | some json =>
        obtain ⟨⟨member, found⟩, looked⟩ :=
          Option.isSome_iff_exists.mp (readable length json rfl)
        have moved := @handlerStep_parse success pvt history length _ _ _ looked
        cases spoken : member.bool? with
        | some value =>
            rw [spoken] at moved
            exact ⟨_, _, _, moved, Nat.lt_succ_self 5, .inr (Nat.succ_pos 4),
              rfl⟩
        | none =>
            rw [spoken] at moved
            obtain ⟨nearer, further⟩ := aside length found
            exact ⟨_, _, _, moved, Nat.lt_trans nearer (by decide : 4 < 6),
              further, rfl⟩
  case speakStore value length json =>
    exact ⟨_, _, _, rfl, Nat.lt_succ_self 4, .inr (Nat.succ_pos 3), rfl⟩
  case speakLoad length json =>
    obtain ⟨nearer, further⟩ := aside length json
    exact ⟨_, _, _, rfl, nearer, further, rfl⟩
  case requestStore json =>
    exact ⟨_, _, _, rfl, Nat.lt_succ_self 2, .inr (Nat.succ_pos 1), rfl⟩
  case createThread =>
    cases success with
    | true => exact ⟨_, _, _, rfl, Nat.succ_pos 1, .inl rfl, rfl⟩
    | false =>
        exact ⟨_, _, _, rfl, Nat.lt_succ_self 1, .inr (Nat.succ_pos 0), rfl⟩
  case destroyFailed =>
    exact ⟨_, _, _, rfl, Nat.lt_succ_self 0, .inl rfl, rfl⟩
  all_goals cases busy

/-- `onopen` goes on until it is idle if it finds a mode. -/
theorem callbackStep_open {pvt : Pvt} {sender : Sender} (history : History)
    (mode : hasMode pvt.requestJson = true)
    (busy : 0 < sender.callback.remaining) :
    ∃ after sender' history',
      callbackStep pvt history sender = some (after, sender', history') ∧
        sender'.callback.remaining < sender.callback.remaining := by
  unfold callbackStep
  cases here : sender.callback <;> rw [here] at busy
  case openSend =>
    rw [hasMode, ← Json.subscript?_bind_string?] at mode
    obtain ⟨text, isString⟩ := Option.isSome_iff_exists.mp mode
    obtain ⟨⟨member, json⟩, found, isString⟩ :=
      Option.bind_eq_some_iff.mp isString
    refine ⟨{ pvt with requestJson := json },
      { sender with callback := .openStore }, history, ?_, ?_⟩
    · simp only [found, isString, Option.bind_some, Option.map_some]
    · exact Nat.lt_succ_self 2
  case openStore => exact ⟨_, _, _, rfl, Nat.lt_succ_self 1⟩
  case openShare => exact ⟨_, _, _, rfl, Nat.lt_succ_self 0⟩
  all_goals cases busy

/-- A tolerated text that the parser accepts is null and short, or an object. -/
theorem tolerated_cases {parse : JsonParser} {msg : Bytes} {json : Json}
    (tolerable : tolerated parse msg = true)
    (parsed : document parse msg = some json) :
    (json = .null ∧ msg.length ≤ initLength) ∨
      (json.isObject = true ∧
        (msg.length ≤ initLength ∨ hasMode json = true)) := by
  unfold tolerated at tolerable
  rw [parse_of_document parsed] at tolerable
  cases json with
  | null => exact .inl ⟨rfl, of_decide_eq_true tolerable⟩
  | object members =>
      right
      rw [Bool.or_eq_true, decide_eq_true_eq] at tolerable
      exact ⟨rfl, tolerable⟩
  | _ => cases tolerable

/-- Looking for `is_speaking` leaves the mode alone. -/
theorem hasMode_of_subscript? {json member after : Json}
    (found : json.subscript? "is_speaking" = some (member, after)) :
    hasMode after = hasMode json := by
  unfold hasMode
  rw [Json.member?_of_subscript? (by decide) found]

section Steps

variable {config : Config}

/-- No step of a thread stores to `request_json`. -/
theorem SenderMove.requestJson {choice : FunAsr.SenderChoice}
    {pvt after : Pvt} {history history' : History} {sender sender' : Sender}
    (moved : SenderMove config choice pvt history sender after sender'
      history') :
    after.requestJson = pvt.requestJson := by
  cases moved <;> rfl

theorem step_handlerStep {state : State} {success created : Bool} {pvt : Pvt}
    {next : HandlerPc} {history : History}
    (moved : handlerStep success state.pvt state.history state.handler =
      some (pvt, next, history, created)) :
    state.step config (.handlerStep success) =
      some { state with
        pvt := pvt
        handler := next
        history := history
        threads := state.threads ++
          if created then [Sender.initial] else [] } := by
  rw [State.step, moved]
  rfl

theorem step_threadStep {state : State} {index : Nat}
    {choice : FunAsr.SenderChoice} {pvt : Pvt} {sender sender' : Sender}
    {history : History} (located : state.threads[index]? = some sender)
    (moved : senderStep config state.clock choice state.pvt state.history
      sender = some (pvt, sender', history)) :
    state.step config (.threadStep index choice) =
      some { state with
        pvt := pvt
        history := history
        threads := state.threads.set index sender' } := by
  rw [State.step, located, Option.bind_some, moved]
  rfl

theorem step_callbackStep {state : State} {index : Nat} {pvt : Pvt}
    {sender sender' : Sender} {history : History}
    (located : state.threads[index]? = some sender)
    (moved : callbackStep state.pvt state.history sender =
      some (pvt, sender', history)) :
    state.step config (.callbackStep index) =
      some { state with
        pvt := pvt
        history := history
        threads := state.threads.set index sender' } := by
  rw [State.step, located, Option.bind_some, moved]
  rfl

end Steps

end Rnnoise

end SpeechModules
