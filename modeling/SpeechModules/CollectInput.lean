import Mathlib.Data.List.Basic
import Mathlib.Data.Nat.Notation
import Mathlib.Algebra.Order.Ring.Int

/-!
# Playing a prompt and collecting input

`switch_ivr_play_and_collect_input` of `switch_ivr_play_say.c` with its callback.
Playing the prompt and sleeping call the callback on digits and on events of the
recognizer; which inputs they bring, what they answer and what the clock shows is
a choice of the environment.  Every recognition result that is parsed gets the
number of results parsed before it as its name, so that the results that are
handed out, deleted and lost can be told apart.
-/

namespace SpeechModules

namespace CollectInput

/-- The values of `switch_status_t` that are told apart. -/
inductive Status
  | success
  | false_
  | break_
  | genErr
  | other (code : Nat)
  deriving DecidableEq, Repr

/-- The body of an event as `cJSON_Parse` and `cJSON_GetObjectCstr` see it. -/
inductive Body
  | empty
  | unparsable
  | parsed (text : Option String)
  deriving DecidableEq, Repr

/-- What the callback is called on: an event, with its `Speech-Type`, or a
digit at some time in microseconds. -/
inductive Input
  | event (detectedSpeech : Bool) (speechType : Option String) (body : Body)
  | dtmf (digit : UInt8) (now : Int)
  deriving DecidableEq, Repr

/-- Equality of texts without regard to case, as `strcasecmp` has it. -/
def sameText (left right : String) : Bool :=
  left.toLower == right.toLower

/-- `zstr` of a text. -/
def zstr (text : Option String) : Bool :=
  text.getD "" == ""

/-- `switch_collect_input_state_t`, where `digits` is absent for a null pointer and
is otherwise the string in its buffer of `capacity` bytes.  `parsed` counts the
results and `heard` holds the events the caller's own callback was given. -/
structure State where
  prompt : Bool
  speech : Bool
  speechDone : Bool
  wantsDigits : Bool
  digitsDone : Bool
  recognitionResult : Option Nat
  digits : Option (List UInt8)
  capacity : Nat
  minDigits : Int
  maxDigits : Int
  terminators : Option (List UInt8)
  terminator : UInt8
  lastDigitTime : Int
  isSpeech : Bool
  callerListens : Bool
  parsed : Nat
  heard : List Input

/-- The string in `digits`. -/
def State.collected (state : State) : List UInt8 := state.digits.getD []

/-- `deliver_asr_event`. -/
def deliverAsrEvent (event : Input) (state : State) : State :=
  if state.callerListens then { state with heard := state.heard ++ [event] }
  else state

/-- The result of a `detected-speech` event. -/
def detectSpeech (body : Body) (state : State) : State :=
  match body with
  | .empty => { state with speechDone := true }
  | .unparsable =>
      { state with speechDone := true, recognitionResult := none }
  | .parsed text =>
      { state with
        speechDone := true
        recognitionResult := some state.parsed
        parsed := state.parsed + 1
        digitsDone := state.digitsDone || !zstr text }

/-- An event of the recognizer with a `Speech-Type`. -/
def hearSpeech (speechType : String) (body : Body) (state : State) :
    State × Status :=
  if sameText speechType "detected-speech" then
    (detectSpeech body state, .break_)
  else if sameText speechType "detected-partial-speech" then
    (state, .success)
  else if sameText "closed" speechType then
    ({ state with speechDone := true }, .break_)
  else if sameText speechType "begin-speaking" then
    ({ state with isSpeech := true },
      if state.prompt then .break_ else .success)
  else
    (state, .success)

/-- `strchr` of the terminators, which finds the zero byte at their end too. -/
def isTerminator (terminators : Option (List UInt8)) (digit : UInt8) : Bool :=
  match terminators with
  | some letters =>
      !letters.isEmpty && (letters.contains digit || digit == 0)
  | none => false

/-- A terminator was pressed. -/
def acceptTerminator (digit : UInt8) (state : State) : State :=
  { state with
    terminator := digit
    digitsDone := true
    speechDone := state.speechDone ||
      (state.wantsDigits && !state.collected.isEmpty) }

/-- The digit at the end of the string in `digits`; a zero byte adds nothing. -/
def appendDigit (digit : UInt8) (digits : List UInt8) : List UInt8 :=
  if digit = 0 then digits else digits ++ [digit]

/-- A digit that is no terminator was pressed. -/
def acceptDigit (digit : UInt8) (state : State) : State :=
  if state.digitsDone then state
  else
    let before := state.collected.length
    let full := decide (state.maxDigits ≤ (before : Int) + 1)
    { state with
      digits :=
        if (before : Int) < state.maxDigits then
          state.digits.map (appendDigit digit)
        else state.digits
      digitsDone := state.digitsDone || full
      speechDone := state.speechDone || full }

/-- `switch_collect_input_callback`. -/
def switchCollectInputCallback (state : State) (input : Input) :
    State × Status :=
  match input with
  | .event detectedSpeech speechType body =>
      if state.speech = false ∨ detectedSpeech = false then (state, .success)
      else
        match speechType with
        | none => (state, .success)
        | some kind =>
            if kind = "" then (state, .success)
            else hearSpeech kind body (deliverAsrEvent input state)
  | .dtmf digit now =>
      if state.wantsDigits = false then (state, .success)
      else
        let state := { state with lastDigitTime := now, isSpeech := false }
        if isTerminator state.terminators digit then
          (acceptTerminator digit state, .break_)
        else
          (acceptDigit digit state, .break_)

/-- The state after the callback was called on some inputs. -/
def hear (state : State) (inputs : List Input) : State :=
  inputs.foldl (fun state input => (switchCollectInputCallback state input).1)
    state

/-- The arguments of `switch_ivr_play_and_collect_input` that decide something:
`recognizer` says whether a module and a grammar are named, and the last three
whether the pointers of the caller are not null. -/
structure Request where
  minDigits : Int
  maxDigits : Int
  terminators : Option String
  digitTimeout : UInt32
  recognizer : Bool
  callerListens : Bool
  hasMachine : Bool
  wantsDigits : Bool
  wantsResult : Bool

/-- `digit_timeout` with its default, in milliseconds. -/
def Request.timeout (request : Request) : Nat :=
  if request.digitTimeout.toNat = 0 then 5000
  else request.digitTimeout.toNat

/-- `min_digits` once negative values are forced to zero. -/
def Request.least (request : Request) : Int :=
  if request.minDigits < 0 then 0 else request.minDigits

/-- `max_digits` once it is forced between `min_digits` and a hundred, if digits
are collected at all. -/
def Request.most (request : Request) : Int :=
  if 0 < request.least then
    let most :=
      if request.maxDigits < request.least then request.least
      else request.maxDigits
    if 100 < most then 100 else most
  else request.maxDigits

/-- The bytes of a text. -/
def bytes (text : String) : List UInt8 := text.toUTF8.data.toList

/-- The terminators, with their two special names. -/
def Request.terminatorBytes (request : Request) : Option (List UInt8) :=
  match request.terminators with
  | none => none
  | some text =>
      if text = "" then none
      else if sameText text "any" then some (bytes "1234567890*#")
      else if sameText text "none" then none
      else some (bytes text)

/-- The state before the recognizer is started. -/
def Request.initial (request : Request) : State where
  prompt := false
  speech := false
  speechDone := false
  wantsDigits := decide (0 < request.least)
  digitsDone := !decide (0 < request.least)
  recognitionResult := none
  digits := if 0 < request.least then some [] else none
  capacity := if 0 < request.least then (request.most + 1).toNat else 0
  minDigits := request.least
  maxDigits := request.most
  terminators := request.terminatorBytes
  terminator := 0
  lastDigitTime := 0
  isSpeech := false
  callerListens := request.callerListens
  parsed := 0
  heard := []

/-- What one round of the waiting loop brings: whether the channel is ready, the
inputs and the status of `switch_ivr_sleep`, the last ping of the digit machine and
the time read afterwards. -/
structure Round where
  ready : Bool
  inputs : List Input
  slept : Status
  lastPing : Status
  now : Int

/-- What the environment answers before the waiting loop: the status of
`switch_ivr_detect_speech`, the inputs and the status of the prompt, the last ping
of the digit machine and the time when the waiting begins. -/
structure Beginning where
  detectSpeech : Status
  inputs : List Input
  played : Status
  lastPing : Status
  now : Int

/-- A value as a C `int`. -/
def toInt (value : Int) : Int :=
  (value + 2 ^ 31) % 2 ^ 32 - 2 ^ 31

/-- A C `int` as a `uint32_t`. -/
def toUnsigned (value : Int) : Nat := (value % 2 ^ 32).toNat

/-- The milliseconds since the last digit, as they are assigned to `sleep_time`. -/
def State.elapsed (state : State) (now : Int) : Int :=
  toInt ((now - state.lastDigitTime).tdiv 1000)

/-- Whether neither digits nor speech are waited for. -/
def State.complete (state : State) : Bool :=
  state.digitsDone && state.speechDone

/-- Neither digits nor speech are waited for any more. -/
def State.completed (state : State) : State :=
  { state with digitsDone := true, speechDone := true }

/-- Whether a status is one to go on with. -/
def Status.fine (status : Status) : Bool :=
  status == .break_ || status == .success

/-- What one round leads to: the end of the call, or a further round after a sleep
of this many milliseconds. -/
inductive Next
  | done (state : State) (status : Status)
  | again (state : State) (sleepTime : Nat) (status : Status)

/-- The check at the end of a round. -/
def goOn (state : State) (sleepTime : Nat) (status : Status) : Next :=
  if status.fine then .again state sleepTime status
  else .done state .false_

/-- One round of the waiting loop of a channel that is ready. -/
def waitRound (request : Request) (round : Round) (state : State)
    (sleepTime : Nat) : Next :=
  let state := hear state round.inputs
  if request.hasMachine ∧ round.lastPing ≠ .success then
    .done state.completed .success
  else if state.terminator ≠ 0 then
    .again { state with speechDone := true } request.timeout .success
  else if state.isSpeech = false then
    let elapsed := toUnsigned (state.elapsed round.now)
    if request.timeout ≤ elapsed then
      goOn { state with digitsDone := true } request.timeout .success
    else
      goOn state (request.timeout - elapsed) round.slept
  else
    goOn state sleepTime round.slept

/-- The waiting loop; no result while the environment has not answered enough. -/
def waitLoop (request : Request) :
    List Round → State → Nat → Status → Option (State × Status)
  | [], state, _, status =>
      if state.complete then some (state, status) else none
  | round :: rounds, state, sleepTime, status =>
      if state.complete then some (state, status)
      else if round.ready = false then some (state, status)
      else
        match waitRound request round state sleepTime with
        | .done state status => some (state, status)
        | .again state sleepTime status =>
            waitLoop request rounds state sleepTime status

/-- The state once the recognizer is started, if there is one. -/
def Request.started (request : Request) : State :=
  { request.initial with
    speech := request.recognizer, speechDone := !request.recognizer
    prompt := true }

/-- The state after the prompt. -/
def Request.prompted (request : Request) (inputs : List Input) : State :=
  { hear request.started inputs with prompt := false }

/-- `switch_ivr_play_and_collect_input` up to its label `done`. -/
def collectInput (request : Request) (beginning : Beginning)
    (rounds : List Round) : Option (State × Status) :=
  if request.recognizer ∧ beginning.detectSpeech ≠ .success then
    some (request.initial,
      if beginning.detectSpeech = .false_ then .genErr
      else beginning.detectSpeech)
  else
    let state := request.prompted beginning.inputs
    if request.hasMachine ∧ beginning.lastPing ≠ .success then
      some (state.completed, .success)
    else if beginning.played.fine = false then
      some (state, .false_)
    else if state.complete then
      some (state, beginning.played)
    else
      waitLoop request rounds { state with lastDigitTime := beginning.now }
        request.timeout beginning.played

/-- What `switch_ivr_play_and_collect_input` hands to its caller and what it
deletes. -/
structure Collected where
  status : Status
  digits : Option (List UInt8)
  result : Option Nat
  terminator : Option UInt8
  deleted : List Nat
  recognizerPaused : Bool
  parsed : Nat
  deriving DecidableEq, Repr

/-- Whether the digits are what the caller gets. -/
def State.digitsWin (state : State) : Bool :=
  !state.collected.isEmpty && decide (state.minDigits ≤ state.collected.length)

/-- The end of `switch_ivr_play_and_collect_input`. -/
def finish (request : Request) (state : State) (status : Status) : Collected where
  status := if status = .break_ then .success else status
  digits :=
    if state.digitsWin && request.wantsDigits then state.digits else none
  result :=
    if state.digitsWin || !request.wantsResult then none
    else state.recognitionResult
  terminator := if state.terminator = 0 then none else some state.terminator
  deleted :=
    if state.digitsWin || !request.wantsResult then
      state.recognitionResult.toList
    else []
  recognizerPaused := state.speech
  parsed := state.parsed

/-- `switch_ivr_play_and_collect_input`. -/
def switchIvrPlayAndCollectInput (request : Request) (beginning : Beginning)
    (rounds : List Round) : Option Collected :=
  (collectInput request beginning rounds).map fun ended =>
    finish request ended.1 ended.2

section Runs

variable {request : Request} {state : State} {input : Input}

/-- A state with other flags and another time of the last digit. -/
def State.withFlags (state : State)
    (prompt digitsDone speechDone : Bool) (time : Int) : State :=
  { state with
    prompt := prompt, digitsDone := digitsDone, speechDone := speechDone
    lastDigitTime := time }

/-- A property of states that the callback keeps and that looks neither at the
flags the call itself changes nor at the time. -/
structure Kept (invariant : State → Prop) : Prop where
  callback : ∀ state input, invariant state →
    invariant (switchCollectInputCallback state input).1
  flags : ∀ state prompt digitsDone speechDone time, invariant state →
    invariant (state.withFlags prompt digitsDone speechDone time)

section Invariant

variable {invariant : State → Prop}

theorem Kept.hear (kept : Kept invariant) (inputs : List Input)
    (holds : invariant state) : invariant (hear state inputs) := by
  induction inputs generalizing state with
  | nil => exact holds
  | cons input inputs induct =>
      apply induct
      exact kept.callback state input holds

theorem Kept.waitRound (kept : Kept invariant) (holds : invariant state)
    (round : Round) (sleepTime : Nat) :
    (∀ next status, CollectInput.waitRound request round state sleepTime =
        .done next status → invariant next) ∧
      ∀ next later status, CollectInput.waitRound request round state sleepTime =
        .again next later status → invariant next := by
  have heard := kept.hear round.inputs holds
  have timedOut := kept.flags _ (CollectInput.hear state round.inputs).prompt true
    (CollectInput.hear state round.inputs).speechDone
    (CollectInput.hear state round.inputs).lastDigitTime heard
  have ended := kept.flags _ (CollectInput.hear state round.inputs).prompt
    (CollectInput.hear state round.inputs).digitsDone true
    (CollectInput.hear state round.inputs).lastDigitTime heard
  have both := kept.flags _ (CollectInput.hear state round.inputs).prompt true true
    (CollectInput.hear state round.inputs).lastDigitTime heard
  unfold CollectInput.waitRound goOn
  dsimp only
  constructor
  · intro next status isNext
    repeat' split at isNext
    all_goals cases isNext
    all_goals assumption
  · intro next later status isNext
    repeat' split at isNext
    all_goals cases isNext
    all_goals assumption

theorem Kept.waitLoop (kept : Kept invariant) (rounds : List Round)
    (sleepTime : Nat) (status : Status) (ended : State × Status)
    (holds : invariant state)
    (run : CollectInput.waitLoop request rounds state sleepTime status =
      some ended) :
    invariant ended.1 := by
  induction rounds generalizing state sleepTime status with
  | nil =>
      rw [CollectInput.waitLoop] at run
      split at run
      · cases run
        exact holds
      · cases run
  | cons round rounds induct =>
      have next := @Kept.waitRound request state invariant kept holds round
        sleepTime
      rw [CollectInput.waitLoop] at run
      split at run
      · cases run
        exact holds
      · split at run
        · cases run
          exact holds
        · split at run
          · rename_i isNext
            cases run
            exact next.1 _ _ isNext
          · rename_i isNext
            exact induct _ _ (next.2 _ _ _ isNext) run

/-- What holds at the start and is kept by the callback holds at the end of the
call, whatever the environment answers. -/
theorem Kept.collectInput (kept : Kept invariant)
    (initial : invariant request.initial) (started : invariant request.started)
    (beginning : Beginning) (rounds : List Round) (ended : State × Status)
    (run : CollectInput.collectInput request beginning rounds = some ended) :
    invariant ended.1 := by
  have prompted : invariant (request.prompted beginning.inputs) :=
    kept.flags _ false _ _ _ (kept.hear beginning.inputs started)
  unfold CollectInput.collectInput at run
  split at run
  · cases run
    exact initial
  · dsimp only at run
    split at run
    · cases run
      exact kept.flags _ _ true true _ prompted
    · split at run
      · cases run
        exact prompted
      · split at run
        · cases run
          exact prompted
        · exact kept.waitLoop rounds _ _ ended
            (kept.flags _ _ _ _ beginning.now prompted) run

end Invariant

/-- What holds of the collected digits at any time. -/
structure DigitsSound (request : Request) (state : State) : Prop where
  least : state.minDigits = request.least
  most : state.maxDigits = request.most
  terminators : state.terminators = request.terminatorBytes
  wanted : state.wantsDigits = decide (0 < request.least)
  present : state.digits.isSome = state.wantsDigits
  room : state.wantsDigits = true → state.capacity = request.most + 1
  bounded : state.wantsDigits = true → state.collected.length ≤ request.most
  clean : ∀ digit ∈ state.collected,
    isTerminator request.terminatorBytes digit = false

theorem Request.most_le (wanted : 0 < request.least) :
    1 ≤ request.most ∧ request.most ≤ 100 := by
  unfold Request.most
  rw [if_pos wanted]
  dsimp only
  split <;> split <;> omega

theorem DigitsSound.initial : DigitsSound request request.initial where
  least := rfl
  most := rfl
  terminators := rfl
  wanted := rfl
  present := by
    unfold Request.initial
    dsimp only
    split <;> simp_all
  room := by
    intro wanted
    have positive : 0 < request.least := of_decide_eq_true wanted
    have most := Request.most_le positive
    unfold Request.initial
    dsimp only
    rw [if_pos positive]
    omega
  bounded := by
    intro wanted
    have positive : 0 < request.least := of_decide_eq_true wanted
    have most := Request.most_le positive
    unfold Request.initial State.collected
    dsimp only
    rw [if_pos positive]
    simp only [Option.getD_some, List.length_nil]
    omega
  clean := by
    intro digit isDigit
    unfold Request.initial State.collected at isDigit
    dsimp only at isDigit
    split at isDigit <;> simp at isDigit

/-- The fields the digits depend on are the same. -/
structure SameDigits (before after : State) : Prop where
  minDigits : after.minDigits = before.minDigits
  maxDigits : after.maxDigits = before.maxDigits
  terminators : after.terminators = before.terminators
  wantsDigits : after.wantsDigits = before.wantsDigits
  digits : after.digits = before.digits
  capacity : after.capacity = before.capacity

theorem DigitsSound.of_same {before after : State}
    (sound : DigitsSound request before) (same : SameDigits before after) :
    DigitsSound request after where
  least := by rw [same.minDigits, sound.least]
  most := by rw [same.maxDigits, sound.most]
  terminators := by rw [same.terminators, sound.terminators]
  wanted := by rw [same.wantsDigits, sound.wanted]
  present := by rw [same.digits, same.wantsDigits, sound.present]
  room := by
    rw [same.wantsDigits, same.capacity]
    exact sound.room
  bounded := by
    unfold State.collected
    rw [same.wantsDigits, same.digits]
    exact sound.bounded
  clean := by
    unfold State.collected
    rw [same.digits]
    exact sound.clean

theorem hearSpeech_sameDigits (kind : String) (body : Body) (state : State) :
    SameDigits state (hearSpeech kind body state).1 := by
  unfold hearSpeech
  split
  · unfold detectSpeech
    cases body <;> exact ⟨rfl, rfl, rfl, rfl, rfl, rfl⟩
  · split
    · exact ⟨rfl, rfl, rfl, rfl, rfl, rfl⟩
    · split
      · exact ⟨rfl, rfl, rfl, rfl, rfl, rfl⟩
      · split <;> exact ⟨rfl, rfl, rfl, rfl, rfl, rfl⟩

theorem deliverAsrEvent_sameDigits (event : Input) (state : State) :
    SameDigits state (deliverAsrEvent event state) := by
  unfold deliverAsrEvent
  split <;> exact ⟨rfl, rfl, rfl, rfl, rfl, rfl⟩

/-- A digit is written within the buffer and is no terminator. -/
theorem DigitsSound.acceptDigit {digit : UInt8}
    (sound : DigitsSound request state)
    (plain : isTerminator state.terminators digit = false) :
    DigitsSound request (acceptDigit digit state) := by
  unfold CollectInput.acceptDigit
  split
  · exact sound
  · dsimp only
    split
    · rename_i fits
      cases isDigits : state.digits with
      | none =>
          exact sound.of_same ⟨rfl, rfl, rfl, rfl, isDigits.symm, rfl⟩
      | some digits =>
          have collected : state.collected = digits := by
            simp [State.collected, isDigits]
          have longer : (appendDigit digit digits).length ≤ digits.length + 1 := by
            unfold appendDigit
            split <;> simp
          rw [collected, sound.most] at fits
          refine ⟨sound.least, sound.most, sound.terminators, sound.wanted, ?_,
            sound.room, ?_, ?_⟩
          · rw [← sound.present, isDigits]
            rfl
          · intro _
            simp only [State.collected, Option.map_some, Option.getD_some]
            omega
          · intro each isEach
            simp only [State.collected, Option.map_some, Option.getD_some,
              appendDigit] at isEach
            split at isEach
            · exact sound.clean each (collected ▸ isEach)
            · rcases List.mem_append.mp isEach with old | new
              · exact sound.clean each (collected ▸ old)
              · rw [List.mem_singleton.mp new, ← sound.terminators]
                exact plain
    · exact sound.of_same ⟨rfl, rfl, rfl, rfl, rfl, rfl⟩

theorem DigitsSound.kept : Kept (DigitsSound request) where
  callback := by
    intro state input sound
    unfold switchCollectInputCallback
    split
    · split
      · exact sound
      · split
        · exact sound
        · split
          · exact sound
          · exact (sound.of_same (deliverAsrEvent_sameDigits _ _)).of_same
              (hearSpeech_sameDigits _ _ _)
    · rename_i digit now
      split
      · exact sound
      · dsimp only
        split
        · exact sound.of_same ⟨rfl, rfl, rfl, rfl, rfl, rfl⟩
        · rename_i plain
          have timed : DigitsSound request
              { state with lastDigitTime := now, isSpeech := false } :=
            sound.of_same ⟨rfl, rfl, rfl, rfl, rfl, rfl⟩
          exact timed.acceptDigit (Bool.eq_false_iff.mpr plain)
  flags := by
    intro state prompt digitsDone speechDone time sound
    exact sound.of_same ⟨rfl, rfl, rfl, rfl, rfl, rfl⟩

/-- The digits handed to the caller, whatever happens in between: there are enough
of them, they fit into their buffer, none is a terminator, and no recognition
result comes with them.  More than a hundred digits are never got. -/
theorem collects_digits (beginning : Beginning) (rounds : List Round)
    (collected : Collected) (digits : List UInt8)
    (run : switchIvrPlayAndCollectInput request beginning rounds =
      some collected)
    (got : collected.digits = some digits) :
    0 < request.minDigits ∧ request.minDigits ≤ digits.length ∧
      digits.length ≤ request.most ∧ request.minDigits ≤ 100 ∧
      (∀ digit ∈ digits,
        isTerminator request.terminatorBytes digit = false) ∧
      collected.result = none := by
  obtain ⟨ended, isEnded, isCollected⟩ := Option.map_eq_some_iff.mp run
  have started : DigitsSound request request.started :=
    DigitsSound.initial.of_same ⟨rfl, rfl, rfl, rfl, rfl, rfl⟩
  have sound := DigitsSound.kept.collectInput DigitsSound.initial started
    beginning rounds ended isEnded
  rw [← isCollected] at got ⊢
  simp only [finish] at got ⊢
  split at got
  case isFalse => cases got
  case isTrue both =>
      rw [Bool.and_eq_true] at both
      have wins := both.1
      have isDigits : ended.1.collected = digits := by
        simp [State.collected, got]
      have wanted : ended.1.wantsDigits = true := by
        rw [← sound.present, got]
        rfl
      have positive : 0 < request.least := by
        have decided := sound.wanted
        rw [wanted] at decided
        exact of_decide_eq_true decided.symm
      have least : request.minDigits = request.least := by
        unfold Request.least at positive ⊢
        split at positive
        · omega
        · rename_i natural
          rw [if_neg natural]
      have enough : request.least ≤ digits.length := by
        unfold State.digitsWin at wins
        rw [Bool.and_eq_true, isDigits, sound.least] at wins
        exact of_decide_eq_true wins.2
      have bounded := sound.bounded wanted
      have most := Request.most_le positive
      have clean := sound.clean
      rw [isDigits] at bounded clean
      refine ⟨by omega, by omega, bounded, by omega, clean, ?_⟩
      rw [wins]
      rfl

/-- At least two digits, ended by a hash, or speech. -/
def sampleRequest : Request where
  minDigits := 2
  maxDigits := 4
  terminators := some "#"
  digitTimeout := 3000
  recognizer := true
  callerListens := false
  hasMachine := false
  wantsDigits := true
  wantsResult := true

/-- A prompt with these inputs, broken off by them. -/
def samplePrompt (inputs : List Input) : Beginning where
  detectSpeech := .success
  inputs := inputs
  played := .break_
  lastPing := .success
  now := 0

/-- The digits one and two, ended by a hash. -/
def sampleCollected : Collected where
  status := .success
  digits := some [0x31, 0x32]
  result := none
  terminator := some 0x23
  deleted := []
  recognizerPaused := true
  parsed := 0

theorem collects_two_digits :
    switchIvrPlayAndCollectInput sampleRequest
        (samplePrompt [.dtmf 0x31 0, .dtmf 0x32 0, .dtmf 0x23 0]) [] =
        some sampleCollected ∧
      0 < sampleRequest.minDigits ∧
      sampleRequest.minDigits ≤ [(0x31 : UInt8), 0x32].length ∧
      [(0x31 : UInt8), 0x32].length ≤ sampleRequest.most ∧
      sampleRequest.minDigits ≤ 100 ∧
      (∀ digit ∈ [(0x31 : UInt8), 0x32],
        isTerminator sampleRequest.terminatorBytes digit = false) ∧
      sampleCollected.result = none := by
  have run : switchIvrPlayAndCollectInput sampleRequest
      (samplePrompt [.dtmf 0x31 0, .dtmf 0x32 0, .dtmf 0x23 0]) [] =
      some sampleCollected := by with_unfolding_all decide
  exact ⟨run, collects_digits _ _ sampleCollected [0x31, 0x32] run rfl⟩

/-- The result in the state, if there is one, is the last one parsed. -/
def LatestResult (state : State) : Prop :=
  ∀ name, state.recognitionResult = some name → name + 1 = state.parsed

theorem LatestResult.of_same {before after : State} (latest : LatestResult before)
    (result : after.recognitionResult = before.recognitionResult)
    (parsed : after.parsed = before.parsed) : LatestResult after := by
  unfold LatestResult
  rw [result, parsed]
  exact latest

theorem LatestResult.hearSpeech (latest : LatestResult state) (kind : String)
    (body : Body) : LatestResult (hearSpeech kind body state).1 := by
  unfold CollectInput.hearSpeech
  split
  · unfold detectSpeech
    cases body with
    | empty => exact latest.of_same rfl rfl
    | unparsable =>
        intro name isName
        cases isName
    | parsed text =>
        intro name isName
        cases isName
        rfl
  · split
    · exact latest
    · split
      · exact latest.of_same rfl rfl
      · split
        · exact latest.of_same rfl rfl
        · exact latest

theorem LatestResult.kept : Kept LatestResult where
  callback := by
    intro state input latest
    unfold switchCollectInputCallback
    split
    · split
      · exact latest
      · split
        · exact latest
        · split
          · exact latest
          · apply LatestResult.hearSpeech
            unfold deliverAsrEvent
            split
            · exact latest.of_same rfl rfl
            · exact latest
    · split
      · exact latest
      · dsimp only
        split
        · exact latest.of_same rfl rfl
        · unfold CollectInput.acceptDigit
          split
          · exact latest.of_same rfl rfl
          · exact latest.of_same rfl rfl
  flags := by
    intro state prompt digitsDone speechDone time latest
    exact latest.of_same rfl rfl

/-- Of all the results that were parsed only the last can be handed to the caller
or deleted, and not both: every other one is lost. -/
theorem releases_last_result_only (beginning : Beginning) (rounds : List Round)
    (collected : Collected)
    (run : switchIvrPlayAndCollectInput request beginning rounds =
      some collected) (name : Nat) :
    (collected.result = some name ∨ name ∈ collected.deleted →
        name + 1 = collected.parsed) ∧
      ¬ (collected.result = some name ∧ name ∈ collected.deleted) := by
  obtain ⟨ended, isEnded, isCollected⟩ := Option.map_eq_some_iff.mp run
  have latest := @Kept.collectInput request LatestResult LatestResult.kept
    (fun _ isName => by cases isName) (fun _ isName => by cases isName)
    beginning rounds ended isEnded
  rw [← isCollected]
  simp only [finish]
  split
  · refine ⟨?_, fun both => by cases both.1⟩
    rintro (handed | deleted)
    · cases handed
    · exact latest name (Option.mem_toList.mp deleted)
  · refine ⟨?_, fun both => by cases both.2⟩
    rintro (handed | deleted)
    · exact latest name handed
    · cases deleted

theorem releases_second_result_only :
    ∃ collected,
      switchIvrPlayAndCollectInput sampleRequest
        (samplePrompt [.event true (some "detected-speech") (.parsed none)])
        [{ ready := true
           inputs :=
            [.event true (some "detected-speech") (.parsed (some "yes"))]
           slept := .break_, lastPing := .success, now := 500000 }] =
        some collected ∧
      collected.parsed = 2 ∧
      (collected.result = some 0 ∨ 0 ∈ collected.deleted →
        0 + 1 = collected.parsed) ∧
      ¬ (collected.result = some 0 ∧ 0 ∈ collected.deleted) := by
  have run : switchIvrPlayAndCollectInput sampleRequest
      (samplePrompt [.event true (some "detected-speech") (.parsed none)])
      [{ ready := true
         inputs := [.event true (some "detected-speech") (.parsed (some "yes"))]
         slept := .break_, lastPing := .success, now := 500000 }] =
      some
        { sampleCollected with
          digits := none, result := some 1, terminator := none, parsed := 2 } := by
    with_unfolding_all decide
  exact ⟨_, run, rfl, releases_last_result_only _ _ _ run 0⟩

/-- An event that brings no words; no digit is one. -/
def Input.wordless : Input → Bool
  | .event _ _ (.parsed text) => zstr text
  | .event _ _ _ => true
  | .dtmf _ _ => false

/-- The event with which the recognizer says that somebody speaks. -/
def Input.beginsSpeaking : Input → Bool
  | .event true (some kind) _ => kind == "begin-speaking"
  | _ => false

/-- What an event without words leaves as it is. -/
structure Undecided (before after : State) : Prop where
  digitsDone : after.digitsDone = before.digitsDone
  terminator : after.terminator = before.terminator
  speech : after.speech = before.speech
  isSpeech : before.isSpeech = true → after.isSpeech = true

theorem Undecided.trans {first second third : State}
    (earlier : Undecided first second) (later : Undecided second third) :
    Undecided first third where
  digitsDone := later.digitsDone.trans earlier.digitsDone
  terminator := later.terminator.trans earlier.terminator
  speech := later.speech.trans earlier.speech
  isSpeech := fun speaks => later.isSpeech (earlier.isSpeech speaks)

theorem deliverAsrEvent_undecided (event : Input) (state : State) :
    Undecided state (deliverAsrEvent event state) := by
  unfold deliverAsrEvent
  split <;> exact ⟨rfl, rfl, rfl, id⟩

theorem hearSpeech_wordless (kind : String) {body : Body}
    (wordless : ∀ text, body = .parsed text → zstr text = true) :
    Undecided state (hearSpeech kind body state).1 := by
  unfold hearSpeech
  split
  · unfold detectSpeech
    cases body with
    | empty => exact ⟨rfl, rfl, rfl, id⟩
    | unparsable => exact ⟨rfl, rfl, rfl, id⟩
    | parsed text =>
        refine ⟨?_, rfl, rfl, id⟩
        simp [wordless text rfl]
  · split
    · exact ⟨rfl, rfl, rfl, id⟩
    · split
      · exact ⟨rfl, rfl, rfl, id⟩
      · split
        · exact ⟨rfl, rfl, rfl, fun _ => rfl⟩
        · exact ⟨rfl, rfl, rfl, id⟩

theorem callback_wordless (wordless : input.wordless = true) :
    Undecided state (switchCollectInputCallback state input).1 := by
  cases input with
  | dtmf digit now => cases wordless
  | event detectedSpeech speechType body =>
      have texts : ∀ text, body = .parsed text → zstr text = true := by
        intro text isBody
        rw [isBody] at wordless
        exact wordless
      unfold switchCollectInputCallback
      dsimp only
      split
      · exact ⟨rfl, rfl, rfl, id⟩
      · split
        · exact ⟨rfl, rfl, rfl, id⟩
        · split
          · exact ⟨rfl, rfl, rfl, id⟩
          · exact (deliverAsrEvent_undecided _ state).trans
              (hearSpeech_wordless _ texts)

theorem hear_wordless {inputs : List Input}
    (wordless : ∀ each ∈ inputs, each.wordless = true) :
    Undecided state (hear state inputs) := by
  induction inputs generalizing state with
  | nil => exact ⟨rfl, rfl, rfl, id⟩
  | cons input inputs induct =>
      have first : Undecided state (switchCollectInputCallback state input).1 :=
        callback_wordless (wordless input List.mem_cons_self)
      have rest := @induct (switchCollectInputCallback state input).1
        fun each isEach => wordless each (List.mem_cons_of_mem input isEach)
      exact first.trans rest

theorem sameText_iff (left right : String) :
    sameText left right = true ↔
      left.toList.map Char.toLower = right.toList.map Char.toLower := by
  unfold sameText String.toLower
  rw [beq_iff_eq, ← String.toList_inj, String.toList_map, String.toList_map]

theorem hearSpeech_beginSpeaking (body : Body) :
    hearSpeech "begin-speaking" body state =
      ({ state with isSpeech := true },
        if state.prompt then .break_ else .success) := by
  simp only [hearSpeech, sameText_iff]
  rw [if_neg (by decide), if_neg (by decide), if_neg (by decide),
    if_pos (by decide)]

theorem hear_beginsSpeaking {inputs : List Input}
    (listens : state.speech = true)
    (wordless : ∀ each ∈ inputs, each.wordless = true)
    (begins : ∃ each ∈ inputs, each.beginsSpeaking = true) :
    (hear state inputs).isSpeech = true := by
  induction inputs generalizing state with
  | nil =>
      obtain ⟨each, isEach, -⟩ := begins
      cases isEach
  | cons input inputs induct =>
      have first : Undecided state (switchCollectInputCallback state input).1 :=
        callback_wordless (wordless input List.mem_cons_self)
      have later : ∀ each ∈ inputs, each.wordless = true := fun each isEach =>
        wordless each (List.mem_cons_of_mem input isEach)
      obtain ⟨each, isEach, begins⟩ := begins
      rcases List.mem_cons.mp isEach with rfl | inRest
      · apply (hear_wordless later).isSpeech
        unfold Input.beginsSpeaking at begins
        split at begins
        · rename_i kind body
          rw [beq_iff_eq.mp begins]
          unfold switchCollectInputCallback
          dsimp only
          rw [if_neg (by simp [listens]), if_neg (by decide),
            hearSpeech_beginSpeaking]
        · cases begins
      · exact induct (first.speech.trans listens) later ⟨each, inRest, begins⟩

/-- A round in which the channel and the digit machine go on and no words and no
digit come. -/
structure Round.Wordless (request : Request) (round : Round) : Prop where
  ready : round.ready = true
  slept : round.slept.fine = true
  lastPing : request.hasMachine = true → round.lastPing = .success
  inputs : ∀ each ∈ round.inputs, each.wordless = true

theorem waitLoop_speaking {rounds : List Round}
    (wordless : ∀ round ∈ rounds, round.Wordless request)
    (waits : state.digitsDone = false) (unterminated : state.terminator = 0)
    (speaks : state.isSpeech = true) (sleepTime : Nat) (status : Status) :
    waitLoop request rounds state sleepTime status = none := by
  have incomplete : ∀ other : State, other.digitsDone = false →
      ¬ other.complete = true := by
    intro other undone
    simp [State.complete, undone]
  induction rounds generalizing state sleepTime status with
  | nil => rw [waitLoop, if_neg (incomplete state waits)]
  | cons round rounds induct =>
      have first := wordless round List.mem_cons_self
      have heard : Undecided state (hear state round.inputs) :=
        hear_wordless first.inputs
      have speaksOn := heard.isSpeech speaks
      have again : waitRound request round state sleepTime =
          .again (hear state round.inputs) sleepTime round.slept := by
        unfold waitRound goOn
        dsimp only
        rw [if_neg, if_neg, if_neg, if_pos first.slept]
        · simp [speaksOn]
        · simp [heard.terminator, unterminated]
        · intro both
          exact both.2 (first.lastPing both.1)
      rw [waitLoop, if_neg (incomplete state waits), first.ready,
        if_neg Bool.noConfusion, again]
      exact induct
        (fun each isEach => wordless each (List.mem_cons_of_mem round isEach))
        (heard.digitsDone.trans waits) (heard.terminator.trans unterminated)
        speaksOn sleepTime round.slept

/-- Once the recognizer has said during the prompt that somebody speaks, and as
long as neither words nor a digit come, the call does not return, however many
rounds pass and however late it gets: the digit timeout is not looked at. -/
theorem waits_on_after_wordless_speech (beginning : Beginning)
    (rounds : List Round) (digitsWanted : 0 < request.minDigits)
    (recognizer : request.recognizer = true)
    (started : beginning.detectSpeech = .success)
    (played : beginning.played.fine = true)
    (lastPing : request.hasMachine = true → beginning.lastPing = .success)
    (promptWordless : ∀ each ∈ beginning.inputs, each.wordless = true)
    (begins : ∃ each ∈ beginning.inputs, each.beginsSpeaking = true)
    (wordless : ∀ round ∈ rounds, round.Wordless request) :
    switchIvrPlayAndCollectInput request beginning rounds = none := by
  have least : 0 < request.least := by
    unfold Request.least
    split <;> omega
  have heard : Undecided request.started (hear request.started beginning.inputs) :=
    hear_wordless promptWordless
  have waits : (hear request.started beginning.inputs).digitsDone = false := by
    rw [heard.digitsDone]
    simp [Request.started, Request.initial, least]
  have speaks := @hear_beginsSpeaking request.started _ recognizer promptWordless
    begins
  have endless := @waitLoop_speaking request
    { request.prompted beginning.inputs with lastDigitTime := beginning.now }
    rounds wordless waits heard.terminator speaks
  unfold switchIvrPlayAndCollectInput collectInput
  rw [if_neg (fun failed => failed.2 started)]
  dsimp only
  rw [if_neg (fun failed => failed.2 (lastPing failed.1)),
    if_neg (by rw [played]; exact Bool.noConfusion), if_neg, endless]
  · rfl
  · simp [State.complete, Request.prompted, waits]

theorem waits_an_hour_after_wordless_speech :
    switchIvrPlayAndCollectInput sampleRequest
      (samplePrompt
        [.event true (some "begin-speaking") .empty,
          .event true (some "detected-speech") (.parsed (some ""))])
      (List.replicate 1200
        { ready := true, inputs := [], slept := .success
          lastPing := .success, now := 3600000000 }) = none := by
  apply waits_on_after_wordless_speech
  · decide
  · rfl
  · rfl
  · rfl
  · intro machine
    cases machine
  · decide
  · exact ⟨_, List.mem_cons_self, by decide⟩
  · intro round isRound
    rw [List.eq_of_mem_replicate isRound]
    exact ⟨rfl, rfl, fun _ => rfl, by simp⟩

/-- Whether an input is an event. -/
def Input.isEvent : Input → Bool
  | .event _ _ _ => true
  | .dtmf _ _ => false

theorem hear_deaf {inputs : List Input} (deaf : state.speech = false)
    (events : ∀ each ∈ inputs, each.isEvent = true) :
    hear state inputs = state := by
  induction inputs with
  | nil => rfl
  | cons input inputs induct =>
      have same : (switchCollectInputCallback state input).1 = state := by
        cases input with
        | event detectedSpeech speechType body =>
            unfold switchCollectInputCallback
            dsimp only
            rw [if_pos (.inl deaf)]
        | dtmf digit now => cases events _ List.mem_cons_self
      unfold hear
      rw [List.foldl_cons, same]
      exact induct fun each isEach =>
        events each (List.mem_cons_of_mem input isEach)

/-- A round in which the channel and the digit machine go on, no digit is pressed
and the clock shows a time within the range of an `int` of milliseconds. -/
structure Round.Quiet (request : Request) (start : Int) (round : Round) :
    Prop where
  ready : round.ready = true
  slept : round.slept.fine = true
  lastPing : request.hasMachine = true → round.lastPing = .success
  inputs : ∀ each ∈ round.inputs, each.isEvent = true
  later : start ≤ round.now
  inRange : round.now < start + 1000 * 2 ^ 31

/-- Whether the digit timeout has passed since a time. -/
def Round.late (request : Request) (start : Int) (round : Round) : Bool :=
  decide (start + 1000 * request.timeout ≤ round.now)

theorem elapsed_late {round : Round} (quiet : round.Quiet request
    state.lastDigitTime) :
    request.timeout ≤ toUnsigned (state.elapsed round.now) ↔
      round.late request state.lastDigitTime = true := by
  have later := quiet.later
  have inRange := quiet.inRange
  have exact_ : toUnsigned (state.elapsed round.now) =
      ((round.now - state.lastDigitTime) / 1000).toNat := by
    unfold State.elapsed toInt toUnsigned
    rw [Int.tdiv_eq_ediv_of_nonneg (by omega)]
    omega
  unfold Round.late
  rw [exact_, decide_eq_true_iff]
  omega

theorem waitLoop_quiet {rounds : List Round} {start : Int}
    (quiet : ∀ round ∈ rounds, round.Quiet request start)
    (deaf : state.speech = false) (heard : state.speechDone = true)
    (waits : state.digitsDone = false) (unterminated : state.terminator = 0)
    (silent : state.isSpeech = false) (since : state.lastDigitTime = start)
    (sleepTime : Nat) {status : Status} (fine : status.fine = true) :
    (rounds.any (Round.late request start) = true →
        waitLoop request rounds state sleepTime status =
          some ({ state with digitsDone := true }, .success)) ∧
      (rounds.any (Round.late request start) = false →
        waitLoop request rounds state sleepTime status = none) := by
  have incomplete : ¬ state.complete = true := by
    simp [State.complete, waits]
  induction rounds generalizing sleepTime status with
  | nil =>
      constructor
      · intro late
        cases late
      · intro _
        rw [waitLoop, if_neg incomplete]
  | cons round rounds induct =>
      have first := quiet round List.mem_cons_self
      have rest : ∀ each ∈ rounds, each.Quiet request start := fun each isEach =>
        quiet each (List.mem_cons_of_mem round isEach)
      have isLate := @elapsed_late request state round (since ▸ first)
      rw [since] at isLate
      rw [waitLoop, if_neg incomplete, first.ready, if_neg Bool.noConfusion]
      unfold waitRound
      dsimp only
      rw [hear_deaf deaf first.inputs,
        if_neg fun both => both.2 (first.lastPing both.1),
        if_neg (not_not.mpr unterminated), if_pos silent, List.any_cons]
      cases late : round.late request start with
      | true =>
          rw [if_pos (isLate.mpr late)]
          have complete : ({ state with digitsDone := true } : State).complete =
              true := by
            simp [State.complete, heard]
          have fineStatus : Status.success.fine = true := rfl
          constructor
          · intro _
            unfold goOn
            rw [if_pos fineStatus]
            cases rounds with
            | nil => simp only [waitLoop, if_pos complete]
            | cons next rounds => simp only [waitLoop, if_pos complete]
          · intro never
            cases never
      | false =>
          have early : ¬ request.timeout ≤
              toUnsigned (state.elapsed round.now) := by
            rw [isLate, late]
            exact Bool.noConfusion
          rw [if_neg early]
          unfold goOn
          rw [if_pos first.slept, Bool.false_or]
          exact induct rest _ first.slept

/-- Without a recognizer, a caller who presses nothing is waited for exactly until
the digit timeout has passed since the prompt: the call then succeeds with nothing
collected, and does not return before. -/
theorem returns_once_late (beginning : Beginning) (rounds : List Round)
    (digitsWanted : 0 < request.minDigits)
    (noRecognizer : request.recognizer = false)
    (played : beginning.played.fine = true)
    (lastPing : request.hasMachine = true → beginning.lastPing = .success)
    (events : ∀ each ∈ beginning.inputs, each.isEvent = true)
    (quiet : ∀ round ∈ rounds, round.Quiet request beginning.now) :
    switchIvrPlayAndCollectInput request beginning rounds =
      if rounds.any (Round.late request beginning.now) then
        some
          { status := .success, digits := none, result := none
            terminator := none, deleted := [], recognizerPaused := false
            parsed := 0 }
      else none := by
  have least : 0 < request.least := by
    unfold Request.least
    split <;> omega
  have deaf : request.started.speech = false := noRecognizer
  have heard : request.prompted beginning.inputs =
      { request.started with prompt := false } := by
    unfold Request.prompted
    rw [hear_deaf deaf events]
  have loop := @waitLoop_quiet request
    { request.started with prompt := false, lastDigitTime := beginning.now }
    rounds beginning.now quiet deaf (by simp [Request.started, noRecognizer])
    (by simp [Request.started, Request.initial, least]) rfl rfl rfl
    request.timeout beginning.played played
  unfold switchIvrPlayAndCollectInput collectInput
  rw [if_neg (by simp [noRecognizer])]
  dsimp only
  rw [if_neg (fun failed => failed.2 (lastPing failed.1)),
    if_neg (by rw [played]; exact Bool.noConfusion), heard, if_neg]
  · cases late : rounds.any (Round.late request beginning.now) with
    | true =>
        rw [loop.1 late, if_pos rfl]
        simp [finish, Request.started, Request.initial, State.digitsWin,
          State.collected, least, noRecognizer]
    | false =>
        rw [loop.2 late, if_neg Bool.noConfusion]
        rfl
  · simp [State.complete, Request.started, Request.initial, least]

theorem returns_after_three_seconds :
    switchIvrPlayAndCollectInput { sampleRequest with recognizer := false }
      (samplePrompt [])
      [{ ready := true, inputs := [], slept := .success, lastPing := .success
         now := 2999999 },
       { ready := true, inputs := [], slept := .success, lastPing := .success
         now := 3000000 }] =
      if true then
        some
          { status := .success, digits := none, result := none
            terminator := none, deleted := [], recognizerPaused := false
            parsed := 0 }
      else none := by
  apply returns_once_late
  · decide
  · rfl
  · rfl
  · intro machine
    cases machine
  · simp [samplePrompt]
  · intro round isRound
    simp only [List.mem_cons, List.not_mem_nil, or_false] at isRound
    rcases isRound with rfl | rfl
    · exact ⟨rfl, rfl, fun _ => rfl, by simp, by decide, by decide⟩
    · exact ⟨rfl, rfl, fun _ => rfl, by simp, by decide, by decide⟩

end Runs

end CollectInput

end SpeechModules
