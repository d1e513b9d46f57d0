import Mathlib.Data.List.Basic
import Mathlib.Algebra.Group.Nat.Defs

/-!
# Reading digits after a prompt

`switch_ivr_read` and `switch_play_and_get_digits` of `switch_ivr_play_say.c`.
What playing the prompt and collecting digits answer is a choice of the
environment, as is whether the channel is ready; the regular expression is a
parameter.  The digit buffer is the C string in it, and the variables of the
channel are a function of their names.
-/

namespace SpeechModules

namespace DigitReading

/-- The values of `switch_status_t` that are told apart. -/
inductive Status
  | success
  | false_
  | timeout
  | restart
  | tooSmall
  | break_
  | other
  deriving DecidableEq, Repr

/-- The variables of a channel. -/
structure Variables where
  get : String → Option (List UInt8)

/-- `switch_channel_set_variable`: an empty value removes the variable, and an
empty name is ignored. -/
def Variables.set (vars : Variables) (name : String)
    (value : List UInt8) : Variables :=
  if name = "" then vars
  else
    { get := fun each =>
        if each = name then (if value = [] then none else some value)
        else vars.get each }

/-- `SWITCH_READ_RESULT_VARIABLE` and `SWITCH_READ_TERMINATOR_USED_VARIABLE`,
which a header outside fixes. -/
structure Names where
  readResult : String
  terminatorUsed : String

/-- The bytes of a text. -/
def bytes (text : String) : List UInt8 :=
  text.toList.map fun letter => UInt8.ofNat letter.toNat

/-- The arguments of `switch_ivr_read` that decide something. -/
structure Request where
  minDigits : Nat
  maxDigits : Nat
  hasPrompt : Bool
  varName : Option String
  bufferLength : Nat
  terminators : Option (List UInt8)

/-- `max_digits` once it is forced. -/
def Request.most (request : Request) : Nat :=
  if request.maxDigits < request.minDigits then request.minDigits
  else request.maxDigits

/-- What the environment answers in one `switch_ivr_read`: whether the channel is
answered, the status of the prompt with the digit that ended it, and the status,
the digits and the terminator of `switch_ivr_collect_digits_count`. -/
structure Answers where
  preAnswered : Bool
  played : Status × Option UInt8
  collected : Status × List UInt8 × Option UInt8

/-- The index of a byte in a text, `strchr`. -/
def indexIn (terminators : List UInt8) (byte : UInt8) : Option Nat :=
  terminators.findIdx? (· == byte)

/-- The character before a terminator says whether it is added to the digits and
whether the reading restarts. -/
def markBefore (terminators : Option (List UInt8)) (terminator : UInt8) :
    Option UInt8 :=
  terminators.bind fun letters =>
    (indexIn letters terminator).bind fun index =>
      if index = 0 then none else letters[index - 1]?

/-- `switch_snprintf` of the terminator behind the digits, which is cut off where
the buffer ends. -/
def appendTerminator (bufferLength : Nat) (digits : List UInt8)
    (terminator : UInt8) : List UInt8 :=
  digits ++ [terminator].take (bufferLength - digits.length - 1)

/-- The status, the digits and the variables after the digits are collected. -/
structure Reading where
  status : Status
  digits : List UInt8
  vars : Variables

section Read

variable (names : Names)

/-- The part of `switch_ivr_read` that looks at the terminator. -/
def applyTerminator (request : Request) (terminator : Option UInt8)
    (reading : Reading) : Reading :=
  match terminator with
  | some byte =>
      let vars := reading.vars.set names.terminatorUsed [byte]
      let mark := markBefore request.terminators byte
      if mark = some 0x2B then
        { reading with
          digits := appendTerminator request.bufferLength reading.digits byte
          vars := vars }
      else if mark = some 0x78 then
        { status := .restart
          digits := appendTerminator request.bufferLength reading.digits byte
          vars := vars }
      else
        { reading with vars := vars }
  | none =>
      if (request.terminators.bind List.head?) = some 0x3D then
        { reading with status := .tooSmall }
      else
        reading

/-- The text for `SWITCH_READ_RESULT_VARIABLE`. -/
def resultText : Status → String
  | .success => "success"
  | .timeout => "timeout"
  | _ => "failure"

/-- The part of `switch_ivr_read` that compares with `min_digits` and notes the
result. -/
def noteResult (request : Request) (reading : Reading) : Reading :=
  let status :=
    if request.minDigits ≠ 0 ∧ reading.digits.length < request.minDigits then
      Status.tooSmall
    else reading.status
  { reading with
    status := status
    vars :=
      reading.vars.set names.readResult (bytes (resultText status)) }

/-- The digits at the end of `switch_ivr_read`, with `length` the value of `len`:
a single digit that is a terminator is no digit. -/
def keptDigits (request : Request) (length : Nat) (reading : Reading) :
    List UInt8 :=
  if reading.status ≠ .restart ∧ request.most = 1 ∧ length = 1 ∧
      (request.terminators.bind fun letters =>
        reading.digits.head?.bind (indexIn letters)).isSome then []
  else reading.digits

/-- The variable the caller has named, set to the digits if there are any. -/
def storeDigits (request : Request) (digits : List UInt8) (vars : Variables) :
    Variables :=
  match request.varName with
  | some name => if digits = [] then vars else vars.set name digits
  | none => vars

/-- The end of `switch_ivr_read`. -/
def finish (request : Request) (length : Nat) (reading : Reading) : Reading :=
  let digits := keptDigits request length reading
  { reading with
    digits := digits, vars := storeDigits request digits reading.vars }

/-- The variables with those of an earlier reading removed. -/
def clearVariables (request : Request) (vars : Variables) : Variables :=
  let cleared := vars.set names.readResult []
  match request.varName with
  | some name => cleared.set name []
  | none => cleared

/-- The status after the prompt; a digit breaks it off. -/
def promptStatus (request : Request) (answers : Answers) : Status :=
  if request.hasPrompt = true ∧ answers.played.1 ≠ .break_ then answers.played.1
  else .success

/-- The digits after the prompt. -/
def promptDigits (request : Request) (answers : Answers) : List UInt8 :=
  if request.hasPrompt then answers.played.2.toList else []

/-- Whether more digits are collected. -/
def Request.wantsMore (request : Request) (digits : List UInt8) : Bool :=
  (decide (request.minDigits ≠ 0) &&
      decide (digits.length < request.minDigits)) ||
    decide (digits.length < request.most)

/-- The part of `switch_ivr_read` after the prompt. -/
def readAfterPrompt (request : Request) (answers : Answers) (vars : Variables) :
    Reading :=
  let digits := promptDigits request answers
  let noted := noteResult names request <|
    if request.wantsMore digits then
      applyTerminator names request answers.collected.2.2
        { status := answers.collected.1, digits := answers.collected.2.1,
          vars := vars }
    else
      applyTerminator names request none
        { status := .success, digits := digits, vars := vars }
  finish request noted.digits.length noted

/-- `switch_ivr_read` on a buffer that holds `before`. -/
def switchIvrRead (request : Request) (answers : Answers) (before : List UInt8)
    (vars : Variables) : Reading :=
  let vars := clearVariables names request vars
  if (request.minDigits ≠ 0 ∧ request.bufferLength < request.minDigits) ∨
      request.bufferLength < request.most then
    { status := .false_, digits := before, vars := vars }
  else if answers.preAnswered = false then
    { status := .false_, digits := before, vars := vars }
  else if promptStatus request answers ≠ .success then
    finish request 0
      { status := promptStatus request answers
        digits := promptDigits request answers
        vars := vars }
  else
    readAfterPrompt names request answers vars

end Read

/-- What the environment answers in one try of `switch_play_and_get_digits`. -/
structure Try where
  ready : Bool
  answers : Answers
  stillReady : Bool

/-- What `switch_play_and_get_digits` has come to. -/
structure Result where
  status : Status
  digits : List UInt8
  vars : Variables
  tries : Nat

section Tries

variable (names : Names) (request : Request)
  (accepts : Option (List UInt8 → Bool))

/-- The name of the variable for refused digits. -/
def invalidName (name : String) : String := name ++ "_invalid"

/-- The vars after digits were refused by the regular expression. -/
def refuse (digits : List UInt8) (vars : Variables) : Variables :=
  match request.varName with
  | some name =>
      let cleared := vars.set name []
      if name = "" then cleared else cleared.set (invalidName name) digits
  | none => vars

/-- The status of a reading, where a timeout after enough digits is a success. -/
def lateStatus (reading : Reading) : Status :=
  if reading.status = .timeout ∧
      request.minDigits ≤ reading.digits.length then .success
  else reading.status

/-- What one reading comes to in `switch_play_and_get_digits`: a result, or the
vars with which the bad input is answered. -/
def judge (reading : Reading) : Result ⊕ Variables :=
  if reading.status = .restart then
    .inl { status := .restart, digits := reading.digits,
           vars := reading.vars, tries := 0 }
  else if request.minDigits = 0 ∧ reading.digits = [] ∧
      (reading.vars.get names.terminatorUsed).isSome then
    .inl { status := .success, digits := reading.digits,
           vars := reading.vars, tries := 0 }
  else if lateStatus request reading = .success ∧ reading.digits ≠ [] then
    match accepts with
    | none =>
        .inl { status := .success, digits := reading.digits,
               vars := reading.vars, tries := 0 }
    | some accept =>
        if accept reading.digits then
          .inl { status := .success, digits := reading.digits,
                 vars := reading.vars, tries := 0 }
        else
          .inr (refuse request reading.digits reading.vars)
  else
    .inr reading.vars

/-- The loop of `switch_play_and_get_digits` with `max_tries` to go, after some
tries; no result while the environment has not answered enough. -/
def tryLoop : Nat → List Try → Nat → Variables → Option Result
  | 0, _, tries, vars =>
      some { status := .false_, digits := [], vars := vars,
             tries := tries }
  | _ + 1, [], _, _ => none
  | maxTries + 1, attempt :: attempts, tries, vars =>
      if attempt.ready = false then
        some { status := .false_, digits := [], vars := vars,
               tries := tries }
      else
        match judge names request accepts
            (switchIvrRead names request attempt.answers [] vars) with
        | .inl result => some { result with tries := tries + 1 }
        | .inr vars =>
            if attempt.stillReady = false then
              some { status := .false_, digits := [], vars := vars,
                     tries := tries + 1 }
            else
              tryLoop maxTries attempts (tries + 1) vars

/-- `switch_play_and_get_digits`. -/
def switchPlayAndGetDigits (maxTries : Nat) (attempts : List Try)
    (vars : Variables) : Option Result :=
  let vars :=
    match accepts, request.varName with
    | some _, some name =>
        if name = "" then vars else vars.set (invalidName name) []
    | _, _ => vars
  tryLoop names request accepts maxTries attempts 0 vars

end Tries

section Variables

variable {vars : Variables} {name other : String} {value : List UInt8}

theorem set_same (named : name ≠ "") :
    (vars.set name value).get name =
      if value = [] then none else some value := by
  unfold Variables.set
  rw [if_neg named]
  simp

theorem set_other (differs : other ≠ name) :
    (vars.set name value).get other = vars.get other := by
  unfold Variables.set
  split
  · rfl
  · simp [differs]

end Variables

section Reading

variable {names : Names} {request : Request} {answers : Answers}
  {vars : Variables} {name : String}

theorem storeDigits_same (named : request.varName = some name)
    (nonempty : name ≠ "") (digits : List UInt8) :
    (storeDigits request digits vars).get name =
      if digits = [] then vars.get name else some digits := by
  unfold storeDigits
  rw [named]
  dsimp only
  split
  · rfl
  · rename_i some
    rw [set_same nonempty, if_neg some]

theorem storeDigits_other (other : request.varName ≠ some name)
    (digits : List UInt8) :
    (storeDigits request digits vars).get name = vars.get name := by
  unfold storeDigits
  split
  · rename_i stored named
    split
    · rfl
    · apply set_other
      intro same
      rw [named, same] at other
      exact other rfl
  · rfl

theorem keptDigits_eq (length : Nat) (reading : Reading) :
    keptDigits request length reading = [] ∨
      keptDigits request length reading = reading.digits := by
  unfold keptDigits
  split
  · exact .inl rfl
  · exact .inr rfl

/-- The ways through `switch_ivr_read`, with a cleared buffer. -/
theorem switchIvrRead_cases (names : Names) (request : Request)
    (answers : Answers) (vars : Variables) :
    switchIvrRead names request answers [] vars =
        { status := .false_, digits := [],
          vars := clearVariables names request vars } ∨
      (promptStatus request answers ≠ Status.success ∧
        switchIvrRead names request answers [] vars =
          finish request 0
            { status := promptStatus request answers
              digits := promptDigits request answers
              vars := clearVariables names request vars }) ∨
      ∃ terminator status digits, ∃ noted,
        ((terminator, status, digits) =
            (answers.collected.2.2, answers.collected.1,
              answers.collected.2.1) ∨
          (terminator, status, digits) =
            (none, Status.success, promptDigits request answers)) ∧
        noted = noteResult names request (applyTerminator names request terminator
          { status := status, digits := digits,
            vars := clearVariables names request vars }) ∧
        switchIvrRead names request answers [] vars =
          finish request noted.digits.length noted := by
  unfold switchIvrRead
  dsimp only
  split
  case isTrue => exact .inl rfl
  case isFalse =>
      split
      case isTrue => exact .inl rfl
      case isFalse =>
          right
          split
          case isTrue failed => exact .inl ⟨failed, rfl⟩
          case isFalse =>
              right
              unfold readAfterPrompt
              dsimp only
              split
              · exact ⟨_, _, _, _, .inl rfl, rfl, rfl⟩
              · exact ⟨_, _, _, _, .inr rfl, rfl, rfl⟩

theorem clearVariables_named (named : request.varName = some name)
    (nonempty : name ≠ "") :
    (clearVariables names request vars).get name = none := by
  unfold clearVariables
  rw [named]
  dsimp only
  rw [set_same nonempty, if_pos rfl]

theorem clearVariables_other (other : request.varName ≠ some name)
    (differs : name ≠ names.readResult) :
    (clearVariables names request vars).get name = vars.get name := by
  unfold clearVariables
  split
  · rename_i cleared named
    have different : name ≠ cleared := by
      rintro rfl
      exact other named
    rw [set_other different, set_other differs]
  · exact set_other differs

theorem applyTerminator_other (differs : name ≠ names.terminatorUsed)
    (terminator : Option UInt8) (reading : Reading) :
    (applyTerminator names request terminator reading).vars.get name =
      reading.vars.get name := by
  unfold applyTerminator
  split
  · dsimp only
    split
    · exact set_other differs
    · split
      · exact set_other differs
      · exact set_other differs
  · split <;> rfl

theorem noteResult_other (differs : name ≠ names.readResult)
    (reading : Reading) :
    (noteResult names request reading).vars.get name = reading.vars.get name :=
  set_other differs

/-- A name that is not one of the two the reading uses itself. -/
structure Names.Spare (names : Names) (name : String) : Prop where
  nonempty : name ≠ ""
  result : name ≠ names.readResult
  terminator : name ≠ names.terminatorUsed

/-- The variable the caller has named holds the digits of the last reading and
nothing else. -/
theorem read_variable (named : request.varName = some name)
    (spare : names.Spare name) (answers : Answers) (vars : Variables) :
    (switchIvrRead names request answers [] vars).vars.get name =
      if (switchIvrRead names request answers [] vars).digits = [] then none
      else some (switchIvrRead names request answers [] vars).digits := by
  have cleared : (clearVariables names request vars).get name = none :=
    clearVariables_named named spare.nonempty
  rcases switchIvrRead_cases names request answers vars with
    early | ⟨-, broken⟩ | ⟨terminator, status, digits, noted, -, isNoted, whole⟩
  · rw [early]
    simpa using cleared
  · rw [broken]
    unfold finish
    dsimp only
    rw [storeDigits_same named spare.nonempty, cleared]
  · have untouched : noted.vars.get name = none := by
      rw [isNoted, noteResult_other spare.result,
        applyTerminator_other spare.terminator]
      exact cleared
    rw [whole]
    unfold finish
    dsimp only
    rw [storeDigits_same named spare.nonempty, untouched]

/-- A reading that succeeds with digits has enough of them. -/
theorem read_enough (succeeded :
      (switchIvrRead names request answers [] vars).status = .success)
    (entered : (switchIvrRead names request answers [] vars).digits ≠ []) :
    request.minDigits ≤
      (switchIvrRead names request answers [] vars).digits.length := by
  rcases switchIvrRead_cases names request answers vars with
    early | ⟨failed, broken⟩ |
      ⟨terminator, status, digits, noted, -, isNoted, whole⟩
  · rw [early] at succeeded
    cases succeeded
  · rw [broken] at succeeded
    exact absurd succeeded failed
  · rw [whole] at succeeded entered ⊢
    have kept : keptDigits request noted.digits.length noted = noted.digits :=
      (keptDigits_eq _ _).resolve_left entered
    have length : (finish request noted.digits.length noted).digits.length =
        noted.digits.length := congrArg List.length kept
    have noSmall : noted.status = .success := succeeded
    rw [length]
    by_contra few
    rw [isNoted] at noSmall few
    simp only [noteResult] at noSmall few
    rw [if_pos ⟨by omega, by omega⟩] at noSmall
    cases noSmall

/-- The answers of a caller who enters nothing. -/
structure Answers.Silent (answers : Answers) : Prop where
  noDigit : answers.played.2 = none
  nothing : answers.collected.2 = ([], none)
  played : answers.played.1 ≠ .restart
  collected : answers.collected.1 ≠ .restart

theorem promptStatus_silent (silent : answers.Silent) :
    promptStatus request answers ≠ .restart := by
  unfold promptStatus
  split
  · exact silent.played
  · decide

theorem promptDigits_silent (silent : answers.Silent) :
    promptDigits request answers = [] := by
  unfold promptDigits
  rw [silent.noDigit]
  simp

theorem noteResult_silent {status : Status} (goesOn : status ≠ .restart) :
    (noteResult names request (applyTerminator names request none
        { status := status, digits := [], vars := vars })).status ≠ .restart ∧
      (noteResult names request (applyTerminator names request none
        { status := status, digits := [], vars := vars })).digits = [] := by
  unfold noteResult applyTerminator
  dsimp only
  split
  · refine ⟨?_, rfl⟩
    split <;> exact Status.noConfusion
  · refine ⟨?_, rfl⟩
    split
    · decide
    · exact goesOn

theorem keptDigits_nil {reading : Reading} (empty : reading.digits = [])
    (length : Nat) : keptDigits request length reading = [] := by
  rcases @keptDigits_eq request length reading with none | same
  · exact none
  · rw [same, empty]

/-- A reading in which nothing is entered has no digits, and the terminator of an
earlier one stays noted. -/
theorem read_silent (silent : answers.Silent)
    (apart : names.terminatorUsed ≠ names.readResult)
    (other : request.varName ≠ some names.terminatorUsed) :
    (switchIvrRead names request answers [] vars).digits = [] ∧
      (switchIvrRead names request answers [] vars).status ≠ .restart ∧
      (switchIvrRead names request answers [] vars).vars.get
        names.terminatorUsed = vars.get names.terminatorUsed := by
  have cleared : (clearVariables names request vars).get names.terminatorUsed =
      vars.get names.terminatorUsed := clearVariables_other other apart
  rcases switchIvrRead_cases names request answers vars with
    early | ⟨-, broken⟩ |
      ⟨terminator, status, digits, noted, from_, isNoted, whole⟩
  · rw [early]
    exact ⟨rfl, Status.noConfusion, cleared⟩
  · rw [broken]
    refine ⟨keptDigits_nil (promptDigits_silent silent) 0,
      promptStatus_silent silent, ?_⟩
    unfold finish
    dsimp only
    rw [storeDigits_other other]
    exact cleared
  · have nothing : terminator = none ∧ digits = [] ∧ status ≠ .restart := by
      rcases from_ with collected | prompted
      · rw [silent.nothing] at collected
        cases collected
        exact ⟨rfl, rfl, silent.collected⟩
      · rw [promptDigits_silent silent] at prompted
        cases prompted
        exact ⟨rfl, rfl, by decide⟩
    obtain ⟨rfl, rfl, goesOn⟩ := nothing
    obtain ⟨notRestart, empty⟩ := @noteResult_silent names request
      (clearVariables names request vars) status goesOn
    rw [← isNoted] at notRestart empty
    rw [whole]
    refine ⟨keptDigits_nil empty _, notRestart, ?_⟩
    unfold finish
    dsimp only
    rw [storeDigits_other other, isNoted, noteResult_other apart]
    unfold applyTerminator
    dsimp only
    split <;> exact cleared

end Reading

section Trying

variable {names : Names} {request : Request}
  {accepts : Option (List UInt8 → Bool)} {name : String}

/-- What a reading has to come to for its digits to be looked at. -/
def Passes (request : Request) (reading : Reading) : Prop :=
  reading.status = .success ∨
    (reading.status = .timeout ∧ request.minDigits ≤ reading.digits.length)

theorem lateStatus_success (reading : Reading) :
    lateStatus request reading = .success ↔ Passes request reading := by
  unfold lateStatus Passes
  constructor
  · intro status
    split at status
    · rename_i late
      exact .inr late
    · exact .inl status
  · rintro (success | late)
    · split
      · rfl
      · exact success
    · rw [if_pos late]

theorem judge_result {reading : Reading} {result : Result}
    (judged : judge names request accepts reading = .inl result) :
    result.digits = reading.digits ∧ result.vars = reading.vars ∧
      (result.status = .restart ∨
        (result.status = .success ∧ request.minDigits = 0 ∧
          reading.digits = [] ∧
          (reading.vars.get names.terminatorUsed).isSome) ∨
        (result.status = .success ∧ Passes request reading ∧
          reading.digits ≠ [] ∧
          ∀ accept, accepts = some accept → accept reading.digits = true)) := by
  unfold judge at judged
  split at judged
  · cases judged
    exact ⟨rfl, rfl, .inl rfl⟩
  · split at judged
    · rename_i optional
      cases judged
      exact ⟨rfl, rfl, .inr (.inl ⟨rfl, optional⟩)⟩
    · split at judged
      · rename_i passed
        obtain ⟨status, entered⟩ := passed
        have passes := (lateStatus_success reading).mp status
        split at judged
        · cases judged
          exact ⟨rfl, rfl, .inr (.inr ⟨rfl, passes, entered, by simp⟩)⟩
        · rename_i accept
          split at judged
          · rename_i accepted
            cases judged
            refine ⟨rfl, rfl, .inr (.inr ⟨rfl, passes, entered, ?_⟩)⟩
            intro other same
            cases same
            exact accepted
          · cases judged
      · cases judged

theorem passes_enough {answers : Answers} {before : Variables}
    (passes : Passes request (switchIvrRead names request answers [] before))
    (entered : (switchIvrRead names request answers [] before).digits ≠ []) :
    request.minDigits ≤
      (switchIvrRead names request answers [] before).digits.length := by
  rcases passes with success | ⟨-, enough⟩
  · exact read_enough success entered
  · exact enough

theorem tryLoop_zero (attempts : List Try) (tries : Nat) (vars : Variables) :
    tryLoop names request accepts 0 attempts tries vars =
      some { status := .false_, digits := [], vars := vars, tries := tries } :=
  rfl

theorem tryLoop_succ (maxTries : Nat) (attempt : Try) (attempts : List Try)
    (tries : Nat) (vars : Variables) :
    tryLoop names request accepts (maxTries + 1) (attempt :: attempts) tries
        vars =
      if attempt.ready = false then
        some { status := .false_, digits := [], vars := vars, tries := tries }
      else
        match judge names request accepts
            (switchIvrRead names request attempt.answers [] vars) with
        | .inl result => some { result with tries := tries + 1 }
        | .inr vars =>
            if attempt.stillReady = false then
              some { status := .false_, digits := [], vars := vars,
                     tries := tries + 1 }
            else
              tryLoop names request accepts maxTries attempts (tries + 1) vars :=
  rfl

/-- What every try keeps holds of the vars the loop ends with, and of those with
which the try began that gave the result. -/
theorem tryLoop_invariant (invariant : Nat → Variables → Prop)
    (keeps : ∀ (tries : Nat) (vars next : Variables) (answers : Answers),
      invariant tries vars →
      judge names request accepts
        (switchIvrRead names request answers [] vars) = .inr next →
      invariant (tries + 1) next) :
    ∀ (maxTries : Nat) (attempts : List Try) (tries : Nat) (vars : Variables)
      (result : Result), invariant tries vars →
      tryLoop names request accepts maxTries attempts tries vars =
        some result →
      tries ≤ result.tries ∧ result.tries ≤ tries + maxTries ∧
      ((result.status = .false_ ∧ result.digits = [] ∧
          invariant result.tries result.vars) ∨
        ∃ (before : Variables) (answers : Answers) (judged : Result),
          invariant (result.tries - 1) before ∧ 0 < result.tries ∧
          judge names request accepts
            (switchIvrRead names request answers [] before) = .inl judged ∧
          result.status = judged.status ∧ result.digits = judged.digits ∧
          result.vars = judged.vars) := by
  intro maxTries
  induction maxTries with
  | zero =>
      intro attempts tries vars result holds run
      rw [tryLoop_zero] at run
      cases run
      exact ⟨Nat.le_refl _, Nat.le_refl _, .inl ⟨rfl, rfl, holds⟩⟩
  | succ maxTries induct =>
      intro attempts tries vars result holds run
      match attempts with
      | [] =>
          cases run
      | attempt :: attempts =>
          rw [tryLoop_succ] at run
          split at run
          · cases run
            exact ⟨Nat.le_refl _, Nat.le_add_right _ _, .inl ⟨rfl, rfl, holds⟩⟩
          · split at run
            · rename_i judged isJudged
              cases run
              refine ⟨by simp, by simp, .inr ?_⟩
              exact ⟨vars, attempt.answers, judged, holds, by simp, isJudged, rfl,
                rfl, rfl⟩
            · rename_i next isNext
              have kept := keeps tries vars next attempt.answers holds isNext
              split at run
              · cases run
                exact ⟨by simp, by simp, .inl ⟨rfl, rfl, kept⟩⟩
              · obtain ⟨above, below, rest⟩ :=
                  induct attempts (tries + 1) next result kept run
                exact ⟨by omega, by omega, rest⟩

/-- Every end of `switch_play_and_get_digits`: the digits it succeeds with are
enough, accepted by the regular expression and in the variable; without digits it
succeeds only if none are needed and a terminator was noted. -/
theorem gets_checked_digits (named : request.varName = some name)
    (spare : names.Spare name) (maxTries : Nat) (attempts : List Try)
    (vars : Variables) (result : Result)
    (run : switchPlayAndGetDigits names request accepts maxTries attempts vars =
      some result) :
    result.tries ≤ maxTries ∧
      ((result.status = .success ∧ result.digits ≠ [] ∧
          request.minDigits ≤ result.digits.length ∧
          (∀ accept, accepts = some accept → accept result.digits = true) ∧
          result.vars.get name = some result.digits) ∨
        (result.status = .success ∧ result.digits = [] ∧
          request.minDigits = 0 ∧
          (result.vars.get names.terminatorUsed).isSome ∧
          result.vars.get name = none) ∨
        (result.status = .restart ∧
          result.vars.get name =
            if result.digits = [] then none else some result.digits) ∨
        (result.status = .false_ ∧ result.digits = [])) := by
  obtain ⟨-, few, outcome⟩ := tryLoop_invariant
    (fun _ _ => True) (fun _ _ _ _ _ _ => trivial) maxTries attempts 0 _ result
    trivial run
  refine ⟨by omega, ?_⟩
  rcases outcome with ⟨failed, empty, -⟩ |
    ⟨before, answers, judged, -, -, isJudged, status, digits, noted⟩
  · exact .inr (.inr (.inr ⟨failed, empty⟩))
  · have stored := read_variable named spare answers before
    obtain ⟨sameDigits, sameVars, outcome⟩ := judge_result isJudged
    rw [status, digits, sameDigits, noted, sameVars]
    rcases outcome with restarted | ⟨succeeded, optional, empty, used⟩ |
      ⟨succeeded, passes, entered, accepted⟩
    · exact .inr (.inr (.inl ⟨restarted, stored⟩))
    · rw [if_pos empty] at stored
      exact .inr (.inl ⟨succeeded, empty, optional, used, stored⟩)
    · rw [if_neg entered] at stored
      have enough := passes_enough passes entered
      exact .inl ⟨succeeded, entered, enough, accepted, stored⟩

/-- Two to four digits are asked for, ended by a hash. -/
def sampleRequest : Request :=
  { minDigits := 2, maxDigits := 4, hasPrompt := true, varName := some "pin"
    bufferLength := 16, terminators := some (bytes "#") }

/-- The names the header gives. -/
def sampleNames : Names :=
  { readResult := "read_result", terminatorUsed := "read_terminator_used" }

/-- A try in which these digits are entered and ended by a hash. -/
def sampleTry (digits : String) : Try :=
  { ready := true
    answers :=
      { preAnswered := true, played := (.success, none)
        collected := (.success, bytes digits, some 0x23) }
    stillReady := true }

theorem sampleNames_spare_pin : sampleNames.Spare "pin" :=
  ⟨by decide, by decide, by decide⟩

theorem gets_checked_digits_third_try :
    ∃ result,
      switchPlayAndGetDigits sampleNames sampleRequest
        (some fun digits => digits.length == 4) 3
        [sampleTry "1", sampleTry "123", sampleTry "1234"]
        { get := fun _ => none } = some result ∧
      result.tries ≤ 3 ∧
      ((result.status = .success ∧ result.digits ≠ [] ∧
          sampleRequest.minDigits ≤ result.digits.length ∧
          (∀ accept, some (fun digits : List UInt8 => digits.length == 4) =
            some accept → accept result.digits = true) ∧
          result.vars.get "pin" = some result.digits) ∨
        (result.status = .success ∧ result.digits = [] ∧
          sampleRequest.minDigits = 0 ∧
          (result.vars.get sampleNames.terminatorUsed).isSome ∧
          result.vars.get "pin" = none) ∨
        (result.status = .restart ∧
          result.vars.get "pin" =
            if result.digits = [] then none else some result.digits) ∨
        (result.status = .false_ ∧ result.digits = [])) := by
  obtain ⟨result, run⟩ := Option.isSome_iff_exists.mp
    (show (switchPlayAndGetDigits sampleNames sampleRequest
      (some fun digits => digits.length == 4) 3
      [sampleTry "1", sampleTry "123", sampleTry "1234"]
      { get := fun _ => none }).isSome = true by decide)
  exact ⟨result, run,
    gets_checked_digits rfl sampleNames_spare_pin 3 _ _ result run⟩

/-- A try of a caller who stays on the line and enters nothing. -/
structure Try.Silent (attempt : Try) : Prop where
  ready : attempt.ready = true
  stillReady : attempt.stillReady = true
  answers : attempt.answers.Silent

theorem tryLoop_silent (apart : names.terminatorUsed ≠ names.readResult)
    (other : request.varName ≠ some names.terminatorUsed) :
    ∀ (maxTries : Nat) (attempts : List Try) (tries : Nat) (vars : Variables),
      (∀ attempt ∈ attempts, attempt.Silent) → maxTries ≤ attempts.length →
      vars.get names.terminatorUsed = none →
      ∃ result, tryLoop names request accepts maxTries attempts tries vars =
          some result ∧
        result.status = .false_ ∧ result.digits = [] ∧
        result.tries = tries + maxTries := by
  intro maxTries
  induction maxTries with
  | zero =>
      intro attempts tries vars _ _ _
      exact ⟨_, tryLoop_zero attempts tries vars, rfl, rfl, rfl⟩
  | succ maxTries induct =>
      intro attempts tries vars silent enough unused
      match attempts with
      | [] => exact absurd enough (by simp)
      | attempt :: attempts =>
          have first := silent attempt List.mem_cons_self
          obtain ⟨empty, goesOn, kept⟩ :=
            @read_silent names request attempt.answers vars first.answers apart
              other
          have again : judge names request accepts
              (switchIvrRead names request attempt.answers [] vars) =
                .inr (switchIvrRead names request attempt.answers [] vars).vars := by
            unfold judge
            rw [if_neg goesOn, if_neg, if_neg]
            · intro passed
              exact passed.2 empty
            · rw [kept, unused]
              simp
          have rest : ∀ each ∈ attempts, each.Silent := fun each isEach =>
            silent each (List.mem_cons_of_mem attempt isEach)
          rw [unused] at kept
          obtain ⟨result, run, failed, nothing, tried⟩ :=
            induct attempts (tries + 1) _ rest (Nat.le_of_succ_le_succ enough) kept
          refine ⟨result, ?_, failed, nothing, by omega⟩
          rw [tryLoop_succ, first.ready, first.stillReady, again]
          exact run

/-- A caller who enters nothing where nothing is needed: the outcome depends on
whether an earlier reading has left a terminator, for no reading removes it. -/
theorem silence_after_terminator (optional : request.minDigits = 0)
    (apart : names.terminatorUsed ≠ names.readResult)
    (other : request.varName ≠ some names.terminatorUsed)
    (invalid : ∀ name, request.varName = some name →
      invalidName name ≠ names.terminatorUsed)
    (maxTries : Nat) (some : 0 < maxTries) (attempts : List Try)
    (silent : ∀ attempt ∈ attempts, attempt.Silent)
    (enough : maxTries ≤ attempts.length) (vars : Variables) :
    ∃ result, switchPlayAndGetDigits names request accepts maxTries attempts
        vars = .some result ∧ result.digits = [] ∧
      if (vars.get names.terminatorUsed).isSome then
        result.status = .success ∧ result.tries = 1
      else result.status = .false_ ∧ result.tries = maxTries := by
  obtain ⟨start, isStart, same⟩ : ∃ start : Variables,
      switchPlayAndGetDigits names request accepts maxTries attempts vars =
        tryLoop names request accepts maxTries attempts 0 start ∧
      start.get names.terminatorUsed = vars.get names.terminatorUsed := by
    refine ⟨_, rfl, ?_⟩
    split
    · rename_i _ name named
      split
      · rfl
      · exact set_other (invalid name named).symm
    · rfl
  rw [isStart, ← same]
  cases used : start.get names.terminatorUsed with
  | none =>
      obtain ⟨result, run, failed, nothing, tried⟩ :=
        @tryLoop_silent names request accepts apart other maxTries
          attempts 0 start silent enough used
      refine ⟨result, run, nothing, ?_⟩
      rw [if_neg (by simp)]
      exact ⟨failed, by omega⟩
  | some terminator =>
      obtain ⟨fewer, isFewer⟩ : ∃ fewer, maxTries = fewer + 1 :=
        ⟨maxTries - 1, by omega⟩
      match attempts with
      | [] => exact absurd enough (by simp; omega)
      | attempt :: attempts =>
          have first := silent attempt List.mem_cons_self
          obtain ⟨empty, goesOn, kept⟩ :=
            @read_silent names request attempt.answers start first.answers apart
              other
          have noted : ((switchIvrRead names request attempt.answers []
              start).vars.get names.terminatorUsed).isSome := by
            rw [kept, used]
            rfl
          rw [isFewer, tryLoop_succ, first.ready, if_neg Bool.noConfusion]
          unfold judge
          rw [if_neg goesOn, if_pos ⟨optional, empty, noted⟩]
          refine ⟨_, rfl, empty, ?_⟩
          rw [if_pos (by simp)]
          exact ⟨rfl, rfl⟩

theorem silence_after_hash :
    ∃ result,
      switchPlayAndGetDigits sampleNames { sampleRequest with minDigits := 0 }
        none 3
        (List.replicate 3
          { ready := true
            answers :=
              { preAnswered := true, played := (.success, none)
                collected := (.timeout, [], none) }
            stillReady := true })
        { get := fun name =>
            if name = "read_terminator_used" then some [0x23] else none } =
          some result ∧
      result.digits = [] ∧
      if true then result.status = .success ∧ result.tries = 1
      else result.status = .false_ ∧ result.tries = 3 := by
  refine silence_after_terminator rfl (by decide) (by decide) ?_
    3 (by decide) _ ?_ (by decide)
    { get := fun name =>
        if name = "read_terminator_used" then some [0x23] else none }
  · intro name named
    cases named
    decide
  · intro attempt isAttempt
    rw [List.eq_of_mem_replicate isAttempt]
    exact ⟨rfl, rfl, rfl, rfl, Status.noConfusion, Status.noConfusion⟩

end Trying

end DigitReading

end SpeechModules
