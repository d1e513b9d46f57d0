import SpeechModules.AudioQueue
import SpeechModules.StepSystem

/-!
# The cached speech handle of a channel

`switch_ivr_speak_text` opens a speech handle for every text, or keeps one in the
channel's private data if `cache_speech_handles` is set.  Its two local flags
`need_create` and `need_alloc` are combined over a cache hit, a change of the
engine, a change of the voice and five error exits, and what one call leaves in
the cache is what the next one finds.

Every call is one step; its outcomes are part of the call.  An observer numbers
the handles and notes which of them are closed, and with what handle
`switch_ivr_speak_text_handle` is reached.
-/

namespace SpeechModules

namespace SpeechCache

open StepSystem

/-! ## Names -/

/-- A C string without its terminator. -/
abbrev Name := Bytes

/-- `switch_copy_string` into one of the arrays of `cached_speech_handle`. -/
def copyString (name : Name) : Name := name.take 79

def lower (char : UInt8) : UInt8 :=
  if 65 ≤ char ∧ char ≤ 90 then char + 32 else char

/-- `strcasecmp` gives 0. -/
def sameName (name other : Name) : Bool := name.map lower == other.map lower

theorem sameName_self (name : Name) : sameName name name = true :=
  beq_self_eq_true _

/-! ## Handles and the channel -/

/-- What is left to the core: which engines are served by `mod_aliyun_tts`, and
whether `switch_core_speech_close` leaves `sh->speech_interface` set. -/
structure Core where
  aliyun : Name → Bool
  keepsInterface : Bool

/-- A `switch_speech_handle_t`: the observer's number, whether `sh->session` is
the session of the channel, the engine it is open for, and the engine whose
module `sh->speech_interface` is. -/
structure SpeechHandle where
  number : Nat
  session : Bool
  engine : Option Name
  speechInterface : Option Name
  deriving DecidableEq

/-- `cached_speech_handle_t`; `codec` and `timer` tell whether these are
initialised. -/
structure CachedSpeechHandle where
  ttsName : Name
  voiceName : Name
  sh : SpeechHandle
  codec : Bool
  timer : Bool
  deriving DecidableEq

/-- The private data `aliyuntts_mod` as far as `aliyuntts_speech_feed_tts` looks
at it: its voice, and whether it can still send. -/
structure AliyunTtsMod where
  voice : Name
  usable : Bool
  deriving DecidableEq

/-- What `switch_ivr_speak_text_handle` is called with, and the voice in the
StartSynthesis that it causes, if it does. -/
structure Spoken where
  ttsName : Name
  voiceName : Name
  sh : SpeechHandle
  codec : Bool
  voice : Option Name
  deriving DecidableEq

/-- The channel's private data.  The last three fields belong to the observer. -/
structure Channel where
  cache : Option CachedSpeechHandle
  aliyunttsMod : Option AliyunTtsMod
  created : Nat
  closed : List Nat
  spoken : List Spoken

def Channel.initial : Channel := ⟨none, none, 0, [], []⟩

/-- How `switch_core_speech_open` ends.  If it fails it may have found the
interface, and the module may have come to set its private data. -/
inductive OpenResult where
  | opened
  | failed (found published : Bool)
  deriving DecidableEq

/-- One call of `switch_ivr_speak_text` with the variables of the channel and the
outcomes of what it calls.  `preAnswer` also covers the check for recursion that
follows it. -/
structure Call where
  ttsName : Name
  voiceName : Name
  cacheSpeechHandles : Bool
  timerName : Bool
  preAnswer : Bool
  opening : OpenResult
  preAnswerAgain : Bool
  codecInit : Bool
  timerInit : Bool

/-! ## The core and the module -/

/-- `memset`, `sh->session = session` and `switch_core_speech_open`. -/
def Channel.speechOpen (core : Core) (call : Call) (channel : Channel) :
    Channel × SpeechHandle :=
  match call.opening with
  | .opened =>
      ({ channel with
        created := channel.created + 1
        aliyunttsMod := if core.aliyun call.ttsName then
            some ⟨call.voiceName, true⟩
          else channel.aliyunttsMod },
        ⟨channel.created, true, some call.ttsName, some call.ttsName⟩)
  | .failed found published =>
      ({ channel with
        created := channel.created + 1
        aliyunttsMod := if core.aliyun call.ttsName && found && published then
            some ⟨call.voiceName, false⟩
          else channel.aliyunttsMod },
        ⟨channel.created, true, none,
          if found then some call.ttsName else none⟩)

/-- `switch_core_speech_close`.  `aliyuntts_speech_close` works on what it finds
in the channel's private data. -/
def Channel.speechClose (core : Core) (sh : SpeechHandle) (channel : Channel) :
    Channel × SpeechHandle :=
  ({ channel with
    closed := channel.closed ++ [sh.number]
    aliyunttsMod := if sh.speechInterface.any core.aliyun then
        channel.aliyunttsMod.map fun pvt => { pvt with usable := false }
      else channel.aliyunttsMod },
    { sh with
      engine := none
      speechInterface := if core.keepsInterface then sh.speechInterface
        else none })

/-- `switch_ivr_speak_text_handle` as far as the cache is concerned. -/
def Channel.speakTextHandle (core : Core) (call : Call)
    (object : CachedSpeechHandle) (channel : Channel) : Channel :=
  { channel with
    spoken := channel.spoken ++ [{
      ttsName := call.ttsName
      voiceName := call.voiceName
      sh := object.sh
      codec := object.codec
      voice := if object.sh.speechInterface.any core.aliyun then
          channel.aliyunttsMod.bind fun pvt =>
            if pvt.usable then some pvt.voice else none
        else none }] }

/-! ## `switch_ivr_clear_speech_cache` and `switch_ivr_speak_text` -/

/-- The body of `switch_ivr_clear_speech_cache` for the object it finds. -/
def Channel.clearObject (core : Core) (object : CachedSpeechHandle)
    (channel : Channel) : Channel × CachedSpeechHandle :=
  let (channel, sh) :=
    if object.sh.speechInterface.isSome then channel.speechClose core object.sh
    else (channel, object.sh)
  ({ channel with cache := none },
    { object with sh := sh, codec := false, timer := false })

def Channel.clearSpeechCache (core : Core) (channel : Channel) : Channel :=
  match channel.cache with
  | none => channel
  | some object => (channel.clearObject core object).1

/-- The private data points at the object of the call, so that it sees what the
call does to it. -/
def Channel.put (shared : Bool) (object : CachedSpeechHandle)
    (channel : Channel) : Channel :=
  if shared then { channel with cache := some object } else channel

/-- The error exits that close the handle and clear the cache. -/
def Channel.giveUp (core : Core) (shared : Bool) (object : CachedSpeechHandle)
    (channel : Channel) : Channel :=
  let (channel, sh) := channel.speechClose core object.sh
  (channel.put shared { object with sh := sh }).clearSpeechCache core

/-- A call with `need_create`, on the object in the private data or on the local
handle, codec and timer. -/
def Channel.speakCreated (core : Core) (call : Call) (shared : Bool)
    (object : CachedSpeechHandle) (channel : Channel) : Channel :=
  let (channel, sh) := channel.speechOpen core call
  let object := { object with sh := sh }
  if call.opening ≠ .opened then
    (channel.put shared object).clearSpeechCache core
  else if !call.preAnswerAgain then
    let (channel, sh) := channel.speechClose core object.sh
    channel.put shared { object with sh := sh }
  else if !call.codecInit then channel.giveUp core shared object
  else
    let object := { object with codec := true }
    if call.timerName && !call.timerInit then
      channel.giveUp core shared { object with codec := false }
    else
      let object := { object with timer := call.timerName }
      let channel := channel.speakTextHandle core call object
      if shared then { channel with cache := some object }
      else (channel.speechClose core object.sh).1

/-- A call without `need_create`, on the object in the private data.  The other
voice is passed on by `switch_core_speech_text_param_tts`, which is
`aliyuntts_text_param_tts` and does nothing. -/
def Channel.speakCached (core : Core) (call : Call)
    (object : CachedSpeechHandle) (channel : Channel) : Channel :=
  let object := { object with
    voiceName := if sameName object.voiceName call.voiceName then
        object.voiceName
      else copyString call.voiceName }
  if !call.preAnswerAgain then
    let (channel, sh) := channel.speechClose core object.sh
    { channel with cache := some { object with sh := sh } }
  else
    { channel.speakTextHandle core call object with cache := some object }

/-- A handle, codec and timer that have not been initialised, under the names of
the call. -/
def Call.emptyObject (call : Call) : CachedSpeechHandle :=
  ⟨copyString call.ttsName, copyString call.voiceName, ⟨0, false, none, none⟩,
    false, false⟩

def Channel.speakText (core : Core) (channel : Channel) (call : Call) :
    Channel :=
  if !call.preAnswer then channel
  else if !call.cacheSpeechHandles then
    channel.speakCreated core call false call.emptyObject
  else
    match channel.cache with
    | none => channel.speakCreated core call true call.emptyObject
    | some object =>
        if sameName object.ttsName call.ttsName then
          channel.speakCached core call object
        else
          -- `need_create` stays 0
          let (channel, object) := channel.clearObject core object
          channel.speakCached core call { object with
            ttsName := copyString call.ttsName
            voiceName := copyString call.voiceName }

/-- The step function of a channel: a call never blocks. -/
def Channel.step (core : Core) (channel : Channel) (call : Call) :
    Option Channel :=
  some (channel.speakText core call)

/-! ## The property -/

/-- `switch_ivr_speak_text_handle` is reached with a handle that is open for the
engine of the call in its session, with a ready codec, and the module speaks with
the voice of the call. -/
structure Spoken.Right (spoken : Spoken) : Prop where
  engine : ∃ engine, spoken.sh.engine = some engine ∧
    sameName engine spoken.ttsName = true
  session : spoken.sh.session = true
  codec : spoken.codec = true
  voice : ∀ voice, spoken.voice = some voice → voice = spoken.voiceName

/-- All texts so far have been spoken rightly, the cached object holds an open
handle of its recorded name, and no handle has been closed twice. -/
structure CacheRight (channel : Channel) : Prop where
  spoken : ∀ spoken ∈ channel.spoken, spoken.Right
  cached : ∀ object, channel.cache = some object →
    object.sh.engine = some object.ttsName
  closedOnce : channel.closed.Nodup

/-- A call with the cache on whose calls all succeed. -/
def Call.smooth (ttsName voiceName : Name) : Call where
  ttsName := ttsName
  voiceName := voiceName
  cacheSpeechHandles := true
  timerName := false
  preAnswer := true
  opening := .opened
  preAnswerAgain := true
  codecInit := true
  timerInit := true

/-- A text for one engine, then a text for another. -/
def otherEngineCalls : List Call := [.smooth [97] [120], .smooth [98] [120]]

theorem cacheRight_fails :
    ¬ ∀ (core : Core) (channel : Channel),
      Reach (Channel.step core) Channel.initial channel →
        CacheRight channel := by
  intro always
  let core : Core := ⟨fun _ => false, true⟩
  obtain ⟨channel, reached, closed⟩ :=
    exists_reach_of_replay (Channel.step core) Channel.initial otherEngineCalls
      (fun channel => channel.spoken.any fun spoken =>
        spoken.sh.engine == none) (by decide)
  obtain ⟨spoken, member, notOpen⟩ := List.any_eq_true.mp closed
  obtain ⟨engine, isOpen, _⟩ :=
    ((always core channel reached).spoken spoken member).engine
  rw [beq_iff_eq.mp notOpen] at isOpen
  cases isOpen

/-! ## Calls that the cache fits -/

/-- The side condition on a call and the channel before it: it does not come to
the cache; or the cache is empty, and the handle cannot be opened, or is kept
under its whole name and nothing fails afterwards (a failing codec or timer does
no harm if closing a handle takes its interface away); or the cached handle is
for the same engine, the call is answered, and a handle of `mod_aliyun_tts` has
been opened with the voice of the call. -/
def cacheFits (core : Core) (channel : Channel) (call : Call) : Bool :=
  !call.preAnswer || !call.cacheSpeechHandles ||
  match channel.cache with
  | none =>
      call.opening != .opened ||
        call.preAnswerAgain &&
          if call.codecInit && (!call.timerName || call.timerInit) then
            decide (call.ttsName.length < 80)
          else !core.keepsInterface
  | some object =>
      sameName object.ttsName call.ttsName && call.preAnswerAgain &&
        (!object.sh.speechInterface.any core.aliyun ||
          channel.aliyunttsMod.all fun pvt =>
            !pvt.usable || pvt.voice == call.voiceName)

/-- What the observer has noted is in order, and the cached handle can be
closed. -/
structure Ledger (channel : Channel) : Prop where
  spoken : ∀ spoken ∈ channel.spoken, spoken.Right
  closedOnce : channel.closed.Nodup
  known : ∀ number ∈ channel.closed, number < channel.created
  closable : ∀ object, channel.cache = some object →
    object.sh.speechInterface.isSome = true →
      object.sh.number ∉ channel.closed ∧ object.sh.number < channel.created

/-- An object that the next call can use. -/
structure CachedSpeechHandle.Ready (object : CachedSpeechHandle) : Prop where
  engine : object.sh.engine = some object.ttsName
  speechInterface : object.sh.speechInterface.isSome = true
  session : object.sh.session = true
  codec : object.codec = true

structure CacheRun (channel : Channel) : Prop where
  ledger : Ledger channel
  ready : ∀ object, channel.cache = some object → object.Ready

theorem CacheRun.cacheRight {channel : Channel} (run : CacheRun channel) :
    CacheRight channel :=
  ⟨run.ledger.spoken, fun object cached => (run.ready object cached).engine,
    run.ledger.closedOnce⟩

/-- A handle of its own that has not been closed. -/
structure Fresh (channel : Channel) (sh : SpeechHandle) : Prop where
  unclosed : sh.number ∉ channel.closed
  known : sh.number < channel.created
  other : ∀ object, channel.cache = some object →
    object.sh.number ≠ sh.number

section Operations

variable {core : Core} {call : Call} {channel : Channel} {sh : SpeechHandle}
  {object : CachedSpeechHandle}

/-- Closing a handle that has not been closed. -/
theorem closed_append (ledger : Ledger channel)
    (unclosed : sh.number ∉ channel.closed)
    (known : sh.number < channel.created) :
    (channel.closed ++ [sh.number]).Nodup ∧
      ∀ number ∈ channel.closed ++ [sh.number], number < channel.created := by
  refine ⟨List.nodup_append.mpr ⟨ledger.closedOnce, by simp, ?_⟩, ?_⟩
  · intro number member last isLast same
    rw [List.mem_singleton.mp isLast] at same
    exact unclosed (same ▸ member)
  · intro number member
    rcases List.mem_append.mp member with old | new
    · exact ledger.known number old
    · rw [List.mem_singleton.mp new]
      exact known

theorem Ledger.speechClose (ledger : Ledger channel) (fresh : Fresh channel sh) :
    Ledger (channel.speechClose core sh).1 := by
  obtain ⟨once, known⟩ := closed_append ledger fresh.unclosed fresh.known
  refine ⟨ledger.spoken, once, known, fun cached isCached canClose => ?_⟩
  obtain ⟨unclosed, created⟩ := ledger.closable cached isCached canClose
  refine ⟨fun member => ?_, created⟩
  rcases List.mem_append.mp member with old | new
  · exact unclosed old
  · exact fresh.other cached isCached (List.mem_singleton.mp new)

theorem CacheRun.speechClose (run : CacheRun channel) (fresh : Fresh channel sh) :
    CacheRun (channel.speechClose core sh).1 :=
  ⟨run.ledger.speechClose fresh, run.ready⟩

theorem Ledger.clearSpeechCache (ledger : Ledger channel) :
    CacheRun (channel.clearSpeechCache core) := by
  unfold Channel.clearSpeechCache
  split
  next empty =>
    refine ⟨ledger, fun object cached => ?_⟩
    cases empty.symm.trans cached
  next object cached =>
    by_cases canClose : object.sh.speechInterface.isSome = true
    · simp only [Channel.clearObject, if_pos canClose]
      obtain ⟨unclosed, created⟩ := ledger.closable object cached canClose
      obtain ⟨once, known⟩ := closed_append ledger unclosed created
      exact ⟨⟨ledger.spoken, once, known, nofun⟩, nofun⟩
    · simp only [Channel.clearObject, if_neg canClose]
      exact ⟨⟨ledger.spoken, ledger.closedOnce, ledger.known, nofun⟩, nofun⟩

/-- A cached object whose handle is gone or has not been closed. -/
theorem Ledger.put (ledger : Ledger channel)
    (closable : object.sh.speechInterface.isSome = true →
      object.sh.number ∉ channel.closed ∧ object.sh.number < channel.created) :
    Ledger { channel with cache := some object } := by
  refine ⟨ledger.spoken, ledger.closedOnce, ledger.known, ?_⟩
  rintro cached isCached
  cases isCached
  exact closable

/-- Opening a handle takes the next number. -/
theorem speechOpen_created :
    (channel.speechOpen core call).1 = { channel with
        created := channel.created + 1
        aliyunttsMod := (channel.speechOpen core call).1.aliyunttsMod } ∧
      (channel.speechOpen core call).2.number = channel.created := by
  unfold Channel.speechOpen
  split <;> exact ⟨rfl, rfl⟩

theorem CacheRun.speechOpen (run : CacheRun channel) :
    CacheRun (channel.speechOpen core call).1 ∧
      Fresh (channel.speechOpen core call).1
        (channel.speechOpen core call).2 := by
  obtain ⟨isOpened, isNext⟩ := @speechOpen_created core call channel
  have cachedBefore (cached : CachedSpeechHandle)
      (isCached : channel.cache = some cached) :
      cached.sh.number ∉ channel.closed ∧ cached.sh.number < channel.created :=
    run.ledger.closable cached isCached (run.ready cached isCached).speechInterface
  rw [isOpened]
  refine ⟨⟨⟨run.ledger.spoken, run.ledger.closedOnce, ?_, ?_⟩, run.ready⟩,
    ?_, ?_, ?_⟩
  · exact fun number member => Nat.lt_succ_of_lt (run.ledger.known number member)
  · intro cached isCached _
    obtain ⟨unclosed, created⟩ := cachedBefore cached isCached
    exact ⟨unclosed, Nat.lt_succ_of_lt created⟩
  · rw [isNext]
    exact fun member => Nat.lt_irrefl _ (run.ledger.known _ member)
  · rw [isNext]
    exact Nat.lt_succ_self _
  · intro cached isCached same
    obtain ⟨_, created⟩ := cachedBefore cached isCached
    rw [same, isNext] at created
    exact Nat.lt_irrefl _ created

theorem Ledger.speakTextHandle (ledger : Ledger channel)
    (right : Spoken.Right {
      ttsName := call.ttsName
      voiceName := call.voiceName
      sh := object.sh
      codec := object.codec
      voice := if object.sh.speechInterface.any core.aliyun then
          channel.aliyunttsMod.bind fun pvt =>
            if pvt.usable then some pvt.voice else none
        else none }) :
    Ledger (channel.speakTextHandle core call object) := by
  refine ⟨fun spoken member => ?_, ledger.closedOnce, ledger.known,
    ledger.closable⟩
  rcases List.mem_append.mp member with old | new
  · exact ledger.spoken spoken old
  · rw [List.mem_singleton.mp new]
    exact right

/-- The two exits after a codec or timer that cannot be initialised. -/
theorem CacheRun.giveUp {shared : Bool} (run : CacheRun channel)
    (fresh : Fresh channel object.sh)
    (fits : shared = true → core.keepsInterface = false) :
    CacheRun (channel.giveUp core shared object) := by
  have ledger := @Ledger.speechClose core channel object.sh run.ledger fresh
  unfold Channel.giveUp Channel.put
  cases shared with
  | false => exact ledger.clearSpeechCache
  | true =>
      refine (ledger.put fun kept => ?_).clearSpeechCache
      simp only [fits rfl] at kept
      cases kept

/-- What a new handle is used for. -/
theorem right_of_opened (isOpened : call.opening = .opened)
    (codec : object.codec = true)
    (isNew : object.sh = (channel.speechOpen core call).2) :
    Spoken.Right {
      ttsName := call.ttsName
      voiceName := call.voiceName
      sh := object.sh
      codec := object.codec
      voice := if object.sh.speechInterface.any core.aliyun then
          (channel.speechOpen core call).1.aliyunttsMod.bind fun pvt =>
            if pvt.usable then some pvt.voice else none
        else none } := by
  simp only [Channel.speechOpen, isOpened] at isNew ⊢
  refine ⟨⟨call.ttsName, ?_, sameName_self _⟩, ?_, codec, fun voice spoken => ?_⟩
  · rw [isNew]
  · rw [isNew]
  · simp only [isNew, Option.any_some] at spoken
    cases aliyun : core.aliyun call.ttsName with
    | false => simp [aliyun] at spoken
    | true =>
        simp only [aliyun, if_true, Option.bind_some, Option.some.injEq] at spoken
        exact spoken.symm

end Operations

section Calls

variable {core : Core} {call : Call} {channel : Channel}
  {object : CachedSpeechHandle}

/-- A call on its local handle. -/
theorem CacheRun.speakLocal (run : CacheRun channel) :
    CacheRun (channel.speakCreated core call false object) := by
  obtain ⟨opened, fresh⟩ := @CacheRun.speechOpen core call channel run
  unfold Channel.speakCreated
  simp only
  split
  next => exact opened.ledger.clearSpeechCache
  next succeeded =>
    split
    next => exact opened.speechClose fresh
    next =>
      split
      next => exact opened.giveUp fresh nofun
      next =>
        split
        next => exact opened.giveUp fresh nofun
        next =>
          have isOpened : call.opening = .opened := not_not.mp succeeded
          have ledger : Ledger (Channel.speakTextHandle core call
              { object with
                sh := (channel.speechOpen core call).2
                codec := true
                timer := call.timerName }
              (channel.speechOpen core call).1) :=
            opened.ledger.speakTextHandle (right_of_opened isOpened rfl rfl)
          exact CacheRun.speechClose ⟨ledger, opened.ready⟩
            ⟨fresh.unclosed, fresh.known, fresh.other⟩

/-- A call that fills the cache. -/
theorem CacheRun.speakFilling (run : CacheRun channel)
    (fits : call.opening ≠ .opened ∨ (call.preAnswerAgain = true ∧
      if call.codecInit && (!call.timerName || call.timerInit) then
        call.ttsName.length < 80
      else core.keepsInterface = false)) :
    CacheRun (channel.speakCreated core call true call.emptyObject) := by
  obtain ⟨opened, fresh⟩ := @CacheRun.speechOpen core call channel run
  unfold Channel.speakCreated
  simp only
  split
  next =>
    exact (opened.ledger.put fun _ =>
      ⟨fresh.unclosed, fresh.known⟩).clearSpeechCache
  next succeeded =>
    obtain ⟨answered, fits⟩ := fits.resolve_left succeeded
    rw [answered]
    simp only [Bool.not_true, Bool.false_eq_true, if_false]
    split
    next noCodec =>
      refine opened.giveUp fresh fun _ => ?_
      rw [Bool.not_eq_true'] at noCodec
      simpa [noCodec] using fits
    next codec =>
      rw [Bool.not_eq_true', Bool.not_eq_false] at codec
      split
      next noTimer =>
        refine opened.giveUp ⟨fresh.unclosed, fresh.known, fresh.other⟩
          fun _ => ?_
        rw [Bool.and_eq_true, Bool.not_eq_true'] at noTimer
        simpa [codec, noTimer] using fits
      next timer =>
        have isOpened : call.opening = .opened := not_not.mp succeeded
        have short : call.ttsName.length < 80 := by
          have noFailure : (!call.timerName || call.timerInit) = true := by
            cases named : call.timerName <;> cases init : call.timerInit <;>
              simp [named, init] at timer ⊢
          simpa [codec, noFailure] using fits
        have ledger : Ledger (Channel.speakTextHandle core call
            { call.emptyObject with
              sh := (channel.speechOpen core call).2
              codec := true
              timer := call.timerName }
            (channel.speechOpen core call).1) :=
          opened.ledger.speakTextHandle (right_of_opened isOpened rfl rfl)
        have whole : copyString call.ttsName = call.ttsName :=
          List.take_of_length_le (by omega)
        refine ⟨ledger.put fun _ => ⟨fresh.unclosed, fresh.known⟩, ?_⟩
        rintro _ ⟨⟩
        refine ⟨?_, ?_, ?_, rfl⟩
        all_goals simp only [Channel.speechOpen, isOpened]
        · rw [← whole]
          rfl
        · rfl

/-- A call that finds the cached handle. -/
theorem CacheRun.speakCached (run : CacheRun channel)
    (cached : channel.cache = some object)
    (sameEngine : sameName object.ttsName call.ttsName = true)
    (answered : call.preAnswerAgain = true)
    (voice : object.sh.speechInterface.any core.aliyun = true →
      ∀ pvt, channel.aliyunttsMod = some pvt → pvt.usable = true →
        pvt.voice = call.voiceName) :
    CacheRun (channel.speakCached core call object) := by
  obtain ⟨engine, speechInterface, session, codec⟩ := run.ready object cached
  unfold Channel.speakCached
  rw [answered]
  simp only [Bool.not_true, Bool.false_eq_true, if_false]
  refine ⟨Ledger.put (Ledger.speakTextHandle run.ledger ?_) fun _ =>
    run.ledger.closable object cached speechInterface, ?_⟩
  · refine ⟨⟨object.ttsName, engine, sameEngine⟩, session, codec, ?_⟩
    intro spoken isSpoken
    cases aliyun : object.sh.speechInterface.any core.aliyun with
    | false => simp [aliyun] at isSpoken
    | true =>
        simp only [aliyun, if_true] at isSpoken
        obtain ⟨pvt, isPvt, isVoice⟩ := Option.bind_eq_some_iff.mp isSpoken
        split at isVoice
        next usable =>
          cases isVoice
          exact voice aliyun pvt isPvt usable
        next => cases isVoice
  · rintro _ ⟨⟩
    exact ⟨engine, speechInterface, session, codec⟩

theorem CacheRun.speakText (run : CacheRun channel)
    (fits : cacheFits core channel call = true) :
    CacheRun (channel.speakText core call) := by
  unfold Channel.speakText
  split
  next => exact run
  next answered =>
    rw [Bool.not_eq_true', Bool.not_eq_false] at answered
    split
    next => exact run.speakLocal
    next cacheOn =>
      rw [Bool.not_eq_true', Bool.not_eq_false] at cacheOn
      simp only [cacheFits, answered, cacheOn, Bool.not_true,
        Bool.false_or] at fits
      split
      next empty =>
        apply run.speakFilling
        simp only [empty, Bool.or_eq_true, bne_iff_ne, Bool.and_eq_true] at fits
        refine fits.imp_right fun ⟨answeredAgain, rest⟩ => ⟨answeredAgain, ?_⟩
        split at rest <;> simp_all
      next object cached =>
        simp only [cached, Bool.and_eq_true, Bool.or_eq_true,
          Bool.not_eq_true'] at fits
        obtain ⟨⟨sameEngine, answeredAgain⟩, voice⟩ := fits
        rw [if_pos sameEngine]
        apply run.speakCached cached sameEngine answeredAgain
        intro aliyun pvt isPvt usable
        simpa [aliyun, isPvt, usable] using voice

end Calls

/-- In every sequence of calls that the cache fits, it is right. -/
theorem cacheRight_of_cacheFits (core : Core) {channel : Channel}
    (reached : PermittedReach (Channel.step core)
      (fun channel call => cacheFits core channel call = true)
      Channel.initial channel) :
    CacheRight channel := by
  have run : CacheRun channel := by
    refine reached.invariant ?_ ?_
    · exact ⟨⟨nofun, .nil, nofun, nofun⟩, nofun⟩
    · rintro before call after run fits stepped
      cases stepped
      exact run.speakText fits
  exact run.cacheRight

/-- Two texts in one voice, then one without the cache in another. -/
def sameVoiceCalls : List Call :=
  [.smooth [97] [120], .smooth [65] [120],
    { Call.smooth [97] [121] with cacheSpeechHandles := false }]

theorem cacheRight_sameVoiceCalls :
    ∃ channel, PermittedReach (Channel.step ⟨fun name => name == [97], true⟩)
        (fun channel call =>
          cacheFits ⟨fun name => name == [97], true⟩ channel call = true)
        Channel.initial channel ∧
      (channel.spoken.map Spoken.voice ==
        [some [120], some [120], some [121]]) = true ∧
      CacheRight channel := by
  obtain ⟨channel, reached, passed⟩ :=
    exists_permittedReach_of_replay
      (Channel.step ⟨fun name => name == [97], true⟩) Channel.initial
      sameVoiceCalls
      (fun channel => channel.spoken.map Spoken.voice ==
        [some [120], some [120], some [121]])
      (fun channel call =>
        cacheFits ⟨fun name => name == [97], true⟩ channel call = true)
      (by decide)
  exact ⟨channel, reached, passed, cacheRight_of_cacheFits _ reached⟩

end SpeechCache

end SpeechModules
