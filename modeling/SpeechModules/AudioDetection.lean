import SpeechModules.TrailingRun
import Mathlib.Algebra.Order.BigOperators.Group.List
import Mathlib.Algebra.Order.Ring.Nat
import Mathlib.Data.Int.ModEq
import Mathlib.Data.List.GetD

/-!
# Listening for audio and for silence

`switch_ivr_detect_audio`, `switch_ivr_detect_silence` and
`switch_ivr_wait_for_silence` of `switch_ivr_play_say.c`.  Each of them reads
frames in one loop, gives up after a number of samples, plays a file meanwhile if
there is one, and judges the energy of every frame.  What the session and the
file answer in an iteration is a choice of the environment.  The energies are
integers far below `2 ^ 53`, so that the `double` arithmetic is exact and the
conversion of the quotient rounds it down.
-/

namespace SpeechModules

namespace AudioDetection

/-- The states of reading and writing frames that are told apart. -/
inductive Status
  | success
  | break_
  | inuse
  | failure
  deriving DecidableEq, Repr

/-- `SWITCH_READ_ACCEPTABLE`. -/
def Status.acceptable : Status → Bool
  | .success | .break_ | .inuse => true
  | .failure => false

/-- A frame that was read, with the memory its data lies in. -/
structure Frame where
  seq : Nat
  samples : Nat
  data : List Int
  deriving DecidableEq, Repr

/-- What the codec of the session and the arguments fix. -/
structure Listener where
  samplesPerSecond : Nat
  samplesPerPacket : Nat
  channels : Nat
  withFile : Bool
  deriving DecidableEq, Repr

/-- `divisor`. -/
def Listener.divisor (listener : Listener) : Nat :=
  listener.samplesPerSecond / 8000

/-- The loop that adds up the energy, with `count` samples to go.  There is no
result when it reads behind the memory of the data. -/
def energyLoop (channels : Nat) (data : List Int) : Nat → Nat → Nat → Option Nat
  | 0, _, energy => some energy
  | count + 1, j, energy =>
      data[j]?.bind fun sample =>
        energyLoop channels data count ((j + 1 + channels) % 2 ^ 32)
          (energy + sample.natAbs)

/-- The score of an energy.  A division by zero has no result. -/
def scoreOf (listener : Listener) (frame : Frame) (energy : Nat) : Option Nat :=
  if listener.divisor = 0 ∨ frame.samples / listener.divisor = 0 then none
  else some (energy / (frame.samples / listener.divisor) % 2 ^ 32)

/-- The score of a frame. -/
def score (listener : Listener) (frame : Frame) : Option Nat :=
  (energyLoop listener.channels frame.data frame.samples 0 0).bind
    (scoreOf listener frame)

/-- What the session and the file answer in one iteration. -/
structure Turn where
  ready : Bool
  status : Status
  frame : Frame
  fileRead : Bool
  writeStatus : Status
  deriving DecidableEq, Repr

/-- Why a loop was left. -/
inductive Ended
  | notReady
  | readFailed
  | timedOut
  | fileFailed
  | writeFailed
  | detected
  deriving DecidableEq, Repr

/-- How far a call has come. -/
inductive Outcome (State : Type)
  | fault
  | waiting
  | ended (reason : Ended) (status : Status) (frames : Nat) (state : State)
  deriving DecidableEq, Repr

/-- The conversion to `int32_t`. -/
def toInt32 (value : Int) : Int :=
  value.bmod (2 ^ 32)

/-- The initial `sample_count`. -/
def Listener.sampleCount (listener : Listener) (timeoutMs : Nat) : Int :=
  toInt32 ((listener.samplesPerSecond / 1000 * timeoutMs % 2 ^ 32 : Nat) : Int)

section Loop

variable {State : Type} (listener : Listener)
  (judge : State → Frame → Option (State × Bool))

/-- The status after the frame was read and that of the file was written. -/
def Turn.statusAfter (turn : Turn) : Status :=
  if listener.withFile then turn.writeStatus else turn.status

/-- The loop all three functions share; `judge` says whether the frame completes
what is waited for. -/
def listen : List Turn → Nat → Int → State → Status → Outcome State
  | [], _, _, _, _ => .waiting
  | turn :: turns, frames, count, state, status =>
      if turn.ready = false then .ended .notReady status frames state
      else if turn.status.acceptable = false then
        .ended .readFailed turn.status frames state
      else
        let left := if count = 0 then 0
          else toInt32 (count - listener.samplesPerPacket)
        if count ≠ 0 ∧ left ≤ 0 then .ended .timedOut turn.status frames state
        else if listener.withFile = true ∧ turn.fileRead = false then
          .ended .fileFailed turn.status frames state
        else if listener.withFile = true ∧ turn.writeStatus ≠ .success then
          .ended .writeFailed turn.writeStatus frames state
        else
          match judge state turn.frame with
          | none => .fault
          | some (next, true) =>
              .ended .detected (turn.statusAfter listener) frames next
          | some (next, false) =>
              listen turns (frames + 1) left next (turn.statusAfter listener)

end Loop

section Functions

variable (listener : Listener)

/-- The judgement of `switch_ivr_detect_audio` and `switch_ivr_detect_silence`:
more than `needed` hits in a row. -/
def judgeHits (hit : Nat → Bool) (needed : Nat) (hits : Nat) (frame : Frame) :
    Option (Nat × Bool) :=
  (score listener frame).map fun value =>
    let next := if hit value then (hits + 1) % 2 ^ 32 else 0
    (next, decide (needed < next))

/-- The loop of `switch_ivr_detect_audio`. -/
def switchIvrDetectAudio (thresh audioHits timeoutMs : Nat)
    (turns : List Turn) : Outcome Nat :=
  listen listener (judgeHits listener (fun value => decide (thresh ≤ value))
    audioHits) turns 0 (listener.sampleCount timeoutMs) 0 .failure

/-- The loop of `switch_ivr_detect_silence`. -/
def switchIvrDetectSilence (thresh silenceHits timeoutMs : Nat)
    (turns : List Turn) : Outcome Nat :=
  listen listener (judgeHits listener (fun value => decide (value ≤ thresh))
    silenceHits) turns 0 (listener.sampleCount timeoutMs) 0 .failure

/-- The counters of `switch_ivr_wait_for_silence`. -/
structure Waiting where
  listening : Nat
  silenceHits : Nat
  countdown : Nat
  deriving DecidableEq, Repr

/-- The judgement of `switch_ivr_wait_for_silence`. -/
def judgeWaiting (thresh orgSilenceHits listenHits : Nat) (waiting : Waiting)
    (frame : Frame) : Option (Waiting × Bool) :=
  if waiting.countdown ≠ 0 then
    some ({ waiting with countdown := waiting.countdown - 1 },
      decide (waiting.countdown = 1))
  else
    (if frame.seq ≠ 0 then score listener frame
      else scoreOf listener frame 0).map fun value =>
      let listening :=
        if thresh ≤ value then (waiting.listening + 1) % 2 ^ 32
        else waiting.listening
      if (listenHits = 0 ∨ listenHits < listening) ∧ value < thresh then
        let silenceHits := (waiting.silenceHits + 2 ^ 32 - 1) % 2 ^ 32
        ({ listening := listening, silenceHits := silenceHits,
           countdown := if silenceHits = 0 then 25 else 0 }, false)
      else
        ({ listening := listening, silenceHits := orgSilenceHits,
           countdown := 0 }, false)

/-- The loop of `switch_ivr_wait_for_silence`. -/
def switchIvrWaitForSilence (thresh silenceHits listenHits timeoutMs : Nat)
    (turns : List Turn) : Outcome Waiting :=
  listen listener (judgeWaiting listener thresh silenceHits listenHits) turns 0
    (listener.sampleCount timeoutMs)
    { listening := 0, silenceHits := silenceHits, countdown := 0 } .failure

end Functions

section Energy

variable {channels : Nat} {data : List Int}

/-- The samples the energy is taken from. -/
def sampledAt (channels : Nat) (data : List Int) (start count : Nat) : List Int :=
  (List.range count).map fun k => data.getD (start + k * (channels + 1)) 0

theorem sampledAt_succ (start count : Nat) :
    sampledAt channels data start (count + 1) =
      data.getD start 0 ::
        sampledAt channels data (start + (channels + 1)) count := by
  unfold sampledAt
  rw [List.range_succ_eq_map, List.map_cons, List.map_map]
  congr 1
  · simp
  · apply List.map_congr_left
    intro k _
    simp only [Function.comp_apply, Nat.succ_mul]
    congr 1
    omega

/-- Where all samples can be read, their absolute values are added up. -/
theorem energyLoop_eq {count j energy : Nat}
    (small : j + count * (channels + 1) ≤ 2 ^ 32)
    (readable : ∀ k < count, j + k * (channels + 1) < data.length) :
    energyLoop channels data count j energy =
      some (energy + ((sampledAt channels data j count).map Int.natAbs).sum) := by
  induction count generalizing j energy with
  | zero => rfl
  | succ count ih =>
      have first : j < data.length := by
        simpa using readable 0 (Nat.succ_pos count)
      rw [Nat.succ_mul] at small
      rw [energyLoop, List.getElem?_eq_getElem first, Option.bind_some,
        sampledAt_succ, List.getD_eq_getElem data 0 first]
      cases count with
      | zero => simp [energyLoop, sampledAt]
      | succ count =>
          rw [Nat.succ_mul] at small
          have next : (j + 1 + channels) % 2 ^ 32 = j + (channels + 1) := by
            rw [Nat.mod_eq_of_lt (by omega)]
            omega
          rw [next, ih]
          · simp [Nat.add_assoc]
          · rw [Nat.succ_mul]
            omega
          · intro k inside
            have later := readable (k + 1) (by omega)
            rw [Nat.succ_mul] at later
            omega

/-- There is no result as soon as one of the samples lies behind the memory. -/
theorem energyLoop_none {count j energy : Nat}
    (small : j + count * (channels + 1) ≤ 2 ^ 32) {k : Nat} (inside : k < count)
    (behind : data.length ≤ j + k * (channels + 1)) :
    energyLoop channels data count j energy = none := by
  induction count generalizing j energy k with
  | zero => omega
  | succ count ih =>
      rw [energyLoop, Option.bind_eq_none_iff]
      intro sample _
      cases k with
      | zero =>
          have missing : data[j]? = none :=
            List.getElem?_eq_none (by simpa using behind)
          simp_all
      | succ k =>
          rw [Nat.succ_mul] at small behind
          have next : (j + 1 + channels) % 2 ^ 32 = j + (channels + 1) := by
            have more : channels + 1 ≤ count * (channels + 1) :=
              Nat.le_mul_of_pos_left _ (by omega)
            rw [Nat.mod_eq_of_lt (by omega)]
            omega
          rw [next]
          apply ih (by omega) (show k < count by omega)
          omega

theorem getD_append_replicate (own : List Int) {size index : Nat} (value : Int)
    (inside : index < own.length + size) :
    (own ++ List.replicate size value).getD index 0 =
      if index < own.length then own.getD index 0 else value := by
  split
  case isTrue before => exact List.getD_append _ _ _ _ before
  case isFalse behind =>
      rw [List.getD_append_right _ _ _ _ (by omega),
        List.getD_eq_getElem _ _ (by rw [List.length_replicate]; omega),
        List.getElem_replicate]

/-- Two memories that differ behind the frame, where a sample is taken. -/
theorem sum_sampledAt_lt (own : List Int) {samples size : Nat}
    (positive : 0 < samples) (size_eq : size = samples * (channels + 1))
    (behind : own.length ≤ (samples - 1) * (channels + 1)) :
    ((sampledAt channels (own ++ List.replicate size 0) 0 samples).map
        Int.natAbs).sum <
      ((sampledAt channels (own ++ List.replicate size 1) 0 samples).map
        Int.natAbs).sum := by
  have inside {k : Nat} (below : k < samples) :
      0 + k * (channels + 1) < own.length + size := by
    have atMost : k * (channels + 1) ≤ (samples - 1) * (channels + 1) :=
      Nat.mul_le_mul_right _ (by omega)
    have whole : samples * (channels + 1) =
        (samples - 1) * (channels + 1) + (channels + 1) := by
      rw [← Nat.succ_mul]
      congr 1
      omega
    omega
  unfold sampledAt
  rw [List.map_map, List.map_map]
  apply List.sum_lt_sum
  · intro k member
    have below : k < samples := List.mem_range.mp member
    simp only [Function.comp_apply]
    rw [getD_append_replicate own 0 (inside below),
      getD_append_replicate own 1 (inside below)]
    split
    · exact le_refl _
    · exact Nat.zero_le _
  · refine ⟨samples - 1, List.mem_range.mpr (by omega), ?_⟩
    simp only [Function.comp_apply]
    rw [getD_append_replicate own 0 (inside (by omega)),
      getD_append_replicate own 1 (inside (by omega)), if_neg (by omega),
      if_neg (by omega)]
    decide

/-- The energy of a frame takes every sample at a multiple of one more than the
number of channels.  It has no result exactly when the memory ends before the
last of them, and a frame with more samples than channels is judged by what lies
behind it: two memories with the same frame give different energies. -/
theorem energy_reads_behind_frame (channels samples : Nat)
    (small : samples * (channels + 1) ≤ 2 ^ 32) :
    (∀ data : List Int, energyLoop channels data samples 0 0 =
      if 0 < samples ∧ data.length ≤ (samples - 1) * (channels + 1) then none
      else some ((sampledAt channels data 0 samples).map Int.natAbs).sum) ∧
    (channels < samples → ∀ own : List Int,
      own.length = samples * channels →
      ∃ behind other : List Int, behind.length = other.length ∧
        ∃ energy otherEnergy, energy ≠ otherEnergy ∧
          energyLoop channels (own ++ behind) samples 0 0 = some energy ∧
          energyLoop channels (own ++ other) samples 0 0 = some otherEnergy) := by
  have small' : 0 + samples * (channels + 1) ≤ 2 ^ 32 := by omega
  have readable {data : List Int}
      (long : ¬(0 < samples ∧ data.length ≤ (samples - 1) * (channels + 1))) :
      ∀ k < samples, 0 + k * (channels + 1) < data.length := by
    intro k inside
    have atMost : k * (channels + 1) ≤ (samples - 1) * (channels + 1) :=
      Nat.mul_le_mul_right _ (by omega)
    omega
  refine ⟨?_, ?_⟩
  · intro data
    split
    case isTrue short =>
        apply energyLoop_none small' (show samples - 1 < samples by omega)
        omega
    case isFalse long =>
        rw [energyLoop_eq small' (readable long), Nat.zero_add]
  · intro more own ownLength
    have positive : 0 < samples := by omega
    have last : own.length ≤ (samples - 1) * (channels + 1) := by
      rw [ownLength]
      obtain ⟨fewer, rfl⟩ : ∃ fewer, samples = fewer + 1 :=
        ⟨samples - 1, by omega⟩
      rw [Nat.add_sub_cancel, Nat.mul_add, Nat.add_mul]
      omega
    have memory (value : Int) :=
      @energyLoop_eq channels
        (own ++ List.replicate (samples * (channels + 1)) value)
        samples 0 0 small' (readable (by
          rw [List.length_append, List.length_replicate]
          have fewer : (samples - 1) * (channels + 1) <
              samples * (channels + 1) :=
            Nat.mul_lt_mul_of_pos_right (by omega) (Nat.succ_pos _)
          omega))
    refine ⟨List.replicate _ 0, List.replicate _ 1, ?_, _, _, ?_, memory 0,
      memory 1⟩
    · rw [List.length_replicate, List.length_replicate]
    · have less := sum_sampledAt_lt own positive rfl last
      omega

theorem energy_reads_behind_three_samples :
    ∃ behind other : List Int, behind.length = other.length ∧
      ∃ energy otherEnergy, energy ≠ otherEnergy ∧
        energyLoop 1 ([7, 8, 9] ++ behind) 3 0 0 = some energy ∧
        energyLoop 1 ([7, 8, 9] ++ other) 3 0 0 = some otherEnergy :=
  (energy_reads_behind_frame 1 3 (by decide)).2 (by decide) [7, 8, 9] rfl

end Energy

section Detected

variable {State : Type} {listener : Listener}
  {judge : State → Frame → Option (State × Bool)}

/-- An iteration in which nothing goes wrong. -/
structure Turn.Passes (listener : Listener) (turn : Turn) : Prop where
  ready : turn.ready = true
  readable : turn.status.acceptable = true
  played : listener.withFile = true →
    turn.fileRead = true ∧ turn.writeStatus = .success

/-- So many frames do not use up the samples. -/
def Listener.InTime (listener : Listener) (count : Int) (frames : Nat) : Prop :=
  count = 0 ∨ ((frames * listener.samplesPerPacket : Nat) : Int) < count

/-- The judgement of a frame that does not complete what is waited for. -/
def quietly (judge : State → Frame → Option (State × Bool)) (state : State)
    (frame : Frame) : Option State :=
  match judge state frame with
  | some (next, false) => some next
  | _ => none

theorem quietly_eq_some_iff {state next : State} {frame : Frame} :
    quietly judge state frame = some next ↔
      judge state frame = some (next, false) := by
  unfold quietly
  split
  · rename_i judged
    rw [judged]
    simp
  · rename_i other
    simp only [reduceCtorEq, false_iff]
    exact fun judged => other _ judged

/-- The samples left after a frame. -/
def Listener.left (listener : Listener) (count : Int) : Int :=
  if count = 0 then 0 else count - listener.samplesPerPacket

theorem toInt32_eq {value : Int} (low : -2 ^ 31 ≤ value)
    (high : value < 2 ^ 31) : toInt32 value = value := by
  unfold toInt32
  apply Int.bmod_eq_of_le <;> omega

theorem inTime_succ {count : Int} (frames : Nat) (positive : 0 ≤ count) :
    listener.InTime count (frames + 1) ↔
      (count = 0 ∨ (listener.samplesPerPacket : Int) < count) ∧
        listener.InTime (listener.left count) frames := by
  unfold Listener.InTime Listener.left
  rw [Nat.succ_mul]
  generalize frames * listener.samplesPerPacket = used
  split
  · simp_all
  · omega

section Iteration

variable {turn : Turn} {turns : List Turn} {frames n : Nat} {count : Int}
  {state final : State} {status last : Status}

theorem left_eq (low : 0 ≤ count) (high : count < 2 ^ 31)
    (packet : listener.samplesPerPacket ≤ 2 ^ 31) :
    (if count = 0 then 0 else toInt32 (count - listener.samplesPerPacket)) =
      listener.left count := by
  unfold Listener.left
  rw [toInt32_eq (by omega) (by omega)]

/-- An iteration in time in which nothing goes wrong comes to the judgement. -/
theorem listen_cons_of_passes (low : 0 ≤ count) (high : count < 2 ^ 31)
    (packet : listener.samplesPerPacket ≤ 2 ^ 31)
    (passes : turn.Passes listener)
    (inTime : count = 0 ∨ (listener.samplesPerPacket : Int) < count) :
    listen listener judge (turn :: turns) frames count state status =
      match judge state turn.frame with
      | none => .fault
      | some (next, true) =>
          .ended .detected (turn.statusAfter listener) frames next
      | some (next, false) =>
          listen listener judge turns (frames + 1) (listener.left count) next
            (turn.statusAfter listener) := by
  have early : ¬(count ≠ 0 ∧ listener.left count ≤ 0) := by
    unfold Listener.left
    split <;> omega
  have played : ¬(listener.withFile = true ∧ turn.fileRead = false) := by
    rintro ⟨withFile, unread⟩
    rw [(passes.played withFile).1] at unread
    cases unread
  have written : ¬(listener.withFile = true ∧ turn.writeStatus ≠ .success) := by
    rintro ⟨withFile, unwritten⟩
    exact unwritten (passes.played withFile).2
  rw [listen, left_eq low high packet, if_neg (by simp [passes.ready]),
    if_neg (by simp [passes.readable])]
  dsimp only
  rw [if_neg early, if_neg played, if_neg written]

/-- A loop that detects something has come to the judgement. -/
theorem passes_of_detected (low : 0 ≤ count) (high : count < 2 ^ 31)
    (packet : listener.samplesPerPacket ≤ 2 ^ 31)
    (detected : listen listener judge (turn :: turns) frames count state status =
      .ended .detected last n final) :
    turn.Passes listener ∧
      (count = 0 ∨ (listener.samplesPerPacket : Int) < count) := by
  rw [listen, left_eq low high packet] at detected
  split at detected
  case isTrue => cases detected
  case isFalse ready =>
      split at detected
      case isTrue => cases detected
      case isFalse readable =>
          dsimp only at detected
          split at detected
          case isTrue => cases detected
          case isFalse early =>
              split at detected
              case isTrue => cases detected
              case isFalse played =>
                  split at detected
                  case isTrue => cases detected
                  case isFalse written =>
                      refine ⟨⟨by simpa using ready, by simpa using readable, ?_⟩,
                        ?_⟩
                      · intro withFile
                        simp only [withFile, true_and] at played written
                        exact ⟨by simpa using played, not_not.mp written⟩
                      · unfold Listener.left at early
                        split at early <;> omega

theorem left_range (low : 0 ≤ count) (high : count < 2 ^ 31)
    (inTime : count = 0 ∨ (listener.samplesPerPacket : Int) < count) :
    0 ≤ listener.left count ∧ listener.left count < 2 ^ 31 := by
  unfold Listener.left
  split <;> omega

/-- A loop detects something at the frame whose judgement says so, when nothing
went wrong up to it, it came in time and no frame before it was judged so. -/
theorem listen_detected_iff (low : 0 ≤ count) (high : count < 2 ^ 31)
    (packet : listener.samplesPerPacket ≤ 2 ^ 31) :
    listen listener judge turns frames count state status =
        .ended .detected last n final ↔
      ∃ front turn back middle, turns = front ++ turn :: back ∧
        n = frames + front.length ∧ last = turn.statusAfter listener ∧
        (∀ each ∈ front ++ [turn], each.Passes listener) ∧
        listener.InTime count (front.length + 1) ∧
        (front.map Turn.frame).foldlM (quietly judge) state = some middle ∧
        judge middle turn.frame = some (final, true) := by
  induction turns generalizing frames count state status with
  | nil =>
      constructor
      · intro detected
        cases detected
      · rintro ⟨front, turn, back, _, turns, _⟩
        simp at turns
  | cons turn turns ih =>
      constructor
      · intro detected
        obtain ⟨passes, inTime⟩ := passes_of_detected low high packet detected
        obtain ⟨leftLow, leftHigh⟩ := left_range low high inTime
        rw [listen_cons_of_passes low high packet passes inTime] at detected
        split at detected
        case h_1 => cases detected
        case h_2 next judged =>
            cases detected
            refine ⟨[], turn, turns, state, rfl, rfl, rfl, ?_, ?_, rfl, judged⟩
            · simpa using passes
            · rw [List.length_nil, inTime_succ 0 low]
              refine ⟨inTime, ?_⟩
              unfold Listener.InTime
              unfold Listener.left at leftLow ⊢
              split <;> omega
        case h_3 next judged =>
            obtain ⟨front, other, back, middle, rfl, rfl, rfl, allPass, stays,
              quiet, last⟩ := (ih leftLow leftHigh).mp detected
            refine ⟨turn :: front, other, back, middle, rfl, ?_, rfl, ?_, ?_, ?_,
              last⟩
            · rw [List.length_cons]
              omega
            · intro each member
              rcases List.mem_cons.mp member with rfl | later
              · exact passes
              · exact allPass each later
            · rw [List.length_cons, inTime_succ _ low]
              exact ⟨inTime, stays⟩
            · rw [List.map_cons, List.foldlM_cons,
                quietly_eq_some_iff.mpr judged]
              exact quiet
      · rintro ⟨front, other, back, middle, parts, rfl, rfl, allPass, stays,
          quiet, last⟩
        cases front with
        | nil =>
            obtain ⟨rfl, rfl⟩ := List.cons.inj parts
            have passes := allPass turn (by simp)
            have inTime := ((inTime_succ _ low).mp stays).1
            obtain rfl := Option.some.inj quiet
            rw [listen_cons_of_passes low high packet passes inTime, last]
            rfl
        | cons first front =>
            obtain ⟨rfl, rfl⟩ := List.cons.inj parts
            have passes := allPass turn (by simp)
            rw [List.length_cons, inTime_succ _ low] at stays
            obtain ⟨inTime, stays⟩ := stays
            obtain ⟨leftLow, leftHigh⟩ := left_range low high inTime
            rw [List.map_cons, List.foldlM_cons, Option.bind_eq_bind,
              Option.bind_eq_some_iff] at quiet
            obtain ⟨next, judged, quiet⟩ := quiet
            rw [listen_cons_of_passes low high packet passes inTime,
              quietly_eq_some_iff.mp judged]
            apply (ih leftLow leftHigh).mpr
            refine ⟨front, other, back, middle, rfl, ?_, rfl, ?_, stays, quiet,
              last⟩
            · rw [List.length_cons]
              omega
            · intro each member
              exact allPass each (List.mem_cons_of_mem turn member)

/-- The same for a whole loop, by the position of the frame. -/
theorem listen_detected_at_iff (low : 0 ≤ count) (high : count < 2 ^ 31)
    (packet : listener.samplesPerPacket ≤ 2 ^ 31) :
    listen listener judge turns 0 count state status =
        .ended .detected last n final ↔
      ∃ turn, turns[n]? = some turn ∧ last = turn.statusAfter listener ∧
        (∀ each ∈ turns.take (n + 1), each.Passes listener) ∧
        listener.InTime count (n + 1) ∧
        ∃ middle, ((turns.take n).map Turn.frame).foldlM (quietly judge) state =
            some middle ∧
          judge middle turn.frame = some (final, true) := by
  rw [listen_detected_iff low high packet]
  constructor
  · rintro ⟨front, turn, back, middle, rfl, atFront, rfl, allPass, inTime, judged⟩
    obtain rfl : n = front.length := by omega
    have taken : (front ++ turn :: back).take (front.length + 1) =
        front ++ [turn] := by
      rw [List.append_cons, List.take_left' (by simp)]
    refine ⟨turn, by simp, rfl, ?_, inTime, middle, ?_⟩
    · rwa [taken]
    · rwa [List.take_left]
  · rintro ⟨turn, found, rfl, allPass, inTime, middle, judged⟩
    obtain ⟨inside, rfl⟩ := List.getElem?_eq_some_iff.mp found
    have length : (turns.take n).length = n := by
      rw [List.length_take]
      omega
    refine ⟨turns.take n, turns[n], turns.drop (n + 1), middle, ?_, ?_, rfl, ?_, ?_,
      judged⟩
    · rw [← List.drop_eq_getElem_cons inside, List.take_append_drop]
    · omega
    · rwa [List.take_append_getElem inside]
    · rwa [length]

end Iteration

end Detected

section Hits

variable {listener : Listener} {hit : Nat → Bool} {needed : Nat}

/-- A frame whose score is a hit. -/
def isHit (listener : Listener) (hit : Nat → Bool) (frame : Frame) : Bool :=
  (score listener frame).any hit

/-- A frame that has a score. -/
def scored (listener : Listener) (frame : Frame) : Bool :=
  (score listener frame).isSome

theorem judgeHits_eq_some_iff {hits next : Nat} {frame : Frame} {done : Bool}
    (few : hits ≤ needed) (bounded : needed < 2 ^ 32 - 1) :
    judgeHits listener hit needed hits frame = some (next, done) ↔
      scored listener frame = true ∧
        next = (if isHit listener hit frame then hits + 1 else 0) ∧
        done = decide (needed < next) := by
  unfold judgeHits isHit scored
  have small : (hits + 1) % 2 ^ 32 = hits + 1 := Nat.mod_eq_of_lt (by omega)
  cases value : score listener frame with
  | none => simp
  | some value =>
      simp only [Option.map_some, Option.some.injEq, Prod.mk.injEq,
        Option.isSome_some, Option.any_some, true_and, small]
      constructor
      · rintro ⟨rfl, rfl⟩
        exact ⟨rfl, rfl⟩
      · rintro ⟨rfl, rfl⟩
        exact ⟨rfl, rfl⟩

/-- While no run of hits is long enough the counter is the run at the end. -/
theorem foldlM_judgeHits_iff (bounded : needed < 2 ^ 32 - 1)
    (frames : List Frame) {hits : Nat} :
    frames.foldlM (quietly (judgeHits listener hit needed)) 0 = some hits ↔
      (∀ frame ∈ frames, scored listener frame = true) ∧
        (∀ count ≤ frames.length,
          trailingRun (isHit listener hit) (frames.take count) ≤ needed) ∧
        hits = trailingRun (isHit listener hit) frames := by
  induction frames using List.reverseRecOn generalizing hits with
  | nil =>
      simp only [List.foldlM_nil, Option.pure_def, Option.some.injEq,
        List.take_nil, trailingRun_nil, Nat.zero_le, implies_true, true_and,
        List.not_mem_nil, false_implies]
      exact eq_comm
  | append_singleton frames frame ih =>
      have beginnings := @forall_take_append_singleton Frame
        (fun beginning =>
          trailingRun (isHit listener hit) beginning ≤ needed) frames frame
      rw [foldlM_append_singleton_eq_some_iff, beginnings,
        List.forall_mem_append, List.forall_mem_singleton,
        trailingRun_append_singleton]
      constructor
      · rintro ⟨before, counted, judged⟩
        obtain ⟨allScored, short, rfl⟩ := ih.mp counted
        have few := short frames.length (Nat.le_refl _)
        rw [List.take_length] at few
        obtain ⟨scoredLast, rfl, notDone⟩ :=
          (judgeHits_eq_some_iff few bounded).mp (quietly_eq_some_iff.mp judged)
        exact ⟨⟨allScored, scoredLast⟩, ⟨short, by simpa using notDone⟩, rfl⟩
      · rintro ⟨⟨allScored, scoredLast⟩, ⟨short, notDone⟩, rfl⟩
        have few := short frames.length (Nat.le_refl _)
        rw [List.take_length] at few
        refine ⟨_, ih.mpr ⟨allScored, short, rfl⟩, ?_⟩
        apply quietly_eq_some_iff.mpr
        apply (judgeHits_eq_some_iff few bounded).mpr
        exact ⟨scoredLast, rfl, by simpa using notDone⟩

/-- The counter passes the limit at the frame that ends the first run of more than
`needed` hits. -/
theorem judgeHits_done_iff (bounded : needed < 2 ^ 32 - 1) (frames : List Frame)
    (frame : Frame) {final : Nat} :
    (∃ hits, frames.foldlM (quietly (judgeHits listener hit needed)) 0 = some hits ∧
        judgeHits listener hit needed hits frame = some (final, true)) ↔
      (∀ each ∈ frames ++ [frame], scored listener each = true) ∧
        needed < trailingRun (isHit listener hit) (frames ++ [frame]) ∧
        (∀ count ≤ frames.length,
          trailingRun (isHit listener hit) (frames.take count) ≤ needed) ∧
        final = needed + 1 := by
  rw [List.forall_mem_append, List.forall_mem_singleton,
    trailingRun_append_singleton]
  constructor
  · rintro ⟨hits, counted, judged⟩
    obtain ⟨allScored, short, rfl⟩ := (foldlM_judgeHits_iff bounded _).mp counted
    have few := short _ (Nat.le_refl _)
    rw [List.take_length] at few
    obtain ⟨scoredLast, rfl, done⟩ := (judgeHits_eq_some_iff few bounded).mp judged
    have long := of_decide_eq_true done.symm
    refine ⟨⟨allScored, scoredLast⟩, long, short, ?_⟩
    split at long
    case isTrue isLast =>
        rw [if_pos isLast]
        omega
    case isFalse => exact absurd long (Nat.not_lt_zero needed)
  · rintro ⟨⟨allScored, scoredLast⟩, long, short, rfl⟩
    have few := short _ (Nat.le_refl _)
    rw [List.take_length] at few
    refine ⟨_, (foldlM_judgeHits_iff bounded _).mpr ⟨allScored, short, rfl⟩, ?_⟩
    refine (judgeHits_eq_some_iff few bounded).mpr ⟨scoredLast, ?_, by simp⟩
    split at long
    case isTrue isLast =>
        rw [if_pos isLast]
        omega
    case isFalse => exact absurd long (Nat.not_lt_zero needed)

theorem judgeHits_done_at_iff (bounded : needed < 2 ^ 32 - 1) {turns : List Turn}
    {turn : Turn} {n final : Nat} (found : turns[n]? = some turn) :
    (∃ hits, ((turns.take n).map Turn.frame).foldlM
          (quietly (judgeHits listener hit needed)) 0 = some hits ∧
        judgeHits listener hit needed hits turn.frame = some (final, true)) ↔
      (∀ each ∈ turns.take (n + 1), scored listener each.frame = true) ∧
        needed < trailingRun (isHit listener hit)
          ((turns.map Turn.frame).take (n + 1)) ∧
        (∀ earlier ≤ n, trailingRun (isHit listener hit)
          ((turns.map Turn.frame).take earlier) ≤ needed) ∧
        final = needed + 1 := by
  obtain ⟨inside, rfl⟩ := List.getElem?_eq_some_iff.mp found
  have beginnings := @forall_take_take Frame
    (fun beginning => trailingRun (isHit listener hit) beginning ≤ needed)
    (turns.map Turn.frame) n (by rw [List.length_map]; omega)
  rw [judgeHits_done_iff bounded, ← List.map_singleton, ← List.map_append,
    List.take_append_getElem inside, List.forall_mem_map, List.map_take,
    List.map_take, beginnings]

/-- The last frames of a list are hits, more than `needed` of them. -/
def EndsRun (listener : Listener) (hit : Nat → Bool) (needed : Nat)
    (frames : List Frame) : Prop :=
  needed + 1 ≤ frames.length ∧
    ∀ frame ∈ frames.drop (frames.length - (needed + 1)),
      isHit listener hit frame = true

/-- Nothing goes wrong up to the turn `n`, which comes in time and is the first
that ends a run of more than `needed` hits. -/
structure FirstRun (listener : Listener) (hit : Nat → Bool) (needed : Nat)
    (count : Int) (turns : List Turn) (n : Nat) : Prop where
  inside : n < turns.length
  passes : ∀ turn ∈ turns.take (n + 1), turn.Passes listener ∧
    scored listener turn.frame = true
  inTime : listener.InTime count (n + 1)
  ends : EndsRun listener hit needed ((turns.map Turn.frame).take (n + 1))
  first : ∀ earlier ≤ n,
    ¬EndsRun listener hit needed ((turns.map Turn.frame).take earlier)

/-- The two detecting functions stop at the first frame that ends a run of more
than so many hits, if nothing goes wrong up to it and it comes in time. -/
theorem listen_judgeHits_iff {turns : List Turn} {count : Int} {n final : Nat}
    {last : Status} (low : 0 ≤ count) (high : count < 2 ^ 31)
    (packet : listener.samplesPerPacket ≤ 2 ^ 31)
    (bounded : needed < 2 ^ 32 - 1) :
    listen listener (judgeHits listener hit needed) turns 0 count 0 .failure =
        .ended .detected last n final ↔
      (∃ turn, turns[n]? = some turn ∧ last = turn.statusAfter listener) ∧
        (∀ turn ∈ turns.take (n + 1), turn.Passes listener ∧
          scored listener turn.frame = true) ∧
        listener.InTime count (n + 1) ∧
        needed < trailingRun (isHit listener hit)
          ((turns.map Turn.frame).take (n + 1)) ∧
        (∀ earlier ≤ n, trailingRun (isHit listener hit)
          ((turns.map Turn.frame).take earlier) ≤ needed) ∧
        final = needed + 1 := by
  rw [listen_detected_at_iff low high packet]
  constructor
  · rintro ⟨turn, found, rfl, allPass, inTime, judged⟩
    obtain ⟨allScored, rest⟩ := (judgeHits_done_at_iff bounded found).mp judged
    exact ⟨⟨turn, found, rfl⟩,
      fun each member => ⟨allPass each member, allScored each member⟩, inTime, rest⟩
  · rintro ⟨⟨turn, found, rfl⟩, allPass, inTime, rest⟩
    have allScored := fun each member => (allPass each member).2
    exact ⟨turn, found, rfl, fun each member => (allPass each member).1, inTime,
      (judgeHits_done_at_iff bounded found).mpr ⟨allScored, rest⟩⟩

end Hits

section Waiting

variable {listener : Listener} {thresh org listenHits : Nat}

/-- The score `switch_ivr_wait_for_silence` gives a frame. -/
def waitScore (listener : Listener) (frame : Frame) : Option Nat :=
  if frame.seq ≠ 0 then score listener frame else scoreOf listener frame 0

/-- A frame that counts as heard. -/
def isLoud (listener : Listener) (thresh : Nat) (frame : Frame) : Bool :=
  (waitScore listener frame).any fun value => decide (thresh ≤ value)

/-- A frame that counts as silence after some frames: it is not loud, and enough
loud ones came before it. -/
def isSilentAfter (listener : Listener) (thresh listenHits : Nat)
    (before : List Frame) (frame : Frame) : Bool :=
  (decide (listenHits = 0) ||
      decide (listenHits < before.countP (isLoud listener thresh))) &&
    !isLoud listener thresh frame

/-- The run of silent frames at the end of a list. -/
def silentRun (listener : Listener) (thresh listenHits : Nat)
    (frames : List Frame) : Nat :=
  trailingRun id ((List.range frames.length).map fun index =>
    (frames[index]?).any
      (isSilentAfter listener thresh listenHits (frames.take index)))

theorem silentRun_append_singleton (frames : List Frame) (frame : Frame) :
    silentRun listener thresh listenHits (frames ++ [frame]) =
      if isSilentAfter listener thresh listenHits frames frame then
        silentRun listener thresh listenHits frames + 1
      else 0 := by
  unfold silentRun
  rw [List.length_append, List.length_singleton, List.range_succ,
    List.map_append, List.map_singleton, trailingRun_append_singleton,
    List.take_left, List.getElem?_append_right (Nat.le_refl _), Nat.sub_self]
  have before : ((List.range frames.length).map fun index =>
      ((frames ++ [frame])[index]?).any (isSilentAfter listener thresh listenHits
        ((frames ++ [frame]).take index))) =
      (List.range frames.length).map fun index =>
        (frames[index]?).any (isSilentAfter listener thresh listenHits
          (frames.take index)) := by
    apply List.map_congr_left
    intro index member
    have inside : index < frames.length := List.mem_range.mp member
    rw [List.getElem?_append_left inside,
      List.take_append_of_le_length (Nat.le_of_lt inside)]
  rw [before]
  rfl

/-- The counters after frames none of which completed the silence. -/
def counters (listener : Listener) (thresh org listenHits : Nat)
    (frames : List Frame) : Waiting where
  listening := frames.countP (isLoud listener thresh)
  silenceHits := org - silentRun listener thresh listenHits frames
  countdown := 0

/-- The counters after the frame `k` has completed the silence. -/
def countingDown (listener : Listener) (thresh : Nat)
    (frames : List Frame) (k : Nat) : Waiting where
  listening := (frames.take (k + 1)).countP (isLoud listener thresh)
  silenceHits := 0
  countdown := k + 26 - frames.length

/-- A frame while the silence is counted. -/
theorem judgeWaiting_counters {frames : List Frame} {frame : Frame} {value : Nat}
    (few : frames.length < 2 ^ 32 - 1)
    (short : silentRun listener thresh listenHits frames < org)
    (bounded : org < 2 ^ 32) (valued : waitScore listener frame = some value) :
    judgeWaiting listener thresh org listenHits
        (counters listener thresh org listenHits frames) frame =
      some ({ counters listener thresh org listenHits (frames ++ [frame]) with
        countdown :=
          if silentRun listener thresh listenHits (frames ++ [frame]) = org
          then 25 else 0 }, false) := by
  have loudFew : frames.countP (isLoud listener thresh) ≤ frames.length :=
    List.countP_le_length
  have loud : isLoud listener thresh frame = decide (thresh ≤ value) := by
    unfold isLoud
    rw [valued]
    rfl
  unfold judgeWaiting
  rw [if_neg (by simp [counters])]
  change (waitScore listener frame).map _ = _
  rw [valued, Option.map_some]
  have heard : (frames ++ [frame]).countP (isLoud listener thresh) =
      frames.countP (isLoud listener thresh) +
        (if thresh ≤ value then 1 else 0) := by
    rw [List.countP_append, List.countP_singleton, loud]
    simp
  by_cases audible : thresh ≤ value
  · have noSilence : silentRun listener thresh listenHits (frames ++ [frame]) =
        0 := by
      rw [silentRun_append_singleton, if_neg]
      simp [isSilentAfter, loud, audible]
    have counted : (frames.countP (isLoud listener thresh) + 1) % 2 ^ 32 =
        frames.countP (isLoud listener thresh) + 1 :=
      Nat.mod_eq_of_lt (by omega)
    simp only [counters, if_pos audible, heard, noSilence, counted]
    rw [if_neg (by omega), if_neg (by omega)]
    rfl
  · by_cases gate : listenHits = 0 ∨
        listenHits < frames.countP (isLoud listener thresh)
    · have longer : silentRun listener thresh listenHits (frames ++ [frame]) =
          silentRun listener thresh listenHits frames + 1 := by
        rw [silentRun_append_singleton, if_pos]
        simpa [isSilentAfter, loud, audible] using gate
      have less : (org - silentRun listener thresh listenHits frames + 2 ^ 32 - 1) %
          2 ^ 32 = org - (silentRun listener thresh listenHits frames + 1) := by
        omega
      simp only [counters, if_neg audible, heard, longer, Nat.add_zero]
      rw [if_pos ⟨gate, by omega⟩]
      have same : org - (silentRun listener thresh listenHits frames + 1) = 0 ↔
          silentRun listener thresh listenHits frames + 1 = org := by
        omega
      simp only [less, same]
    · have noSilence : silentRun listener thresh listenHits
          (frames ++ [frame]) = 0 := by
        rw [silentRun_append_singleton, if_neg]
        simpa [isSilentAfter, loud, audible] using gate
      simp only [counters, if_neg audible, heard, noSilence, Nat.add_zero]
      rw [if_neg (by tauto), if_neg (by omega)]
      rfl

/-- No frame so far completes the silence. -/
structure Counting (listener : Listener) (thresh org listenHits : Nat)
    (frames : List Frame) : Prop where
  valued : ∀ frame ∈ frames, (waitScore listener frame).isSome = true
  short : ∀ count ≤ frames.length,
    silentRun listener thresh listenHits (frames.take count) < org

/-- The frame `k` is the first that completes the silence. -/
structure Completes (listener : Listener) (thresh org listenHits : Nat)
    (frames : List Frame) (k : Nat) : Prop where
  inside : k < frames.length
  valued : ∀ frame ∈ frames.take (k + 1),
    (waitScore listener frame).isSome = true
  complete : silentRun listener thresh listenHits (frames.take (k + 1)) = org
  first : ∀ count ≤ k,
    silentRun listener thresh listenHits (frames.take count) < org

theorem counting_append_singleton (frames : List Frame) (frame : Frame) :
    Counting listener thresh org listenHits (frames ++ [frame]) ↔
      Counting listener thresh org listenHits frames ∧
        (waitScore listener frame).isSome = true ∧
        silentRun listener thresh listenHits (frames ++ [frame]) < org := by
  have beginnings := @forall_take_append_singleton Frame
    (fun beginning => silentRun listener thresh listenHits beginning < org)
    frames frame
  constructor
  · rintro ⟨valued, short⟩
    rw [List.forall_mem_append, List.forall_mem_singleton] at valued
    rw [beginnings] at short
    exact ⟨⟨valued.1, short.1⟩, valued.2, short.2⟩
  · rintro ⟨⟨valued, short⟩, last, whole⟩
    refine ⟨?_, beginnings.mpr ⟨short, whole⟩⟩
    rw [List.forall_mem_append, List.forall_mem_singleton]
    exact ⟨valued, last⟩

theorem completes_append {frames more : List Frame} {k : Nat}
    (before : k < frames.length) :
    Completes listener thresh org listenHits (frames ++ more) k ↔
      Completes listener thresh org listenHits frames k := by
  have taken (count : Nat) (small : count ≤ k + 1) :
      (frames ++ more).take count = frames.take count :=
    List.take_append_of_le_length (by omega)
  constructor
  · rintro ⟨_, valued, complete, first⟩
    rw [taken _ (Nat.le_refl _)] at valued complete
    refine ⟨before, valued, complete, ?_⟩
    intro count small
    have earlier := first count small
    rwa [taken _ (by omega)] at earlier
  · rintro ⟨_, valued, complete, first⟩
    refine ⟨by rw [List.length_append]; omega, ?_, ?_, ?_⟩
    · rwa [taken _ (Nat.le_refl _)]
    · rwa [taken _ (Nat.le_refl _)]
    · intro count small
      rw [taken _ (by omega)]
      exact first count small

theorem completes_append_singleton (frames : List Frame) (frame : Frame)
    (k : Nat) :
    Completes listener thresh org listenHits (frames ++ [frame]) k ↔
      Completes listener thresh org listenHits frames k ∨
        (k = frames.length ∧ Counting listener thresh org listenHits frames ∧
          (waitScore listener frame).isSome = true ∧
          silentRun listener thresh listenHits (frames ++ [frame]) = org) := by
  by_cases before : k < frames.length
  · have notLast : k ≠ frames.length := by omega
    rw [completes_append before]
    simp [notLast]
  · constructor
    · rintro ⟨inside, valued, complete, first⟩
      rw [List.length_append, List.length_singleton] at inside
      obtain rfl : k = frames.length := by omega
      rw [List.take_of_length_le (by simp)] at valued complete
      rw [List.forall_mem_append, List.forall_mem_singleton] at valued
      refine .inr ⟨rfl, ⟨valued.1, ?_⟩, valued.2, complete⟩
      intro count small
      have earlier := first count small
      rwa [List.take_append_of_le_length small] at earlier
    · rintro (⟨inside, _⟩ | ⟨rfl, ⟨valued, short⟩, last, complete⟩)
      · exact absurd inside before
      · refine ⟨by simp, ?_, ?_, ?_⟩
        · rw [List.take_of_length_le (by simp), List.forall_mem_append,
            List.forall_mem_singleton]
          exact ⟨valued, last⟩
        · rwa [List.take_of_length_le (by simp)]
        · intro count small
          rw [List.take_append_of_le_length small]
          exact short count small

theorem valued_of_judgeWaiting {frames : List Frame} {frame : Frame}
    {judged : Waiting × Bool}
    (success : judgeWaiting listener thresh org listenHits
      (counters listener thresh org listenHits frames) frame = some judged) :
    (waitScore listener frame).isSome = true := by
  unfold judgeWaiting at success
  rw [if_neg (by simp [counters])] at success
  change (waitScore listener frame).map _ = _ at success
  obtain ⟨value, valued, _⟩ := Option.map_eq_some_iff.mp success
  rw [valued]
  rfl

/-- A frame after frames none of which completed the silence. -/
theorem Counting.judgeWaiting_eq {frames : List Frame} {frame : Frame}
    (counting : Counting listener thresh org listenHits frames)
    (few : frames.length < 2 ^ 32 - 1) (bounded : org < 2 ^ 32)
    (valued : (waitScore listener frame).isSome = true) :
    judgeWaiting listener thresh org listenHits
        (counters listener thresh org listenHits frames) frame =
      some ({ counters listener thresh org listenHits (frames ++ [frame]) with
        countdown :=
          if silentRun listener thresh listenHits (frames ++ [frame]) = org
          then 25 else 0 }, false) := by
  obtain ⟨value, isValue⟩ := Option.isSome_iff_exists.mp valued
  have short := counting.short _ (Nat.le_refl _)
  rw [List.take_length] at short
  exact judgeWaiting_counters few short bounded isValue

/-- No run of silence skips the length that completes it. -/
theorem Counting.silentRun_le {frames : List Frame}
    (counting : Counting listener thresh org listenHits frames) (frame : Frame) :
    silentRun listener thresh listenHits (frames ++ [frame]) ≤ org := by
  have short := counting.short _ (Nat.le_refl _)
  rw [List.take_length] at short
  rw [silentRun_append_singleton]
  split <;> omega

/-- The counters where the last frame completes the silence. -/
theorem counters_complete {frames : List Frame} {frame : Frame}
    (complete : silentRun listener thresh listenHits (frames ++ [frame]) = org) :
    { counters listener thresh org listenHits (frames ++ [frame]) with
        countdown := 25 } =
      countingDown listener thresh (frames ++ [frame]) frames.length := by
  have whole : (frames ++ [frame]).take (frames.length + 1) = frames ++ [frame] :=
    List.take_of_length_le (by simp)
  simp only [countingDown, counters, complete, whole, Nat.sub_self,
    List.length_append, List.length_singleton, Waiting.mk.injEq, true_and]
  omega

/-- A frame of the countdown. -/
theorem judgeWaiting_countingDown {frames : List Frame} {frame : Frame} {k : Nat}
    (inside : k < frames.length) (soon : frames.length ≤ k + 25) :
    judgeWaiting listener thresh org listenHits
        (countingDown listener thresh frames k) frame =
      some (countingDown listener thresh (frames ++ [frame]) k,
        decide (frames.length = k + 25)) := by
  have running : (countingDown listener thresh frames k).countdown ≠ 0 := by
    unfold countingDown
    dsimp only
    omega
  have last : k + 26 - frames.length = 1 ↔ frames.length = k + 25 := by
    omega
  unfold judgeWaiting
  rw [if_pos running]
  unfold countingDown
  rw [List.take_append_of_le_length (by omega), List.length_append,
    List.length_singleton]
  simp only [last]
  congr 2

/-- The counters after frames that do not end the loop: the silence is not
complete, or it is and the countdown goes on. -/
theorem foldlM_judgeWaiting_iff (positive : 0 < org) (bounded : org < 2 ^ 32)
    (frames : List Frame) (few : frames.length < 2 ^ 32) {waiting : Waiting} :
    frames.foldlM (quietly (judgeWaiting listener thresh org listenHits))
        { listening := 0, silenceHits := org, countdown := 0 } = some waiting ↔
      (Counting listener thresh org listenHits frames ∧
        waiting = counters listener thresh org listenHits frames) ∨
      ∃ k, Completes listener thresh org listenHits frames k ∧
        frames.length ≤ k + 25 ∧
        waiting = countingDown listener thresh frames k := by
  induction frames using List.reverseRecOn generalizing waiting with
  | nil =>
      constructor
      · intro folded
        obtain rfl := Option.some.inj folded
        refine .inl ⟨⟨by simp, ?_⟩, rfl⟩
        intro count _
        rw [List.take_nil]
        exact positive
      · rintro (⟨_, rfl⟩ | ⟨k, completes, _⟩)
        · rfl
        · exact absurd completes.inside (Nat.not_lt_zero k)
  | append_singleton frames frame ih =>
      rw [List.length_append, List.length_singleton] at few
      replace ih := @ih (by omega)
      rw [foldlM_append_singleton_eq_some_iff, List.length_append,
        List.length_singleton, counting_append_singleton]
      constructor
      · rintro ⟨middle, folded, judged⟩
        rw [quietly_eq_some_iff] at judged
        rcases ih.mp folded with ⟨counting, rfl⟩ | ⟨k, completes, soon, rfl⟩
        · have valued := valued_of_judgeWaiting judged
          rw [counting.judgeWaiting_eq (by omega) bounded valued] at judged
          obtain ⟨rfl, _⟩ := Prod.mk.inj (Option.some.inj judged)
          by_cases complete : silentRun listener thresh listenHits
              (frames ++ [frame]) = org
          · refine .inr ⟨frames.length, ?_, by omega, ?_⟩
            · exact (completes_append_singleton frames frame _).mpr
                (.inr ⟨rfl, counting, valued, complete⟩)
            · rw [if_pos complete, counters_complete complete]
          · have atMost := counting.silentRun_le frame
            rw [if_neg complete]
            exact .inl ⟨⟨counting, valued, by omega⟩, rfl⟩
        · rw [judgeWaiting_countingDown completes.inside soon] at judged
          obtain ⟨rfl, notLast⟩ := Prod.mk.inj (Option.some.inj judged)
          have before := of_decide_eq_false notLast
          exact .inr ⟨k, (completes_append_singleton frames frame k).mpr
            (.inl completes), by omega, rfl⟩
      · rintro (⟨⟨counting, valued, short⟩, rfl⟩ | ⟨k, completes, soon, rfl⟩)
        · refine ⟨_, ih.mpr (.inl ⟨counting, rfl⟩), ?_⟩
          rw [quietly_eq_some_iff,
            counting.judgeWaiting_eq (by omega) bounded valued, if_neg (by omega)]
          rfl
        · rcases (completes_append_singleton frames frame k).mp completes with
            earlier | ⟨rfl, counting, valued, complete⟩
          · refine ⟨_, ih.mpr (.inr ⟨k, earlier, by omega, rfl⟩), ?_⟩
            rw [quietly_eq_some_iff,
              judgeWaiting_countingDown earlier.inside (by omega),
              decide_eq_false (by omega)]
          · refine ⟨_, ih.mpr (.inl ⟨counting, rfl⟩), ?_⟩
            rw [quietly_eq_some_iff,
              counting.judgeWaiting_eq (by omega) bounded valued, if_pos complete,
              counters_complete complete]

/-- The loop ends at the last frame of the countdown. -/
theorem judgeWaiting_done_iff (positive : 0 < org) (bounded : org < 2 ^ 32)
    (frames : List Frame) (frame : Frame) (few : frames.length < 2 ^ 32 - 1)
    {final : Waiting} :
    (∃ waiting, frames.foldlM
          (quietly (judgeWaiting listener thresh org listenHits))
          { listening := 0, silenceHits := org, countdown := 0 } = some waiting ∧
        judgeWaiting listener thresh org listenHits waiting frame =
          some (final, true)) ↔
      ∃ k, frames.length = k + 25 ∧
        Completes listener thresh org listenHits frames k ∧
        final = countingDown listener thresh (frames ++ [frame]) k := by
  constructor
  · rintro ⟨waiting, folded, judged⟩
    rcases (foldlM_judgeWaiting_iff positive bounded frames (by omega)).mp folded
      with ⟨counting, rfl⟩ | ⟨k, completes, soon, rfl⟩
    · have valued := valued_of_judgeWaiting judged
      rw [counting.judgeWaiting_eq few bounded valued] at judged
      cases (Prod.mk.inj (Option.some.inj judged)).2
    · rw [judgeWaiting_countingDown completes.inside soon] at judged
      obtain ⟨rfl, isLast⟩ := Prod.mk.inj (Option.some.inj judged)
      exact ⟨k, of_decide_eq_true isLast, completes, rfl⟩
  · rintro ⟨k, length, completes, rfl⟩
    refine ⟨_, (foldlM_judgeWaiting_iff positive bounded frames (by omega)).mpr
      (.inr ⟨k, completes, by omega, rfl⟩), ?_⟩
    rw [judgeWaiting_countingDown completes.inside (by omega),
      decide_eq_true length]

/-- The same by the position of the frame. -/
theorem judgeWaiting_done_at_iff (positive : 0 < org) (bounded : org < 2 ^ 32)
    {turns : List Turn} {turn : Turn} {n : Nat} (few : turns.length < 2 ^ 32)
    (found : turns[n]? = some turn) {final : Waiting} :
    (∃ waiting, ((turns.take n).map Turn.frame).foldlM
          (quietly (judgeWaiting listener thresh org listenHits))
          { listening := 0, silenceHits := org, countdown := 0 } = some waiting ∧
        judgeWaiting listener thresh org listenHits waiting turn.frame =
          some (final, true)) ↔
      ∃ k, n = k + 25 ∧
        Completes listener thresh org listenHits (turns.map Turn.frame) k ∧
        final = {
          listening :=
            ((turns.map Turn.frame).take (k + 1)).countP (isLoud listener thresh)
          silenceHits := 0
          countdown := 0 } := by
  obtain ⟨inside, rfl⟩ := List.getElem?_eq_some_iff.mp found
  have length : ((turns.take n).map Turn.frame).length = n := by
    rw [List.length_map, List.length_take]
    omega
  rw [judgeWaiting_done_iff positive bounded _ _ (by omega), length]
  apply exists_congr
  intro k
  apply and_congr_right
  rintro rfl
  have frames : turns.map Turn.frame =
      (turns.take (k + 25)).map Turn.frame ++
        (turns.drop (k + 25)).map Turn.frame := by
    rw [← List.map_append, List.take_append_drop]
  rw [frames, completes_append (by omega), List.take_append_of_le_length (by omega)]
  unfold countingDown
  rw [List.take_append_of_le_length (by omega), List.length_append, length]
  simp

end Waiting

section Results

variable {listener : Listener} {thresh needed : Nat} {count : Int}
  {turns : List Turn} {n : Nat} {last : Status}

theorem firstRun_iff {hit : Nat → Bool} :
    FirstRun listener hit needed count turns n ↔
      n < turns.length ∧
        (∀ turn ∈ turns.take (n + 1), turn.Passes listener ∧
          scored listener turn.frame = true) ∧
        listener.InTime count (n + 1) ∧
        needed < trailingRun (isHit listener hit)
          ((turns.map Turn.frame).take (n + 1)) ∧
        ∀ earlier ≤ n, trailingRun (isHit listener hit)
          ((turns.map Turn.frame).take earlier) ≤ needed := by
  have run (frames : List Frame) : EndsRun listener hit needed frames ↔
      needed < trailingRun (isHit listener hit) frames :=
    (le_trailingRun_iff frames).symm
  constructor
  · rintro ⟨inside, passes, inTime, ends, first⟩
    refine ⟨inside, passes, inTime, (run _).mp ends, ?_⟩
    intro earlier before
    have notYet := first earlier before
    rw [run] at notYet
    omega
  · rintro ⟨inside, passes, inTime, ends, first⟩
    refine ⟨inside, passes, inTime, (run _).mpr ends, ?_⟩
    intro earlier before
    have atMost := first earlier before
    rw [run]
    omega

theorem listen_judgeHits_firstRun_iff {hit : Nat → Bool} {final : Nat}
    (low : 0 ≤ count) (high : count < 2 ^ 31)
    (packet : listener.samplesPerPacket ≤ 2 ^ 31)
    (bounded : needed < 2 ^ 32 - 1) :
    listen listener (judgeHits listener hit needed) turns 0 count 0 .failure =
        .ended .detected last n final ↔
      FirstRun listener hit needed count turns n ∧
        (turns[n]?).map (Turn.statusAfter listener) = some last ∧
        final = needed + 1 := by
  rw [listen_judgeHits_iff low high packet bounded, firstRun_iff]
  constructor
  · rintro ⟨⟨turn, found, rfl⟩, passes, inTime, ends, first, rfl⟩
    obtain ⟨inside, _⟩ := List.getElem?_eq_some_iff.mp found
    exact ⟨⟨inside, passes, inTime, ends, first⟩, by rw [found]; rfl, rfl⟩
  · rintro ⟨⟨_, passes, inTime, ends, first⟩, found, rfl⟩
    obtain ⟨turn, isTurn, rfl⟩ := Option.map_eq_some_iff.mp found
    exact ⟨⟨turn, isTurn, rfl⟩, passes, inTime, ends, first, rfl⟩

/-- The samples of a time limit that fits. -/
def Listener.limit (listener : Listener) (timeoutMs : Nat) : Nat :=
  listener.samplesPerSecond / 1000 * timeoutMs

theorem sampleCount_eq {timeoutMs : Nat}
    (short : listener.limit timeoutMs < 2 ^ 31) :
    listener.sampleCount timeoutMs = (listener.limit timeoutMs : Int) := by
  unfold Listener.sampleCount
  unfold Listener.limit at short ⊢
  rw [Nat.mod_eq_of_lt (by omega)]
  exact toInt32_eq (by omega) (by omega)

/-- `switch_ivr_detect_audio` and `switch_ivr_detect_silence` report what they
look for exactly at the first frame that ends a run of more than the given number
of loud, respectively silent, frames, provided the channel, the reading and the
file did well up to it and the samples of the time limit were not used up. -/
theorem detects_first_run {final timeoutMs : Nat}
    (short : listener.limit timeoutMs < 2 ^ 31)
    (packet : listener.samplesPerPacket ≤ 2 ^ 31)
    (bounded : needed < 2 ^ 32 - 1) :
    (switchIvrDetectAudio listener thresh needed timeoutMs turns =
        .ended .detected last n final ↔
      FirstRun listener (fun value => decide (thresh ≤ value)) needed
          (listener.limit timeoutMs) turns n ∧
        (turns[n]?).map (Turn.statusAfter listener) = some last ∧
        final = needed + 1) ∧
    (switchIvrDetectSilence listener thresh needed timeoutMs turns =
        .ended .detected last n final ↔
      FirstRun listener (fun value => decide (value ≤ thresh)) needed
          (listener.limit timeoutMs) turns n ∧
        (turns[n]?).map (Turn.statusAfter listener) = some last ∧
        final = needed + 1) := by
  unfold switchIvrDetectAudio switchIvrDetectSilence
  rw [sampleCount_eq short]
  constructor <;>
    exact listen_judgeHits_firstRun_iff (by omega) (by omega) packet bounded

/-- A frame of two samples with the same energy. -/
def plainTurn (level : Int) : Turn where
  ready := true
  status := .success
  frame := { seq := 1, samples := 2, data := [level, level, level] }
  fileRead := false
  writeStatus := .failure

/-- One channel at 8000 samples per second, without a file. -/
def plainListener : Listener where
  samplesPerSecond := 8000
  samplesPerPacket := 160
  channels := 1
  withFile := false

theorem detects_two_loud_frames :
    switchIvrDetectAudio plainListener 100 1 0
        ([500, 0, 500, 500, 0].map plainTurn) =
      .ended .detected .success 3 2 := by
  have detected := (@detects_first_run plainListener 100 1
    ([500, 0, 500, 500, 0].map plainTurn) 3 .success 2 0 (by decide) (by decide)
    (by decide)).1
  apply detected.mpr
  refine ⟨firstRun_iff.mpr ⟨by decide, ?_, .inl rfl, by decide, by decide⟩, rfl,
    rfl⟩
  have passes : ∀ turn ∈ ([500, 0, 500, 500, 0].map plainTurn).take 4,
      (turn.ready = true ∧ turn.status.acceptable = true) ∧
        scored plainListener turn.frame = true := by
    decide
  intro turn member
  obtain ⟨⟨ready, readable⟩, isScored⟩ := passes turn member
  exact ⟨⟨ready, readable, nofun⟩, isScored⟩

/-- `switch_ivr_wait_for_silence` reports the silence exactly 25 frames after the
first frame that completes it: the last of the given number of frames in a row
below the threshold, each of which came after more loud frames than
`listen_hits`.  Nothing may go wrong up to the end of the 25 frames, and they
count for the time limit; what is heard in them is not looked at. -/
theorem waits_for_first_silence {silenceHits listenHits timeoutMs : Nat}
    {final : Waiting} (short : listener.limit timeoutMs < 2 ^ 31)
    (packet : listener.samplesPerPacket ≤ 2 ^ 31) (positive : 0 < silenceHits)
    (bounded : silenceHits < 2 ^ 32) (few : turns.length < 2 ^ 32) :
    switchIvrWaitForSilence listener thresh silenceHits listenHits timeoutMs
        turns = .ended .detected last n final ↔
      ∃ k, n = k + 25 ∧
        Completes listener thresh silenceHits listenHits (turns.map Turn.frame) k ∧
        (turns[n]?).map (Turn.statusAfter listener) = some last ∧
        (∀ turn ∈ turns.take (n + 1), turn.Passes listener) ∧
        listener.InTime (listener.limit timeoutMs) (n + 1) ∧
        final = {
          listening :=
            ((turns.map Turn.frame).take (k + 1)).countP (isLoud listener thresh)
          silenceHits := 0
          countdown := 0 } := by
  unfold switchIvrWaitForSilence
  rw [sampleCount_eq short, listen_detected_at_iff (by omega) (by omega) packet]
  constructor
  · rintro ⟨turn, found, rfl, allPass, inTime, judged⟩
    obtain ⟨k, atEnd, completes, rfl⟩ :=
      (judgeWaiting_done_at_iff positive bounded few found).mp judged
    exact ⟨k, atEnd, completes, by rw [found]; rfl, allPass, inTime, rfl⟩
  · rintro ⟨k, atEnd, completes, found, allPass, inTime, rfl⟩
    obtain ⟨turn, isTurn, rfl⟩ := Option.map_eq_some_iff.mp found
    exact ⟨turn, isTurn, rfl, allPass, inTime,
      (judgeWaiting_done_at_iff positive bounded few isTurn).mpr
        ⟨k, atEnd, completes, rfl⟩⟩

theorem waits_for_two_silent_frames :
    switchIvrWaitForSilence plainListener 100 2 0 0
        ((0 :: 0 :: List.replicate 25 900).map plainTurn) =
      .ended .detected .success 26
        { listening := 0, silenceHits := 0, countdown := 0 } := by
  have waits := @waits_for_first_silence plainListener 100
    ((0 :: 0 :: List.replicate 25 900).map plainTurn) 26 .success 2 0 0
    { listening := 0, silenceHits := 0, countdown := 0 } (by decide) (by decide)
    (by decide) (by decide) (by decide)
  apply waits.mpr
  refine ⟨1, rfl, ⟨by decide, by decide, by decide, by decide⟩, rfl, ?_, .inl rfl,
    by decide⟩
  have passes : ∀ turn ∈ ((0 :: 0 :: List.replicate 25 900).map plainTurn).take 27,
      turn.ready = true ∧ turn.status.acceptable = true := by
    decide
  intro turn member
  obtain ⟨ready, readable⟩ := passes turn member
  exact ⟨ready, readable, nofun⟩

end Results

end AudioDetection

end SpeechModules
