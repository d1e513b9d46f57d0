import SpeechModules.RnnoiseEnding

/-!
# The end of speech comes after the audio

Both sender threads, that of `mod_funasr` and that of `rnnoise_server`, test for
the end of speech before they read from the queue.  What is in the queue at that
moment is not sent any more.
-/

namespace SpeechModules

open StepSystem

theorem endOfSpeech_fails :
    (¬ ∀ (config : FunAsr.Config) (observed : FunAsr.State × FunAsr.EndLog),
      Reach (watched (FunAsr.State.step config) FunAsr.noteEnd)
          (FunAsr.State.initial 0, FunAsr.EndLog.initial) observed →
        FunAsr.EndsAfterAudio config observed) ∧
    ¬ ∀ (config : Rnnoise.Config) (observed : Rnnoise.State × Rnnoise.EndLog),
      Reach (watched (Rnnoise.State.step config) Rnnoise.noteEnd)
          (Rnnoise.State.initial 0, Rnnoise.EndLog.initial) observed →
        Rnnoise.EndsAfterAudio observed := by
  constructor
  · intro always
    obtain ⟨observed, reached, fails⟩ := FunAsr.endsAfterAudio_abandoned
    exact fails (always _ observed reached)
  · intro always
    obtain ⟨observed, reached, fails⟩ := Rnnoise.endsAfterAudio_abandoned
    exact fails (always _ observed reached)

/-- In every run in which a thread leaves its loop for the end of speech only
with the queue drained, the end of speech comes after the audio. -/
theorem endOfSpeech_of_drained (now : Nat) :
    (∀ (config : FunAsr.Config) (observed : FunAsr.State × FunAsr.EndLog),
      PermittedReach (watched (FunAsr.State.step config) FunAsr.noteEnd)
          (fun observed action => FunAsr.drained observed action = true)
          (FunAsr.State.initial now, FunAsr.EndLog.initial) observed →
        FunAsr.EndsAfterAudio config observed) ∧
    ∀ (config : Rnnoise.Config) (observed : Rnnoise.State × Rnnoise.EndLog),
      PermittedReach (watched (Rnnoise.State.step config) Rnnoise.noteEnd)
          (fun observed action =>
            Rnnoise.drained config observed action = true)
          (Rnnoise.State.initial now, Rnnoise.EndLog.initial) observed →
        Rnnoise.EndsAfterAudio observed := by
  constructor
  · intro config observed reached
    exact FunAsr.endsAfterAudio_drained config now reached
  · intro config observed reached
    exact Rnnoise.endsAfterAudio_drained config now reached

/-- A block is sent, half a block is left in the queue, and the call is hung
up. -/
def FunAsr.drainedSchedule : List FunAsr.Action :=
  startSchedule ++ connectSchedule 0 ++ frameSchedule (List.replicate 320 1) ++
    threadSchedule 0 4 ++ frameSchedule (List.replicate 160 2) ++
    closeSchedule ++ threadSchedule 0 2

/-- A frame is sent before the client ends its speech. -/
def Rnnoise.drainedSchedule : List Rnnoise.Action :=
  initSchedule ++ connectSchedule 0 ++ frameSchedule (List.replicate 320 1) ++
    threadSchedule 0 5 ++ endSchedule ++ threadSchedule 0 6

theorem endOfSpeech_drainedSchedules :
    (∃ observed,
      PermittedReach (watched (FunAsr.State.step .retryOnce) FunAsr.noteEnd)
          (fun observed action => FunAsr.drained observed action = true)
          (FunAsr.State.initial 0, FunAsr.EndLog.initial) observed ∧
        (observed.2.left == [(0, 480)] &&
          observed.1.threads.any fun sender => sender.pc == .sendEnd) = true ∧
        FunAsr.EndsAfterAudio .retryOnce observed) ∧
    ∃ observed,
      PermittedReach (watched (Rnnoise.State.step .telephone) Rnnoise.noteEnd)
          (fun observed action =>
            Rnnoise.drained .telephone observed action = true)
          (Rnnoise.State.initial 0, Rnnoise.EndLog.initial) observed ∧
        (observed.2.left == [(0, 320)] &&
          observed.1.threads.any fun sender => sender.pc == .sendEnd) = true ∧
        Rnnoise.EndsAfterAudio observed := by
  constructor
  · obtain ⟨observed, reached, passed⟩ :=
      exists_permittedReach_of_replay
        (watched (FunAsr.State.step .retryOnce) FunAsr.noteEnd)
        (FunAsr.State.initial 0, FunAsr.EndLog.initial) FunAsr.drainedSchedule
        (fun observed => observed.2.left == [(0, 480)] &&
          observed.1.threads.any fun sender => sender.pc == .sendEnd)
        (fun observed action => FunAsr.drained observed action = true)
        (by decide +kernel)
    exact ⟨observed, reached, passed,
      (endOfSpeech_of_drained 0).1 .retryOnce observed reached⟩
  · obtain ⟨observed, reached, passed⟩ :=
      exists_permittedReach_of_replay
        (watched (Rnnoise.State.step .telephone) Rnnoise.noteEnd)
        (Rnnoise.State.initial 0, Rnnoise.EndLog.initial)
        Rnnoise.drainedSchedule
        (fun observed => observed.2.left == [(0, 320)] &&
          observed.1.threads.any fun sender => sender.pc == .sendEnd)
        (fun observed action =>
          Rnnoise.drained .telephone observed action = true)
        (by decide +kernel)
    exact ⟨observed, reached, passed,
      (endOfSpeech_of_drained 0).2 .telephone observed reached⟩

end SpeechModules
