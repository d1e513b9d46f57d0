import SpeechModules.AliyunTtsSenders

/-!
# The audio of one speech handle

The server sends a header packet before the audio of each synthesis.  The
binary callback recognises it by `audio_data_available = 0` and keeps it out of
`audio_buffer`.  The same flag is cleared by `send_tts_request` before the
message leaves, and by `aliyuntts_speech_read_tts` when a read finds the buffer
empty, so a packet in the middle of a synthesis can be taken for a header.

This file states what the flag is for, exhibits a run in which an underrun
costs a packet, and proves that nothing is lost while the flag is not disturbed.
-/

namespace SpeechModules

namespace AliyunTts

open StepSystem

/-! ## Headers and audio -/

/-- The binary messages sorted into header packets and audio, and whether the
last StartSynthesis still waits for its header. -/
structure Sorted where
  awaiting : Bool
  headers : List Bytes
  audio : List Bytes

def Sorted.add (sorted : Sorted) : Arrival → Sorted
  | .start => { sorted with awaiting := true }
  | .packet message =>
      if sorted.awaiting then
        { sorted with
          awaiting := false, headers := sorted.headers ++ [message] }
      else { sorted with audio := sorted.audio ++ [message] }

/-- The first binary message after a StartSynthesis is its header, all others
are audio. -/
def sortArrivals (arrivals : List Arrival) : Sorted :=
  arrivals.foldl Sorted.add ⟨false, [], []⟩

@[simp]
theorem sortArrivals_append_start (arrivals : List Arrival) :
    sortArrivals (arrivals ++ [.start]) =
      { sortArrivals arrivals with awaiting := true } := by
  simp [sortArrivals, Sorted.add]

theorem sortArrivals_append_header {arrivals : List Arrival}
    (awaiting : (sortArrivals arrivals).awaiting = true) (message : Bytes) :
    sortArrivals (arrivals ++ [.packet message]) =
      { sortArrivals arrivals with
        awaiting := false
        headers := (sortArrivals arrivals).headers ++ [message] } := by
  simp only [sortArrivals] at awaiting
  simp [sortArrivals, Sorted.add, awaiting]

theorem sortArrivals_append_audio {arrivals : List Arrival}
    (notAwaiting : (sortArrivals arrivals).awaiting = false)
    (message : Bytes) :
    sortArrivals (arrivals ++ [.packet message]) =
      { sortArrivals arrivals with
        audio := (sortArrivals arrivals).audio ++ [message] } := by
  simp only [sortArrivals] at notAwaiting
  simp [sortArrivals, Sorted.add, notAwaiting]

/-- The header packets have been withheld, and the bytes returned by reads
followed by those in the buffer are the audio. -/
def Stored (state : State) (sorted : Sorted) : Prop :=
  state.history.withheld = sorted.headers ∧
    state.history.returned ++ state.pvt.audioBuffer = sorted.audio.flatten

/-- The event loop has received a packet and not yet dealt with it. -/
def NetPc.holdsPacket : NetPc → Bool
  | .packetLoad _ => true
  | .packetWrite _ => true
  | _ => false

/-- Exactly the header packets are withheld and no audio is lost, whenever the
event loop is not holding a packet. -/
def AudioIntact (state : State) : Prop :=
  state.net.holdsPacket = false →
    Stored state (sortArrivals state.history.arrivals)

/-- A sender that has cleared `audio_data_available` for a message it has not
sent yet. -/
def SendPc.resetting : SendPc → Bool
  | .storeInProgress => true
  | .storeRequestTime => true
  | .prepare => true
  | .send => true
  | .clearInProgress => true
  | _ => false

def State.resetting (state : State) : Bool :=
  state.senders.any fun sender => sender.any SendPc.resetting

/-- The event loop is between receiving a packet and its store to
`audio_data_available`. -/
def NetPc.inPacket : NetPc → Bool
  | .packetLoad _ => true
  | .packetWrite _ => true
  | .packetStoreAvailable => true
  | _ => false

/-- The event loop is about to decide whether a packet is a header. -/
def NetPc.decides : NetPc → Bool
  | .packetLoad _ => true
  | _ => false

/-- The step of a sender does not meet a packet, and hands its message over
unless the connection is ending. -/
def SendPc.undisturbed (state : State) (choice : SendChoice) (pc : SendPc) :
    Bool :=
  (pc != .storeAvailable || !state.net.inPacket) &&
    (pc != .prepare || choice != .emptyRequest || state.pvt.ws.ending) &&
    (pc != .send || choice == .handed || state.pvt.ws.ending)

/-- The side condition of undisturbed runs, on the state before a step: the
buffer is not flushed, a sender clears the flag outside of packets and then
sends, no packet comes before the first request, between a sender's reset and
its message, or after an underrun of its synthesis, and no read clears the flag
under a packet that is being looked at. -/
def undisturbed (state : State) : Action → Bool
  | .flush => false
  | .procStep choice =>
      state.proc.pc.sender?.all fun pc => pc.undisturbed state choice
  | .feedStep index choice =>
      state.feeds[index]?.all fun feed =>
        feed.pc.sender?.all fun pc => pc.undisturbed state choice
  | .netStart (.binary _) =>
      !state.resetting && !state.history.underrun &&
        !state.history.sent.isEmpty
  | .readStep =>
      state.reader.pc != .stopAvailable || !state.net.decides
  | _ => true

theorem undisturbed_procStep (state : State) (choice : SendChoice) :
    undisturbed state (.procStep choice) =
      state.proc.pc.sender?.all fun pc => pc.undisturbed state choice :=
  rfl

theorem undisturbed_feedStep (state : State) (index : Nat)
    (choice : SendChoice) :
    undisturbed state (.feedStep index choice) =
      state.feeds[index]?.all fun feed =>
        feed.pc.sender?.all fun pc => pc.undisturbed state choice :=
  rfl

theorem undisturbed_binary (state : State) (message : List UInt8) :
    undisturbed state (.netStart (.binary message)) =
      (!state.resetting && !state.history.underrun &&
        !state.history.sent.isEmpty) :=
  rfl

theorem undisturbed_readStep (state : State) :
    undisturbed state .readStep =
      (state.reader.pc != .stopAvailable || !state.net.decides) :=
  rfl

/-! ## The invariant -/

/-- What has been stored, depending on where the event loop stands with the
last packet. -/
def PacketStored (state : State) : NetPc → Prop
  | .packetLoad message => ∃ earlier,
      state.history.arrivals = earlier ++ [.packet message] ∧
      Stored state (sortArrivals earlier) ∧
      state.pvt.audioDataAvailable = !(sortArrivals earlier).awaiting
  | .packetWrite message => ∃ earlier,
      state.history.arrivals = earlier ++ [.packet message] ∧
      Stored state (sortArrivals earlier) ∧
      (sortArrivals earlier).awaiting = false
  | .packetStoreAvailable =>
      Stored state (sortArrivals state.history.arrivals) ∧
      (sortArrivals state.history.arrivals).awaiting = false
  | _ => Stored state (sortArrivals state.history.arrivals)

/-- Between packets the flag tells whether a header is due, unless a sender has
reset it for a message that is about to leave. -/
def FlagRight (state : State) : Prop :=
  if state.resetting then state.pvt.audioDataAvailable = false
  else state.history.underrun = false → state.history.sent ≠ [] →
    state.pvt.audioDataAvailable =
      !(sortArrivals state.history.arrivals).awaiting

structure AudioRun (state : State) : Prop where
  stored : PacketStored state state.net
  apart : state.net.inPacket = true → state.resetting = false
  flag : state.net.inPacket = false → state.pvt.ws.ending = false →
    FlagRight state
  failing : ∀ index : Nat,
    state.senders[index]? = some (some .clearInProgress) →
    state.pvt.ws.ending = true

theorem AudioRun.intact {state : State} (run : AudioRun state) :
    AudioIntact state := by
  intro free
  have stored := run.stored
  cases here : state.net <;>
    simp only [here, NetPc.holdsPacket, Bool.true_eq_false] at free <;>
    simp only [here, PacketStored] at stored
  case packetStoreAvailable => exact stored.1
  all_goals exact stored

theorem AudioRun.initial (now : Nat) : AudioRun (State.initial now) where
  stored := by
    simp [State.initial, PacketStored, Stored, sortArrivals, History.initial,
      Pvt.initial]
  apart inPacket := by cases inPacket
  flag _ _ := by
    simp [FlagRight, State.initial, State.resetting, State.senders,
      ProcPc.sender?, History.initial]
  failing index found := by
    have := List.mem_of_getElem? found
    simp [State.initial, State.senders, ProcPc.sender?] at this

/-- A step that can only end the connection leaves a lasting one lasting. -/
theorem lasting_before {before after : Link}
    (ending : before.ending = true → after.ending = true)
    (lasting : after.ending = false) : before.ending = false := by
  by_contra finished
  rw [ending (by simpa using finished)] at lasting
  cases lasting

/-- A step that touches neither the audio fields nor the positions that matter
to them. -/
theorem AudioRun.of_frame {before after : State} (run : AudioRun before)
    (available : after.pvt.audioDataAvailable = before.pvt.audioDataAvailable)
    (buffer : after.pvt.audioBuffer = before.pvt.audioBuffer)
    (arrivals : after.history.arrivals = before.history.arrivals)
    (withheld : after.history.withheld = before.history.withheld)
    (returned : after.history.returned = before.history.returned)
    (underrun : after.history.underrun = before.history.underrun)
    (sent : after.history.sent = before.history.sent)
    (net : after.net = before.net)
    (ending : before.pvt.ws.ending = true → after.pvt.ws.ending = true)
    (resetting : after.resetting = before.resetting)
    (failing : ∀ index : Nat,
      after.senders[index]? = some (some .clearInProgress) →
      before.senders[index]? = some (some .clearInProgress)) :
    AudioRun after := by
  have storedSame (sorted : Sorted) :
      Stored before sorted → Stored after sorted := by
    rintro ⟨headers, audio⟩
    exact ⟨withheld.trans headers, by rw [returned, buffer, audio]⟩
  constructor
  · have stored := run.stored
    rw [net]
    cases here : before.net <;> simp only [here, PacketStored] at stored ⊢
    case packetLoad message =>
      obtain ⟨earlier, split, kept, flag⟩ := stored
      exact ⟨earlier, arrivals.trans split, storedSame _ kept,
        available.trans flag⟩
    case packetWrite message =>
      obtain ⟨earlier, split, kept, flag⟩ := stored
      exact ⟨earlier, arrivals.trans split, storedSame _ kept, flag⟩
    case packetStoreAvailable =>
      rw [arrivals]
      exact ⟨storedSame _ stored.1, stored.2⟩
    all_goals
      rw [arrivals]
      exact storedSame _ stored
  · intro inPacket
    rw [resetting]
    exact run.apart (net ▸ inPacket)
  · intro outside lasting
    have flag := run.flag (net ▸ outside) (lasting_before ending lasting)
    simpa only [FlagRight, resetting, available, underrun, sent, arrivals]
      using flag
  · intro index found
    exact ending (run.failing index (failing index found))

theorem resetting_of_sender {state : State} {index : Nat} {pc : SendPc}
    (found : state.senders[index]? = some (some pc))
    (inside : pc.resetting = true) : state.resetting = true :=
  any_of_getElem? found (by simpa using inside)

theorem NetPc.not_holdsPacket {net : NetPc} (outside : net.inPacket = false) :
    net.holdsPacket = false := by
  cases net <;> first | rfl | cases outside

/-- Outside of packets the stored data is all that matters of the event loop's
position. -/
theorem packetStored_of_stored {state : State} {net : NetPc}
    (outside : net.inPacket = false)
    (stored : Stored state (sortArrivals state.history.arrivals)) :
    PacketStored state net := by
  cases net <;> first | exact stored | cases outside

section SenderSteps

variable {before after : State} {choice : SendChoice} {position : Nat}
  {pc : SendPc} {next : SendNext} {text : Text} {direct : Bool}

/-- No packet is being looked at while a sender is inside its reset window. -/
theorem AudioRun.outside_of_resetting (run : AudioRun before)
    (found : before.senders[position]? = some (some pc))
    (inside : pc.resetting = true) : before.net.inPacket = false := by
  by_contra inPacket
  have free := run.apart (by simpa using inPacket)
  rw [resetting_of_sender found inside] at free
  cases free

/-- A sender comes to give up at that position only. -/
theorem AudioRun.failing_of_sender (run : AudioRun before)
    (step : SenderStep before after choice position pc next)
    (ordinary : next ≠ .goto .clearInProgress) (index : Nat)
    (located : after.senders[index]? = some (some .clearInProgress)) :
    after.pvt.ws.ending = true := by
  rw [step.link]
  rcases step.sender_cases located with ⟨_, here⟩ | ⟨_, other⟩
  · exact (ordinary here).elim
  · exact run.failing index other

/-- A step that neither enters nor leaves the reset window. -/
theorem AudioRun.of_steady_sender (run : AudioRun before)
    (step : SenderStep before after choice position pc next)
    (net : after.net = before.net)
    (history : after.history = before.history.noteSendNext direct text next)
    (unsent : next ≠ .handed) (ordinary : next ≠ .goto .clearInProgress)
    (same : next.sender?.any SendPc.resetting = pc.resetting)
    (available : after.pvt.audioDataAvailable =
      before.pvt.audioDataAvailable) : AudioRun after := by
  obtain ⟨_, noted⟩ := @History.noteSendNext_unsent before.history direct text
    next unsent
  rw [noted] at history
  refine run.of_frame available step.audioBuffer (by rw [history])
    (by rw [history]) (by rw [history]) (by rw [history]) (by rw [history]) net
    (fun done => step.link ▸ done) (step.any_eq same) ?_
  intro index located
  rcases step.sender_cases located with ⟨_, here⟩ | ⟨_, other⟩
  · exact (ordinary here).elim
  · exact other

/-- A step that gives the reset up while the connection is ending. -/
theorem AudioRun.of_ending_sender (run : AudioRun before)
    (step : SenderStep before after choice position pc next)
    (net : after.net = before.net)
    (history : after.history = before.history.noteSendNext direct text next)
    (unsent : next ≠ .handed) (inside : pc.resetting = true)
    (done : before.pvt.ws.ending = true) : AudioRun after := by
  obtain ⟨_, noted⟩ := @History.noteSendNext_unsent before.history direct text
    next unsent
  rw [noted] at history
  have outside := run.outside_of_resetting step.found inside
  have ended : after.pvt.ws.ending = true := step.link ▸ done
  have stored := run.intact (NetPc.not_holdsPacket outside)
  refine ⟨?_, ?_, ?_, fun _ _ => ended⟩
  · apply packetStored_of_stored (net ▸ outside)
    unfold Stored
    rw [history, step.audioBuffer]
    exact stored
  · intro inPacket
    rw [net, outside] at inPacket
    cases inPacket
  · intro _ lasting
    rw [ended] at lasting
    cases lasting

/-- The reset window opens. -/
theorem AudioRun.of_resetting_sender (run : AudioRun before)
    (step : SenderStep before after choice position .storeAvailable
      (.goto .storeInProgress))
    (net : after.net = before.net) (history : after.history = before.history)
    (cleared : after.pvt.audioDataAvailable = false)
    (outside : before.net.inPacket = false) : AudioRun after := by
  have opened : after.resetting = true := resetting_of_sender step.moved rfl
  have stored := run.intact (NetPc.not_holdsPacket outside)
  refine ⟨?_, ?_, ?_, run.failing_of_sender step (by simp)⟩
  · apply packetStored_of_stored (net ▸ outside)
    unfold Stored
    rw [history, step.audioBuffer]
    exact stored
  · intro inPacket
    rw [net, outside] at inPacket
    cases inPacket
  · intro _ _
    simp only [FlagRight, opened, if_true]
    exact cleared

/-- The window closes with the message that the reset was for. -/
theorem AudioRun.of_handed (run : AudioRun before)
    (step : SenderStep before after choice position .send .handed)
    (net : after.net = before.net)
    (history : after.history =
      before.history.noteSendNext direct text .handed) : AudioRun after := by
  obtain ⟨_, _, samePvt, _⟩ := sendTtsRequestStep_handed step.stepped
  have resetting := resetting_of_sender step.found
    (show SendPc.resetting .send = true from rfl)
  have outside := run.outside_of_resetting step.found rfl
  have noted : after.history.arrivals = before.history.arrivals ++ [.start] ∧
      after.history.withheld = before.history.withheld ∧
      after.history.returned = before.history.returned := by
    rw [history]
    cases direct <;> exact ⟨rfl, rfl, rfl⟩
  have stored := run.intact (NetPc.not_holdsPacket outside)
  refine ⟨?_, ?_, ?_, run.failing_of_sender step (by simp)⟩
  · apply packetStored_of_stored (net ▸ outside)
    unfold Stored
    rw [noted.1, noted.2.1, noted.2.2, step.audioBuffer,
      sortArrivals_append_start]
    exact stored
  · intro inPacket
    rw [net, outside] at inPacket
    cases inPacket
  · intro _ lasting
    have flag := run.flag outside (step.link ▸ lasting)
    simp only [FlagRight, resetting, if_true] at flag
    simp only [FlagRight, noted.1, sortArrivals_append_start, samePvt, flag,
      Bool.not_true, implies_true, ite_self]

/-- One step of any sender. -/
theorem AudioRun.of_sender (run : AudioRun before)
    (step : SenderStep before after choice position pc next)
    (net : after.net = before.net)
    (history : after.history = before.history.noteSendNext direct text next)
    (allowed : pc.undisturbed before choice = true) : AudioRun after := by
  have move := sendTtsRequestStep_moves step.stepped
  generalize written : after.pvt = shared at move
  cases move with
  | storeAvailable =>
      apply run.of_resetting_sender step net history (by rw [written])
      simpa [SendPc.undisturbed] using allowed
  | unprepared empty =>
      apply run.of_ending_sender step net history (by simp) rfl
      simpa [SendPc.undisturbed, empty] using allowed
  | handed => exact run.of_handed step net history
  | lost refused =>
      apply run.of_ending_sender step net history (by simp) rfl
      simpa [SendPc.undisturbed, refused] using allowed
  | thrown refused =>
      apply run.of_ending_sender step net history (by simp) rfl
      simpa [SendPc.undisturbed, refused] using allowed
  | clearInProgress =>
      exact run.of_ending_sender step net history (by simp) rfl
        (run.failing position step.found)
  | _ =>
      exact run.of_steady_sender step net history (by simp) (by simp) rfl
        (by rw [written])

end SenderSteps

section EventLoop

variable {before : State} {pvt : Pvt} {net : NetPc} {history : History}

/-- The event loop moving between positions that hold no packet. -/
theorem AudioRun.of_quiet_net (run : AudioRun before) (started : List Delayed)
    (outsideBefore : before.net.inPacket = false)
    (outside : net.inPacket = false)
    (available : pvt.audioDataAvailable = before.pvt.audioDataAvailable)
    (buffer : pvt.audioBuffer = before.pvt.audioBuffer)
    (ending : before.pvt.ws.ending = true → pvt.ws.ending = true)
    (same : history.arrivals = before.history.arrivals ∧
      history.withheld = before.history.withheld ∧
      history.returned = before.history.returned ∧
      history.underrun = before.history.underrun ∧
      history.sent = before.history.sent) :
    AudioRun { before with
      pvt := pvt, net := net, history := history,
      delayed := before.delayed ++ started } := by
  obtain ⟨arrivals, withheld, returned, underrun, sent⟩ := same
  have kept := run.intact (NetPc.not_holdsPacket outsideBefore)
  constructor
  · apply packetStored_of_stored outside
    simp only [arrivals]
    exact ⟨withheld.trans kept.1, by simp only [returned, buffer]; exact kept.2⟩
  · intro inPacket
    simp only [outside, Bool.false_eq_true] at inPacket
  · intro _ lasting
    have flag := run.flag outsideBefore (lasting_before ending lasting)
    simp only [FlagRight] at flag ⊢
    rw [available, underrun, sent, arrivals]
    exact flag
  · intro index found
    exact ending (run.failing index found)

theorem AudioRun.netStart {event : NetEvent} (run : AudioRun before)
    (idle : before.net = .idle)
    (permitted : undisturbed before (.netStart event) = true)
    (agent : callbackStart before.pvt before.history event =
      some (pvt, net, history)) :
    AudioRun { before with pvt := pvt, net := net, history := history } := by
  have outsideBefore : before.net.inPacket = false := by
    rw [idle]
    rfl
  have quiet := @AudioRun.of_quiet_net before pvt net history run []
    outsideBefore
  simp only [List.append_nil] at quiet
  cases event <;> simp only [callbackStart] at agent
  case opened =>
    split at agent
    next connecting =>
      cases agent
      exact quiet rfl rfl rfl (by simp [connecting, Link.ending])
        ⟨rfl, rfl, rfl, rfl, rfl⟩
    next => cases agent
  case closed =>
    split at agent
    · cases agent
    · cases agent
      exact quiet rfl rfl rfl (fun _ => rfl) ⟨rfl, rfl, rfl, rfl, rfl⟩
  case text document request =>
    split at agent
    · split at agent
      · cases agent
        exact quiet rfl rfl rfl id ⟨rfl, rfl, rfl, rfl, rfl⟩
      · cases agent
        refine quiet ?_ rfl rfl id ⟨rfl, rfl, rfl, rfl, rfl⟩
        simp only [textPc]
        split
        · rfl
        · split <;> rfl
    · cases agent
  case binary message =>
    split at agent
    next linkOpen =>
      -- the packet meets a flag that is right
      cases agent
      simp only [undisturbed_binary, Bool.and_eq_true, Bool.not_eq_true',
        List.isEmpty_eq_false_iff] at permitted
      obtain ⟨⟨free, undrained⟩, sent⟩ := permitted
      have kept := run.intact (NetPc.not_holdsPacket outsideBefore)
      have flag := run.flag outsideBefore (by simp [linkOpen, Link.ending])
      simp only [FlagRight, free, Bool.false_eq_true, if_false] at flag
      constructor
      · exact ⟨before.history.arrivals, rfl, kept, flag undrained sent⟩
      · intro _
        exact free
      · intro outside
        cases outside
      · intro index found
        exact run.failing index found
    next => cases agent

theorem AudioRun.netStep {started : Option Delayed} (run : AudioRun before)
    (agent : callbackStep before.clock before.pvt before.history before.net =
      some (pvt, net, history, started)) :
    AudioRun { before with
      pvt := pvt, net := net, history := history,
      delayed := before.delayed ++ started.toList } := by
  have link : pvt.ws = before.pvt.ws := by
    obtain ⟨⟨_, _, _, _, _, _, _, _, _, rfl⟩, _⟩ := callbackStep_writes agent
    rfl
  have failing (index : Nat)
      (found : before.senders[index]? = some (some .clearInProgress)) :
      pvt.ws.ending = true := link ▸ run.failing index found
  have stored := run.stored
  have apart := run.apart
  cases here : before.net <;> simp only [here, callbackStep] at agent
  case packetLoad message =>
    simp only [here, PacketStored] at stored
    obtain ⟨earlier, split, kept, flag⟩ := stored
    have free := apart (by rw [here]; rfl)
    split at agent
    next available =>
      cases agent
      rw [available] at flag
      refine ⟨⟨earlier, split, kept, by simpa using flag.symm⟩,
        fun _ => free, ?_, failing⟩
      intro outside
      cases outside
    next unavailable =>
      cases agent
      simp only [Bool.not_eq_true] at unavailable
      rw [unavailable] at flag
      have awaiting : (sortArrivals earlier).awaiting = true := by
        simpa using flag.symm
      refine ⟨⟨⟨?_, ?_⟩, ?_⟩, fun _ => free, ?_, failing⟩
      · simp [split, sortArrivals_append_header awaiting, kept.1]
      · simp only [split, sortArrivals_append_header awaiting]
        exact kept.2
      · simp [split, sortArrivals_append_header awaiting]
      · intro outside
        cases outside
  case packetWrite message =>
    simp only [here, PacketStored] at stored
    obtain ⟨earlier, split, kept, notAwaiting⟩ := stored
    have free := apart (by rw [here]; rfl)
    cases agent
    refine ⟨⟨⟨?_, ?_⟩, ?_⟩, fun _ => free, ?_, failing⟩
    · simp [split, sortArrivals_append_audio notAwaiting, kept.1]
    · simp [split, sortArrivals_append_audio notAwaiting, ← kept.2]
    · simp [split, sortArrivals_append_audio notAwaiting, notAwaiting]
    · intro outside
      cases outside
  case packetStoreAvailable =>
    simp only [here, PacketStored] at stored
    have free := apart (by rw [here]; rfl)
    cases agent
    refine ⟨stored.1, ?_, ?_, failing⟩
    · intro inPacket
      cases inPacket
    · intro _ _
      unfold FlagRight
      split
      next resetting => exact absurd (free.symm.trans resetting) (by simp)
      next =>
        intro _ _
        simp [stored.2]
  all_goals try split at agent
  all_goals first
    | (cases agent; done)
    | (cases agent
       exact run.of_quiet_net _ (by rw [here]; rfl) rfl rfl rfl id
         ⟨rfl, rfl, rfl, rfl, rfl⟩)

end EventLoop

section Reads

variable {before : State} {pvt : Pvt} {reader : Reader} {history : History}

/-- A read takes its bytes from the front of the buffer. -/
theorem bufferRead_conserves {reader' : Reader} {otherwise : ReadPc}
    (read : bufferRead before.pvt before.history reader' otherwise =
      (pvt, reader, history)) :
    (∃ buffer, pvt = { before.pvt with audioBuffer := buffer }) ∧
      (∃ returned, history = { before.history with returned := returned }) ∧
      history.returned ++ pvt.audioBuffer =
        before.history.returned ++ before.pvt.audioBuffer := by
  unfold bufferRead at read
  split at read
  · cases read
    exact ⟨⟨_, rfl⟩, ⟨_, rfl⟩, rfl⟩
  · cases read
    exact ⟨⟨_, rfl⟩, ⟨_, rfl⟩, by simp [List.append_assoc]⟩

/-- A step of `aliyuntts_speech_read_tts` moves bytes from the buffer to the
caller, and clears the flag at one place. -/
theorem speechReadTtsStep_conserves
    (agent : speechReadTtsStep before.clock before.pvt before.history
      before.reader = some (pvt, reader, history)) :
    history.returned ++ pvt.audioBuffer =
        before.history.returned ++ before.pvt.audioBuffer ∧
      ((pvt.audioDataAvailable = before.pvt.audioDataAvailable ∧
          history.underrun = before.history.underrun) ∨
        (before.reader.pc = .stopAvailable ∧
          pvt.audioDataAvailable = false ∧
          history.underrun =
            (before.history.underrun || before.pvt.audioDataAvailable))) := by
  have ofRead (reader' : Reader) (otherwise : ReadPc)
      (read : bufferRead before.pvt before.history reader' otherwise =
        (pvt, reader, history)) :
      history.returned ++ pvt.audioBuffer =
        before.history.returned ++ before.pvt.audioBuffer ∧
      ((pvt.audioDataAvailable = before.pvt.audioDataAvailable ∧
          history.underrun = before.history.underrun) ∨
        (before.reader.pc = .stopAvailable ∧
          pvt.audioDataAvailable = false ∧
          history.underrun =
            (before.history.underrun || before.pvt.audioDataAvailable))) := by
    obtain ⟨⟨_, rfl⟩, ⟨_, rfl⟩, conserved⟩ := bufferRead_conserves read
    exact ⟨conserved, .inl ⟨rfl, rfl⟩⟩
  cases here : before.reader.pc <;>
    simp only [speechReadTtsStep, here] at agent
  case stopAvailable =>
    cases agent
    exact ⟨rfl, .inr ⟨rfl, rfl, rfl⟩⟩
  all_goals try split at agent
  all_goals try split at agent
  all_goals first
    | exact here ▸ ofRead _ _ (Option.some.inj agent)
    | (cases agent; done)
    | (cases agent; exact ⟨rfl, .inl ⟨rfl, rfl⟩⟩)

theorem AudioRun.readStep (run : AudioRun before)
    (permitted : undisturbed before .readStep = true)
    (agent : speechReadTtsStep before.clock before.pvt before.history
      before.reader = some (pvt, reader, history)) :
    AudioRun { before with
      pvt := pvt, reader := reader, history := history } := by
  obtain ⟨conserved, cleared⟩ := speechReadTtsStep_conserves agent
  obtain ⟨⟨_, _, _, _, _, rfl⟩, _, _, _, rfl⟩ :=
    speechReadTtsStep_writes agent
  simp only at conserved cleared
  have storedSame (sorted : Sorted) (kept : Stored before sorted) :
      before.history.withheld = sorted.headers ∧ _ = sorted.audio.flatten :=
    ⟨kept.1, conserved.trans kept.2⟩
  have stored := run.stored
  constructor
  · cases here : before.net <;> simp only [here, PacketStored] at stored ⊢
    case packetLoad message =>
      obtain ⟨earlier, split, kept, flag⟩ := stored
      refine ⟨earlier, split, storedSame _ kept, ?_⟩
      rcases cleared with ⟨same, _⟩ | ⟨stop, _⟩
      · exact same.trans flag
      · simp [undisturbed_readStep, stop, here, NetPc.decides] at permitted
    case packetWrite message =>
      obtain ⟨earlier, split, kept, notAwaiting⟩ := stored
      exact ⟨earlier, split, storedSame _ kept, notAwaiting⟩
    case packetStoreAvailable => exact ⟨storedSame _ stored.1, stored.2⟩
    all_goals exact storedSame _ stored
  · exact run.apart
  · intro outside lasting
    have flag := run.flag outside lasting
    unfold FlagRight at flag ⊢
    change if before.resetting then _ else _
    rcases cleared with ⟨sameFlag, sameUnderrun⟩ | ⟨_, off, noted⟩
    · simp only [sameFlag, sameUnderrun]
      exact flag
    · -- clearing a flag that was set is noted as an underrun
      simp only [off, noted, Bool.or_eq_false_iff]
      split
      · trivial
      next free =>
        rw [if_neg free] at flag
        rintro ⟨undrained, unset⟩ sent
        exact unset ▸ flag undrained sent
  · exact run.failing

end Reads

section Steps

variable {before : State} {pvt : Pvt} {history : History}

theorem AudioRun.procStep {choice : SendChoice} {proc : Proc}
    (run : AudioRun before)
    (permitted : undisturbed before (.procStep choice) = true)
    (agent : processingThreadStep before.clock choice before.pvt
      before.history before.proc = some (pvt, proc, history)) :
    AudioRun { before with pvt := pvt, proc := proc, history := history } := by
  have here : before.senders[0]? = some before.proc.pc.sender? := rfl
  cases position : before.proc.pc.sender? with
  | some pc =>
      obtain ⟨next, text, sent, sender, _, noted⟩ :=
        processingThreadStep_sender position agent
      rw [position] at here
      refine run.of_sender ⟨here, sent, ?_⟩ rfl noted ?_
      · rw [senders_set_proc, sender]
      · simpa [undisturbed_procStep, position] using permitted
  | none =>
      obtain ⟨sender, available, _, rfl⟩ :=
        processingThreadStep_elsewhere position agent
      obtain ⟨_, _, _, _, _, ws, _, link, rfl⟩ :=
        processingThreadStep_writes agent
      rw [position] at here
      refine run.of_frame available rfl rfl rfl rfl rfl rfl rfl ?_ ?_ ?_
      · rcases link with same | shut
        · simp [same]
        · simp [shut, Link.ending]
      · simp only [State.resetting, senders_set_proc]
        apply any_set_of_eq here
        rcases sender with outside | entering
        · simp [outside]
        · simp [entering, SendPc.resetting]
      · intro index found
        rw [senders_set_proc] at found
        rcases senders_set_cases found with ⟨_, moved⟩ | ⟨_, other⟩
        · rcases sender with outside | entering
          · simp [outside] at moved
          · simp [entering] at moved
        · exact other

theorem AudioRun.feedStep {choice : SendChoice} {index : Nat}
    {feed feed' : Feed} (run : AudioRun before)
    (located : before.feeds[index]? = some feed)
    (permitted : undisturbed before (.feedStep index choice) = true)
    (agent : speechFeedTtsStep before.clock choice before.pvt before.history
      feed = some (pvt, feed', history)) :
    AudioRun { before with
      pvt := pvt, feeds := before.feeds.set index feed',
      history := history } := by
  have here : before.senders[index + 1]? = some feed.pc.sender? := by
    simp [State.senders, located]
  cases position : feed.pc.sender? with
  | some pc =>
      obtain ⟨next, sent, sender, noted⟩ :=
        speechFeedTtsStep_sender (FeedPc.eq_sending position) agent
      rw [position] at here
      refine run.of_sender ⟨here, sent, ?_⟩ rfl noted ?_
      · rw [senders_set_feed, sender]
      · simpa [undisturbed_feedStep, located, position] using permitted
  | none =>
      obtain ⟨sender, available, _, _, _, rfl⟩ :=
        speechFeedTtsStep_elsewhere position agent
      obtain ⟨_, _, _, _, _, rfl⟩ := speechFeedTtsStep_writes agent
      rw [position] at here
      refine run.of_frame available rfl rfl rfl rfl rfl rfl rfl id ?_ ?_
      · simp only [State.resetting, senders_set_feed]
        apply any_set_of_eq here
        rcases sender with outside | entering
        · simp [outside]
        · simp [entering, SendPc.resetting]
      · intro other found
        rw [senders_set_feed] at found
        rcases senders_set_cases found with ⟨_, moved⟩ | ⟨_, elsewhere⟩
        · rcases sender with outside | entering
          · simp [outside] at moved
          · simp [entering] at moved
        · exact elsewhere

theorem AudioRun.openStep {choice : OpenChoice} {proc : Proc}
    {opener : OpenPc} (run : AudioRun before)
    (waiting : before.opener ≠ .opened → BeforeOpened before)
    (agent : speechOpenStep before.clock choice before.pvt before.proc
      before.opener = some (pvt, proc, opener)) :
    AudioRun { before with pvt := pvt, proc := proc, opener := opener } := by
  have noSender : before.proc.pc.sender? = none := by
    rw [(waiting (speechOpenStep_unopened agent)).proc]
    rfl
  obtain ⟨ws, _, link, rfl, started⟩ := speechOpenStep_writes agent
  have sameSender : proc.pc.sender? = before.proc.pc.sender? := by
    rcases started with rfl | rfl
    · rfl
    · exact noSender.symm
  have senders (pvt : Pvt) : State.senders { before with
      pvt := pvt, proc := proc, opener := opener } = before.senders := by
    simp [State.senders, sameSender]
  refine run.of_frame rfl rfl rfl rfl rfl rfl rfl rfl ?_ ?_ ?_
  · rcases link with same | shut
    · simp [same]
    · simp [shut, Link.ending]
  · simp only [State.resetting, senders]
  · intro index found
    rwa [senders] at found

theorem AudioRun.closeStep {closer : ClosePc} (run : AudioRun before)
    (agent : speechCloseStep before.clock before.pvt before.history
      before.closer = some (pvt, closer, history)) :
    AudioRun { before with
      pvt := pvt, closer := closer, history := history } := by
  obtain ⟨⟨ws, _, link, _, rfl⟩, _, rfl⟩ := speechCloseStep_writes agent
  refine run.of_frame rfl rfl rfl rfl rfl rfl rfl rfl ?_ rfl fun _ => id
  rcases link with same | ⟨_, shut⟩
  · simp [same]
  · simp [shut, Link.ending]

theorem AudioRun.step {after : State} {action : Action}
    (run : AudioRun before)
    (waiting : before.opener ≠ .opened → BeforeOpened before)
    (permitted : undisturbed before action = true)
    (stepped : before.step action = some after) : AudioRun after := by
  cases step_moves stepped with
  | openStep agent => exact run.openStep waiting agent
  | procStep agent => exact run.procStep permitted agent
  | feedStart _ =>
      refine run.of_frame rfl rfl rfl rfl rfl rfl rfl rfl id ?_
        fun _ => senders_feedStart_getElem?
      simp [State.resetting, senders_feedStart]
  | feedStep located agent => exact run.feedStep located permitted agent
  | netStart idle _ agent => exact run.netStart idle permitted agent
  | netStep agent => exact run.netStep agent
  | delayedStep _ agent =>
      obtain ⟨_, _, _, rfl⟩ := delayedCompletionStep_writes agent
      exact run.of_frame rfl rfl rfl rfl rfl rfl rfl rfl id rfl fun _ => id
  | readStep agent => exact run.readStep permitted agent
  | closeStep agent => exact run.closeStep agent
  | flush => cases permitted
  | _ => exact run.of_frame rfl rfl rfl rfl rfl rfl rfl rfl id rfl fun _ => id

end Steps

end AliyunTts

end SpeechModules
