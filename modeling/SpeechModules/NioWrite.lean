import SpeechModules.StepSystem
import SpeechModules.WriteQueue
import Mathlib.Data.List.Infix

/-!
# Writing to a connection

`hio_write`, `nio_write` and `hio_close` of `libs/libhv/event/nio.c` on a stream
socket: a write goes to the kernel at once when nothing is queued, what the
kernel does not take is queued, and the event loop writes the queue out when the
socket is writable.  Any thread may write; the event loop drains and closes.
-/

namespace SpeechModules

namespace Nio

/-- `offset_buf_t`: bytes of which the first `offset` are written. -/
structure OffsetBuf where
  base : List UInt8
  offset : Nat
  deriving Inhabited, DecidableEq, Repr

/-- The bytes of a buffer still to be written. -/
def OffsetBuf.remaining (buf : OffsetBuf) : List UInt8 :=
  buf.base.drop buf.offset

/-- The fields of `hio_t` that writing and closing use, with the closings other
threads asked for and the bytes the kernel took so far. -/
structure Io where
  closed : Bool := false
  close : Bool := false
  error : Bool := false
  writeQueue : ArrayQueue OffsetBuf := .unallocated
  writeBufsize : Nat := 0
  maxWriteBufsize : Nat := 2 ^ 24
  watchesWrite : Bool := false
  closeTimer : Bool := false
  closeEvents : Nat := 0
  wire : List UInt8 := []

/-- The answer of the kernel to one `send`: it takes at most as many bytes as
it is given. -/
inductive SendResult
  | wrote (count : Nat)
  | again
  | failed
  deriving DecidableEq, Repr

/-- The bytes waiting in the write queue. -/
def Io.pending (io : Io) : List UInt8 :=
  io.writeQueue.toList.flatMap OffsetBuf.remaining

/-- The labels `write_error` and `disconnect` of `hio_write`. -/
def Io.refuse (io : Io) : Io × Int :=
  ({ io with closeEvents := io.closeEvents + 1 }, -1)

/-- The part of `hio_write` from the label `enqueue` on, after the kernel took
`nwrite` bytes. -/
def Io.enqueue (io : Io) (buf : List UInt8) (nwrite : Nat) : Io × Int :=
  if nwrite < buf.length then
    if io.maxWriteBufsize < io.writeBufsize + buf.length - nwrite then
      { io with error := true }.refuse
    else
      ({ io with
          writeQueue :=
            (if io.writeQueue.maxsize = 0 then ArrayQueue.init 4
              else io.writeQueue).pushBack ⟨buf.drop nwrite, 0⟩
          writeBufsize := io.writeBufsize + (buf.length - nwrite) },
        nwrite)
  else
    (io, nwrite)

/-- `hio_write`. -/
def hioWrite (io : Io) (buf : List UInt8) (sent : SendResult) : Io × Int :=
  if io.closed then
    (io, -1)
  else if io.writeQueue.empty then
    match sent with
    | .failed => { io with error := true }.refuse
    | .again => { io with watchesWrite := true }.enqueue buf 0
    | .wrote count =>
        let nwrite := min count buf.length
        if nwrite = 0 then
          io.refuse
        else
          let io := { io with wire := io.wire ++ buf.take nwrite }
          if nwrite = buf.length then
            (io, nwrite)
          else
            { io with watchesWrite := true }.enqueue buf nwrite
  else
    io.enqueue buf 0

/-- `hio_close` on the thread of the event loop. -/
def hioClose (io : Io) : Io :=
  if io.closed then
    io
  else if !io.writeQueue.empty && !io.error && !io.close then
    { io with close := true, closeTimer := true }
  else
    { io with
      closed := true
      watchesWrite := false
      writeQueue := .unallocated
      closeTimer := false }

/-- `nio_write`, with the answers of the kernel to its calls of `send`. -/
def nioWrite (io : Io) : List SendResult → Io
  | [] =>
      if io.writeQueue.empty && io.close then
        hioClose { io with close := false }
      else
        io
  | sent :: others =>
      match io.writeQueue.front with
      | none => if io.close then hioClose { io with close := false } else io
      | some buf =>
          match sent with
          | .again => io
          | .failed => hioClose { io with error := true }
          | .wrote count =>
              let nwrite := min count buf.remaining.length
              if nwrite = 0 then
                hioClose io
              else
                let io := { io with
                  writeQueue :=
                    io.writeQueue.setFront ⟨buf.base, buf.offset + nwrite⟩
                  writeBufsize := io.writeBufsize - nwrite
                  wire := io.wire ++ buf.remaining.take nwrite }
                if nwrite = buf.remaining.length then
                  match io.writeQueue.popFront with
                  | none => io
                  | some rest => nioWrite { io with writeQueue := rest } others
                else
                  io

/-- The writing half of `hio_handle_events`. -/
def hioHandleWrite (io : Io) (sent : List SendResult) : Io :=
  if io.watchesWrite then
    nioWrite
      (if io.writeQueue.empty then { io with watchesWrite := false } else io)
      sent
  else
    io

/-- What can happen to a connection. -/
inductive Action
  | write (buf : List UInt8) (sent : SendResult)
  | writable (sent : List SendResult)
  | close
  | closeEvent
  | closeTimeout
  | readError
  deriving DecidableEq, Repr

/-- One step of a connection. -/
def step (io : Io) : Action → Option Io
  | .write buf sent => some (hioWrite io buf sent).1
  | .writable sent => some (hioHandleWrite io sent)
  | .close => some (hioClose io)
  | .closeEvent =>
      if io.closeEvents = 0 then none
      else some (hioClose { io with closeEvents := io.closeEvents - 1 })
  | .closeTimeout =>
      if io.closeTimer then
        some (hioClose { io with error := true, closeTimer := false })
      else none
  | .readError => some (hioClose { io with error := true })

/-- The bytes a write puts into the connection: all of them if it succeeds,
else those the kernel took before it failed. -/
def entered (io : Io) (buf : List UInt8) (sent : SendResult) : List UInt8 :=
  if 0 ≤ (hioWrite io buf sent).2 then buf
  else (hioWrite io buf sent).1.wire.drop io.wire.length

/-- The bytes put into the connection so far, written up step by step. -/
def noteEntered (io : Io) : Action → List UInt8 → List UInt8
  | .write buf sent, log => log ++ entered io buf sent
  | _, log => log

section Writes

/-- What one `hio_write` does, with its return value: the front of the buffer
reaches the kernel at once, which is only possible when nothing is queued, and
the back is queued or refused. -/
inductive WriteMove (io : Io) (buf : List UInt8) : Io → Int → Prop
  | closed (isClosed : io.closed = true) : WriteMove io buf io (-1)
  | refused {front back : List UInt8} {error watches : Bool}
      (isOpen : io.closed = false) (split : buf = front ++ back)
      (direct : front = [] ∨ io.writeQueue.toList = [])
      (kept : io.watchesWrite = true → watches = true) :
      WriteMove io buf
        { io with
          error := error
          watchesWrite := watches
          wire := io.wire ++ front
          closeEvents := io.closeEvents + 1 } (-1)
  | sent {watches : Bool} (isOpen : io.closed = false)
      (direct : buf = [] ∨ io.writeQueue.toList = [])
      (kept : io.watchesWrite = true → watches = true) :
      WriteMove io buf
        { io with watchesWrite := watches, wire := io.wire ++ buf } buf.length
  | queued {front back : List UInt8} {watches : Bool}
      {queue : ArrayQueue OffsetBuf}
      (isOpen : io.closed = false) (split : buf = front ++ back)
      (direct : front = [] ∨ io.writeQueue.toList = []) (some : back ≠ [])
      (pushed : queue.toList = io.writeQueue.toList ++ [⟨back, 0⟩])
      (room : io.writeBufsize + back.length ≤ io.maxWriteBufsize)
      (watched : io.writeQueue.toList = [] → watches = true)
      (kept : io.watchesWrite = true → watches = true) :
      WriteMove io buf
        { io with
          watchesWrite := watches
          wire := io.wire ++ front
          writeQueue := queue
          writeBufsize := io.writeBufsize + back.length } front.length

variable {io : Io} {buf : List UInt8}

theorem empty_iff (queue : ArrayQueue OffsetBuf) :
    queue.empty = true ↔ queue.toList = [] := by
  rw [ArrayQueue.toList_eq_nil]
  simp [ArrayQueue.empty]

theorem allocated_toList (queue : ArrayQueue OffsetBuf) :
    (if queue.maxsize = 0 then ArrayQueue.init 4 else queue).toList =
      queue.toList := by
  split
  case isTrue none =>
      have inside := queue.inside
      simp only [ArrayQueue.maxsize] at none
      rw [ArrayQueue.toList_init, eq_comm, ArrayQueue.toList_eq_nil]
      omega
  case isFalse => rfl

/-- What is left of a write after the kernel took its front. -/
theorem enqueue_move {front back : List UInt8} {watches : Bool}
    (isOpen : io.closed = false) (split : buf = front ++ back)
    (direct : front = [] ∨ io.writeQueue.toList = [])
    (watched : io.writeQueue.toList = [] → watches = true)
    (kept : io.watchesWrite = true → watches = true) :
    WriteMove io buf
      (Io.enqueue { io with watchesWrite := watches, wire := io.wire ++ front }
        buf front.length).1
      (Io.enqueue { io with watchesWrite := watches, wire := io.wire ++ front }
        buf front.length).2 := by
  have length : buf.length = front.length + back.length := by
    rw [split, List.length_append]
  unfold Io.enqueue
  by_cases more : front.length < buf.length
  · have some : back ≠ [] := by
      apply List.ne_nil_of_length_pos
      omega
    have rest : buf.drop front.length = back := by
      rw [split, List.drop_left]
    rw [if_pos more]
    dsimp only
    by_cases exceeds : io.maxWriteBufsize < io.writeBufsize + buf.length - front.length
    · rw [if_pos exceeds]
      exact .refused isOpen split direct kept
    · rw [if_neg exceeds, rest, length, Nat.add_sub_cancel_left]
      apply WriteMove.queued isOpen split direct some _ (by omega) watched kept
      rw [ArrayQueue.toList_pushBack, allocated_toList]
  · have none : back = [] := by
      apply List.eq_nil_of_length_eq_zero
      omega
    subst none
    rw [List.append_nil] at split
    subst split
    rw [if_neg more]
    exact .sent isOpen direct kept

/-- Every `hio_write` is such a move. -/
theorem hioWrite_move (io : Io) (buf : List UInt8) (sent : SendResult) :
    WriteMove io buf (hioWrite io buf sent).1 (hioWrite io buf sent).2 := by
  unfold hioWrite
  by_cases isClosed : io.closed = true
  · rw [if_pos isClosed]
    exact .closed isClosed
  have isOpen : io.closed = false := by simpa using isClosed
  rw [if_neg isClosed]
  have unsent (error : Bool) :
      WriteMove io buf ({ io with error := error }.refuse).1
        ({ io with error := error }.refuse).2 := by
    have move := @WriteMove.refused io buf [] buf error io.watchesWrite
      isOpen rfl (.inl rfl) id
    rw [List.append_nil] at move
    exact move
  have untaken (watches : Bool)
      (watched : io.writeQueue.toList = [] → watches = true)
      (kept : io.watchesWrite = true → watches = true) :
      WriteMove io buf ({ io with watchesWrite := watches }.enqueue buf 0).1
        ({ io with watchesWrite := watches }.enqueue buf 0).2 := by
    have move := @enqueue_move io buf [] buf watches isOpen rfl (.inl rfl)
      watched kept
    rw [List.append_nil] at move
    exact move
  by_cases queued : io.writeQueue.empty = true
  · have none := (empty_iff _).mp queued
    rw [if_pos queued]
    cases sent with
    | failed => exact unsent true
    | again => exact untaken true (fun _ => rfl) (fun _ => rfl)
    | wrote count =>
        dsimp only
        by_cases zero : min count buf.length = 0
        · rw [if_pos zero]
          exact unsent io.error
        · rw [if_neg zero]
          by_cases all : min count buf.length = buf.length
          · rw [if_pos all, all, List.take_length]
            exact @WriteMove.sent io buf io.watchesWrite isOpen (.inr none) id
          · rw [if_neg all]
            have front : (buf.take (min count buf.length)).length =
                min count buf.length := by
              rw [List.length_take]
              omega
            have move := @enqueue_move io buf (buf.take (min count buf.length))
              (buf.drop (min count buf.length)) true isOpen
              (List.take_append_drop _ _).symm (.inr none)
              (fun _ => rfl) (fun _ => rfl)
            rw [front] at move
            exact move
  · rw [if_neg queued]
    apply untaken io.watchesWrite _ id
    intro none
    exact absurd ((empty_iff _).mpr none) queued

end Writes

section Soundness

/-- What holds of a connection into which the bytes of `log` were put: they are
on the wire or still queued, in order, the queue is counted, and the event loop
watches the socket while something is queued. -/
structure Flowing (io : Io) (log : List UInt8) : Prop where
  onWire : io.wire <+: log
  split : io.closed = false → io.wire ++ io.pending = log
  counted : io.closed = false →
    io.writeBufsize = io.pending.length ∧ io.writeBufsize ≤ io.maxWriteBufsize
  unwritten : ∀ buf ∈ io.writeQueue.toList, buf.remaining ≠ []
  watches : io.closed = false → io.writeQueue.toList ≠ [] →
    io.watchesWrite = true
  quiet : io.closed = true → io.watchesWrite = false

/-- Between the steps of a connection, one that is to be closed later has
something queued. -/
structure Sound (io : Io) (log : List UInt8) : Prop extends Flowing io log where
  closing : io.closed = false → io.close = true → io.writeQueue.toList ≠ []

variable {io : Io} {log : List UInt8}

theorem Flowing.pending_eq_nil (sound : Flowing io log) :
    io.pending = [] ↔ io.writeQueue.toList = [] := by
  constructor
  · intro none
    cases queued : io.writeQueue.toList with
    | nil => rfl
    | cons buf rest =>
        have some := sound.unwritten buf (by simp [queued])
        simp [Io.pending, queued, some] at none
  · intro none
    simp [Io.pending, none]

/-- The bytes of one write. -/
theorem Sound.write {buf : List UInt8} {after : Io} {result : Int}
    (sound : Sound io log) (move : WriteMove io buf after result) :
    Sound after
      (log ++ if 0 ≤ result then buf else after.wire.drop io.wire.length) := by
  cases move with
  | closed isClosed =>
      rw [if_neg (by decide), List.drop_length, List.append_nil]
      exact sound
  | @refused front back error watches isOpen split direct kept =>
      rw [if_neg (by decide), List.drop_left]
      have whole := sound.split isOpen
      have extended : io.wire ++ front ++ io.pending = log ++ front := by
        rcases direct with rfl | none
        · simpa using whole
        · rw [sound.pending_eq_nil.mpr none, List.append_nil] at whole ⊢
          rw [whole]
      exact
        { onWire := ⟨io.pending, extended⟩
          split := fun _ => extended
          counted := sound.counted
          unwritten := sound.unwritten
          watches := fun _ some => kept (sound.watches isOpen some)
          quiet := fun isClosed => by
            rw [isOpen] at isClosed
            cases isClosed
          closing := sound.closing }
  | @sent watches isOpen direct kept =>
      rw [if_pos (Int.natCast_nonneg _)]
      have whole := sound.split isOpen
      have extended : io.wire ++ buf ++ io.pending = log ++ buf := by
        rcases direct with rfl | none
        · simpa using whole
        · rw [sound.pending_eq_nil.mpr none, List.append_nil] at whole ⊢
          rw [whole]
      exact
        { onWire := ⟨io.pending, extended⟩
          split := fun _ => extended
          counted := sound.counted
          unwritten := sound.unwritten
          watches := fun _ some => kept (sound.watches isOpen some)
          quiet := fun isClosed => by
            rw [isOpen] at isClosed
            cases isClosed
          closing := sound.closing }
  | @queued front back watches queue isOpen split direct some pushed room
      watched kept =>
      rw [if_pos (Int.natCast_nonneg _)]
      have whole := sound.split isOpen
      have counted := sound.counted isOpen
      have pending : queue.toList.flatMap OffsetBuf.remaining =
          io.pending ++ back := by
        rw [pushed, List.flatMap_append]
        simp [Io.pending, OffsetBuf.remaining]
      have extended : io.wire ++ front ++ (io.pending ++ back) = log ++ buf := by
        rw [split]
        rcases direct with rfl | none
        · simp [← whole]
        · rw [sound.pending_eq_nil.mpr none, List.append_nil] at whole
          simp [sound.pending_eq_nil.mpr none, whole]
      exact
        { onWire := ⟨io.pending ++ back, extended⟩
          split := fun _ => by
            change io.wire ++ front ++
              queue.toList.flatMap OffsetBuf.remaining = log ++ buf
            rw [pending]
            exact extended
          counted := fun _ => by
            refine ⟨?_, room⟩
            change io.writeBufsize + back.length =
              (queue.toList.flatMap OffsetBuf.remaining).length
            rw [pending, List.length_append, counted.1]
          unwritten := by
            intro other member
            rw [pushed, List.mem_append] at member
            rcases member with old | new
            · exact sound.unwritten other old
            · obtain rfl := List.mem_singleton.mp new
              exact some
          watches := fun _ _ => by
            by_cases none : io.writeQueue.toList = []
            · exact watched none
            · exact kept (sound.watches isOpen none)
          quiet := fun isClosed => by
            rw [isOpen] at isClosed
            cases isClosed
          closing := fun _ _ => by
            simp [pushed] }

/-- Closing drops the queue or waits for it to be written. -/
theorem Flowing.hioClose (sound : Flowing io log) : Sound (hioClose io) log := by
  unfold Nio.hioClose
  split
  case isTrue isClosed =>
      refine ⟨sound, ?_⟩
      intro isOpen
      rw [isClosed] at isOpen
      cases isOpen
  case isFalse isOpen =>
      split
      case isTrue later =>
          simp only [Bool.and_eq_true, Bool.not_eq_true'] at later
          have queued : io.writeQueue.toList ≠ [] := by
            rw [Ne, ← empty_iff, later.1.1]
            exact Bool.false_ne_true
          exact
            { onWire := sound.onWire
              split := sound.split
              counted := sound.counted
              unwritten := sound.unwritten
              watches := sound.watches
              quiet := sound.quiet
              closing := fun _ _ => queued }
      case isFalse =>
          exact
            { onWire := sound.onWire
              split := fun stillOpen => by cases stillOpen
              counted := fun stillOpen => by cases stillOpen
              unwritten := by simp
              watches := fun stillOpen => by cases stillOpen
              quiet := fun _ => rfl
              closing := fun stillOpen => by cases stillOpen }

theorem Flowing.withFlags (sound : Flowing io log) (close error timer : Bool)
    (events : Nat) :
    Flowing { io with
      close := close, error := error, closeTimer := timer,
      closeEvents := events } log :=
  ⟨sound.onWire, sound.split, sound.counted, sound.unwritten, sound.watches,
    sound.quiet⟩

/-- The kernel takes some of the first buffer of the queue. -/
theorem Flowing.advance {buf : OffsetBuf} {rest : List OffsetBuf} {count : Nat}
    {queue : ArrayQueue OffsetBuf} {size : Nat}
    (sound : Flowing io log) (isOpen : io.closed = false)
    (queued : io.writeQueue.toList = buf :: rest)
    (left : queue.toList.flatMap OffsetBuf.remaining =
      buf.remaining.drop count ++ rest.flatMap OffsetBuf.remaining)
    (unwritten : ∀ other ∈ queue.toList, other.remaining ≠ [])
    (within : count ≤ buf.remaining.length)
    (counted : size = io.writeBufsize - count) :
    Flowing
      { io with
        writeQueue := queue
        writeBufsize := size
        wire := io.wire ++ buf.remaining.take count } log := by
  have whole := sound.split isOpen
  have pending : io.pending = buf.remaining ++ rest.flatMap OffsetBuf.remaining := by
    simp [Io.pending, queued]
  have extended :
      io.wire ++ buf.remaining.take count ++
        queue.toList.flatMap OffsetBuf.remaining = log := by
    rw [left, List.append_assoc, ← List.append_assoc (buf.remaining.take count),
      List.take_append_drop, ← pending]
    exact whole
  obtain ⟨sizeBefore, below⟩ := sound.counted isOpen
  have sizes := congrArg List.length pending
  have sizesLeft := congrArg List.length left
  rw [List.length_append] at sizes sizesLeft
  rw [List.length_drop] at sizesLeft
  exact
    { onWire := ⟨_, extended⟩
      split := fun _ => extended
      counted := fun _ => by
        change size = (queue.toList.flatMap OffsetBuf.remaining).length ∧
          size ≤ io.maxWriteBufsize
        omega
      unwritten := unwritten
      watches := fun _ _ => sound.watches isOpen (by simp [queued])
      quiet := fun isClosed => by
        rw [isOpen] at isClosed
        cases isClosed }

theorem Flowing.sound_of_queued (sound : Flowing io log)
    (queued : io.writeQueue.toList ≠ []) : Sound io log :=
  ⟨sound, fun _ _ => queued⟩

/-- Writing the queue out, whatever the kernel answers. -/
theorem Flowing.nioWrite (sound : Flowing io log) (isOpen : io.closed = false)
    (sent : List SendResult) : Sound (nioWrite io sent) log := by
  induction sent generalizing io with
  | nil =>
      unfold Nio.nioWrite
      split
      · exact (sound.withFlags false io.error io.closeTimer io.closeEvents).hioClose
      case isFalse waits =>
          refine ⟨sound, ?_⟩
          intro _ close none
          apply waits
          rw [(empty_iff _).mpr none, close]
          rfl
  | cons first others ih =>
      unfold Nio.nioWrite
      rw [ArrayQueue.front_eq]
      cases queued : io.writeQueue.toList with
      | nil =>
          dsimp only [List.head?_nil]
          split
          · exact
              (sound.withFlags false io.error io.closeTimer io.closeEvents).hioClose
          case isFalse stays =>
              exact ⟨sound, fun _ close => absurd close stays⟩
      | cons buf rest =>
          have some : io.writeQueue.toList ≠ [] := by simp [queued]
          dsimp only [List.head?_cons]
          cases first with
          | again => exact sound.sound_of_queued some
          | failed =>
              exact
                (sound.withFlags io.close true io.closeTimer io.closeEvents).hioClose
          | wrote count =>
              dsimp only
              have within : min count buf.remaining.length ≤
                  buf.remaining.length := Nat.min_le_right _ _
              generalize min count buf.remaining.length = nwrite at within ⊢
              split
              · exact sound.hioClose
              case isFalse positive =>
                  have front :
                      (io.writeQueue.setFront
                          ⟨buf.base, buf.offset + nwrite⟩).toList =
                        ⟨buf.base, buf.offset + nwrite⟩ :: rest := by
                    rw [ArrayQueue.toList_setFront, queued, List.set_cons_zero]
                  have remains :
                      (OffsetBuf.mk buf.base (buf.offset + nwrite)).remaining =
                        buf.remaining.drop nwrite := by
                    simp only [OffsetBuf.remaining, List.drop_drop]
                  have others' : ∀ other ∈ rest, other.remaining ≠ [] := by
                    intro other member
                    apply sound.unwritten other
                    rw [queued]
                    exact List.mem_cons_of_mem buf member
                  split
                  case isTrue whole =>
                      split
                      case h_1 empty =>
                          have succeeds := (ArrayQueue.popFront_isSome _).mpr
                            (front ▸ List.cons_ne_nil _ rest)
                          rw [empty] at succeeds
                          cases succeeds
                      case h_2 left popped =>
                          have leftover : left.toList = rest := by
                            rw [ArrayQueue.toList_popFront _ popped, front,
                              List.tail_cons]
                          apply ih
                          · apply sound.advance isOpen queued _ _ within rfl
                            · rw [leftover, whole, List.drop_length,
                                List.nil_append]
                            · rw [leftover]
                              exact others'
                          · exact isOpen
                  case isFalse partly =>
                      apply Flowing.sound_of_queued
                      · apply sound.advance isOpen queued _ _ within rfl
                        · rw [front, List.flatMap_cons, remains]
                        · rw [front]
                          intro other member
                          rcases List.mem_cons.mp member with rfl | old
                          · rw [remains]
                            apply List.ne_nil_of_length_pos
                            rw [List.length_drop]
                            omega
                          · exact others' other old
                      · rw [front]
                        exact List.cons_ne_nil _ rest

theorem Flowing.unwatched (sound : Flowing io log)
    (empty : io.writeQueue.empty = true) :
    Flowing { io with watchesWrite := false } log :=
  { sound with
    watches := fun _ some => absurd ((empty_iff _).mp empty) some
    quiet := fun _ => rfl }

theorem Flowing.open_of_watches (sound : Flowing io log)
    (watches : io.watchesWrite = true) : io.closed = false := by
  cases isClosed : io.closed with
  | false => rfl
  | true =>
      rw [sound.quiet isClosed] at watches
      cases watches

theorem Sound.hioHandleWrite (sound : Sound io log) (sent : List SendResult) :
    Sound (hioHandleWrite io sent) log := by
  unfold Nio.hioHandleWrite
  split
  case isTrue watches =>
      have isOpen := sound.open_of_watches watches
      split
      case isTrue empty => exact (sound.unwatched empty).nioWrite isOpen sent
      case isFalse => exact sound.nioWrite isOpen sent
  case isFalse => exact sound

/-- One step of a connection keeps it sound. -/
theorem step_sound {after : Io} {action : Action} (sound : Sound io log)
    (stepped : step io action = some after) :
    Sound after (noteEntered io action log) := by
  cases action with
  | write buf sent =>
      obtain rfl := Option.some.inj stepped
      exact sound.write (hioWrite_move io buf sent)
  | writable sent =>
      obtain rfl := Option.some.inj stepped
      exact sound.hioHandleWrite sent
  | close =>
      obtain rfl := Option.some.inj stepped
      exact sound.hioClose
  | closeEvent =>
      simp only [step] at stepped
      split at stepped
      · cases stepped
      · obtain rfl := Option.some.inj stepped
        exact (sound.withFlags io.close io.error io.closeTimer _).hioClose
  | closeTimeout =>
      simp only [step] at stepped
      split at stepped
      · obtain rfl := Option.some.inj stepped
        exact (sound.withFlags io.close true false io.closeEvents).hioClose
      · cases stepped
  | readError =>
      obtain rfl := Option.some.inj stepped
      exact (sound.withFlags io.close true io.closeTimer io.closeEvents).hioClose

theorem hioClose_closed (isClosed : io.closed = true) : hioClose io = io := by
  unfold Nio.hioClose
  rw [if_pos isClosed]

/-- A closed connection stays closed. -/
theorem step_closed {after : Io} {action : Action} (sound : Sound io log)
    (stepped : step io action = some after) (isClosed : io.closed = true) :
    after.closed = true := by
  cases action with
  | write buf sent =>
      obtain rfl := Option.some.inj stepped
      simp only [hioWrite, isClosed, if_true]
  | writable sent =>
      obtain rfl := Option.some.inj stepped
      simp only [Nio.hioHandleWrite, sound.quiet isClosed, Bool.false_eq_true,
        if_false, isClosed]
  | close =>
      obtain rfl := Option.some.inj stepped
      rw [hioClose_closed isClosed]
      exact isClosed
  | closeEvent =>
      simp only [step] at stepped
      split at stepped
      · cases stepped
      · obtain rfl := Option.some.inj stepped
        rw [hioClose_closed]
        · exact isClosed
        · exact isClosed
  | closeTimeout =>
      simp only [step] at stepped
      split at stepped
      · obtain rfl := Option.some.inj stepped
        rw [hioClose_closed]
        · exact isClosed
        · exact isClosed
      · cases stepped
  | readError =>
      obtain rfl := Option.some.inj stepped
      rw [hioClose_closed]
      · exact isClosed
      · exact isClosed

end Soundness

end Nio

end SpeechModules
