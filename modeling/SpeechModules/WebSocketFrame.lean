import Mathlib.Algebra.Group.Nat.Defs
import Mathlib.Data.List.Basic

/-!
# Frames on a WebSocket connection

The sending half of `libs/libhv/http/websocket_parser.c` and of
`libs/libhv/http/wsdef.c`: how a payload becomes the bytes of one frame, and
the masking a client applies to it.
-/

namespace SpeechModules

namespace WebSocket

/-- `WS_OP_MASK`: the bits of the flags that hold the opcode. -/
def wsOpMask : UInt8 := 0x0F

/-- `WS_FIN`: the mark of the last frame of a message. -/
def wsFin : UInt8 := 0x10

/-- `WS_HAS_MASK`: the mark of a masked frame. -/
def wsHasMask : UInt8 := 0x20

/-- `enum ws_opcode`. -/
inductive Opcode
  | continue_
  | text
  | binary
  | close
  | ping
  | pong
  deriving DecidableEq, Repr

/-- The value of an opcode. -/
def Opcode.value : Opcode → UInt8
  | .continue_ => 0x0
  | .text => 0x1
  | .binary => 0x2
  | .close => 0x8
  | .ping => 0x9
  | .pong => 0xA

/-- The four bytes a payload is masked with. -/
abbrev Mask := Vector UInt8 4

/-- The byte of the mask at an offset. -/
def Mask.at (mask : Mask) (offset : Nat) : UInt8 :=
  mask[offset % 4]

/-- `websocket_decode`: the masked bytes and the mask offset after them. -/
def websocketDecode (source : List UInt8) (mask : Mask) (maskOffset : Nat) :
    List UInt8 × Nat :=
  (source.mapIdx fun index byte => byte ^^^ mask.at (index + maskOffset),
    (source.length + maskOffset) % 4)

/-- The first byte of a frame. -/
def firstByte (flags : UInt8) : UInt8 :=
  (if flags &&& wsFin ≠ 0 then 0x80 else 0) ||| (flags &&& wsOpMask)

/-- The second byte of a frame, with its seven bit length. -/
def secondByte (flags : UInt8) (shortLength : UInt8) : UInt8 :=
  (if flags &&& wsHasMask ≠ 0 then 0x80 else 0) ||| shortLength

/-- The length of the payload as the frame spells it: the seven bits of the
second byte and the bytes that follow it. -/
def lengthBytes (dataLength : Nat) : UInt8 × List UInt8 :=
  if dataLength < 126 then
    (dataLength.toUInt8, [])
  else if dataLength ≤ 0xFFFF then
    (126, [(dataLength >>> 8).toUInt8, dataLength.toUInt8])
  else
    (127, [(dataLength >>> 56).toUInt8, (dataLength >>> 48).toUInt8,
      (dataLength >>> 40).toUInt8, (dataLength >>> 32).toUInt8,
      (dataLength >>> 24).toUInt8, (dataLength >>> 16).toUInt8,
      (dataLength >>> 8).toUInt8, dataLength.toUInt8])

/-- `websocket_build_frame` with a mask. -/
def websocketBuildFrame (flags : UInt8) (mask : Mask) (data : List UInt8) :
    List UInt8 :=
  let (shortLength, extended) := lengthBytes data.length
  let head := firstByte flags :: secondByte flags shortLength :: extended
  if flags &&& wsHasMask ≠ 0 then
    head ++ mask.toList ++ (websocketDecode data mask 0).1
  else
    head ++ data

/-- The flags `ws_build_frame` composes. -/
def frameFlags (opcode : Opcode) (fin hasMask : Bool) : UInt8 :=
  opcode.value ||| (if fin then wsFin else 0) |||
    (if hasMask then wsHasMask else 0)

/-- `ws_build_frame`. -/
def wsBuildFrame (data : List UInt8) (mask : Mask) (hasMask : Bool)
    (opcode : Opcode) (fin : Bool) : List UInt8 :=
  websocketBuildFrame (frameFlags opcode fin hasMask) mask data

section Masking

variable (mask : Mask)

@[simp]
theorem websocketDecode_length (source : List UInt8) (offset : Nat) :
    (websocketDecode source mask offset).1.length = source.length := by
  simp [websocketDecode]

/-- Only the offset modulo four matters. -/
theorem websocketDecode_mod (source : List UInt8) (offset : Nat) :
    websocketDecode source mask (offset % 4) =
      websocketDecode source mask offset := by
  simp [websocketDecode, Mask.at]

/-- Masking a text in two pieces, the second from the offset the first one
ends at, is masking it at once. -/
theorem websocketDecode_append (front back : List UInt8) (offset : Nat) :
    websocketDecode (front ++ back) mask offset =
      ((websocketDecode front mask offset).1 ++
          (websocketDecode back mask (websocketDecode front mask offset).2).1,
        (websocketDecode back mask (websocketDecode front mask offset).2).2) := by
  have second :
      websocketDecode back mask (websocketDecode front mask offset).2 =
        websocketDecode back mask (front.length + offset) :=
    websocketDecode_mod mask back (front.length + offset)
  rw [second]
  ext1
  · simp only [websocketDecode, List.mapIdx_append]
    simp only [Nat.add_assoc]
  · simp only [websocketDecode, List.length_append]
    congr 1
    omega

/-- Masking twice with the same mask gives the text back. -/
theorem websocketDecode_involutive (source : List UInt8) (offset : Nat) :
    (websocketDecode (websocketDecode source mask offset).1 mask offset).1 =
      source := by
  apply List.ext_getElem
  · simp
  · intro index inside _
    simp only [websocketDecode, List.getElem_mapIdx]
    rw [UInt8.xor_assoc, UInt8.xor_self, UInt8.xor_zero]

end Masking

section Sizes

theorem frameFlags_hasMask (opcode : Opcode) (fin hasMask : Bool) :
    (frameFlags opcode fin hasMask &&& wsHasMask ≠ 0) ↔ hasMask = true := by
  cases opcode <;> cases fin <;> cases hasMask <;> decide

theorem frameFlags_fin (opcode : Opcode) (fin hasMask : Bool) :
    (frameFlags opcode fin hasMask &&& wsFin ≠ 0) ↔ fin = true := by
  cases opcode <;> cases fin <;> cases hasMask <;> decide

theorem frameFlags_opcode (opcode : Opcode) (fin hasMask : Bool) :
    frameFlags opcode fin hasMask &&& wsOpMask = opcode.value := by
  cases opcode <;> cases fin <;> cases hasMask <;> decide

end Sizes

end WebSocket

end SpeechModules
