import SpeechModules.FunAsrFrames

/-!
# The lifetime of a recognition session

`destroy` releases the queue, the mutex, the condition variable and the pool that
holds the `switch_da_t` itself.  It waits only until `hangup` is set, which the
CLOSE callback does before it takes the mutex, and it does not ask whether a
READ callback, an application or a callback of the websocket is still going to
use the session.
-/

namespace SpeechModules

namespace FunAsr

open StepSystem

/-- Whether the statement at a position reads or writes a field of the
`switch_da_t`, its mutex, its condition variable or its queue. -/
def SenderPc.touches : SenderPc → Bool
  | .waitOpen _ | .createResampler | .closeEarly | .loopClosed | .sendBlock _
  | .testClosed | .sendEnd | .sleepEnd _ | .closeWs | .waitClosed _
  | .testClosedAgain | .sleepRetry _ | .unwinding | .ended => false
  | _ => true

def CallbackPc.touches : CallbackPc → Bool
  | .idle | .openStore | .closeStore => false
  | _ => true

def ReadPc.touches : ReadPc → Bool
  | .idle => false
  | _ => true

def ClosePc.touches : ClosePc → Bool
  | .idle | .done => false
  | _ => true

def StartPc.touches : StartPc → Bool
  | .setPrivate | .done => false
  | _ => true

def AppPc.touches : AppPc → Bool
  | .idle | .stopUnset | .stopWait => false
  | _ => true

/-- Some agent is going to execute a statement that uses the session. -/
def State.inUse (state : State) : Bool :=
  state.threads.any (fun sender =>
    sender.pc.touches || sender.callback.touches) ||
  state.reader.pc.touches || state.closer.touches ||
  state.starter.touches || state.app.touches

/-- The connection of the thread can no longer run `onopen` or `onmessage`. -/
def Sender.silent (sender : Sender) : Bool :=
  (match sender.socket with
    | .connecting | .opened => false
    | _ => true) &&
  match sender.callback with
  | .idle | .closeStore => true
  | _ => false

section Runs

variable {config : Config} {before after : State}

end Runs

end FunAsr

end SpeechModules
