import TcpOffload.Library.Guarded
import TcpOffload.TxEngine.Acknowledges

/-!
# The ACK delay

`ack_delay.cpp`: a first ACK event of a session is held back until its entry
has run out or another event of the session comes through, which is meant to
carry the acknowledgement.  The process feeds `TxEngTcpFsm` here.
-/

namespace TcpOffload

open Guarded

structure AckDelayState where
  ackTable : TcpSessionID → BitVec 12
  curSessionId : TcpSessionID
  events : List EventWithTuple

inductive AckDelayMsg where
  | readCount
  | writeCount
  | event (event : EventWithTuple)
deriving DecidableEq, Repr

namespace AckDelayState

def start : AckDelayState where
  ackTable := fun _ => 0
  curSessionId := 0
  events := []

def setEntry
    (state : AckDelayState) (id : TcpSessionID) (time : BitVec 12) :
    AckDelayState :=
  { state with ackTable := Function.update state.ackTable id time }

/-- The look at the current entry, when no event is there. -/
def sweep (state : AckDelayState) (full : Bool) :
    AckDelayState × List AckDelayMsg :=
  let cur := state.curSessionId
  let next := cur + 1
  let moved :=
    { state with
      curSessionId := if next.toNat = tcpMaxSessions then 0 else next }
  if state.ackTable cur ≠ 0 ∧ full = false then
    (moved.setEntry cur (state.ackTable cur - 1),
      if state.ackTable cur = 1 then
        [.event ⟨Event.plain .ack cur, ⟨0, 0, 0, 0⟩⟩, .writeCount]
      else
        [])
  else
    (moved, [])

end AckDelayState

/-- `ack_delay`; `full` tells whether the stream to the TX engine is. -/
def ackDelay (time64us : BitVec 12) (full : Bool) (state : AckDelayState) :
    AckDelayState × List AckDelayMsg :=
  match state.events with
  | event :: later =>
      let read := { state with events := later }
      if event.type = .ack ∧ state.ackTable event.sessionId = 0 then
        (read.setEntry event.sessionId time64us, [.readCount])
      else
        (read.setEntry event.sessionId 0,
          [.readCount, .event event, .writeCount])
  | [] => state.sweep full

def AckDelayMsg.toTxEng : AckDelayMsg → Option EventWithTuple
  | .event forwarded => some forwarded
  | _ => none

/-! ## The process in front of the TX engine -/

/-- An event on its way to the TX engine; `cancels` tells whether the step
that forwarded it took back a delayed ACK of the session. -/
structure ForwardedEvent where
  event : EventWithTuple
  cancels : Bool
deriving DecidableEq, Repr

structure DelaySystem where
  delay : AckDelayState
  forwarded : List ForwardedEvent
  txEng : TxEngState

namespace DelaySystem

/-- The design at its start. -/
def resting : DelaySystem where
  delay := AckDelayState.start
  forwarded := []
  txEng := TxEngState.start

/-- The answer to a `TX` event in a closed window. -/
def closedWindow : TxSarToTxEngRsp :=
  { TxSarToTxEngRsp.empty with currLength := 100 }

end DelaySystem

end TcpOffload
