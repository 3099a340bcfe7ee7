import TcpOffload.Conn

/-!
# The TX application interface

`tx_app_intf.cpp`: what `TxAppTableInterface`, `TxAppDataHandler` and
`TxAppRspHandler` do with the pointers of one session.  The table has the
pointer behind the data the application was allowed to write; the TX SAR
table learns about data only when it is in the buffer.
-/

namespace TcpOffload

structure TxAppTableEntry where
  ackd : TcpSessionBuffer
  appWrittenIdeal : TcpSessionBuffer
deriving DecidableEq, Repr

namespace TxAppTableEntry

/-- An update from the TX SAR table.  At the initialisation the `ackd` of the
request is the `not_ackd` behind the SYN. -/
def txSarUpdate
    (entry : TxAppTableEntry) (req : TxSarToTxAppReq) : TxAppTableEntry :=
  if req.init then
    ⟨req.ackd - 1, req.ackd⟩
  else
    { entry with ackd := req.ackd }

/-- `max_write_length`. -/
def maxWriteLength (entry : TxAppTableEntry) : TcpSessionBuffer :=
  entry.ackd - entry.appWrittenIdeal - 1

/-- The table after a request for `length` bytes was granted. -/
def grant
    (entry : TxAppTableEntry) (length : TcpSessionBuffer) :
    TxAppTableEntry :=
  { entry with appWrittenIdeal := entry.appWrittenIdeal + length }

/-- The event of a granted request; its length member has 16 bits. -/
def txEvent
    (entry : TxAppTableEntry) (id : TcpSessionID)
    (length : TcpSessionBuffer) : Event :=
  ⟨.tx, id, entry.appWrittenIdeal, length.setWidth 16, 0⟩

end TxAppTableEntry

/-- The pointer `TxAppRspHandler` reports for an event whose data is in the
buffer. -/
def TxAppToTxSarReq.ofEvent (event : Event) : TxAppToTxSarReq :=
  ⟨event.sessionId, event.bufAddr + event.length.setWidth 18⟩

end TcpOffload
