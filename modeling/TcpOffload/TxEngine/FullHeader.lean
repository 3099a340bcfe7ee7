import TcpOffload.Realign
import TcpOffload.SessionLookup
import TcpOffload.TxEngine.Fsm

/-!
# The headers of a segment

`TxEngFourTupleHandler`, `TxEngPseudoFullHeaderConstruct` and
`TxEngConstructIpv4Header` of `tx_engine.cpp`: the addresses and ports of a
segment are fetched, and one word is written with its pseudo header and TCP
header, and one with its IPv4 header.
-/

namespace TcpOffload

structure IpAddrPair where
  srcIpAddr : IpAddr
  dstIpAddr : IpAddr
deriving DecidableEq, Repr

def FourTuple.ipPair (tuple : FourTuple) : IpAddrPair :=
  ⟨tuple.srcIpAddr, tuple.dstIpAddr⟩

/-! ## `TxEngFourTupleHandler` -/

inductive TxEngTupleFsm where
  | loadTupleSrc
  | readTupleFromTxEng
  | readTupleFromSlupCtrl
deriving DecidableEq, Repr

structure FourTupleState where
  fsmState : TxEngTupleFsm
  slookupRsps : List ReverseTableToTxEngRsp
  txFourTupleSource : List Bool
  txEngFsmFourTuple : List FourTuple
deriving DecidableEq, Repr

inductive FourTupleMsg where
  | ipPair (pair : IpAddrPair)
  | fourTuple (tuple : FourTuple)
deriving DecidableEq, Repr

/-- The addresses for the IPv4 header and the tuple for the TCP header. -/
def FourTuple.msgs (tuple : FourTuple) : List FourTupleMsg :=
  [.ipPair tuple.ipPair, .fourTuple tuple]

def txEngFourTupleHandler (state : FourTupleState) :
    FourTupleState × List FourTupleMsg :=
  match state.fsmState with
  | .loadTupleSrc =>
      match state.txFourTupleSource with
      | [] => (state, [])
      | tupleIsFromSlookup :: later =>
          ({ state with
              fsmState :=
                if tupleIsFromSlookup then
                  .readTupleFromSlupCtrl
                else
                  .readTupleFromTxEng
              txFourTupleSource := later },
            [])
  | .readTupleFromSlupCtrl =>
      match state.slookupRsps with
      | [] => (state, [])
      | slookupRsp :: later =>
          ({ state with fsmState := .loadTupleSrc, slookupRsps := later },
            slookupRsp.fourTuple.msgs)
  | .readTupleFromTxEng =>
      match state.txEngFsmFourTuple with
      | [] => (state, [])
      | fourTuple :: later =>
          ({ state with
              fsmState := .loadTupleSrc
              txEngFsmFourTuple := later },
            fourTuple.msgs)

/-! ## `TxEngPseudoFullHeaderConstruct` -/

namespace TxEngFsmMetaData

variable (segment : TxEngFsmMetaData)

def packetContainsPayload : Bool :=
  !(segment.length == 0 || segment.syn)

/-- Bits 128 to 255: from the sequence number to the urgent pointer, with the
checksum 0. -/
def tcpFields : BitVec 128 :=
  (0 : BitVec 32) ++
    swapByte segment.winSize ++
    ((0 : BitVec 3) ++ BitVec.ofBool segment.ack ++ (0 : BitVec 1) ++
      BitVec.ofBool segment.rst ++ BitVec.ofBool segment.syn ++
      BitVec.ofBool segment.fin) ++
    ((if segment.syn then
        if segment.winScale ≠ 0 then 7 else 6
      else
        5 : BitVec 4) ++ (0 : BitVec 4)) ++
    swapByte segment.ackNumber ++
    swapByte segment.seqNumber

/-- Bits 256 to 319: the maximum segment size and the window scale. -/
def tcpOptions : BitVec 64 :=
  if segment.syn then
    (if segment.winScale ≠ 0 then
      (0x00 : BitVec 8) ++ segment.winScale.setWidth 8 ++
        (0x03 : BitVec 8) ++ (0x03 : BitVec 8)
    else
      0) ++
      swapByte (BitVec.ofNat 16 tcpMss) ++ (0x04 : BitVec 8) ++
      (0x02 : BitVec 8)
  else
    0

/-- The pseudo header and the TCP header in one word. -/
def pseudoFullHeader (tuple : FourTuple) : NetAXISWord where
  data :=
    (segment.tcpOptions ++
      (segment.tcpFields ++
        (tuple.dstTcpPort ++ tuple.srcTcpPort ++
          swapByte (segment.length + 0x14) ++ (0x0600 : BitVec 16) ++
          tuple.dstIpAddr ++ tuple.srcIpAddr))).setWidth 512
  dest := 0
  keep :=
    if segment.syn then
      if segment.winScale ≠ 0 then 0xFFFFFFFFFF else 0xFFFFFFFFF
    else
      0xFFFFFFFF
  last := true

end TxEngFsmMetaData

structure FullHeaderState where
  txEngFsmMetaData : List TxEngFsmMetaData
  txFourTupleForTcpHeader : List FourTuple
deriving DecidableEq, Repr

/-- The header and the flag beside it are written in one call. -/
def txEngPseudoFullHeaderConstruct (state : FullHeaderState) :
    FullHeaderState × List (NetAXISWord × Bool) :=
  match state.txFourTupleForTcpHeader, state.txEngFsmMetaData with
  | fourTuple :: tuples, segment :: segments =>
      ({ state with
          txEngFsmMetaData := segments
          txFourTupleForTcpHeader := tuples },
        [(segment.pseudoFullHeader fourTuple,
          segment.packetContainsPayload)])
  | _, _ => (state, [])

/-! ## `TxEngConstructIpv4Header` -/

/-- The IPv4 header of a segment.  The checksum of the header is not computed
in the synthesised design. -/
def ipv4Header (tcpPayloadLength : BitVec 16) (pair : IpAddrPair) :
    NetAXISWord where
  data :=
    (pair.dstIpAddr ++ pair.srcIpAddr ++ (0 : BitVec 16) ++
      (0x06 : BitVec 8) ++ (0x40 : BitVec 8) ++ (0 : BitVec 32) ++
      swapByte (tcpPayloadLength + 40) ++ (0 : BitVec 8) ++
      (0x45 : BitVec 8)).setWidth 512
  dest := 0
  keep := 0xFFFFF
  last := true

structure Ipv4HeaderState where
  txTcpPayloadLength : List (BitVec 16)
  txTcpIpPair : List IpAddrPair
deriving DecidableEq, Repr

def txEngConstructIpv4Header (state : Ipv4HeaderState) :
    Ipv4HeaderState × List NetAXISWord :=
  match state.txTcpPayloadLength, state.txTcpIpPair with
  | length :: lengths, pair :: pairs =>
      ({ state with txTcpPayloadLength := lengths, txTcpIpPair := pairs },
        [ipv4Header length pair])
  | _, _ => (state, [])

end TcpOffload
