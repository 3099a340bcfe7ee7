import TcpOffload.Library.Process
import TcpOffload.Realign

/-!
# `TxEngRemovePseudoHeader` and `TxEngConstructIpv4Packet`

The two state machines of `tx_engine.cpp` behind `TxEngConstructPseudoPacket`:
one drops the 12 bytes of the pseudo header, the other one puts the IPv4
header in front of what is left and the checksum of the segment into it.
-/

namespace TcpOffload

open Clocked

/-! ## `TxEngRemovePseudoHeader` -/

inductive TxEngPseudoHdrRemoverFsmState where
  | read
  | readMorePayload
  | extraWord
deriving DecidableEq, Repr

structure RemoverState where
  fsmState : TxEngPseudoHdrRemoverFsmState
  prevWord : NetAXISWord
  txTcpPseudoPacket : List NetAXISWord
deriving DecidableEq, Repr

/-- What is left of `prevWord` without 12 bytes, followed by `curWord`. -/
def withoutPseudoHeader (curWord prevWord : NetAXISWord) : NetAXISWord :=
  concatTwoWords curWord prevWord 12 NetAXISWord.empty

def txEngRemovePseudoHeader (state : RemoverState) :
    RemoverState × List NetAXISWord :=
  match state.fsmState with
  | .read =>
      match state.txTcpPseudoPacket with
      | [] => (state, [])
      | curWord :: later =>
          if curWord.last then
            ({ state with txTcpPseudoPacket := later },
              [(withoutPseudoHeader NetAXISWord.empty curWord).withLast
                true])
          else
            ({ state with
                fsmState := .readMorePayload
                prevWord := curWord
                txTcpPseudoPacket := later },
              [])
  | .readMorePayload =>
      match state.txTcpPseudoPacket with
      | [] => (state, [])
      | curWord :: later =>
          let extra := curWord.keep.getLsbD 12
          ({ state with
              fsmState :=
                if curWord.last then
                  if extra then .extraWord else .read
                else
                  .readMorePayload
              prevWord := curWord
              txTcpPseudoPacket := later },
            [(withoutPseudoHeader curWord state.prevWord).withLast
              (curWord.last && !extra)])
  | .extraWord =>
      ({ state with fsmState := .read },
        [(withoutPseudoHeader NetAXISWord.empty state.prevWord).withLast
          true])

/-! ## `TxEngConstructIpv4Packet` -/

inductive Ipv4PacketFsmState where
  | readFirst
  | readPayload
  | extraWord
deriving DecidableEq, Repr

structure Ipv4PacketState where
  fsmState : Ipv4PacketFsmState
  prevWord : NetAXISWord
  txIpv4Header : List NetAXISWord
  txTcpChecksum : List (BitVec 16)
  txTcpPacket : List NetAXISWord
deriving DecidableEq, Repr

/-- The first word of a packet: 20 bytes of IPv4 header, then the TCP header.
The checksum is assigned to bits 288 to 304, one more than it has. -/
def firstIpv4Word
    (ipv4Header : NetAXISWord) (tcpChecksum : BitVec 16)
    (curWord : NetAXISWord) : NetAXISWord :=
  let joined : BitVec 512 :=
    curWord.data.extractLsb' 0 352 ++ ipv4Header.data.extractLsb' 0 160
  { data :=
      joined.extractLsb' 305 207 ++ (swapByte tcpChecksum).setWidth 17 ++
        joined.extractLsb' 0 288
    dest := 0
    keep := curWord.keep.extractLsb' 0 44 ++ (0xFFFFF : BitVec 20)
    last := false }

/-- `TxEngConstructIpv4Packet`.  The state behind the final word of a segment
is `READ_FIRST` even where `EXTRA_WORD` has been assigned just before. -/
def txEngConstructIpv4Packet (state : Ipv4PacketState) :
    Ipv4PacketState × List NetAXISWord :=
  match state.fsmState with
  | .readFirst =>
      match state.txIpv4Header, state.txTcpPacket,
        state.txTcpChecksum with
      | ipv4Header :: headers, curWord :: packets,
          tcpChecksum :: checksums =>
          let extra := curWord.keep.getLsbD 44
          ({ state with
              fsmState :=
                if curWord.last then
                  if extra then .extraWord else .readFirst
                else
                  .readPayload
              prevWord := curWord
              txIpv4Header := headers
              txTcpChecksum := checksums
              txTcpPacket := packets },
            [(firstIpv4Word ipv4Header tcpChecksum curWord).withLast
              (curWord.last && !extra)])
      | _, _, _ => (state, [])
  | .readPayload =>
      match state.txTcpPacket with
      | [] => (state, [])
      | curWord :: later =>
          ({ state with
              fsmState :=
                if curWord.last then .readFirst else .readPayload
              prevWord := curWord
              txTcpPacket := later },
            [(concatTwoWords curWord state.prevWord 44
              NetAXISWord.empty).withLast
                (curWord.last && !curWord.keep.getLsbD 44)])
  | .extraWord =>
      ({ state with fsmState := .readFirst },
        [(concatTwoWords NetAXISWord.empty state.prevWord 44
          NetAXISWord.empty).withLast true])

end TcpOffload
