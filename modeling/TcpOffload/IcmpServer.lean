import TcpOffload.WordFrames

/-!
# The ICMP server

`icmp_server.cpp`: an echo request to us is sent back with the addresses
swapped, as an echo reply, and its checksum adjusted to the new type.
-/

namespace TcpOffload

open Clocked

/-! ## `ComputeChechkSum20B` -/

/-- The first level of the adder tree. -/
def checksumL1 (ipHeader : BitVec 160) (m : Nat) : BitVec 17 :=
  (ipHeader.extractLsb' (16 * (2 * m)) 16).setWidth 17 +
    (ipHeader.extractLsb' (16 * (2 * m + 1)) 16).setWidth 17

def checksumL2 (ipHeader : BitVec 160) (m : Nat) : BitVec 18 :=
  (checksumL1 ipHeader (2 * m)).setWidth 18 +
    (checksumL1 ipHeader (2 * m + 1)).setWidth 18

def checksumL3 (ipHeader : BitVec 160) : BitVec 20 :=
  (checksumL2 ipHeader 0).setWidth 20 +
    (checksumL2 ipHeader 1).setWidth 20 +
    (checksumL1 ipHeader 4).setWidth 20

/-- The checksum of a header without options, its first byte at the upper
end. -/
def computeChechkSum20B (ipHeader : BitVec 160) : BitVec 16 :=
  let sum := checksumL3 ipHeader
  let checksumL4R : BitVec 17 :=
    (sum.extractLsb' 0 16).setWidth 17 +
      (sum.extractLsb' 16 4).setWidth 17
  let checksumL4O : BitVec 17 :=
    (sum.extractLsb' 0 16).setWidth 17 +
      (sum.extractLsb' 16 4).setWidth 17 + 1
  if checksumL4R.getLsbD 16 then
    ~~~checksumL4O.extractLsb' 0 16
  else
    ~~~checksumL4R.extractLsb' 0 16

/-! ## `icmp_server` -/

/-- `ECHO_REQUEST`. -/
def echoRequest : BitVec 8 := 0x08

/-- `ECHO_REPLY`. -/
def echoReply : BitVec 8 := 0x00

/-- `ICMP_PROTOCOL`. -/
def icmpProtocol : BitVec 8 := 0x01

inductive IcmpFsmState where
  | readPacket
  | evaluateConditions
  | sendFirstWord
  | forward
  | dropPacket
deriving DecidableEq, Repr

structure IcmpState where
  fsmState : IcmpFsmState
  prevWord : NetAXISWord
  dstIp : BitVec 32
  icmpChecksum : BitVec 17
  icmpType : BitVec 8
  icmpCode : BitVec 8
  auxinChecksumReg : BitVec 16
  dataIn : List NetAXISWord
deriving DecidableEq, Repr

/-- The first 20 bytes of a word, the first one at the upper end. -/
def auxIpHeader (word : NetAXISWord) : BitVec 160 :=
  swapByte (word.data.extractLsb' 0 160)

namespace IcmpState

/-- `READ_PACKET`: what the evaluation and the reply need is registered. -/
def registered (curWord : NetAXISWord) (later : List NetAXISWord) :
    IcmpState where
  fsmState := .evaluateConditions
  prevWord := curWord
  dstIp := curWord.data.extractLsb' 128 32
  icmpType := curWord.data.extractLsb' 160 8
  icmpCode := curWord.data.extractLsb' 168 8
  icmpChecksum :=
    (curWord.data.extractLsb' 176 8 ++
      curWord.data.extractLsb' 184 8).setWidth 17 + 0x0800
  auxinChecksumReg := computeChechkSum20B (auxIpHeader curWord)
  dataIn := later

/-- The conditions of `EVALUATE_CONDITIONS`. -/
def conditions (myIpaddr : BitVec 32) (state : IcmpState) : Bool :=
  state.dstIp == myIpaddr &&
    (state.icmpType == echoRequest && state.icmpCode == 0) &&
    state.auxinChecksumReg == 0

/-- `SEND_FIRST_WORD`: time to live, protocol, swapped addresses, type and
checksum of the reply; the checksum of the IP header is cleared. -/
def firstWord (state : IcmpState) : NetAXISWord :=
  let prevWord := state.prevWord
  let icmpChecksumTmp : BitVec 17 :=
    (state.icmpChecksum.extractLsb' 0 16).setWidth 17 +
      (state.icmpChecksum.extractLsb' 16 1).setWidth 17
  { prevWord with
    data :=
      prevWord.data.extractLsb' 192 320 ++
        icmpChecksumTmp.extractLsb' 0 8 ++
        icmpChecksumTmp.extractLsb' 8 8 ++
        prevWord.data.extractLsb' 168 8 ++ echoReply ++
        prevWord.data.extractLsb' 96 32 ++
        prevWord.data.extractLsb' 128 32 ++ (0 : BitVec 16) ++
        icmpProtocol ++ (128 : BitVec 8) ++
        prevWord.data.extractLsb' 0 64 }

end IcmpState

/-- `icmp_server`, where the local variable `cur_word` holds the given word
before it is assigned: `EVALUATE_CONDITIONS` asks for its `last` flag and not
for that of the registered word. -/
def icmpServer (myIpaddr : BitVec 32) (curWord : NetAXISWord)
    (state : IcmpState) : IcmpState × List NetAXISWord :=
  match state.fsmState with
  | .readPacket =>
      match state.dataIn with
      | [] => (state, [])
      | curWord :: later => (IcmpState.registered curWord later, [])
  | .evaluateConditions =>
      ({ state with
          fsmState :=
            if state.conditions myIpaddr then
              .sendFirstWord
            else if !curWord.last then
              .dropPacket
            else
              .readPacket },
        [])
  | .sendFirstWord =>
      ({ state with
          fsmState :=
            if state.prevWord.last then .readPacket else .forward },
        [state.firstWord])
  | .dropPacket =>
      match state.dataIn with
      | [] => (state, [])
      | curWord :: later =>
          ({ state with
              fsmState :=
                if curWord.last then .readPacket else .dropPacket
              dataIn := later },
            [])
  | .forward =>
      match state.dataIn with
      | [] => (state, [])
      | curWord :: later =>
          ({ state with
              fsmState := if curWord.last then .readPacket else .forward
              dataIn := later },
            [curWord])

/-- The evaluation reads `cur_word` unassigned. -/
def IcmpState.evaluates (state : IcmpState) : Bool :=
  state.fsmState = .evaluateConditions

/-- The calls of `icmp_server`, with what they find in `cur_word`. -/
def icmpServerCall (myIpaddr : BitVec 32) :
    IcmpState × (Nat → NetAXISWord) →
      (IcmpState × (Nat → NetAXISWord)) × List NetAXISWord :=
  drawing (icmpServer myIpaddr) IcmpState.evaluates

end TcpOffload
