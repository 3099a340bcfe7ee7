import TcpOffload.ArpServer
import TcpOffload.InternetChecksum
import TcpOffload.Realign

/-!
# The Ethernet header inserter

The three processes of `ethernet_header_inserter.cpp`: the first word of a
packet asks for a MAC address and gets its checksum, the other words wait, and
the answer decides whether all of them leave behind an Ethernet header or none
of them does.
-/

namespace TcpOffload

open Clocked Framing

/-! ## `BroadcastMacRequest` -/

inductive BmrFsmState where
  | firstWord
  | remaining
deriving DecidableEq, Repr

structure BroadcastMacState where
  fsmState : BmrFsmState
  ipSegIn : List NetAXISWord
deriving DecidableEq, Repr

inductive BroadcastMacMsg where
  | arpTableReq (ip : IpAddr)
  | ipHeaderOut (word : NetAXISWord)
  | noIpHeaderOut (word : NetAXISWord)
deriving DecidableEq, Repr

/-- An address outside the subnet is reached by the gateway. -/
def arpRequestFor
    (subnetMask gatewayIpAddr dstIpAddr : IpAddr) : IpAddr :=
  if dstIpAddr &&& subnetMask = gatewayIpAddr &&& subnetMask then
    dstIpAddr
  else
    gatewayIpAddr

def broadcastMacRequest
    (subnetMask gatewayIpAddr : IpAddr) (state : BroadcastMacState) :
    BroadcastMacState × List BroadcastMacMsg :=
  match state.ipSegIn with
  | [] => (state, [])
  | curWord :: later =>
      match state.fsmState with
      | .firstWord =>
          ({ state with
              fsmState := if curWord.last then .firstWord else .remaining
              ipSegIn := later },
            [.arpTableReq
                (arpRequestFor subnetMask gatewayIpAddr
                  (curWord.data.extractLsb' 128 32)),
              .ipHeaderOut curWord])
      | .remaining =>
          ({ state with
              fsmState := if curWord.last then .firstWord else .remaining
              ipSegIn := later },
            [.noIpHeaderOut curWord])

def BroadcastMacMsg.toHeader : BroadcastMacMsg → Option NetAXISWord
  | .ipHeaderOut word => some word
  | _ => none

def BroadcastMacMsg.toRest : BroadcastMacMsg → Option NetAXISWord
  | .noIpHeaderOut word => some word
  | _ => none

/-! ## `ComputeAndInsertIpv4Checksum` -/

/-- One level of the adder tree, one bit wider than its operands. -/
def pairSums {width : Nat} :
    List (BitVec width) → List (BitVec (width + 1))
  | first :: second :: later =>
      (first.setWidth (width + 1) + second.setWidth (width + 1)) ::
        pairSums later
  | [single] => [single.setWidth (width + 1)]
  | [] => []

/-- The 16-bit words of the header, in network order and without the
checksum; behind the header there is 0. -/
def ipOps (curWord : NetAXISWord) : List (BitVec 16) :=
  let ipHeaderLen := (curWord.data.extractLsb' 0 4).toNat
  ((List.range 30).map fun i =>
    if i < ipHeaderLen * 2 then
      swapByte (curWord.data.extractLsb' (16 * i) 16)
    else
      0).set 5 0

/-- The checksum of the IPv4 header in the word. -/
def ipChecksum (curWord : NetAXISWord) : BitVec 16 :=
  let ipSumsL5 : BitVec 21 :=
    (pairSums (pairSums (pairSums (pairSums (pairSums
      (ipOps curWord)))))).headD 0
  let finalSum : BitVec 17 :=
    (ipSumsL5.extractLsb' 0 16).setWidth 17 +
      (ipSumsL5.extractLsb' 16 5).setWidth 17
  let carried := (finalSum.extractLsb' 16 1).setWidth 17 + finalSum
  ~~~carried.extractLsb' 0 16

/-- The checksum goes into the bits 80 to 95, its upper byte first. -/
def insertIpChecksum (curWord : NetAXISWord) : NetAXISWord :=
  let checksum := ipChecksum curWord
  { curWord with
    data :=
      curWord.data.extractLsb' 96 416 ++ checksum.extractLsb' 0 8 ++
        checksum.extractLsb' 8 8 ++ curWord.data.extractLsb' 0 80 }

def computeAndInsertIpv4Checksum (state : List NetAXISWord) :
    List NetAXISWord × List NetAXISWord :=
  match state with
  | [] => ([], [])
  | curWord :: later => (later, [insertIpChecksum curWord])

/-! ## `EthernetHandleOutput` -/

structure NetAXISMacHeader where
  data : BitVec 112
  keep : BitVec 14
deriving DecidableEq, Repr

inductive MwState where
  | waitLookup
  | dropIp
  | dropNoIp
  | writeFirstTransaction
  | writeRemaining
  | writeExtraLastWord
deriving DecidableEq, Repr

structure EthernetOutputState where
  mwState : MwState
  previousWord : NetAXISMacHeader
  arpTableRsp : List ArpTableRsp
  ipHeaderWithChecksum : List NetAXISWord
  noIpHeaderOut : List NetAXISWord
deriving DecidableEq, Repr

/-- The Ethernet header of an IPv4 packet. -/
def macHeader (myMacAddr macAddr : MacAddr) : NetAXISMacHeader where
  data := (0x0008 : BitVec 16) ++ myMacAddr ++ macAddr
  keep := 0x3FFF

/-- The bytes held, and in front of the new ones. -/
def composeWord
    (previousWord : NetAXISMacHeader) (current : NetAXISWord) :
    NetAXISWord where
  data := current.data.extractLsb' 0 400 ++ previousWord.data
  dest := 0
  keep := current.keep.extractLsb' 0 50 ++ previousWord.keep
  last := false

/-- What of a word does not fit behind 14 bytes. -/
def leftOver (current : NetAXISWord) : NetAXISMacHeader where
  data := current.data.extractLsb' 400 112
  keep := current.keep.extractLsb' 50 14

/-- The state behind a word of the packet, and whether its transaction is the
last one. -/
def afterTransaction (current : NetAXISWord) : MwState × Bool :=
  if current.last then
    if current.keep.getLsbD 50 then
      (.writeExtraLastWord, false)
    else
      (.waitLookup, true)
  else
    (.writeRemaining, false)

def ethernetHandleOutput
    (myMacAddr : MacAddr) (state : EthernetOutputState) :
    EthernetOutputState × List NetAXISWord :=
  match state.mwState with
  | .waitLookup =>
      match state.arpTableRsp with
      | [] => (state, [])
      | reply :: later =>
          if reply.hit then
            ({ state with
                mwState := .writeFirstTransaction
                previousWord := macHeader myMacAddr reply.macAddr
                arpTableRsp := later },
              [])
          else
            ({ state with mwState := .dropIp, arpTableRsp := later }, [])
  | .dropIp =>
      match state.ipHeaderWithChecksum with
      | [] => (state, [])
      | current :: later =>
          ({ state with
              mwState := if current.last then .waitLookup else .dropNoIp
              ipHeaderWithChecksum := later },
            [])
  | .dropNoIp =>
      match state.noIpHeaderOut with
      | [] => (state, [])
      | current :: later =>
          ({ state with
              mwState := if current.last then .waitLookup else .dropNoIp
              noIpHeaderOut := later },
            [])
  | .writeFirstTransaction =>
      match state.ipHeaderWithChecksum with
      | [] => (state, [])
      | current :: later =>
          ({ state with
              mwState := (afterTransaction current).1
              previousWord := leftOver current
              ipHeaderWithChecksum := later },
            [(composeWord state.previousWord current).withLast
              (afterTransaction current).2])
  | .writeRemaining =>
      match state.noIpHeaderOut with
      | [] => (state, [])
      | current :: later =>
          ({ state with
              mwState := (afterTransaction current).1
              previousWord := leftOver current
              noIpHeaderOut := later },
            [(composeWord state.previousWord current).withLast
              (afterTransaction current).2])
  | .writeExtraLastWord =>
      ({ state with mwState := .waitLookup },
        [(composeWord state.previousWord NetAXISWord.empty).withLast
          true])

end TcpOffload
