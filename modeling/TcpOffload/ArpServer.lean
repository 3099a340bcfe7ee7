import TcpOffload.Conn

/-!
# The ARP server

`arp_server.cpp`: the table of MAC addresses and the scanner, which hands the
requests of a client on to the table and can also ask for every address of the
subnet.  The configured build has `SCANNING` off.
-/

namespace TcpOffload

abbrev MacAddr := BitVec 48

structure ArpTableEntry where
  macAddr : MacAddr
  ipAddr : IpAddr
  valid : Bool
deriving DecidableEq, Repr

structure ArpTableRsp where
  macAddr : MacAddr
  hit : Bool
deriving DecidableEq, Repr

/-- The addresses that the ports give a call. -/
structure ArpPorts where
  myIpAddr : IpAddr
  gatewayIpAddr : IpAddr
  subnetMask : IpAddr
deriving DecidableEq, Repr

/-! ## The table -/

structure ArpTableState where
  arpCacheTable : BitVec 8 → ArpTableEntry
  arpTableInserts : List ArpTableEntry
  macIpEncodeReqs : List IpAddr

inductive ArpTableMsg where
  | macIpEncodeRsp (rsp : ArpTableRsp)
  | arpRequestedIp (ip : IpAddr)
deriving DecidableEq, Repr

/-- The table is indexed by the last number of an address. -/
def arpTableIndex (ip : IpAddr) : BitVec 8 :=
  ip.extractLsb' 24 8

/-- An address of the subnet, or else the gateway. -/
def ArpPorts.nextHopIp (ports : ArpPorts) (reqIp : IpAddr) : IpAddr :=
  if reqIp &&& ports.subnetMask = ports.myIpAddr &&& ports.subnetMask then
    reqIp
  else
    ports.gatewayIpAddr

/-- `ArpTableHandler`: an insertion comes before a request. -/
def arpTableHandler (ports : ArpPorts) (state : ArpTableState) :
    ArpTableState × List ArpTableMsg :=
  match state.arpTableInserts, state.macIpEncodeReqs with
  | entry :: later, _ =>
      ({ state with
          arpTableInserts := later
          arpCacheTable :=
            Function.update state.arpCacheTable
              (arpTableIndex entry.ipAddr) entry },
        [])
  | [], reqIp :: later =>
      let entry :=
        state.arpCacheTable (arpTableIndex (ports.nextHopIp reqIp))
      ({ state with macIpEncodeReqs := later },
        (if entry.valid then [] else [.arpRequestedIp reqIp]) ++
          [.macIpEncodeRsp ⟨entry.macAddr, entry.valid⟩])
  | [], [] => (state, [])

/-! ## The scanner -/

inductive GenScanFsmState where
  | setup
  | waitTime
  | genIp
  | fwd
  | waitResponse
deriving DecidableEq, Repr

/-- `MAX_COUNT` of the synthesised build. -/
def arpMaxCount : BitVec 32 := 1500000000

structure ArpScanState where
  fsmState : GenScanFsmState
  timeCounter : BitVec 32
  ipLsb : BitVec 8
  arpScan1d : Bool
  arpScan : Bool
  macIpEncodeReqIn : List IpAddr
  macIpEncodeRspIn : List ArpTableRsp
deriving DecidableEq, Repr

inductive ArpScanMsg where
  | macIpEncodeReqOut (ip : IpAddr)
  | macIpEncodeRspOut (rsp : ArpTableRsp)
deriving DecidableEq, Repr

namespace ArpScanState

def start : ArpScanState where
  fsmState := .fwd
  timeCounter := 0
  ipLsb := 0
  arpScan1d := false
  arpScan := false
  macIpEncodeReqIn := []
  macIpEncodeRspIn := []

/-- The scan flag has been set since the call before, and the client's
requests or the table's responses leave the scanner something to do. -/
def startsScan (state : ArpScanState) : Bool :=
  (state.macIpEncodeReqIn.isEmpty || state.macIpEncodeRspIn.isEmpty) &&
    !state.arpScan1d && state.arpScan

/-- `FWD`: one request and one response go through. -/
def forward (state : ArpScanState) : ArpScanState × List ArpScanMsg :=
  let forwarded :=
    { state with
      macIpEncodeReqIn := state.macIpEncodeReqIn.tail
      macIpEncodeRspIn := state.macIpEncodeRspIn.tail }
  (if state.startsScan then
      { forwarded with arpScan := false, fsmState := .setup }
    else
      forwarded,
    (state.macIpEncodeReqIn.head?.map .macIpEncodeReqOut).toList ++
      (state.macIpEncodeRspIn.head?.map .macIpEncodeRspOut).toList)

/-- The `switch` of `GenArpScan`. -/
def run (ports : ArpPorts) (state : ArpScanState) :
    ArpScanState × List ArpScanMsg :=
  match state.fsmState with
  | .waitTime =>
      ({ state with
          fsmState :=
            if state.timeCounter = arpMaxCount then .genIp else .waitTime
          timeCounter := state.timeCounter + 1 },
        [])
  | .genIp =>
      ({ state with
          ipLsb := state.ipLsb + 1
          fsmState := .waitResponse },
        [.macIpEncodeReqOut
          (state.ipLsb ++ ports.myIpAddr.extractLsb' 0 24)])
  | .waitResponse =>
      match state.macIpEncodeRspIn with
      | _ :: later =>
          ({ state with
              macIpEncodeRspIn := later
              fsmState := if state.ipLsb = 0 then .fwd else .genIp },
            [])
      | [] => (state, [])
  | .fwd => state.forward
  | .setup => ({ state with ipLsb := 0, fsmState := .genIp }, [])

end ArpScanState

/-- `GenArpScan`. -/
def genArpScan (ports : ArpPorts) (state : ArpScanState) :
    ArpScanState × List ArpScanMsg :=
  let called := state.run ports
  ({ called.1 with arpScan1d := called.1.arpScan }, called.2)

end TcpOffload
