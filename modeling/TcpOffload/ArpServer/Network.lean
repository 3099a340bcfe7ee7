import TcpOffload.ArpServer.CacheHits
import TcpOffload.ArpServer.Sender

/-!
# ARP servers on a network

Any number of stations, each with the four processes of `arp_server.cpp`, on
one medium: every packet that was sent may reach every station, at any time,
any number of times or never.
-/

namespace TcpOffload

open Guarded

/-! ## The network -/

/-- The addresses that a station is configured with. -/
structure ArpStation where
  myMacAddr : MacAddr
  ports : ArpPorts

/-- The processes of `arp_server`, and its answers to the client. -/
structure ArpServer where
  receiver : ArpReceiverState
  sender : ArpSenderState
  table : ArpTableState
  scan : ArpScanState
  macIpEncodeRsps : List ArpTableRsp

def ArpReceiverMsg.toSender : ArpReceiverMsg → Option ArpMetaRsp
  | .arpRsp rsp => some rsp
  | .arpTableInsert _ => none

def ArpTableMsg.toSender : ArpTableMsg → Option IpAddr
  | .macIpEncodeRsp _ => none
  | .arpRequestedIp ip => some ip

namespace ArpServer

/-- The cache is empty, whatever is left in it. -/
def start (stale : BitVec 8 → MacAddr × IpAddr) : ArpServer where
  receiver := ⟨0, []⟩
  sender := ⟨.arpIdleState, ⟨0, 0, 0, 0, 0, 0, 0, 0⟩, 0, [], []⟩
  table := ⟨fun index => ⟨(stale index).1, (stale index).2, false⟩, [], []⟩
  scan := ArpScanState.start
  macIpEncodeRsps := []

def callReceiver (server : ArpServer) (station : ArpStation) :
    ArpServer :=
  let called := arpPkgReceiver station.ports.myIpAddr server.receiver
  { server with
    receiver := called.1
    sender :=
      { server.sender with
        arpRsps :=
          server.sender.arpRsps ++
            called.2.filterMap ArpReceiverMsg.toSender }
    table :=
      { server.table with
        arpTableInserts :=
          server.table.arpTableInserts ++
            called.2.filterMap ArpReceiverMsg.toTable } }

def callSender (server : ArpServer) (station : ArpStation) : ArpServer :=
  { server with
    sender :=
      (arpPkgSender station.ports station.myMacAddr server.sender).1 }

def callTable (server : ArpServer) (station : ArpStation) : ArpServer :=
  let called := arpTableHandler station.ports server.table
  { server with
    table := called.1
    sender :=
      { server.sender with
        arpRequestIpAddrs :=
          server.sender.arpRequestIpAddrs ++
            called.2.filterMap ArpTableMsg.toSender }
    scan :=
      { server.scan with
        macIpEncodeRspIn :=
          server.scan.macIpEncodeRspIn ++
            called.2.filterMap ArpTableMsg.toScan } }

def callScan (server : ArpServer) (station : ArpStation) : ArpServer :=
  let called := genArpScan station.ports server.scan
  { server with
    scan := called.1
    table :=
      { server.table with
        macIpEncodeReqs :=
          server.table.macIpEncodeReqs ++
            called.2.filterMap ArpScanMsg.toTable }
    macIpEncodeRsps :=
      server.macIpEncodeRsps ++ called.2.filterMap ArpScanMsg.toClient }

/-- The packets that a call of the sender writes. -/
def sends (server : ArpServer) (station : ArpStation) : List ArpPacket :=
  (arpPkgSender station.ports station.myMacAddr server.sender).2

/-- The requests that a call of the receiver hands to the sender. -/
def takes (server : ArpServer) (station : ArpStation) :
    List ArpMetaRsp :=
  (arpPkgReceiver station.ports.myIpAddr server.receiver).2.filterMap
    ArpReceiverMsg.toSender

/-- The addresses that a call of the table asks for. -/
def asks (server : ArpServer) (station : ArpStation) : List IpAddr :=
  (arpTableHandler station.ports server.table).2.filterMap
    ArpTableMsg.toSender

end ArpServer

/-- A call of a process of a station, a packet that reaches it, a request of
its client, or its scan flag set from outside. -/
inductive ArpNetworkAction (Station : Type) where
  | arpPkgReceiver (station : Station)
  | arpPkgSender (station : Station)
  | arpTableHandler (station : Station)
  | genArpScan (station : Station)
  | deliver (station : Station) (packet : ArpPacket)
  | macIpEncodeReq (station : Station) (ip : IpAddr)
  | arpScan (station : Station)

/-- The servers, the packets of each station so far, the requests to it that
its receiver took, and the addresses that its table asked for. -/
structure ArpNetwork (Station : Type) where
  servers : Station → ArpServer
  sent : Station → List ArpPacket
  taken : Station → List ArpMetaRsp
  asked : Station → List IpAddr

namespace ArpNetwork

section Steps

variable {Station : Type} [DecidableEq Station]

def start (stale : Station → BitVec 8 → MacAddr × IpAddr) :
    ArpNetwork Station where
  servers := fun station => ArpServer.start (stale station)
  sent := fun _ => []
  taken := fun _ => []
  asked := fun _ => []

/-- A server after one of its calls. -/
def update
    (network : ArpNetwork Station) (station : Station)
    (server : ArpServer) : ArpNetwork Station :=
  { network with
    servers := Function.update network.servers station server }

def act
    (network : ArpNetwork Station) (stations : Station → ArpStation) :
    ArpNetworkAction Station → ArpNetwork Station
  | .arpPkgReceiver station =>
      let server := network.servers station
      { network.update station (server.callReceiver (stations station)) with
        taken :=
          Function.update network.taken station
            (network.taken station ++ server.takes (stations station)) }
  | .arpPkgSender station =>
      let server := network.servers station
      { network.update station (server.callSender (stations station)) with
        sent :=
          Function.update network.sent station
            (network.sent station ++ server.sends (stations station)) }
  | .arpTableHandler station =>
      let server := network.servers station
      { network.update station (server.callTable (stations station)) with
        asked :=
          Function.update network.asked station
            (network.asked station ++ server.asks (stations station)) }
  | .genArpScan station =>
      network.update station
        ((network.servers station).callScan (stations station))
  | .deliver station packet =>
      let server := network.servers station
      network.update station
        { server with
          receiver :=
            { server.receiver with
              arpDataIn := server.receiver.arpDataIn ++ [packet.word] } }
  | .macIpEncodeReq station ip =>
      let server := network.servers station
      network.update station
        { server with
          scan :=
            { server.scan with
              macIpEncodeReqIn := server.scan.macIpEncodeReqIn ++ [ip] } }
  | .arpScan station =>
      let server := network.servers station
      network.update station
        { server with scan := { server.scan with arpScan := true } }

/-- What reaches a station was sent by one. -/
def WasSent (network : ArpNetwork Station) :
    ArpNetworkAction Station → Prop
  | .deliver _ packet => ∃ other, packet ∈ network.sent other
  | _ => True

end Steps

end ArpNetwork

/-- One step of the network. -/
structure ArpNetworkStep
    {Station : Type} [DecidableEq Station]
    (stations : Station → ArpStation) (network : ArpNetwork Station)
    (action : ArpNetworkAction Station) (next : ArpNetwork Station) :
    Prop where
  next : next = network.act stations action
  wasSent : network.WasSent action

/-! ## The invariant -/

section Invariant

variable {Station : Type} {stations : Station → ArpStation}

/-- A packet that names a station as its sender, with its own MAC address. -/
def FromStation
    (stations : Station → ArpStation) (packet : ArpPacket) : Prop :=
  ∃ other,
    packet.arpSrcHwAddr = (stations other).myMacAddr ∧
      packet.arpSrcProtoAddr = (stations other).ports.myIpAddr

/-- The entry of a station. -/
def OfStation
    (stations : Station → ArpStation) (entry : ArpTableEntry) : Prop :=
  ∃ other,
    entry.macAddr = (stations other).myMacAddr ∧
      entry.ipAddr = (stations other).ports.myIpAddr

/-- What holds of a station, its server and its part of the history. -/
structure ArpServerKept
    (stations : Station → ArpStation) (station : ArpStation)
    (server : ArpServer) (sent : List ArpPacket)
    (taken : List ArpMetaRsp) (asked : List IpAddr) : Prop where
  own :
    ∀ packet ∈ sent,
      packet.arpSrcHwAddr = station.myMacAddr ∧
        packet.arpSrcProtoAddr = station.ports.myIpAddr
  opCodes :
    ∀ packet ∈ sent,
      packet.arpOpCode = arpReply ∨ packet.arpOpCode = arpRequest
  arriving :
    ∀ word ∈ server.receiver.arpDataIn,
      ∃ packet, FromStation stations packet ∧ word = packet.word
  atFirst : server.receiver.wordCount = 0
  inserts :
    ∀ entry ∈ server.table.arpTableInserts, OfStation stations entry
  slots :
    ∀ index,
      (server.table.arpCacheTable index).valid = true →
        OfStation stations (server.table.arpCacheTable index) ∧
          arpTableIndex (server.table.arpCacheTable index).ipAddr = index
  answers :
    sent.filter (·.arpOpCode == arpReply) ++
        server.sender.toAnswer.map
          (station.ports.replyTo station.myMacAddr) =
      taken.map (station.ports.replyTo station.myMacAddr)
  questions :
    sent.filter (·.arpOpCode == arpRequest) ++
        server.sender.toAsk.map
          (station.ports.requestFor station.myMacAddr) =
      asked.map (station.ports.requestFor station.myMacAddr)

namespace ArpServerKept

variable {station : ArpStation} {server : ArpServer}
variable {sent : List ArpPacket} {taken : List ArpMetaRsp}
variable {asked : List IpAddr}

theorem start (stale : BitVec 8 → MacAddr × IpAddr) :
    ArpServerKept stations station (ArpServer.start stale) [] [] [] where
  own := fun _ isIn => by cases isIn
  opCodes := fun _ isIn => by cases isIn
  arriving := fun _ isIn => by cases isIn
  atFirst := rfl
  inserts := fun _ isIn => by cases isIn
  slots := fun _ isValid => by cases isValid
  answers := rfl
  questions := rfl

/-- A packet arrives. -/
theorem deliver
    (kept : ArpServerKept stations station server sent taken asked)
    {packet : ArpPacket} (fromStation : FromStation stations packet) :
    ArpServerKept stations station
      { server with
        receiver :=
          { server.receiver with
            arpDataIn := server.receiver.arpDataIn ++ [packet.word] } }
      sent taken asked :=
  { kept with
    arriving := by
      intro word isIn
      rcases List.mem_append.1 isIn with earlier | new
      · exact kept.arriving word earlier
      · exact ⟨packet, fromStation, List.mem_singleton.1 new⟩ }

/-- The receiver hands a request on to the sender, or a reply to the
table. -/
theorem callReceiver
    (kept : ArpServerKept stations station server sent taken asked) :
    ArpServerKept stations station (server.callReceiver station) sent
      (taken ++ server.takes station) asked := by
  have toAnswer (more : List ArpMetaRsp) :
      ArpSenderState.toAnswer
          { server.sender with
            arpRsps := server.sender.arpRsps ++ more } =
        server.sender.toAnswer ++ more := by
    rw [ArpSenderState.toAnswer, ArpSenderState.toAnswer]
    cases server.sender.apsFsmState with
    | arpIdleState | arpReplyState | arpSentreqState =>
        rfl
  have answers :
      sent.filter (·.arpOpCode == arpReply) ++
          (server.callReceiver station).sender.toAnswer.map
            (station.ports.replyTo station.myMacAddr) =
        (taken ++ server.takes station).map
          (station.ports.replyTo station.myMacAddr) := by
    rw [ArpServer.callReceiver]
    dsimp only
    rw [toAnswer, List.map_append, List.map_append, ← List.append_assoc,
      kept.answers]
    rfl
  have received :
      (arpPkgReceiver station.ports.myIpAddr
              server.receiver).1.wordCount = 0 ∧
        (∀ word ∈ (arpPkgReceiver station.ports.myIpAddr
              server.receiver).1.arpDataIn,
          word ∈ server.receiver.arpDataIn) ∧
        ∀ entry ∈ (arpPkgReceiver station.ports.myIpAddr
              server.receiver).2.filterMap ArpReceiverMsg.toTable,
          OfStation stations entry := by
    have arriving := kept.arriving
    rw [arpPkgReceiver]
    cases queued : server.receiver.arpDataIn with
    | nil =>
        refine ⟨kept.atFirst, ?_, List.forall_mem_nil _⟩
        rw [queued]
        exact fun _ isIn => isIn
    | cons word later =>
        rw [queued] at arriving
        obtain ⟨packet, fromStation, rfl⟩ :=
          arriving word List.mem_cons_self
        refine
          ⟨rfl, fun _ isIn => List.mem_cons_of_mem _ isIn, ?_⟩
        dsimp only
        rw [if_pos kept.atFirst, ArpPacket.arpPacket_word]
        split
        · exact List.forall_mem_nil _
        · split
          · exact List.forall_mem_singleton.2 fromStation
          · exact List.forall_mem_nil _
  obtain ⟨atFirst, arriving, inserts⟩ := received
  exact
    { kept with
      arriving := fun word isIn => kept.arriving word (arriving word isIn)
      atFirst := atFirst
      inserts := List.forall_mem_append.2 ⟨kept.inserts, inserts⟩
      answers := answers }

/-- Every packet of a station names it as its sender, and is a reply or a
request. -/
theorem sends_own (server : ArpServer) (station : ArpStation) :
    (∀ packet ∈ server.sends station,
        packet.arpSrcHwAddr = station.myMacAddr ∧
          packet.arpSrcProtoAddr = station.ports.myIpAddr) ∧
      ∀ packet ∈ server.sends station,
        packet.arpOpCode = arpReply ∨ packet.arpOpCode = arpRequest := by
  rw [ArpServer.sends, arpPkgSender]
  split
  · split
    · exact ⟨List.forall_mem_nil _, List.forall_mem_nil _⟩
    · exact ⟨List.forall_mem_nil _, List.forall_mem_nil _⟩
    · exact ⟨List.forall_mem_nil _, List.forall_mem_nil _⟩
  · exact
      ⟨List.forall_mem_singleton.2 ⟨rfl, rfl⟩,
        List.forall_mem_singleton.2 (Or.inr rfl)⟩
  · exact
      ⟨List.forall_mem_singleton.2 ⟨rfl, rfl⟩,
        List.forall_mem_singleton.2 (Or.inl rfl)⟩

theorem callSender
    (kept : ArpServerKept stations station server sent taken asked) :
    ArpServerKept stations station (server.callSender station)
      (sent ++ server.sends station) taken asked := by
  obtain ⟨replies, requests⟩ :=
    server.sender.arpPkgSender_keeps station.ports station.myMacAddr
  obtain ⟨own, opCodes⟩ := sends_own server station
  refine
    { kept with
      own := List.forall_mem_append.2 ⟨kept.own, own⟩
      opCodes := List.forall_mem_append.2 ⟨kept.opCodes, opCodes⟩
      answers := ?_
      questions := ?_ }
  · rw [List.filter_append, List.append_assoc]
    exact (congrArg (_ ++ ·) replies).trans kept.answers
  · rw [List.filter_append, List.append_assoc]
    exact (congrArg (_ ++ ·) requests).trans kept.questions

/-- The table takes an entry, or answers and may ask. -/
theorem callTable
    (kept : ArpServerKept stations station server sent taken asked) :
    ArpServerKept stations station (server.callTable station) sent taken
      (asked ++ server.asks station) := by
  have toAsk (more : List IpAddr) :
      ArpSenderState.toAsk
          { server.sender with
            arpRequestIpAddrs :=
              server.sender.arpRequestIpAddrs ++ more } =
        server.sender.toAsk ++ more := by
    rw [ArpSenderState.toAsk, ArpSenderState.toAsk]
    cases server.sender.apsFsmState with
    | arpIdleState | arpReplyState | arpSentreqState =>
        rfl
  have questions :
      sent.filter (·.arpOpCode == arpRequest) ++
          (server.callTable station).sender.toAsk.map
            (station.ports.requestFor station.myMacAddr) =
        (asked ++ server.asks station).map
          (station.ports.requestFor station.myMacAddr) := by
    rw [ArpServer.callTable]
    dsimp only
    rw [toAsk, List.map_append, List.map_append, ← List.append_assoc,
      kept.questions]
    rfl
  have table :
      (∀ entry ∈ (arpTableHandler station.ports
            server.table).1.arpTableInserts,
          entry ∈ server.table.arpTableInserts) ∧
        ∀ index,
          ((arpTableHandler station.ports
                server.table).1.arpCacheTable index).valid = true →
            OfStation stations
                ((arpTableHandler station.ports
                  server.table).1.arpCacheTable index) ∧
              arpTableIndex
                  ((arpTableHandler station.ports
                    server.table).1.arpCacheTable index).ipAddr =
                index := by
    have inserts := kept.inserts
    rw [arpTableHandler]
    cases queued : server.table.arpTableInserts with
    | cons entry later =>
        rw [queued] at inserts
        refine ⟨fun _ isIn => List.mem_cons_of_mem _ isIn, ?_⟩
        intro index
        by_cases here : index = arpTableIndex entry.ipAddr
        · subst here
          dsimp only
          rw [Function.update_self]
          exact fun _ => ⟨inserts entry List.mem_cons_self, rfl⟩
        · dsimp only
          rw [Function.update_of_ne here]
          exact kept.slots index
    | nil =>
        cases server.table.macIpEncodeReqs with
        | nil =>
            refine ⟨?_, kept.slots⟩
            rw [queued]
            exact fun _ isIn => isIn
        | cons reqIp later =>
            exact ⟨fun _ isIn => isIn, kept.slots⟩
  exact
    { kept with
      inserts := fun entry isIn =>
        kept.inserts entry (table.1 entry isIn)
      slots := table.2
      questions := questions }

/-- The scanner and the client touch neither packets nor entries. -/
theorem scanned
    (kept : ArpServerKept stations station server sent taken asked)
    {after : ArpServer} (receiver : after.receiver = server.receiver)
    (sender : after.sender = server.sender)
    (inserts :
      after.table.arpTableInserts = server.table.arpTableInserts)
    (arpCacheTable :
      after.table.arpCacheTable = server.table.arpCacheTable) :
    ArpServerKept stations station after sent taken asked where
  own := kept.own
  opCodes := kept.opCodes
  arriving := by
    rw [receiver]
    exact kept.arriving
  atFirst := by
    rw [receiver]
    exact kept.atFirst
  inserts := by
    rw [inserts]
    exact kept.inserts
  slots := by
    rw [arpCacheTable]
    exact kept.slots
  answers := by
    rw [sender]
    exact kept.answers
  questions := by
    rw [sender]
    exact kept.questions

end ArpServerKept

end Invariant

/-! ## Runs -/

namespace ArpNetwork

section Runs

variable {Station : Type} {stations : Station → ArpStation}
variable {network : ArpNetwork Station}

/-- Every station is kept. -/
def Kept
    (stations : Station → ArpStation) (network : ArpNetwork Station) :
    Prop :=
  ∀ station,
    ArpServerKept stations (stations station) (network.servers station)
      (network.sent station) (network.taken station)
      (network.asked station)

theorem kept_start (stale : Station → BitVec 8 → MacAddr × IpAddr) :
    (start stale).Kept stations :=
  fun station => ArpServerKept.start (stale station)

variable [DecidableEq Station]

/-- A step of one station. -/
theorem Kept.at
    (kept : network.Kept stations) {station : Station}
    {next : ArpNetwork Station} {server : ArpServer}
    {sent : List ArpPacket} {taken : List ArpMetaRsp}
    {asked : List IpAddr}
    (servers :
      next.servers = Function.update network.servers station server)
    (isSent : next.sent = Function.update network.sent station sent)
    (isTaken : next.taken = Function.update network.taken station taken)
    (isAsked : next.asked = Function.update network.asked station asked)
    (here :
      ArpServerKept stations (stations station) server sent taken asked) :
    next.Kept stations := by
  intro other
  rw [servers, isSent, isTaken, isAsked]
  by_cases same : other = station
  · subst same
    simp only [Function.update_self]
    exact here
  · simp only [Function.update_of_ne same]
    exact kept other

theorem Kept.step {action : ArpNetworkAction Station}
    {next : ArpNetwork Station} (kept : network.Kept stations)
    (stepped : ArpNetworkStep stations network action next) :
    next.Kept stations := by
  obtain ⟨rfl, wasSent⟩ := stepped
  have same {Part : Type} (part : Station → Part) (station : Station) :
      part = Function.update part station (part station) :=
    (Function.update_eq_self station part).symm
  cases action with
  | arpPkgReceiver station =>
      exact
        kept.at rfl (same _ station) rfl (same _ station)
          (kept station).callReceiver
  | arpPkgSender station =>
      exact
        kept.at rfl rfl (same _ station) (same _ station)
          (kept station).callSender
  | arpTableHandler station =>
      exact
        kept.at rfl (same _ station) (same _ station) rfl
          (kept station).callTable
  | deliver station packet =>
      obtain ⟨other, isSent⟩ := wasSent
      exact
        kept.at rfl (same _ station) (same _ station) (same _ station)
          ((kept station).deliver ⟨other, (kept other).own packet isSent⟩)
  | genArpScan station | macIpEncodeReq station | arpScan station =>
      exact
        kept.at rfl (same _ station) (same _ station) (same _ station)
          ((kept station).scanned rfl rfl rfl rfl)

end Runs

end ArpNetwork

open ArpNetwork

/-- In every run of any number of stations, whatever happens to their packets
on the way: a hit for an address gives the MAC address of a station whose
address has the last number of the next hop, and of the next hop itself where
no other station shares that number. -/
theorem arpTables_sound
    {Station : Type} [DecidableEq Station]
    (stations : Station → ArpStation)
    (stale : Station → BitVec 8 → MacAddr × IpAddr)
    {actions : List (ArpNetworkAction Station)}
    {final : ArpNetwork Station}
    (run : Run (ArpNetworkStep stations) (start stale) actions final)
    (station : Station) {reqIp : IpAddr} {later : List IpAddr}
    (noInsert : (final.servers station).table.arpTableInserts = [])
    (request :
      (final.servers station).table.macIpEncodeReqs = reqIp :: later) :
    ∀ rsp,
      .macIpEncodeRsp rsp ∈
          (arpTableHandler (stations station).ports
            (final.servers station).table).2 →
        rsp.hit = true →
          let nextHop := (stations station).ports.nextHopIp reqIp
          (∃ other,
              rsp.macAddr = (stations other).myMacAddr ∧
                arpTableIndex (stations other).ports.myIpAddr =
                  arpTableIndex nextHop) ∧
            ∀ target,
              (stations target).ports.myIpAddr = nextHop →
                (∀ other,
                    arpTableIndex (stations other).ports.myIpAddr =
                        arpTableIndex nextHop →
                      other = target) →
                  rsp.macAddr = (stations target).myMacAddr := by
  have kept : final.Kept stations :=
    run.keeps (fun _ _ _ before stepped => before.step stepped)
      (kept_start stale)
  intro rsp answered isHit nextHop
  have entry :
      rsp =
        ⟨((final.servers station).table.arpCacheTable
            (arpTableIndex nextHop)).macAddr,
          ((final.servers station).table.arpCacheTable
            (arpTableIndex nextHop)).valid⟩ := by
    rw [arpTableHandler, noInsert, request] at answered
    dsimp only at answered
    rcases List.mem_append.1 answered with isRequest | isRsp
    · split at isRequest
      · cases isRequest
      · cases List.mem_singleton.1 isRequest
    · cases List.mem_singleton.1 isRsp
      rfl
  rw [entry] at isHit ⊢
  obtain ⟨⟨other, isMac, isIp⟩, sameIndex⟩ :=
    (kept station).slots _ isHit
  rw [isIp] at sameIndex
  refine ⟨⟨other, isMac, sameIndex⟩, fun target _ alone => ?_⟩
  rw [← alone other sameIndex]
  exact isMac

/-- Two stations of the subnet 192.168.0.0. -/
def twoStations (second : Bool) : ArpStation where
  myMacAddr := if second then 0x22 else 0x11
  ports :=
    ⟨if second then 0x0200A8C0 else 0x0100A8C0, 0xFE00A8C0, 0x00FFFFFF⟩

/-- The first station asks for the second, and once more after the reply. -/
def askSecond : List (ArpNetworkAction Bool) :=
  let first := twoStations false
  let second := twoStations true
  let request :=
    first.ports.requestFor first.myMacAddr second.ports.myIpAddr
  [.macIpEncodeReq false second.ports.myIpAddr, .genArpScan false,
    .arpTableHandler false, .arpPkgSender false, .arpPkgSender false,
    .deliver true request, .arpPkgReceiver true, .arpPkgSender true,
    .arpPkgSender true,
    .deliver false
      (second.ports.replyTo second.myMacAddr request.metaRsp),
    .arpPkgReceiver false, .arpTableHandler false,
    .macIpEncodeReq false second.ports.myIpAddr, .genArpScan false]

def afterAskSecond : ArpNetwork Bool :=
  askSecond.foldl (ArpNetwork.act · twoStations)
    (start fun _ _ => (0, 0))

theorem run_askSecond :
    Run (ArpNetworkStep twoStations) (start fun _ _ => (0, 0)) askSecond
      afterAskSecond := by
  repeat' first
    | exact Run.refl _
    | refine Run.head ⟨rfl, trivial⟩ ?_
    | refine Run.head ⟨rfl, ⟨false, by decide +kernel⟩⟩ ?_
    | refine Run.head ⟨rfl, ⟨true, by decide +kernel⟩⟩ ?_

theorem arpTables_sound_askSecond :
    .macIpEncodeRsp ⟨0x22, true⟩ ∈
        (arpTableHandler (twoStations false).ports
          (afterAskSecond.servers false).table).2 ∧
      (0x22 : MacAddr) = (twoStations true).myMacAddr := by
  have answered :
      .macIpEncodeRsp ⟨0x22, true⟩ ∈
        (arpTableHandler (twoStations false).ports
          (afterAskSecond.servers false).table).2 := by
    decide +kernel
  have request :
      (afterAskSecond.servers false).table.macIpEncodeReqs =
        [(twoStations true).ports.myIpAddr] := by
    decide +kernel
  refine ⟨answered, ?_⟩
  exact
    (arpTables_sound twoStations (fun _ _ => (0, 0)) run_askSecond false
      (by decide +kernel) request ⟨0x22, true⟩ answered rfl).2 true
      (by decide) (by decide)

/-- In every run, what a station has sent is its answers to the requests to it
that its receiver took, once each and in their order, and its own requests for
the addresses that its table asked for, once each and in their order, and no
other packet; those that are missing at the end are with its sender. -/
theorem arpRequests_answered_once
    {Station : Type} [DecidableEq Station]
    (stations : Station → ArpStation)
    (stale : Station → BitVec 8 → MacAddr × IpAddr)
    {actions : List (ArpNetworkAction Station)}
    {final : ArpNetwork Station}
    (run : Run (ArpNetworkStep stations) (start stale) actions final)
    (station : Station) :
    let ports := (stations station).ports
    let myMacAddr := (stations station).myMacAddr
    let sender := (final.servers station).sender
    (final.sent station).filter (·.arpOpCode == arpReply) ++
          sender.toAnswer.map (ports.replyTo myMacAddr) =
        (final.taken station).map (ports.replyTo myMacAddr) ∧
      (final.sent station).filter (·.arpOpCode == arpRequest) ++
          sender.toAsk.map (ports.requestFor myMacAddr) =
        (final.asked station).map (ports.requestFor myMacAddr) ∧
      ∀ packet ∈ final.sent station,
        packet.arpOpCode = arpReply ∨ packet.arpOpCode = arpRequest := by
  have kept : final.Kept stations :=
    run.keeps (fun _ _ _ before stepped => before.step stepped)
      (kept_start stale)
  have here := kept station
  exact ⟨here.answers, here.questions, here.opCodes⟩

theorem arpRequests_answered_once_askSecond :
    (afterAskSecond.taken true).length = 1 ∧
      (afterAskSecond.sent true).filter (·.arpOpCode == arpReply) =
        (afterAskSecond.taken true).map
          ((twoStations true).ports.replyTo
            (twoStations true).myMacAddr) := by
  have answers :=
    (arpRequests_answered_once twoStations (fun _ _ => (0, 0))
      run_askSecond true).1
  have none :
      (afterAskSecond.servers true).sender.toAnswer = [] := by
    decide +kernel
  rw [none, List.map_nil, List.append_nil] at answers
  exact ⟨by decide +kernel, answers⟩

end TcpOffload
