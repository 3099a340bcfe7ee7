import TcpOffload.ArpServer.Receiver
import TcpOffload.ArpServer.ScanAnswers

/-!
# Whose MAC address a hit gives

The cache has a slot for each last number of an address and keeps the address
of an entry, but a lookup does not compare it.  A hit is right as long as the
latest reply that went into the slot of the next hop is one of the next hop.
-/

namespace TcpOffload

open Guarded

/-! ## The receiver and the table -/

/-- The two processes and the replies to us so far, the latest one first. -/
structure ArpCacheSystem where
  receiver : ArpReceiverState
  table : ArpTableState
  announced : List ArpTableEntry

inductive ArpCacheAction where
  | arrive (word : NetAXISWord)
  | arpPkgReceiver (myIpAddr : IpAddr)
  | arpTableHandler (ports : ArpPorts)
  | request (ip : IpAddr)

def ArpReceiverMsg.toTable : ArpReceiverMsg → Option ArpTableEntry
  | .arpRsp _ => none
  | .arpTableInsert entry => some entry

namespace ArpCacheSystem

/-- The cache is empty, whatever is left in it. -/
def start (stale : BitVec 8 → MacAddr × IpAddr) : ArpCacheSystem where
  receiver := ⟨0, []⟩
  table := ⟨fun index => ⟨(stale index).1, (stale index).2, false⟩, [], []⟩
  announced := []

def callReceiver (myIpAddr : IpAddr) (system : ArpCacheSystem) :
    ArpCacheSystem :=
  let called := arpPkgReceiver myIpAddr system.receiver
  let entries := called.2.filterMap ArpReceiverMsg.toTable
  { system with
    receiver := called.1
    table :=
      { system.table with
        arpTableInserts := system.table.arpTableInserts ++ entries }
    announced := entries.reverse ++ system.announced }

def act (system : ArpCacheSystem) : ArpCacheAction → ArpCacheSystem
  | .arrive word =>
      { system with
        receiver :=
          { system.receiver with
            arpDataIn := system.receiver.arpDataIn ++ [word] } }
  | .arpPkgReceiver myIpAddr => system.callReceiver myIpAddr
  | .arpTableHandler ports =>
      { system with table := (arpTableHandler ports system.table).1 }
  | .request ip =>
      { system with
        table :=
          { system.table with
            macIpEncodeReqs := system.table.macIpEncodeReqs ++ [ip] } }

/-- The MAC address announced last for exactly this address. -/
def latestMac (system : ArpCacheSystem) (ip : IpAddr) : Option MacAddr :=
  (system.announced.find? fun entry => entry.ipAddr = ip).map
    ArpTableEntry.macAddr

/-- The reply that went last into the slot of this address. -/
def latestInSlot (system : ArpCacheSystem) (ip : IpAddr) :
    Option ArpTableEntry :=
  system.announced.find? fun entry =>
    arpTableIndex entry.ipAddr = arpTableIndex ip

/-- The address that the next call of the table looks up; an insertion comes
first. -/
def looksUp (system : ArpCacheSystem) (ports : ArpPorts) :
    Option IpAddr :=
  match system.table.arpTableInserts, system.table.macIpEncodeReqs with
  | [], reqIp :: _ => some (ports.nextHopIp reqIp)
  | _, _ => none

end ArpCacheSystem

/-- The processes are called, words and requests arrive, in any order. -/
def ArpCacheStep (system : ArpCacheSystem) (action : ArpCacheAction)
    (next : ArpCacheSystem) : Prop :=
  next = system.act action

/-- A hit is the entry of the next hop itself, with the MAC address announced
last for it. -/
def HitsNextHop (system : ArpCacheSystem) : ArpCacheAction → Prop
  | .arpTableHandler ports =>
      ∀ nextHop, system.looksUp ports = some nextHop →
        ∀ rsp,
          .macIpEncodeRsp rsp ∈ (arpTableHandler ports system.table).2 →
            rsp.hit = true →
              (system.table.arpCacheTable
                  (arpTableIndex nextHop)).ipAddr = nextHop ∧
                system.latestMac nextHop = some rsp.macAddr
  | _ => True

/-- The latest reply in the slot of the next hop is one of the next hop. -/
def SlotOfNextHop (system : ArpCacheSystem) : ArpCacheAction → Prop
  | .arpTableHandler ports =>
      ∀ nextHop, system.looksUp ports = some nextHop →
        ∀ entry, system.latestInSlot nextHop = some entry →
          entry.ipAddr = nextHop
  | _ => True

/-! ## What the cache holds -/

/-- A slot holds the latest of the replies that went into it. -/
structure CacheKept (system : ArpCacheSystem)
    (inTable : List ArpTableEntry) : Prop where
  announced :
    system.announced = system.table.arpTableInserts.reverse ++ inTable
  valid : ∀ entry ∈ system.announced, entry.valid = true
  slots :
    ∀ index,
      match inTable.find? fun entry =>
          arpTableIndex entry.ipAddr = index with
      | some entry => system.table.arpCacheTable index = entry
      | none => (system.table.arpCacheTable index).valid = false

namespace CacheKept

variable {system : ArpCacheSystem} {inTable : List ArpTableEntry}

theorem start (stale : BitVec 8 → MacAddr × IpAddr) :
    CacheKept (ArpCacheSystem.start stale) [] where
  announced := rfl
  valid := fun entry member => by cases member
  slots := fun _ => rfl

/-- What the receiver inserts is valid. -/
theorem valid_of_received
    {myIpAddr : IpAddr} {state : ArpReceiverState}
    {entry : ArpTableEntry}
    (member :
      entry ∈ (arpPkgReceiver myIpAddr state).2.filterMap
        ArpReceiverMsg.toTable) :
    entry.valid = true := by
  obtain ⟨msg, written, isEntry⟩ := List.mem_filterMap.1 member
  cases msg with
  | arpRsp rsp =>
      cases isEntry
  | arpTableInsert inserted =>
      obtain rfl := Option.some.inj isEntry
      rw [arpPkgReceiver] at written
      split at written
      · cases written
      · simp only [arpPacket] at written
        split at written
        · split at written
          · simp at written
          · split at written
            · simp only [List.mem_singleton,
                ArpReceiverMsg.arpTableInsert.injEq] at written
              rw [written]
            · cases written
        · cases written

theorem callReceiver (kept : CacheKept system inTable)
    (myIpAddr : IpAddr) :
    CacheKept (system.callReceiver myIpAddr) inTable where
  announced := by
    rw [ArpCacheSystem.callReceiver, kept.announced]
    dsimp only
    rw [List.reverse_append, List.append_assoc]
  valid := by
    intro entry member
    rcases List.mem_append.1 member with isNew | isOld
    · exact valid_of_received (List.mem_reverse.1 isNew)
    · exact kept.valid entry isOld
  slots := kept.slots

/-- The oldest reply that waits goes into its slot. -/
theorem insert (kept : CacheKept system inTable)
    {entry : ArpTableEntry} {later : List ArpTableEntry}
    (waiting : system.table.arpTableInserts = entry :: later) :
    CacheKept
      { system with
        table :=
          { system.table with
            arpTableInserts := later
            arpCacheTable :=
              Function.update system.table.arpCacheTable
                (arpTableIndex entry.ipAddr) entry } }
      (entry :: inTable) where
  announced := by
    change system.announced = later.reverse ++ entry :: inTable
    rw [kept.announced, waiting, List.reverse_cons, List.append_assoc]
    rfl
  valid := kept.valid
  slots := by
    intro index
    rw [List.find?_cons]
    by_cases own : arpTableIndex entry.ipAddr = index
    · subst own
      rw [decide_eq_true rfl]
      exact Function.update_self _ _ _
    · rw [decide_eq_false own]
      change
        match inTable.find? fun entry =>
            arpTableIndex entry.ipAddr = index with
        | some known =>
            Function.update system.table.arpCacheTable _ entry index =
              known
        | none =>
            (Function.update system.table.arpCacheTable _ entry
              index).valid = false
      rw [Function.update_of_ne (Ne.symm own)]
      exact kept.slots index

theorem step (kept : CacheKept system inTable)
    (action : ArpCacheAction) :
    ∃ inTable, CacheKept (system.act action) inTable := by
  cases action with
  | arrive word =>
      exact ⟨inTable, kept.announced, kept.valid, kept.slots⟩
  | arpPkgReceiver myIpAddr =>
      exact ⟨inTable, kept.callReceiver myIpAddr⟩
  | arpTableHandler ports =>
      rw [ArpCacheSystem.act, arpTableHandler]
      split
      · rename_i entry later waiting
        exact ⟨entry :: inTable, kept.insert waiting⟩
      · exact ⟨inTable, kept.announced, kept.valid, kept.slots⟩
      · exact ⟨inTable, kept⟩
  | request ip =>
      exact ⟨inTable, kept.announced, kept.valid, kept.slots⟩

/-! ## A lookup -/

/-- Where no reply waits, a slot that is valid holds the latest reply. -/
theorem latestInSlot_iff (kept : CacheKept system inTable)
    (noneWaits : system.table.arpTableInserts = []) (ip : IpAddr)
    (entry : ArpTableEntry) :
    system.latestInSlot ip = some entry ↔
      (system.table.arpCacheTable (arpTableIndex ip)).valid = true ∧
        system.table.arpCacheTable (arpTableIndex ip) = entry := by
  have announced : system.announced = inTable := by
    rw [kept.announced, noneWaits]
    rfl
  have slot := kept.slots (arpTableIndex ip)
  rw [ArpCacheSystem.latestInSlot, announced]
  cases known :
      inTable.find? fun entry =>
        arpTableIndex entry.ipAddr = arpTableIndex ip with
  | none =>
      rw [known] at slot
      simp [slot]
  | some latest =>
      rw [known] at slot
      dsimp only at slot
      have member : latest ∈ system.announced := by
        rw [announced]
        exact List.mem_of_find?_eq_some known
      rw [slot, kept.valid latest member, Option.some.injEq]
      simp

/-- The latest reply in a slot is the latest one of its own address. -/
theorem latestMac_of_slot
    {ip : IpAddr} {entry : ArpTableEntry}
    (latest : system.latestInSlot ip = some entry)
    (own : entry.ipAddr = ip) :
    system.latestMac ip = some entry.macAddr := by
  rw [ArpCacheSystem.latestInSlot, List.find?_eq_some_iff_append] at latest
  obtain ⟨_, newer, older, isSplit, others⟩ := latest
  rw [ArpCacheSystem.latestMac, Option.map_eq_some_iff]
  refine ⟨entry, List.find?_eq_some_iff_append.2 ?_, rfl⟩
  refine ⟨decide_eq_true own, newer, older, isSplit, ?_⟩
  intro other member
  have otherSlot := others other member
  simp only [Bool.not_eq_true', decide_eq_false_iff_not]
    at otherSlot ⊢
  intro same
  exact otherSlot (by rw [same])

theorem hits_iff (kept : CacheKept system inTable)
    (action : ArpCacheAction) :
    HitsNextHop system action ↔ SlotOfNextHop system action := by
  cases action with
  | arpTableHandler ports =>
      refine forall₂_congr fun nextHop looksUp => ?_
      rw [ArpCacheSystem.looksUp] at looksUp
      split at looksUp
      · rename_i reqIp later noneWaits isReq
        obtain rfl := Option.some.inj looksUp
        have latest :=
          kept.latestInSlot_iff noneWaits (ports.nextHopIp reqIp)
        have answer :
            ∀ rsp : ArpTableRsp,
              ArpTableMsg.macIpEncodeRsp rsp ∈
                  (arpTableHandler ports system.table).2 ↔
                rsp = system.table.answer ports reqIp := by
          intro rsp
          rw [arpTableHandler, noneWaits, isReq]
          dsimp only
          split <;> simp [ArpTableState.answer]
        constructor
        · intro hits entry isLatest
          obtain ⟨valid, isEntry⟩ := (latest entry).1 isLatest
          have hit :=
            hits (system.table.answer ports reqIp)
              ((answer _).2 rfl) valid
          rw [← isEntry]
          exact hit.1
        · intro own rsp written hit
          rw [(answer rsp).1 written] at hit ⊢
          have isLatest := (latest _).2 ⟨hit, rfl⟩
          exact
            ⟨own _ isLatest,
              latestMac_of_slot isLatest (own _ isLatest)⟩
      · cases looksUp
  | arrive | arpPkgReceiver | request =>
      exact Iff.rfl

end CacheKept

/-- From an empty cache, every hit gives the MAC address announced last for
the next hop exactly when at each lookup the latest reply in the slot of the
next hop is one of the next hop. -/
theorem arpCache_hitsNextHop_iff
    (stale : BitVec 8 → MacAddr × IpAddr)
    (actions : List ArpCacheAction) :
    Along ArpCacheStep HitsNextHop (ArpCacheSystem.start stale) actions ↔
      Along ArpCacheStep SlotOfNextHop (ArpCacheSystem.start stale)
        actions := by
  refine
    @along_iff_of_invariant _ _ ArpCacheStep
      (fun system => ∃ inTable, CacheKept system inTable)
      HitsNextHop SlotOfNextHop ?_ ?_ _ actions
      ⟨[], CacheKept.start stale⟩
  · rintro system action next ⟨inTable, kept⟩ rfl
    exact kept.step action
  · rintro system action next ⟨inTable, kept⟩ _
    exact kept.hits_iff action

/-- A subnet of 65536 addresses; we are 192.168.0.1. -/
def widePorts : ArpPorts where
  myIpAddr := 0x0100a8c0
  gatewayIpAddr := 0xfe00a8c0
  subnetMask := 0x0000ffff

/-- The word in which 192.168.0.2 gives us its MAC address. -/
def neighbourReply : NetAXISWord where
  data :=
    (0 : BitVec 176) ++ widePorts.myIpAddr ++ (0 : BitVec 48) ++
      (0x0200a8c0 : IpAddr) ++ (0x020000000002 : MacAddr) ++ arpReply ++
      (0 : BitVec 160)
  dest := 0
  keep := BitVec.allOnes 64
  last := true

/-- 192.168.0.2 is announced, 192.168.1.2 is asked for. -/
def wrongHitRun : List ArpCacheAction :=
  [.arrive neighbourReply, .arpPkgReceiver widePorts.myIpAddr,
    .arpTableHandler widePorts, .request 0x0201a8c0]

/-- The MAC address of another address is given. -/
theorem not_arpCache_hitsNextHop :
    ¬ ∀ (stale : BitVec 8 → MacAddr × IpAddr)
        (actions : List ArpCacheAction),
        Along ArpCacheStep HitsNextHop (ArpCacheSystem.start stale)
          actions := by
  intro along
  have run :=
    @Run.of_act _ _ ArpCacheStep ArpCacheSystem.act (fun _ _ => rfl)
      (ArpCacheSystem.start fun _ => (0, 0)) wrongHitRun
  have hits :=
    (along (fun _ => (0, 0))
      (wrongHitRun ++ [.arpTableHandler widePorts])).of_run run rfl
  have hit :=
    (hits 0x0201a8c0 rfl ⟨0x020000000002, true⟩ (by decide +kernel) rfl).2
  revert hit
  decide +kernel

end TcpOffload
