import Mathlib.Algebra.Order.Ring.Nat

/-!
# Build configuration

The constants of `toe_config.hpp`.  The configured build has `TCP_NODELAY`
and `TCP_RX_DDR_BYPASS` off and `TCP_FAST_RETRANSMIT` on; only the branches
this configuration compiles are modelled.
-/

namespace TcpOffload

def tcpMaxSessions : Nat := 128

def tcpMss : Nat := 1460

def tcpMssTenTimes : Nat := 14600

def windowScaleBits : Nat := 2

/-- `WINDOW_BITS`, the width of every pointer into a session buffer. -/
def windowBits : Nat := 16 + windowScaleBits

def bufferSize : Nat := 2 ^ windowBits

def congestionWindowMax : Nat := bufferSize - 2048

/-- `TCP_RX_DDR_BYPASS`: received data goes through the DDR buffer. -/
def tcpRxDdrBypass : Bool := false

def tcpDdrBaseAddr : Nat := 0x4800000000

def tcpMaxRetxAttempts : Nat := 4

/-- The timeouts in sweeps of a timer over its table, which simulation and
synthesis set differently. -/
structure TimerTimes where
  time1s : BitVec 32
  time5s : BitVec 32
  time10s : BitVec 32
  time15s : BitVec 32
  time30s : BitVec 32
  time60s : BitVec 32
deriving DecidableEq, Repr

def TimerTimes.simulation : TimerTimes := ⟨1, 5, 10, 15, 30, 60⟩

@[simp]
theorem tcpMss_eq : tcpMss = 1460 :=
  rfl

@[simp]
theorem bufferSize_eq : bufferSize = 262144 :=
  rfl

theorem tcpDdrBaseAddr_eq : tcpDdrBaseAddr = 0x4800000000 :=
  rfl

end TcpOffload
