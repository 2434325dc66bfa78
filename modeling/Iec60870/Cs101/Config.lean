import Iec60870.Cs104.Config

/-!
# Link configuration of 101 and 103

What the two stations of a line are configured with.  `Config::valid` completes
the configuration in place in the source; here it returns the completed one.

## Main results

* `Config.wellFormed_of_valid` — the link address of an accepted configuration has
  one or two octets and fits them.
-/

namespace Iec60870
namespace Cs101

open Cs104 (fromSecs fromMillis)
open Cs104.Config (checkTimeout)

/-- How the frames are carried. -/
inductive TransportType
  | serial
  | tcpClient
  | tcpServer
  deriving DecidableEq, Repr

/-- The transmission procedure. -/
inductive TransmissionMode
  /-- One primary polls the secondaries of a shared line. -/
  | unbalanced
  /-- Point to point: both stations may transmit on their own. -/
  | balanced
  deriving DecidableEq, Repr

/-- `DEFAULT_TCP_CONNECT_TIMEOUT`. -/
def DEFAULT_TCP_CONNECT_TIMEOUT : ℕ := fromSecs 30

/-- Link-layer configuration, as the application gives it; `valid` fills in
defaults and checks the rest. -/
structure Config where
  transport : TransportType
  /-- Name of the serial port. -/
  serialAddress : String
  baudRate : UInt32
  /-- Address to dial or to listen on. -/
  tcpAddress : String
  connectTimeout : Option ℕ
  mode : TransmissionMode
  /-- This station's address (secondary) or the station to poll (primary). -/
  linkAddress : UInt16
  /-- Octets of a link address on the wire. -/
  linkAddrSize : UInt8
  /-- t₁: response timeout for confirmed frames. -/
  timeoutResponseT1 : ℕ
  /-- t₂: timeout after a repetition. -/
  timeoutRepeatT2 : ℕ
  /-- t₃: idle time before a keep-alive. -/
  timeoutTestT3 : ℕ
  /-- Pacing of the poll and transmit scheduler. -/
  timeoutSendLinkMsg : ℕ
  /-- Capacity of the outbound queue and of each class buffer. -/
  maxSendQueueSize : ℕ
  maxApduLength : UInt8
  /-- Repetitions of an unanswered confirmed frame. -/
  maxRepetitions : UInt8
  /-- Acknowledge with `E5` where the standard allows it. -/
  useSingleCharAck : Bool
  deriving DecidableEq, Repr

namespace Config

/-- `Config::default`. -/
def default : Config where
  transport := .serial
  serialAddress := ""
  baudRate := 9600
  tcpAddress := ""
  connectTimeout := none
  mode := .unbalanced
  linkAddress := 1
  linkAddrSize := 1
  timeoutResponseT1 := fromSecs 10
  timeoutRepeatT2 := fromSecs 5
  timeoutTestT3 := fromSecs 20
  timeoutSendLinkMsg := fromMillis 200
  maxSendQueueSize := 100
  maxApduLength := 253
  maxRepetitions := 1
  useSingleCharAck := false

/-- `Config::is_balanced`. -/
def isBalanced (c : Config) : Bool := c.mode = .balanced

/-- The check of the transport: what it needs is configured, and a TCP connect
timeout is filled in. -/
def checkTransport (c : Config) : Except Error (Option ℕ) :=
  match c.transport with
  | .serial =>
    if c.serialAddress = "" then .error (.config "the serial port name must be configured")
    else if c.baudRate = 0 then .error (.config "the serial baud rate must be positive")
    else .ok c.connectTimeout
  | .tcpClient | .tcpServer =>
    if c.tcpAddress = "" then
      .error (.config "the TCP address must be configured for a TCP transport")
    else .ok (some (c.connectTimeout.getD DEFAULT_TCP_CONNECT_TIMEOUT))

/-- The check of the link address and of its size. -/
def checkLinkAddr (c : Config) : Except Error Unit :=
  if ¬(1 ≤ c.linkAddrSize ∧ c.linkAddrSize ≤ 2) then
    .error (.config "the link address size must be 1 or 2")
  else if c.linkAddrSize = 1 ∧ c.linkAddress > 0xff then
    .error (.config "the link address exceeds one octet")
  else .ok ()

/-- The check of t₂ against t₁: a repetition is waited for less long than the
first transmission. -/
def checkRepeat (t1 t2 : ℕ) : Except Error Unit :=
  if t2 ≥ t1 then .error (.config "timeout t2 must be less than t1") else .ok ()

/-- The check of the APDU length: zero takes the default. -/
def checkApduLength (c : Config) : Except Error UInt8 :=
  if c.maxApduLength = 0 then .ok default.maxApduLength
  else if c.maxApduLength > default.maxApduLength then
    .error (.config "the maximum APDU length is out of range")
  else .ok c.maxApduLength

/-- `Config::valid`: substitute the default for each zero field and range-check. -/
def valid (c : Config) : Except Error Config := do
  let connectTimeout ← c.checkTransport
  c.checkLinkAddr
  let timeoutResponseT1 ← checkTimeout c.timeoutResponseT1 default.timeoutResponseT1
    (fromSecs 1) (fromSecs 255) "timeout t1 not in [1, 255]s"
  let timeoutRepeatT2 ← checkTimeout c.timeoutRepeatT2 default.timeoutRepeatT2
    (fromSecs 1) (fromSecs 255) "timeout t2 not in [1, 255]s"
  checkRepeat timeoutResponseT1 timeoutRepeatT2
  let timeoutTestT3 ← checkTimeout c.timeoutTestT3 default.timeoutTestT3
    (fromSecs 1) (fromSecs 172800) "timeout t3 not in [1 second, 48 hours]"
  let timeoutSendLinkMsg ← checkTimeout c.timeoutSendLinkMsg default.timeoutSendLinkMsg
    (fromMillis 1) (fromSecs 10) "the link message send timeout is not in [1ms, 10s]"
  let maxSendQueueSize :=
    if c.maxSendQueueSize = 0 then default.maxSendQueueSize else c.maxSendQueueSize
  let maxApduLength ← c.checkApduLength
  return { c with
    connectTimeout
    timeoutResponseT1
    timeoutRepeatT2
    timeoutTestT3
    timeoutSendLinkMsg
    maxSendQueueSize
    maxApduLength }

/-- The link address has one or two octets and fits them. -/
structure WellFormed (c : Config) : Prop where
  size_pos : 1 ≤ c.linkAddrSize
  size_le : c.linkAddrSize ≤ 2
  fits : c.linkAddrSize = 1 → c.linkAddress ≤ 0xff

theorem WellFormed.size {c : Config} (h : c.WellFormed) :
    c.linkAddrSize = 1 ∨ c.linkAddrSize = 2 := by
  have h1 : 1 ≤ c.linkAddrSize.toNat := UInt8.le_iff_toNat_le.mp h.size_pos
  have h2 : c.linkAddrSize.toNat ≤ 2 := UInt8.le_iff_toNat_le.mp h.size_le
  rcases Nat.lt_or_ge c.linkAddrSize.toNat 2 with hlt | hge
  · exact .inl (UInt8.toNat_inj.mp (Nat.le_antisymm (Nat.le_of_lt_succ hlt) h1))
  · exact .inr (UInt8.toNat_inj.mp (Nat.le_antisymm h2 hge))

/-- **An accepted configuration has a link address that fits.** -/
theorem wellFormed_of_valid {c c' : Config} (h : c.valid = .ok c') : c'.WellFormed := by
  obtain ⟨_, -, h⟩ := bind_eq_ok.mp h
  obtain ⟨_, haddr, h⟩ := bind_eq_ok.mp h
  obtain ⟨_, -, h⟩ := bind_eq_ok.mp h
  obtain ⟨_, -, h⟩ := bind_eq_ok.mp h
  obtain ⟨_, -, h⟩ := bind_eq_ok.mp h
  obtain ⟨_, -, h⟩ := bind_eq_ok.mp h
  obtain ⟨_, -, h⟩ := bind_eq_ok.mp h
  obtain ⟨_, -, h⟩ := bind_eq_ok.mp h
  cases h
  unfold checkLinkAddr at haddr
  split_ifs at haddr with hsize hfit
  refine ⟨hsize.1, hsize.2, fun h1 => ?_⟩
  exact UInt16.not_lt.mp fun hlt => hfit ⟨h1, hlt⟩

/-- The defaults pass their own check once a serial port is named. -/
theorem valid_default (port : String) (h : port ≠ "") :
    ({ default with serialAddress := port } : Config).valid =
      .ok { default with serialAddress := port } := by
  have hc : ({ default with serialAddress := port } : Config).checkTransport = .ok none := by
    simp [checkTransport, default, h]
  rw [valid, hc]
  rfl

end Config

end Cs101
end Iec60870
