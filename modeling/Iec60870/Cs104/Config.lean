import Iec60870.Error

/-!
# Timing and flow control of 104

The parameters k, w and t₀ to t₃ with the ranges the standard gives them.
Instants and durations are counted in nanoseconds; subtraction of instants
saturates at zero, like `saturating_duration_since`.

`Config::valid` replaces zero fields in place in the source; here it returns the
completed configuration.

## Main results

* `Config.inRange_of_valid` — an accepted configuration is in range.
* `Config.valid_default` — the defaults pass their own check.
* `Config.inRange_orDefault` — so what a client or server stores is in range.
-/

namespace Iec60870
namespace Cs104

/-- `Duration::from_secs`. -/
def fromSecs (s : ℕ) : ℕ := s * 1000000000

/-- `Duration::from_millis`. -/
def fromMillis (ms : ℕ) : ℕ := ms * 1000000

/-- Timer resolution of the connection state machine: the timers are looked at
once every tick, and nowhere else. -/
def TIMEOUT_RESOLUTION : ℕ := fromMillis 100

/-- IEC 60870-5-104 configuration. -/
structure Config where
  /-- t₀: TCP connection establishment timeout. -/
  connectTimeout0 : ℕ
  /-- k: maximum number of outstanding I-frames. -/
  sendUnackLimitK : UInt16
  /-- t₁: acknowledgement timeout. -/
  sendUnackTimeout1 : ℕ
  /-- w: acknowledge at the latest after this many received I-frames. -/
  recvUnackLimitW : UInt16
  /-- t₂: maximum delay before a supervisory acknowledgement. -/
  recvUnackTimeout2 : ℕ
  /-- t₃: idle time before a TESTFR keep-alive. -/
  idleTimeout3 : ℕ
  deriving DecidableEq, Repr

namespace Config

/-- `Config::default`, the values the standard recommends. -/
def default : Config where
  connectTimeout0 := fromSecs 30
  sendUnackLimitK := 12
  sendUnackTimeout1 := fromSecs 15
  recvUnackLimitW := 8
  recvUnackTimeout2 := fromSecs 10
  idleTimeout3 := fromSecs 20

/-- One timeout: zero takes the default, anything else must lie in `[lo, hi]`. -/
def checkTimeout (v d lo hi : ℕ) (what : String) : Except Error ℕ :=
  if v = 0 then .ok d else if ¬(lo ≤ v ∧ v ≤ hi) then .error (.config what) else .ok v

/-- One window size: zero takes the default, anything else must lie in `1..=32767`. -/
def checkLimit (v d : UInt16) (what : String) : Except Error UInt16 :=
  if v = 0 then .ok d else if ¬(1 ≤ v ∧ v ≤ 32767) then .error (.config what) else .ok v

/-- `Config::valid`: substitute the default for each zero field, then
range-check. -/
def valid (c : Config) : Except Error Config := do
  let connectTimeout0 ← checkTimeout c.connectTimeout0 default.connectTimeout0
    (fromSecs 1) (fromSecs 255) "ConnectTimeout0 \"t0\" not in [1, 255]s"
  let sendUnackLimitK ← checkLimit c.sendUnackLimitK default.sendUnackLimitK
    "SendUnAckLimitK \"k\" not in [1, 32767]"
  let sendUnackTimeout1 ← checkTimeout c.sendUnackTimeout1 default.sendUnackTimeout1
    (fromSecs 1) (fromSecs 255) "SendUnAckTimeout1 \"t1\" not in [1, 255]s"
  let recvUnackLimitW ← checkLimit c.recvUnackLimitW default.recvUnackLimitW
    "RecvUnAckLimitW \"w\" not in [1, 32767]"
  let recvUnackTimeout2 ← checkTimeout c.recvUnackTimeout2 default.recvUnackTimeout2
    (fromSecs 1) (fromSecs 255) "RecvUnAckTimeout2 \"t2\" not in [1, 255]s"
  let idleTimeout3 ← checkTimeout c.idleTimeout3 default.idleTimeout3
    (fromSecs 1) (fromSecs (48 * 3600)) "IdleTimeout3 \"t3\" not in [1 second, 48 hours]"
  return ⟨connectTimeout0, sendUnackLimitK, sendUnackTimeout1, recvUnackLimitW,
    recvUnackTimeout2, idleTimeout3⟩

/-- `Config::or_default`: what `with_config` of the client and of the server stores,
so every connection runs with a configuration of this form. -/
def orDefault (c : Config) : Config :=
  match c.valid with
  | .ok c => c
  | .error _ => default

/-- The ranges of k, w, t₁, t₂ and t₃. -/
structure InRange (c : Config) : Prop where
  k_pos : 1 ≤ c.sendUnackLimitK.toNat
  k_le : c.sendUnackLimitK.toNat ≤ 32767
  w_pos : 1 ≤ c.recvUnackLimitW.toNat
  w_le : c.recvUnackLimitW.toNat ≤ 32767
  t1_pos : 0 < c.sendUnackTimeout1
  t2_pos : 0 < c.recvUnackTimeout2
  t3_pos : 0 < c.idleTimeout3

theorem pos_of_checkTimeout {v d lo hi r : ℕ} {what : String} (hd : 0 < d) (hlo : 0 < lo)
    (h : checkTimeout v d lo hi what = .ok r) : 0 < r := by
  unfold checkTimeout at h
  split_ifs at h with h1 h2
  · cases h; exact hd
  · cases h; omega

theorem bounds_of_checkLimit {v d r : UInt16} {what : String}
    (hd : 1 ≤ d.toNat ∧ d.toNat ≤ 32767) (h : checkLimit v d what = .ok r) :
    1 ≤ r.toNat ∧ r.toNat ≤ 32767 := by
  unfold checkLimit at h
  split_ifs at h with h1 h2
  · cases h; exact hd
  · cases h
    simpa [UInt16.le_iff_toNat_le] using h2

/-- **An accepted configuration is in range.** -/
theorem inRange_of_valid {c c' : Config} (h : c.valid = .ok c') : c'.InRange := by
  obtain ⟨t0, -, h⟩ := bind_eq_ok.mp h
  obtain ⟨k, hk, h⟩ := bind_eq_ok.mp h
  obtain ⟨t1, ht1, h⟩ := bind_eq_ok.mp h
  obtain ⟨w, hw, h⟩ := bind_eq_ok.mp h
  obtain ⟨t2, ht2, h⟩ := bind_eq_ok.mp h
  obtain ⟨t3, ht3, h⟩ := bind_eq_ok.mp h
  cases h
  have hk := bounds_of_checkLimit (by decide) hk
  have hw := bounds_of_checkLimit (by decide) hw
  have hsec : ∀ n, 0 < n → 0 < fromSecs n := fun n hn => by unfold fromSecs; omega
  exact ⟨hk.1, hk.2, hw.1, hw.2, pos_of_checkTimeout (hsec 15 (by omega)) (hsec 1 one_pos) ht1,
    pos_of_checkTimeout (hsec 10 (by omega)) (hsec 1 one_pos) ht2,
    pos_of_checkTimeout (hsec 20 (by omega)) (hsec 1 one_pos) ht3⟩

/-- The defaults pass their own check. -/
theorem valid_default : default.valid = .ok default := by decide

/-- **The configuration a connection runs with is in range**, whatever the
application asked for. -/
theorem inRange_orDefault (c : Config) : c.orDefault.InRange := by
  unfold orDefault
  split
  · next h => exact inRange_of_valid h
  · exact inRange_of_valid valid_default

/-- A station that is given no configuration runs with the default one. -/
theorem inRange_default : default.InRange :=
  inRange_orDefault default

end Config

end Cs104
end Iec60870
