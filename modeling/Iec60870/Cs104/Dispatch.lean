import Iec60870.Asdu.Consumption
import Iec60870.Cs104.History

/-!
# Requests to a controlled station

How a controlled station routes a received ASDU: the dedicated system requests
are checked (cause, common address, then the decoded information object address)
and reach their handler method or are answered with a mirror; everything else
goes to the application, whose refusal is answered.

## Main definitions

* `Routing` — a handler's effects on the session's queue, with the calls made.
* `ServerDispatcher.route` — the routing.
* `Asdu.fault` — the cause of the mirror a dedicated request is owed.
* `ServerDispatcher.Answered` — what such a request is owed.

## Main results

* `ServerDispatcher.route_state` — one case per fault.
* `ServerDispatcher.answered_iff` — **a dedicated request is answered when its
  common address is not zero.**
-/

namespace Iec60870

open Decoder (Takes)

namespace Cs104

/-- A call of a `ServerHandler` method, with its decoded argument. -/
inductive HandlerCall
  | interrogation (qoi : QualifierOfInterrogation)
  | counterInterrogation (qcc : QualifierCountCall)
  | read (ioa : InfoObjAddr)
  | clockSync (time : Option DateTime)
  | resetProcess (qrp : QualifierOfResetProcessCmd)
  | delayAcquisition (msec : UInt16)
  | asdu
  deriving DecidableEq, Repr

/-- An application: what each method returns, and what it does to the session on
the way. -/
abbrev ServerHandler := HandlerCall → Asdu → Connection → Except Error Unit × Connection

/-- The session while an ASDU is routed, and the handler calls made so far. -/
structure Routed where
  conn : Connection
  calls : List HandlerCall
  deriving DecidableEq

/-- A step of the routing; an error keeps what was done before it. -/
abbrev Routing (α : Type) := ExceptT Error (StateM Routed) α

section steps

variable {α β : Type} {m : Routing α} {f : α → Routing β} {r r' : Routed}

theorem run_bind_ok {a : α} (h : m r = (.ok a, r')) : (m >>= f) r = f a r' := by
  show (match m r with | (x, s) => (ExceptT.bindCont f x) s) = _
  rw [h]
  rfl

theorem run_bind_error {e : Error} (h : m r = (.error e, r')) :
    (m >>= f) r = (.error e, r') := by
  show (match m r with | (x, s) => (ExceptT.bindCont f x) s) = _
  rw [h]
  rfl

end steps

/-- `Connect::send` on the session: the ASDU is queued, or the error of
`try_enqueue` returned. -/
def send (a : Asdu) : Routing Unit := fun r =>
  match r.conn.tryEnqueue a with
  | .error e => (.error e, r)
  | .ok conn => (.ok (), { r with conn })

namespace ServerDispatcher

variable (host : Host) (handler : ServerHandler)

/-- The call of a handler method, which may queue answers on the connection it is
given. -/
def call (pack : Asdu) (c : HandlerCall) : Routing Unit := fun r =>
  let (result, conn) := handler c pack r.conn
  (result, ⟨conn, r.calls ++ [c]⟩)

/-- `ServerDispatcher::precheck_header`: the cause first, then the common address;
`false` after the error mirror was sent. -/
def precheckHeader (pack : Asdu) (causeOk : Bool) : Routing Bool := do
  if !causeOk then
    send (pack.replyMirror .UNKNOWN_COT)
    return false
  if pack.identifier.commonAddr = INVALID_COMMON_ADDR then
    send (pack.replyMirror .UNKNOWN_CA)
    return false
  return true

/-- `ServerDispatcher::precheck_ioa`: `false` after the error mirror was sent for
an address other than the irrelevant one. -/
def precheckIoa (pack : Asdu) (ioa : InfoObjAddr) : Routing Bool := do
  if ioa ≠ INFO_OBJ_ADDR_IRRELEVANT then
    send (pack.replyMirror .UNKNOWN_IOA)
    return false
  return true

/-- The branch of a dedicated request whose address must be the irrelevant one. -/
def dedicated {α : Type} (pack : Asdu) (permitted : List Cause)
    (decode : Except Error (InfoObjAddr × α)) (act : α → Routing Unit) : Routing Unit := do
  if ← precheckHeader pack (pack.identifier.coa.cause ∈ permitted) then
    let (ioa, v) ← decode
    if ← precheckIoa pack ioa then
      act v

/-- The branch of `C_RD_NA_1`: it names a real point, so the address is not
checked. -/
def routeRead (pack : Asdu) : Routing Unit := do
  if ← precheckHeader pack (pack.identifier.coa.cause ∈ [Cause.REQUEST]) then
    let ioa ← pack.getReadCmd
    call handler pack (.read ioa)

/-- The branch of every other type: the handler decides, and its refusal is
answered with the mirror for an unknown type. -/
def routeOther (pack : Asdu) : Routing Unit := fun r =>
  match call handler pack .asdu r with
  | (.error _, r) => send (pack.replyMirror .UNKNOWN_TYPE_ID) r
  | (.ok (), r) => (.ok (), r)

/-- `ServerDispatcher::route`: the branch of the type, each with the causes it
permits and the getter that decodes its object. -/
def route (pack : Asdu) : Routing Unit :=
  let t := pack.identifier.typeId
  if t = .C_IC_NA_1 then
    dedicated pack [.ACTIVATION, .DEACTIVATION] pack.getInterrogationCmd fun qoi =>
      call handler pack (.interrogation qoi)
  else if t = .C_CI_NA_1 then
    dedicated pack [.ACTIVATION] pack.getCounterInterrogationCmd fun qcc =>
      call handler pack (.counterInterrogation qcc)
  else if t = .C_RD_NA_1 then routeRead handler pack
  else if t = .C_CS_NA_1 then
    dedicated pack [.ACTIVATION] (pack.getClockSynchronizationCmd host) fun time =>
      call handler pack (.clockSync time)
  else if t = .C_TS_NA_1 then
    -- test commands are confirmed by the session itself
    dedicated pack [.ACTIVATION] pack.getTestCommand fun _ =>
      send (pack.replyMirror .ACTIVATION_CON)
  else if t = .C_RP_NA_1 then
    dedicated pack [.ACTIVATION] pack.getResetProcessCmd fun qrp =>
      call handler pack (.resetProcess qrp)
  else if t = .C_CD_NA_1 then
    dedicated pack [.ACTIVATION, .SPONTANEOUS] pack.getDelayAcquireCommand fun msec =>
      call handler pack (.delayAcquisition msec)
  else routeOther handler pack

end ServerDispatcher

/-! ### What a dedicated request is owed -/

/-- The types with a handler method or an answer of their own. -/
def dedicatedTypes : List TypeId :=
  [.C_IC_NA_1, .C_CI_NA_1, .C_RD_NA_1, .C_CS_NA_1, .C_TS_NA_1, .C_RP_NA_1, .C_CD_NA_1]

/-- The seven cases of a dedicated request, in the order `route` tests them.  Every
argument over the routing splits along this. -/
theorem mem_dedicatedTypes {t : TypeId} : t ∈ dedicatedTypes ↔
    t = .C_IC_NA_1 ∨ t = .C_CI_NA_1 ∨ t = .C_RD_NA_1 ∨ t = .C_CS_NA_1 ∨ t = .C_TS_NA_1 ∨
      t = .C_RP_NA_1 ∨ t = .C_CD_NA_1 := by
  simp [dedicatedTypes]

/-- The causes a dedicated request may have, type by type. -/
def permittedCauses (t : TypeId) : List Cause :=
  if t = .C_IC_NA_1 then [.ACTIVATION, .DEACTIVATION]
  else if t = .C_RD_NA_1 then [.REQUEST]
  else if t = .C_CD_NA_1 then [.ACTIVATION, .SPONTANEOUS]
  else [.ACTIVATION]

end Cs104

open Cs104

/-- The address a dedicated request names, and the method it is for; a test
command is for none. -/
def Asdu.requested (host : Host) (a : Asdu) : Except Error (InfoObjAddr × Option HandlerCall) :=
  let t := a.identifier.typeId
  if t = .C_IC_NA_1 then
    (fun (ioa, qoi) => (ioa, some (.interrogation qoi))) <$> a.getInterrogationCmd
  else if t = .C_CI_NA_1 then
    (fun (ioa, qcc) => (ioa, some (.counterInterrogation qcc))) <$> a.getCounterInterrogationCmd
  else if t = .C_RD_NA_1 then (fun ioa => (ioa, some (.read ioa))) <$> a.getReadCmd
  else if t = .C_CS_NA_1 then
    (fun (ioa, time) => (ioa, some (.clockSync time))) <$> a.getClockSynchronizationCmd host
  else if t = .C_TS_NA_1 then (fun (ioa, _) => (ioa, none)) <$> a.getTestCommand
  else if t = .C_RP_NA_1 then
    (fun (ioa, qrp) => (ioa, some (.resetProcess qrp))) <$> a.getResetProcessCmd
  else (fun (ioa, msec) => (ioa, some (.delayAcquisition msec))) <$> a.getDelayAcquireCommand

/-- The cause of the mirror that answers a dedicated request, or `none` for a
request without fault.  A read command may name any address. -/
def Asdu.fault (a : Asdu) (ioa : InfoObjAddr) : Option Cause :=
  let id := a.identifier
  if id.coa.cause ∉ permittedCauses id.typeId then some .UNKNOWN_COT
  else if id.commonAddr = INVALID_COMMON_ADDR then some .UNKNOWN_CA
  else if id.typeId ≠ .C_RD_NA_1 ∧ ioa ≠ INFO_OBJ_ADDR_IRRELEVANT then some .UNKNOWN_IOA
  else none

namespace Cs104

/-- Exactly `a` was queued, and no method was called. -/
def Routed.Sent (conn : Connection) (a : Asdu) (r : Routed) : Prop :=
  ∃ raw, a.marshalBinary = .ok raw ∧ r = ⟨{ conn with queue := conn.queue ++ [raw] }, []⟩

namespace ServerDispatcher

/-- **What a dedicated request is owed.**  A faulty one is mirrored with the
cause of its first fault and reaches no method; one without fault reaches its
method once, and nothing else is queued; a test command is confirmed. -/
def Answered (host : Host) (handler : ServerHandler) (conn : Connection) (pack : Asdu) : Prop :=
  ∃ ioa c, pack.requested host = .ok (ioa, c) ∧
    let r := (route host handler pack ⟨conn, []⟩).2
    match pack.fault ioa, c with
    | some reason, _ => r.Sent conn (pack.replyMirror reason)
    | none, some c => r = ⟨(handler c pack conn).2, [c]⟩
    | none, none => r.Sent conn (pack.replyMirror .ACTIVATION_CON)

/-! ### The routing, one case per fault -/

/-- What the routing comes to, once the request is decoded. -/
def outcome (handler : ServerHandler) (pack : Asdu) : Option Cause → Option HandlerCall → Routing Unit
  | some reason, _ => send (pack.replyMirror reason)
  | none, some c => call handler pack c
  | none, none => send (pack.replyMirror .ACTIVATION_CON)

variable {pack : Asdu} {r : Routed}

/-- After an answer the routing is over. -/
theorem answered_state (m : Asdu) (k : Routing Unit) :
    (((do send m; return false : Routing Bool) >>= fun ok => if ok then k else pure ()) r).2 =
      (send m r).2 := by
  rcases h : send m r with ⟨result, r'⟩
  cases result with
  | error e =>
    have hanswer : (do send m; return false : Routing Bool) r = (.error e, r') := run_bind_error h
    rw [run_bind_error hanswer]
  | ok u =>
    have hanswer : (do send m; return false : Routing Bool) r = (.ok false, r') := run_bind_ok h
    rw [run_bind_ok hanswer]
    rfl

theorem precheckHeader_state (permitted : List Cause) (k : Routing Unit) :
    ((do if ← precheckHeader pack (pack.identifier.coa.cause ∈ permitted) then k) r).2 =
      if pack.identifier.coa.cause ∉ permitted then (send (pack.replyMirror .UNKNOWN_COT) r).2
      else if pack.identifier.commonAddr = INVALID_COMMON_ADDR then
        (send (pack.replyMirror .UNKNOWN_CA) r).2
      else (k r).2 := by
  unfold precheckHeader
  by_cases hcause : pack.identifier.coa.cause ∈ permitted
  · rw [if_neg (not_not.mpr hcause), decide_eq_true hcause]
    by_cases hca : pack.identifier.commonAddr = INVALID_COMMON_ADDR
    · rw [if_pos hca]
      simp only [Bool.not_true, Bool.false_eq_true, if_false, hca, if_true]
      exact answered_state _ _
    · rw [if_neg hca]
      simp only [Bool.not_true, Bool.false_eq_true, if_false, hca]
      rfl
  · rw [if_pos hcause, decide_eq_false hcause]
    simp only [Bool.not_false, if_true]
    exact answered_state _ _

theorem precheckIoa_state (ioa : InfoObjAddr) (k : Routing Unit) :
    ((do if ← precheckIoa pack ioa then k) r).2 =
      if ioa ≠ INFO_OBJ_ADDR_IRRELEVANT then (send (pack.replyMirror .UNKNOWN_IOA) r).2
      else (k r).2 := by
  unfold precheckIoa
  by_cases hioa : ioa = INFO_OBJ_ADDR_IRRELEVANT
  · rw [if_neg (not_not.mpr hioa)]
    simp only [hioa, ne_eq, not_true_eq_false, if_false]
    rfl
  · rw [if_pos hioa]
    simp only [ne_eq, hioa, not_false_eq_true, if_true]
    exact answered_state _ _

/-- The branch of a dedicated request whose address is checked. -/
theorem dedicated_state {α : Type} {decode : Except Error (InfoObjAddr × α)} {ioa : InfoObjAddr}
    {v : α} (hd : decode = .ok (ioa, v)) (act : α → Routing Unit)
    (hrd : pack.identifier.typeId ≠ .C_RD_NA_1) :
    (dedicated pack (permittedCauses pack.identifier.typeId) decode act r).2 =
      ((pack.fault ioa).elim (act v) (fun reason => send (pack.replyMirror reason)) r).2 := by
  -- behind the header check the decoder succeeds, and the address check is what is left
  have hbehind : (do
      let (ioa, v) ← decode
      if ← precheckIoa pack ioa then
        act v : Routing Unit) = (do if ← precheckIoa pack ioa then act v) := by
    rw [hd]
    rfl
  unfold dedicated
  rw [hbehind, precheckHeader_state, precheckIoa_state]
  unfold Asdu.fault
  dsimp only
  -- the checks in the order of the source, which is the order of `Asdu.fault`
  by_cases hcause : pack.identifier.coa.cause ∉ permittedCauses pack.identifier.typeId
  · rw [if_pos hcause, if_pos hcause]
    rfl
  · rw [if_neg hcause, if_neg hcause]
    by_cases hca : pack.identifier.commonAddr = INVALID_COMMON_ADDR
    · rw [if_pos hca, if_pos hca]
      rfl
    · rw [if_neg hca, if_neg hca]
      by_cases hioa : ioa = INFO_OBJ_ADDR_IRRELEVANT
      · rw [if_neg (not_not.mpr hioa), if_neg fun h => h.2 hioa]
        rfl
      · rw [if_pos hioa, if_pos ⟨hrd, hioa⟩]
        rfl

/-- The branch of a read command. -/
theorem routeRead_state (handler : ServerHandler) {ioa : InfoObjAddr}
    (hd : pack.getReadCmd = .ok ioa) (htype : pack.identifier.typeId = .C_RD_NA_1) :
    (routeRead handler pack r).2 = (outcome handler pack (pack.fault ioa) (some (.read ioa)) r).2 := by
  have hbehind : (do
      let ioa ← pack.getReadCmd
      call handler pack (.read ioa) : Routing Unit) = call handler pack (.read ioa) := by
    rw [hd]
    rfl
  unfold routeRead
  rw [hbehind, precheckHeader_state]
  unfold Asdu.fault
  dsimp only
  rw [htype, show permittedCauses .C_RD_NA_1 = [Cause.REQUEST] from rfl]
  by_cases hcause : pack.identifier.coa.cause ∉ [Cause.REQUEST]
  · rw [if_pos hcause, if_pos hcause]
    rfl
  · rw [if_neg hcause, if_neg hcause]
    by_cases hca : pack.identifier.commonAddr = INVALID_COMMON_ADDR
    · rw [if_pos hca, if_pos hca]
      rfl
    · rw [if_neg hca, if_neg hca, if_neg fun h => h.1 rfl]
      rfl

/-- A branch whose address is checked: `as` makes the method call of what was
decoded. -/
theorem dedicated_outcome {handler : ServerHandler} {α : Type} {t : TypeId}
    {permitted : List Cause} {decode : Except Error (InfoObjAddr × α)}
    {act : α → Routing Unit} {ioa : InfoObjAddr} {c : Option HandlerCall}
    (as : α → Option HandlerCall) (ht : pack.identifier.typeId = t) (hrd : t ≠ .C_RD_NA_1)
    (hpermitted : permitted = permittedCauses t)
    (hd : ∃ v, decode = .ok (ioa, v) ∧ as v = c)
    (hact : ∀ v, act v = outcome handler pack none (as v)) :
    (dedicated pack permitted decode act r).2 =
      (outcome handler pack (pack.fault ioa) c r).2 := by
  obtain ⟨v, hdecode, rfl⟩ := hd
  rw [hpermitted, ← ht, dedicated_state hdecode act (ht ▸ hrd)]
  cases pack.fault ioa with
  | some reason => rfl
  | none =>
    rw [Option.elim_none, hact v]

/-- A decoded request, with the method call made of it. -/
theorem decoded_of_map {α : Type} {decode : Except Error (InfoObjAddr × α)}
    {as : α → Option HandlerCall} {ioa : InfoObjAddr} {c : Option HandlerCall}
    (h : (fun p => (p.1, as p.2)) <$> decode = .ok (ioa, c)) :
    ∃ v, decode = .ok (ioa, v) ∧ as v = c := by
  obtain ⟨⟨ioa', v⟩, hdecode, heq⟩ := map_eq_ok.mp h
  obtain ⟨rfl, hc⟩ := Prod.mk.inj heq
  exact ⟨v, hdecode, hc⟩

/-- **One case per fault.** -/
theorem route_state (host : Host) (handler : ServerHandler)
    (htype : pack.identifier.typeId ∈ dedicatedTypes) {ioa : InfoObjAddr} {c : Option HandlerCall}
    (hreq : pack.requested host = .ok (ioa, c)) :
    (route host handler pack r).2 = (outcome handler pack (pack.fault ioa) c r).2 := by
  unfold Asdu.requested at hreq
  unfold route
  dsimp only at hreq ⊢
  -- each branch is `dedicated` with the causes of its type, the read command apart
  obtain h | h | h | h | h | h | h := mem_dedicatedTypes.mp htype <;> simp +decide only [h, if_true, if_false] at hreq ⊢
  · exact dedicated_outcome (fun qoi => some (.interrogation qoi)) h (by decide) rfl
      (decoded_of_map hreq) fun _ => rfl
  · exact dedicated_outcome (fun qcc => some (.counterInterrogation qcc)) h (by decide) rfl
      (decoded_of_map hreq) fun _ => rfl
  · obtain ⟨ioa', hd, heq⟩ := map_eq_ok.mp hreq
    obtain ⟨rfl, rfl⟩ := Prod.mk.inj heq
    exact routeRead_state handler hd h
  · exact dedicated_outcome (fun time => some (.clockSync time)) h (by decide) rfl
      (decoded_of_map hreq) fun _ => rfl
  · exact dedicated_outcome (fun _ => none) h (by decide) rfl (decoded_of_map hreq) fun _ => rfl
  · exact dedicated_outcome (fun qrp => some (.resetProcess qrp)) h (by decide) rfl
      (decoded_of_map hreq) fun _ => rfl
  · exact dedicated_outcome (fun msec => some (.delayAcquisition msec)) h (by decide) rfl
      (decoded_of_map hreq) fun _ => rfl

/-! ### Mirrors -/

/-- The mirror of an accepted request is sent unless its common address is zero. -/
theorem sendable_replyMirror {params : Params} {raw : Octets} {k : ℕ} {reason : Cause}
    (hk : pack.identifier.typeId.infoObjSize = .ok k)
    (hread : Asdu.unmarshalBinary params raw = .ok pack) (hreason : reason ≠ .UNUSED)
    (hca : pack.identifier.commonAddr ≠ INVALID_COMMON_ADDR) :
    (pack.replyMirror reason).Sendable := by
  have ha := Asdu.accepted_of_sized hk hread
  have hknown : pack.Known := .inl (by rw [hk]; rfl)
  obtain ⟨-, hmax, hmin, hfix⟩ := Asdu.unmarshalBinary_eq_ok_iff.mp hread
  obtain ⟨size, -, hsize, -, rfl⟩ := Asdu.fixInfoObjSize_eq_take hfix
  refine ⟨ha.params, hknown.octet_ne_zero, ha.count.1, hreason, hca,
    fun h => Asdu.readCommonAddr_narrow raw h, ?_, ?_⟩
  · show params.identifierSize + ((raw.drop _).take size).length ≤ ASDU_SIZE_MAX
    rw [List.length_drop] at hsize
    rw [List.length_take, List.length_drop]
    omega
  · exact Asdu.checkOutgoing_of_exact hknown ha.count ha.exact

theorem send_state {conn : Connection} (hconn : conn.connected) (hrole : conn.role = .controlled)
    (hroom : conn.queue.length < conn.capacity) {a : Asdu} {octets : Octets}
    (ha : a.marshalBinary = .ok octets) (calls : List HandlerCall) :
    (send a ⟨conn, calls⟩).2 = ⟨{ conn with queue := conn.queue ++ [octets] }, calls⟩ := by
  unfold send Connection.tryEnqueue
  dsimp only
  rw [hconn, if_neg (by decide), if_neg (fun h => by rw [hrole] at h; cases h.1), ha]
  dsimp only
  rw [if_neg (by omega)]

/-! ### What is answered -/

/-- The getter of a dedicated request does not fail on an accepted one. -/
theorem requested_ok {params : Params} {raw : Octets} (host : Host)
    (hread : Asdu.unmarshalBinary params raw = .ok pack)
    (htype : pack.identifier.typeId ∈ dedicatedTypes) :
    (∃ k, pack.identifier.typeId.infoObjSize = .ok k) ∧ ∃ p, pack.requested host = .ok p := by
  have hone {α : Type} {object : InfoObjAddr → InfoObjReader α} {k : ℕ} {γ : Type} (g : α → γ)
      (hsize : pack.identifier.typeId.infoObjSize = .ok k) (hobj : ∀ ioa, Takes k (object ioa)) :
      (∃ k, pack.identifier.typeId.infoObjSize = .ok k) ∧
        ∃ p, g <$> pack.read (pack.singleObject object) = .ok p := by
    obtain ⟨v, t', hrun⟩ :=
      Asdu.singleObject_run (Asdu.accepted_of_sized hsize hread) hsize hobj
    refine ⟨⟨k, hsize⟩, g v, ?_⟩
    unfold Asdu.read
    rw [hrun]
    rfl
  -- every getter takes one object, and an accepted request holds exactly one
  unfold Asdu.requested
  dsimp only
  obtain h | h | h | h | h | h | h := mem_dedicatedTypes.mp htype <;> simp +decide only [h, if_true, if_false]
  all_goals rw [← h]
  · exact hone _ (h ▸ rfl) fun _ => takes_byte.bind fun _ => Takes.pure _
  · exact hone _ (h ▸ rfl) fun _ => takes_byte.bind fun _ => Takes.pure _
  · exact hone _ (h ▸ rfl) fun _ => Takes.pure _
  · exact hone _ (h ▸ rfl) fun _ => (takes_cp56time2a host pack.params).bind fun _ => Takes.pure _
  · exact hone _ (h ▸ rfl) fun _ => takes_u16.bind fun _ => Takes.pure _
  · exact hone _ (h ▸ rfl) fun _ => takes_byte.bind fun _ => Takes.pure _
  · exact hone _ (h ▸ rfl) fun _ => takes_u16.bind fun _ => Takes.pure _

/-- A mirror is sent when its common address is not zero. -/
theorem replyMirror_sent {params : Params} {raw : Octets} {k : ℕ} {conn : Connection}
    (hk : pack.identifier.typeId.infoObjSize = .ok k)
    (hread : Asdu.unmarshalBinary params raw = .ok pack)
    (hconn : conn.connected) (hrole : conn.role = .controlled)
    (hroom : conn.queue.length < conn.capacity) {reason : Cause} (hreason : reason ≠ .UNUSED)
    (hca : pack.identifier.commonAddr ≠ INVALID_COMMON_ADDR) :
    (send (pack.replyMirror reason) ⟨conn, []⟩).2.Sent conn (pack.replyMirror reason) := by
  have hsend := sendable_replyMirror hk hread hreason hca
  have hmarshal := Asdu.marshalBinary_eq_ok_iff.mpr ⟨hsend, rfl⟩
  exact ⟨_, hmarshal, send_state hconn hrole hroom hmarshal []⟩

/-- The mirror of a fault never carries the unused cause. -/
theorem fault_ne_unused {ioa : InfoObjAddr} {reason : Cause} (h : pack.fault ioa = some reason) :
    reason ≠ .UNUSED := by
  unfold Asdu.fault at h
  dsimp only at h
  split at h
  · cases h
    decide
  · split at h
    · cases h
      decide
    · split at h
      · cases h
        decide
      · cases h

/-- Without a common address there is a fault. -/
theorem fault_of_invalidCommonAddr (hca : pack.identifier.commonAddr = INVALID_COMMON_ADDR)
    (ioa : InfoObjAddr) : ∃ reason, pack.fault ioa = some reason := by
  unfold Asdu.fault
  dsimp only
  by_cases hcause : pack.identifier.coa.cause ∉ permittedCauses pack.identifier.typeId
  · exact ⟨_, if_pos hcause⟩
  · rw [if_neg hcause, if_pos hca]
    exact ⟨_, rfl⟩

/-- **Which dedicated requests are answered.**  An accepted dedicated request on a
connected session with room in its queue gets what it is owed exactly when its
common address is not zero: the mirror of one without would carry that zero. -/
theorem answered_iff {params : Params} {raw : Octets} {conn : Connection} (host : Host)
    (handler : ServerHandler) (hread : Asdu.unmarshalBinary params raw = .ok pack)
    (htype : pack.identifier.typeId ∈ dedicatedTypes) (hconn : conn.connected)
    (hrole : conn.role = .controlled) (hroom : conn.queue.length < conn.capacity) :
    Answered host handler conn pack ↔ pack.identifier.commonAddr ≠ INVALID_COMMON_ADDR := by
  obtain ⟨⟨k, hk⟩, ⟨ioa, c⟩, hreq⟩ := requested_ok host hread htype
  have hstate := route_state (r := ⟨conn, []⟩) host handler htype hreq
  constructor
  · rintro ⟨ioa', c', hreq', h⟩ hca
    obtain ⟨rfl, rfl⟩ := Prod.mk.inj (Except.ok.inj (hreq.symm.trans hreq'))
    obtain ⟨reason, hfault⟩ := fault_of_invalidCommonAddr hca ioa
    dsimp only at h
    rw [hfault] at h
    obtain ⟨octets, hmarshal, -⟩ := h
    exact (Asdu.marshalBinary_eq_ok_iff.mp hmarshal).1.addr hca
  · intro hca
    have hsent {reason : Cause} (hreason : reason ≠ .UNUSED) :=
      replyMirror_sent hk hread hconn hrole hroom hreason hca
    refine ⟨ioa, c, hreq, ?_⟩
    dsimp only
    rw [hstate]
    cases hfault : pack.fault ioa with
    | some reason => exact hsent (fault_ne_unused hfault)
    | none =>
      cases c with
      | some c => rfl
      | none => exact hsent (by decide)

/-- A station interrogation for information object address 5 is mirrored. -/
theorem answered_iff_wrongIoa :
    ∃ pack, Asdu.unmarshalBinary paramsWide [100, 1, 6, 0, 1, 0, 5, 0, 0, 20] = .ok pack ∧
      Answered (.utc ⟨2026, 3, 4, 5, 6, 7, 0, by decide⟩) (fun _ _ conn => (.ok (), conn))
        ⟨paramsWide, .controlled, true, true, [], 1⟩ pack := by
  refine ⟨⟨paramsWide, ⟨.C_IC_NA_1, ⟨1, false⟩, .new .ACTIVATION, 0, 1⟩, [5, 0, 0, 20]⟩,
    by decide +kernel, ?_⟩
  have hread : Asdu.unmarshalBinary paramsWide [100, 1, 6, 0, 1, 0, 5, 0, 0, 20] =
      .ok ⟨paramsWide, ⟨.C_IC_NA_1, ⟨1, false⟩, .new .ACTIVATION, 0, 1⟩, [5, 0, 0, 20]⟩ := by
    decide +kernel
  exact (answered_iff _ _ hread (by decide) rfl rfl (by decide)).mpr (by decide)

/-- A station interrogation with the unused common address 0 is accepted, but
reaches no method, and nothing is queued: its mirror is refused. -/
theorem not_answered_commonAddrZero :
    ∃ pack, Asdu.unmarshalBinary paramsWide [100, 1, 6, 0, 0, 0, 0, 0, 0, 20] = .ok pack ∧
      route (.utc ⟨2026, 3, 4, 5, 6, 7, 0, by decide⟩) (fun _ _ conn => (.ok (), conn)) pack
          ⟨⟨paramsWide, .controlled, true, true, [], 1⟩, []⟩ =
        (.error .commonAddrZero, ⟨⟨paramsWide, .controlled, true, true, [], 1⟩, []⟩) ∧
      ¬Answered (.utc ⟨2026, 3, 4, 5, 6, 7, 0, by decide⟩) (fun _ _ conn => (.ok (), conn))
        ⟨paramsWide, .controlled, true, true, [], 1⟩ pack := by
  refine ⟨⟨paramsWide, ⟨.C_IC_NA_1, ⟨1, false⟩, .new .ACTIVATION, 0, 0⟩, [0, 0, 0, 20]⟩,
    by decide +kernel, rfl, ?_⟩
  rintro ⟨ioa, c, hreq, h⟩
  obtain ⟨rfl, rfl⟩ := Prod.mk.inj (Except.ok.inj hreq)
  obtain ⟨octets, hmarshal, -⟩ := h
  exact (Asdu.marshalBinary_eq_ok_iff.mp hmarshal).1.addr rfl

end ServerDispatcher

end Cs104

end Iec60870
