import Iec60870.FileTransfer.Isolation
import Iec60870.Lib.Machine

/-!
# The two ends of a transfer

A sender and a receiver, joined by two reliable channels that carry the octets of
their ASDUs in order.  A connection takes what `marshal_binary` accepts, and hands
over what `unmarshal_binary` makes of the octets.

Each ASDU under way is marked with the transfer of the receiver it was sent in:
the receiver marks what it sends with its latest transfer, and the sender what it
sends in answer with the mark of the request.  Neither end sees the marks.

## Main definitions

* `Ends`, `Ends.step` — the two ends and the channels; what can happen to them.
* `Ends.machine` — their runs from two idle ends.

## Main results

* `Ends.step_toSender`, `step_toReceiver` — the delivery of a message.
-/

namespace Iec60870
namespace FileTransfer

/-- An ASDU under way, tagged with the transfer it was sent in, so that a late one
can be told apart. -/
structure Packet where
  octets : Octets
  /-- The transfer it belongs to; 0 for an offer. -/
  transfer : ℕ
  deriving DecidableEq, Repr

/-- What the two ends are set up with. -/
structure Plant where
  params : Params
  host : Host
  /-- What the sender serves. -/
  store : Store
  /-- Where the receiver puts its files, if anywhere. -/
  archive : Option Store

/-- The two ends, and the channels between them. -/
structure Ends where
  sender : Sender
  receiver : Receiver
  toSender : List Packet
  toReceiver : List Packet
  /-- How many transfers the receiver has begun. -/
  transfers : ℕ
  /-- The files passed to the receiver's store and file handler, oldest first. -/
  files : List (Entry × Octets)
  /-- What the calls of `handle` have returned. -/
  results : List (Except Error Bool)

/-- A connection that takes what can be marshalled. -/
def wire (params : Params) : Connect := ⟨params, fun _ a => a.marshalBinary.map fun _ => ()⟩

/-- The octets of what was sent in the transfer `n`. -/
def packets (n : ℕ) (sent : List Asdu) : List Packet :=
  sent.filterMap fun a => a.marshalBinary.toOption.map (⟨·, n⟩)

/-- One transfer more when an idle receiver has become busy. -/
def begun (before after : Receiver) : ℕ :=
  if !before.inProgress && after.inProgress then 1 else 0

namespace Ends

/-- Two idle ends. -/
def idle (sectionSize : ℕ) (autoAccept : Bool) : Ends where
  sender := ⟨sectionSize, none⟩
  receiver := ⟨autoAccept, none⟩
  toSender := []
  toReceiver := []
  transfers := 0
  files := []
  results := []

/-- What can happen: a channel hands over its oldest ASDU, or the application calls
one of the ends. -/
inductive Event
  | toSender
  | toReceiver
  | requestFile (ca : UInt16) (ioa : InfoObjAddr) (nof : NameOfFile)
  | abortReceiver
  | abortSender
  | offer (ca : UInt16) (ioa : InfoObjAddr) (nof : NameOfFile)
  deriving DecidableEq, Repr

/-- The ASDU is only handed over. -/
def Event.isDelivery : Event → Bool
  | .toSender | .toReceiver => true
  | _ => false

variable (plant : Plant) (s : Ends)

/-- The sender handles the ASDU `a` of the transfer `n`; nothing follows a panic. -/
def serve (n : ℕ) (a : Asdu) : Option Ends :=
  (s.sender.handle plant.host plant.store (wire plant.params) a).map fun out =>
    { s with
      sender := out.sender
      toReceiver := s.toReceiver ++ packets n out.sent
      results := s.results ++ [out.result] }

/-- The receiver handles the ASDU `a`: its replies go under way, and its result
and the file it passed on are recorded. -/
def receive (a : Asdu) : Ends :=
  let out := s.receiver.handle plant.host plant.archive (wire plant.params) a
  let transfers := s.transfers + begun s.receiver out.receiver
  { s with
    receiver := out.receiver
    toSender := s.toSender ++ packets transfers out.sent
    transfers
    files := s.files ++ out.file.toList
    results := s.results ++ [out.result] }

/-- The oldest ASDU to the sender is handed over. -/
def stepToSender : Option Ends :=
  match s.toSender with
  | [] => none
  | p :: rest =>
    match Asdu.unmarshalBinary plant.params p.octets with
    | .error e => some { s with toSender := rest, results := s.results ++ [.error e] }
    | .ok a => { s with toSender := rest }.serve plant p.transfer a

/-- The oldest ASDU to the receiver is handed over. -/
def stepToReceiver : Option Ends :=
  match s.toReceiver with
  | [] => none
  | p :: rest =>
    match Asdu.unmarshalBinary plant.params p.octets with
    | .error e => some { s with toReceiver := rest, results := s.results ++ [.error e] }
    | .ok a => some ({ s with toReceiver := rest }.receive plant a)

/-- `Receiver::request_file` at the receiving end, whose select goes under way. -/
def request (ca : UInt16) (ioa : InfoObjAddr) (nof : NameOfFile) : Ends :=
  let (sent, receiver) := s.receiver.requestFile (wire plant.params) ca ioa nof
  let transfers := s.transfers + begun s.receiver receiver
  { s with
    receiver
    toSender := s.toSender ++ packets transfers (sent.toOption.getD [])
    transfers }

/-- `Sender::offer` at the sending end, whose announcement goes under way and
belongs to no transfer. -/
def offer (ca : UInt16) (ioa : InfoObjAddr) (nof : NameOfFile) : Ends :=
  let sent := Sender.offer plant.store (wire plant.params) ca ioa nof
  { s with toReceiver := s.toReceiver ++ packets 0 (sent.toOption.getD []) }

/-- One step: an ASDU under way is delivered, or one of the applications acts. -/
def step : Event → Option Ends
  | .toSender => s.stepToSender plant
  | .toReceiver => s.stepToReceiver plant
  | .requestFile ca ioa nof => some (s.request plant ca ioa nof)
  | .abortReceiver => some { s with receiver := s.receiver.abort }
  | .abortSender => some { s with sender := s.sender.abort }
  | .offer ca ioa nof => some (s.offer plant ca ioa nof)

/-- The runs of two ends that are idle at first. -/
def machine (sectionSize : ℕ) (autoAccept : Bool) : Machine Ends Event where
  init := idle sectionSize autoAccept
  next s e := s.step plant e

end Ends

/-! ### Messages on the channels -/

namespace Message

variable {params : Params} {ca : UInt16}

/-- What a channel carries of a message. -/
def octets (params : Params) (ca : UInt16) (m : Message) : Octets :=
  (m.asdu params ca).marshalBinary.toOption.getD []

/-- A message under way. -/
def packet (params : Params) (ca : UInt16) (n : ℕ) (m : Message) : Packet :=
  ⟨m.octets params ca, n⟩

/-- A message is marshalled into an ASDU, and read back as it was sent. -/
theorem octets_spec {m : Message} (hw : params.WellFormed) (hca : params.EncodesCommonAddr ca)
    (hl : m.LengthFits params) :
    (m.asdu params ca).marshalBinary = .ok (m.octets params ca) ∧
      (m.octets params ca).length ≤ ASDU_SIZE_MAX ∧
      Asdu.unmarshalBinary params (m.octets params ca) = .ok (m.asdu params ca) := by
  obtain ⟨raw, hraw, hlen, hback⟩ := unmarshal_marshal hw hl hca
  have heq : m.octets params ca = raw := by
    unfold octets
    rw [hraw]
    rfl
  rw [heq]
  exact ⟨hraw, hlen, hback⟩

section sendable

variable (hw : params.WellFormed) (hca : params.EncodesCommonAddr ca) {ms : List Message}
  (hms : ∀ m ∈ ms, m.LengthFits params)

include hw hca hms

theorem packets_map (n : ℕ) :
    packets n (ms.map (asdu params ca)) = ms.map (packet params ca n) := by
  unfold packets
  rw [List.filterMap_map, ← List.filterMap_eq_map]
  refine List.filterMap_congr fun m hm => ?_
  show (m.asdu params ca).marshalBinary.toOption.map _ = _
  rw [(octets_spec hw hca (hms m hm)).1]
  rfl

/-- The connection takes them all. -/
theorem sendAll_wire (sent : List Asdu) :
    (wire params).sendAll sent (ms.map (asdu params ca)) =
      (sent ++ ms.map (asdu params ca), none) := by
  induction ms generalizing sent with
  | nil => rw [List.map_nil, Connect.sendAll, List.append_nil]
  | cons m ms ih =>
    have hm := (octets_spec hw hca (hms m List.mem_cons_self)).1
    have hsend : (wire params).send sent (m.asdu params ca) = .ok () := by
      show (m.asdu params ca).marshalBinary.map _ = _
      rw [hm]
      rfl
    rw [List.map_cons, Connect.sendAll, hsend]
    dsimp only
    rw [ih (fun m hm => hms m (List.mem_cons_of_mem _ hm)), List.append_assoc]
    rfl

/-- The sender's messages all go out. -/
theorem finish_wire (sender : Sender) :
    Sender.finish (wire params) sender (.ofSend (ms.map (asdu params ca))) =
      ⟨sender, ms.map (asdu params ca), .ok true⟩ := by
  unfold Sender.finish
  rw [show (Sender.Reply.ofSend (ms.map (asdu params ca))).send = ms.map _ from rfl,
    sendAll_wire hw hca hms, List.nil_append]
  rfl

end sendable

end Message

namespace Ends

open Message

variable {plant : Plant} {s : Ends} {ca : UInt16} {m : Message} {n : ℕ} {rest : List Packet}
  {ms : List Message}

section delivery

variable (hw : plant.params.WellFormed) (hca : plant.params.EncodesCommonAddr ca)
  (hl : m.LengthFits plant.params) (hms : ∀ m ∈ ms, m.LengthFits plant.params)

include hw hca hl hms

/-- **A message is handed to the sender**, whose transition answers with messages. -/
theorem step_toSender {sender : Sender}
    (hhead : s.toSender = m.packet plant.params ca n :: rest)
    (hstep : Sender.step plant.store plant.params s.sender plant.host (m.asdu plant.params ca) =
      some (sender, .ofSend (ms.map (asdu plant.params ca)))) :
    s.step plant .toSender = some { s with
      sender
      toSender := rest
      toReceiver := s.toReceiver ++ ms.map (packet plant.params ca n)
      results := s.results ++ [.ok true] } := by
  -- the octets on the channel are read back as the ASDU that was sent
  have hback : Asdu.unmarshalBinary plant.params (m.packet plant.params ca n).octets =
      .ok (m.asdu plant.params ca) := (octets_spec hw hca hl).2.2
  have hfile : isFileAsdu (m.asdu plant.params ca).identifier.typeId := by cases m <;> rfl
  show s.stepToSender plant = _
  unfold stepToSender
  rw [hhead]
  dsimp only
  rw [hback]
  dsimp only
  unfold serve
  -- the transition is the one given, and its messages are taken by the wire
  rw [Sender.handle_of_step hfile]
  rw [show Sender.step plant.store (wire plant.params).params s.sender plant.host
    (m.asdu plant.params ca) = _ from hstep]
  rw [Option.map_some, Option.map_some]
  dsimp only
  rw [finish_wire hw hca hms]
  dsimp only
  rw [packets_map hw hca hms]
  rfl

/-- **A message is handed to the receiver**, which answers with messages and reports
no error. -/
theorem step_toReceiver {receiver : Receiver} {file : Option (Entry × Octets)}
    (hhead : s.toReceiver = m.packet plant.params ca n :: rest)
    (hstep : Receiver.step plant.params s.receiver plant.host (m.asdu plant.params ca) =
      (receiver, ⟨ms.map (asdu plant.params ca), file, none, none⟩))
    (hstored : (Receiver.Reply.mk (ms.map (asdu plant.params ca)) file none none).stored
      plant.archive = none) :
    s.step plant .toReceiver = some { s with
      receiver
      toReceiver := rest
      toSender := s.toSender ++
        ms.map (packet plant.params ca (s.transfers + begun s.receiver receiver))
      transfers := s.transfers + begun s.receiver receiver
      files := s.files ++ file.toList
      results := s.results ++ [.ok true] } := by
  -- the octets on the channel are read back as the ASDU that was sent
  have hback : Asdu.unmarshalBinary plant.params (m.packet plant.params ca n).octets =
      .ok (m.asdu plant.params ca) := (octets_spec hw hca hl).2.2
  have hfile : isFileAsdu (m.asdu plant.params ca).identifier.typeId := by cases m <;> rfl
  show s.stepToReceiver plant = _
  unfold stepToReceiver
  rw [hhead]
  dsimp only
  rw [hback]
  dsimp only
  unfold receive Receiver.handle
  rw [hfile, if_neg (by decide)]
  rw [show Receiver.step (wire plant.params).params s.receiver plant.host
    (m.asdu plant.params ca) = _ from hstep]
  unfold Receiver.finish
  dsimp only
  rw [sendAll_wire hw hca hms, List.nil_append]
  dsimp only
  -- a new mark is given when the receiver has just become busy
  rw [packets_map hw hca hms, hstored]

end delivery

end Ends

end FileTransfer
end Iec60870
