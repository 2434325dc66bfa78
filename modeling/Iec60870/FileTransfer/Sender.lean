import Iec60870.FileTransfer.Store

/-!
# The sender of a file

The controlled station's side of a transfer: it answers directory calls,
confirms the selection of a file, and serves the sections and segments a
controlling station asks for.  One transfer runs at a time.

The source reads `sections[cur]` without a check; where that is out of range the
call panics, and so has no outcome here.

## Main definitions

* `Sender`, `Sender.Active` — the sender; the transfer it serves.
* `Sender.Reply` — the ASDUs of one transition, and the error to report.
* `Sender.onCallOrSelect`, `Sender.onAck` — the two kinds of request.
* `Sender.handle` — one received ASDU.
-/

namespace Iec60870
namespace FileTransfer

/-- The transfer being served: the file it is about, cut into sections, and how
many of them are done. -/
structure Sender.Active where
  ca : UInt16
  ioa : InfoObjAddr
  nof : NameOfFile
  sections : List Octets
  /-- Index of the section being served. -/
  cur : ℕ
  deriving DecidableEq, Repr

/-- The controlled station's side of a transfer, of which there is one at a time. -/
structure Sender where
  sectionSize : ℕ
  active : Option Sender.Active
  deriving DecidableEq, Repr

namespace Sender

/-- What one transition produced: the ASDUs to send, and an error if there was
one. -/
structure Reply where
  send : List Asdu
  error : Option Error
  /-- The error was answered on the wire, and is only logged. -/
  answered : Bool
  deriving DecidableEq

namespace Reply

def nothing : Reply := ⟨[], none, false⟩

def ofSend (asdus : List Asdu) : Reply := ⟨asdus, none, false⟩

def failed (e : Error) : Reply := ⟨[], some e, false⟩

def sendAndFail (asdus : List Asdu) (e : Error) : Reply := ⟨asdus, some e, true⟩

/-- A builder result as a reply. -/
def ofBuilt : Except Error (List Asdu) → Reply
  | .ok asdus => ofSend asdus
  | .error e => failed e

end Reply

/-- `Sender::in_progress`. -/
def inProgress (s : Sender) : Bool := s.active.isSome

/-- `Sender::abort`. -/
def abort (s : Sender) : Sender := { s with active := none }

/-- `section_index`: a one-based section number as an index. -/
def sectionIndex (nos : UInt8) (len : ℕ) : Option ℕ :=
  if nos = 0 then none
  else if nos.toNat - 1 < len then some (nos.toNat - 1) else none

/-! ### The ASDUs of a transfer -/

section built

variable (params : Params) (t : Active)

/-- `Sender::file_ready`: the confirmation of a selection, with the length of the
file. -/
def fileReady (len : ℕ) : Except Error (List Asdu) := do
  let a ← Asdu.fileReady params transfer t.ca ⟨t.ioa, t.nof, .ofNat len, ⟨0, false⟩⟩
  return [a]

/-- The announcement of a section, with its number and its length. -/
def announceSection (sec : Octets) : Except Error (List Asdu) := do
  let a ← Asdu.sectionReady params transfer t.ca
    ⟨t.ioa, t.nof, .ofNat (t.cur + 1), .ofNat sec.length, ⟨0, false⟩⟩
  return [a]

/-- `Sender::section_ready`: the announcement of the current section. -/
def sectionReady : Option (Except Error (List Asdu)) :=
  t.sections[t.cur]?.map (announceSection params t)

/-- A section in segments, and its marker.  Parameters that leave no room for a
segment are refused. -/
def serveSection (sec : Octets) : Except Error (List Asdu) := do
  let nos := UInt8.ofNat (t.cur + 1)
  let max := params.maxSegmentSize
  if max = 0 then .error .param
  else
    let segments ← (sec.chunks max).mapM fun segment =>
      Asdu.fileSegment params transfer t.ca ⟨t.ioa, t.nof, nos, segment⟩
    let marker ← Asdu.lastSectionOrSegment params transfer t.ca
      ⟨t.ioa, t.nof, nos, .SECTION_WITHOUT_DEACTIVATE, fileChecksum sec⟩
    return segments ++ [marker]

/-- `Sender::section_data`: the current section in segments, and its marker. -/
def sectionData : Option (Except Error (List Asdu)) :=
  t.sections[t.cur]?.map (serveSection params t)

/-- `Sender::last_section`: the end of the file, with the checksums of its
sections summed up. -/
def lastSection : Except Error (List Asdu) := do
  let chs := t.sections.foldl (fun sum sec => sum + fileChecksum sec) 0
  let a ← Asdu.lastSectionOrSegment params transfer t.ca
    ⟨t.ioa, t.nof, .ofNat t.sections.length, .FILE_WITHOUT_DEACTIVATE, chs⟩
  return [a]

/-- `Sender::neg_ack_reply`: the request is refused on the wire. -/
def negAckReply (ca : UInt16) (req : CallOrSelectFileInfo) (action : AfqAction) (error : FileError)
    (e : Error) : Reply :=
  match Asdu.ackFileOrSection params transfer ca ⟨req.ioa, req.nof, req.nos, ⟨action, error⟩⟩ with
  | .ok a => .sendAndFail [a] e
  | .error _ => .failed e

end built

/-! ### The directory -/

/-- The entries of a listing as they are sent: the last one is marked. -/
def directoryInfos (entries : List Entry) : List DirectoryInfo :=
  entries.mapIdx fun i e =>
    ⟨e.ioa, e.nof, e.size, ⟨0, i == entries.length - 1, e.isDirectory, false⟩, e.time, .GOOD⟩

/-- How many entries one ASDU of a directory takes. -/
def directoryCapacity (params : Params) : ℕ :=
  min ((ASDU_SIZE_MAX - params.identifierSize) / (params.infoObjAddrSize.toNat + 13)) 127

/-- `Sender::directory`; batches of no entries are a panic. -/
def directory (host : Host) (store : Store) (params : Params) (ca : UInt16) : Option Reply :=
  match store.list with
  | .error e => some (.failed e)
  | .ok entries =>
    if entries = [] then some .nothing
    else if directoryCapacity params = 0 then none
    else
      some (.ofBuilt (((directoryInfos entries).chunks (directoryCapacity params)).mapM
        (Asdu.fileDirectory params (.new .REQUEST) ca host)))

/-! ### Requests -/

section requests

variable (store : Store) (params : Params) (s : Sender)

/-- The call of a running transfer, which starts on its first section. -/
def recallFile (t : Active) : Option (Sender × Reply) := do
  let t := { t with cur := 0 }
  let built ← sectionReady params t
  return ({ s with active := some t }, .ofBuilt built)

/-- The selection of a file, or the call of one that was not selected. -/
def openFile (a : Asdu) (req : CallOrSelectFileInfo) (select : Bool) : Option (Sender × Reply) :=
  match store.read req.ioa req.nof with
  | .error e => some (s, .sendAndFail [(a.replyMirror .UNKNOWN_IOA).negated] e)
  | .ok data => do
    let t : Active :=
      ⟨a.identifier.commonAddr, req.ioa, req.nof, splitSections data s.sectionSize, 0⟩
    let s := { s with active := some t }
    if select then return (s, .ofBuilt (fileReady params t data.length))
    else
      let built ← sectionReady params t
      return (s, .ofBuilt built)

/-- The transfer the call of a file continues. -/
def called (a : Asdu) (req : CallOrSelectFileInfo) : Option Active :=
  s.active.filter fun t => t.ca = a.identifier.commonAddr ∧ t.ioa = req.ioa ∧ t.nof = req.nof

/-- `SELECT_FILE` and `REQUEST_FILE`: a selection opens the file; a request goes
on with the file that was selected, or opens it. -/
def onFileCall (a : Asdu) (req : CallOrSelectFileInfo) : Option (Sender × Reply) :=
  if req.scq.action = .SELECT_FILE then openFile store params s a req true
  else
    match s.called a req with
    | some t => recallFile params s t
    | none => openFile store params s a req false

/-- The section a call names: section 0 on a data request is the announced one. -/
def namedSection (t : Active) (req : CallOrSelectFileInfo) : Option ℕ :=
  if req.scq.action = .REQUEST_SECTION ∧ req.nos = 0 then some t.cur
  else sectionIndex req.nos t.sections.length

/-- `SELECT_SECTION` and `REQUEST_SECTION`: only the name of the file is looked
at. -/
def onSectionCall (a : Asdu) (req : CallOrSelectFileInfo) : Option (Sender × Reply) :=
  let refuse (action : AfqAction) (error : FileError) :=
    negAckReply params a.identifier.commonAddr req action error .noTransfer
  match s.active.filter (·.nof = req.nof) with
  | none => some (s, refuse .NEG_ACK_FILE .UNEXPECTED_NAME_OF_FILE)
  | some t =>
    match namedSection t req with
    | none => some (s, refuse .NEG_ACK_SECTION .UNEXPECTED_NAME_OF_SECTION)
    | some cur => do
      let t := { t with cur }
      let built ←
        if req.scq.action = .REQUEST_SECTION then sectionData params t else sectionReady params t
      return ({ s with active := some t }, .ofBuilt built)

/-- `DELETE_FILE`: the store decides, and a transfer of that address and name ends
with the file. -/
def onDeleteFile (a : Asdu) (req : CallOrSelectFileInfo) : Sender × Reply :=
  match store.delete req.ioa req.nof with
  | .error e =>
    (s, negAckReply params a.identifier.commonAddr req .NEG_ACK_FILE .UNEXPECTED_NAME_OF_FILE e)
  | .ok () =>
    ({ s with active := s.active.filter fun t => ¬(t.ioa = req.ioa ∧ t.nof = req.nof) }, .nothing)

variable (host : Host)

/-- `Sender::on_call_or_select`: one branch for each action of the qualifier;
`none` where the source panics. -/
def onCallOrSelect (a : Asdu) : Option (Sender × Reply) :=
  match a.getCallOrSelectFile with
  | .error e => some (s, .failed e)
  | .ok req =>
    let action := req.scq.action
    if action = .DEFAULT then
      (directory host store params a.identifier.commonAddr).map fun reply => (s, reply)
    else if action = .SELECT_FILE ∨ action = .REQUEST_FILE then onFileCall store params s a req
    else if action = .SELECT_SECTION ∨ action = .REQUEST_SECTION then onSectionCall params s a req
    else if action = .DEACTIVATE_FILE ∨ action = .DEACTIVATE_SECTION then
      some (s.abort, .nothing)
    else if action = .DELETE_FILE then some (onDeleteFile store params s a req)
    else some (s, .nothing)

/-- `Sender::on_ack`: neither the address nor the name is looked at. -/
def onAck (a : Asdu) : Option (Sender × Reply) :=
  match a.getAckFileOrSection with
  | .error e => some (s, .failed e)
  | .ok ack =>
    match s.active with
    | none => some (s, .failed .noTransfer)
    | some t =>
      let action := ack.afq.action
      if action = .POS_ACK_SECTION then
        let t := { t with cur := t.cur + 1 }
        let s := { s with active := some t }
        if t.cur < t.sections.length then
          (sectionReady params t).map fun built => (s, .ofBuilt built)
        else some (s, .ofBuilt (lastSection params t))
      else if action = .NEG_ACK_SECTION then
        -- the section is served again
        (sectionData params t).map fun built => (s, .ofBuilt built)
      else if action = .POS_ACK_FILE ∨ action = .NEG_ACK_FILE then some (s.abort, .nothing)
      else some (s, .nothing)

/-- The transition of one file ASDU: calls and acknowledgements are acted upon,
the other file types refused. -/
def step (a : Asdu) : Option (Sender × Reply) :=
  if a.identifier.typeId = .F_SC_NA_1 then onCallOrSelect store params s host a
  else if a.identifier.typeId = .F_AF_NA_1 then onAck params s a
  else some (s, .failed .fileServiceUnsupported)

end requests

theorem step_call {store : Store} {params : Params} {s : Sender} {host : Host} {a : Asdu}
    (ht : a.identifier.typeId = .F_SC_NA_1) :
    step store params s host a = onCallOrSelect store params s host a := by
  unfold step
  rw [ht]
  rfl

theorem step_ack {store : Store} {params : Params} {s : Sender} {host : Host} {a : Asdu}
    (ht : a.identifier.typeId = .F_AF_NA_1) :
    step store params s host a = onAck params s a := by
  unfold step
  rw [ht]
  rfl

/-- What handling one ASDU comes to: the sender afterwards, what was sent, and the
result of the call. -/
structure Outcome where
  sender : Sender
  sent : List Asdu
  result : Except Error Bool

/-- The replies go out; a failed send ends the transfer. -/
def finish (conn : Connect) (s : Sender) (reply : Reply) : Outcome :=
  match conn.sendAll [] reply.send with
  | (sent, some e) => ⟨s.abort, sent, .error e⟩
  | (sent, none) =>
    match reply.error with
    | some e => ⟨s, sent, if reply.answered then .ok true else .error e⟩
    | none => ⟨s, sent, .ok true⟩

/-- `Sender::handle`: an ASDU of another service is left to others; of the file
service, one transition and what follows from it. -/
def handle (host : Host) (store : Store) (conn : Connect) (s : Sender) (a : Asdu) :
    Option Outcome :=
  if !isFileAsdu a.identifier.typeId then some ⟨s, [], .ok false⟩
  else do
    let (s, reply) ← step store conn.params s host a
    return finish conn s reply

/-- `Sender::offer`: a file is announced unasked; the sender itself stays as it
is. -/
def offer (store : Store) (conn : Connect) (ca : UInt16) (ioa : InfoObjAddr) (nof : NameOfFile) :
    Except Error (List Asdu) := do
  let data ← store.read ioa nof
  let a ← Asdu.fileReady conn.params transfer ca ⟨ioa, nof, .ofNat data.length, ⟨0, false⟩⟩
  conn.send [] a
  return [a]

end Sender

end FileTransfer
end Iec60870
