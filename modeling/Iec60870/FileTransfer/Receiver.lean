import Iec60870.FileTransfer.Store

/-!
# The receiver of a file

The controlling station's side of a transfer: it selects a file, requests its
sections, verifies the checksum of each and assembles the result.  One transfer
runs at a time.

## Main definitions

* `Receiver`, `Receiver.Active` — the receiver; the transfer it assembles.
* `Receiver.Reply` — what one transition produced.
* `Receiver.requestFile` — the start of a transfer.
* `Receiver.handle` — one received ASDU.
-/

namespace Iec60870
namespace FileTransfer

/-- The transfer being assembled: the file it is about, and the octets that have
arrived of the section and of the file. -/
structure Receiver.Active where
  ca : UInt16
  ioa : InfoObjAddr
  nof : NameOfFile
  nos : UInt8
  /-- The file was called after its file ready. -/
  called : Bool
  sectionBuf : Octets
  fileBuf : Octets
  deriving DecidableEq, Repr

/-- The controlling station's side of a transfer, of which there is one at a time. -/
structure Receiver where
  autoAccept : Bool
  active : Option Receiver.Active
  deriving DecidableEq, Repr

namespace Receiver

/-- What one transition produced: the ASDUs to send, and what is to be handed to
the application. -/
structure Reply where
  send : List Asdu
  /-- A complete file, for the store and the file handler. -/
  file : Option (Entry × Octets)
  /-- A listing for the directory handler. -/
  directory : Option (UInt16 × List DirectoryInfo)
  error : Option Error
  deriving DecidableEq

namespace Reply

def nothing : Reply := ⟨[], none, none, none⟩

def failed (e : Error) : Reply := ⟨[], none, none, some e⟩

/-- A builder result as a reply. -/
def ofBuilt : Except Error Asdu → Reply
  | .ok asdu => ⟨[asdu], none, none, none⟩
  | .error e => failed e

end Reply

/-- `Receiver::in_progress`. -/
def inProgress (r : Receiver) : Bool := r.active.isSome

/-- `Receiver::abort`. -/
def abort (r : Receiver) : Receiver := { r with active := none }

/-- A transfer at its start. -/
def Active.start (ca : UInt16) (ioa : InfoObjAddr) (nof : NameOfFile) : Active :=
  ⟨ca, ioa, nof, 0, false, [], []⟩

section transitions

variable (params : Params) (r : Receiver)

/-- A select or call of the active file. -/
def Active.call (t : Active) (nos : UInt8) (action : ScqAction) : Except Error Asdu :=
  Asdu.callOrSelectFile params transfer t.ca ⟨t.ioa, t.nof, nos, ⟨action, .NONE⟩⟩

/-- An acknowledgement of the active file or of its section, at the address of the
transfer. -/
def Active.ack (t : Active) (nos : UInt8) (action : AfqAction) (error : FileError) :
    Except Error Asdu :=
  Asdu.ackFileOrSection params transfer t.ca ⟨t.ioa, t.nof, nos, ⟨action, error⟩⟩

/-- `Receiver::on_file_ready`: a refusal ends the transfer, the file that was
selected is called, and an offer is taken up only when nothing is under way. -/
def onFileReady (a : Asdu) : Receiver × Reply :=
  match a.getFileReady with
  | .error e => (r, .failed e)
  | .ok info =>
    if info.frq.isNegative then (r.abort, .failed .fileNotFound)
    else
      match r.active with
      | some t =>
        -- the confirmation of the own select: the file is called
        if t.ca ≠ a.identifier.commonAddr ∨ t.ioa ≠ info.ioa ∨ t.nof ≠ info.nof ∨ t.called then
          (r, .nothing)
        else ({ r with active := some { t with called := true } },
          .ofBuilt (t.call params 0 .REQUEST_FILE))
      | none =>
        if !r.autoAccept then (r, .nothing)
        else
          let t := Active.start a.identifier.commonAddr info.ioa info.nof
          ({ r with active := some t }, .ofBuilt (t.call params 0 .SELECT_FILE))

/-- `Receiver::on_refused`: the common address is not looked at. -/
def onRefused (a : Asdu) : Receiver × Reply :=
  match a.getCallOrSelectFile with
  | .error _ => (r, .failed .fileNotFound)
  | .ok info =>
    match r.active.filter fun t => t.ioa = info.ioa ∧ t.nof = info.nof with
    | some _ => (r.abort, .failed .fileNotFound)
    | none => (r, .nothing)

/-- The transfer of a file, when it is the active one. -/
def activeFor (ca : UInt16) (ioa : InfoObjAddr) (nof : NameOfFile) : Option Active :=
  r.active.filter fun t => t.nof = nof ∧ t.ioa = ioa ∧ t.ca = ca

/-- `Receiver::on_section_ready`: the section is called, unless it is not ready or
belongs to no transfer. -/
def onSectionReady (a : Asdu) : Receiver × Reply :=
  match a.getSectionReady with
  | .error e => (r, .failed e)
  | .ok info =>
    match r.activeFor a.identifier.commonAddr info.ioa info.nof with
    | none => (r, .failed .noTransfer)
    | some t =>
      if info.srq.isNotReady then (r.abort, .failed .noTransfer)
      else
        let t := { t with nos := info.nos, called := true, sectionBuf := [] }
        ({ r with active := some t }, .ofBuilt (t.call params t.nos .REQUEST_SECTION))

/-- `Receiver::on_segment`: the octets are added to the section, which has to be
the current one. -/
def onSegment (a : Asdu) : Receiver × Reply :=
  match a.getFileSegment with
  | .error e => (r, .failed e)
  | .ok info =>
    match (r.activeFor a.identifier.commonAddr info.ioa info.nof).filter (·.nos = info.nos) with
    | none => (r, .failed .noTransfer)
    | some t =>
      ({ r with active := some { t with sectionBuf := t.sectionBuf ++ info.segment } }, .nothing)

/-- The end of the file: it is acknowledged and delivered. -/
def endOfFile (t : Active) (nos : UInt8) : Receiver × Reply :=
  match t.ack params nos .POS_ACK_FILE .NONE with
  | .ok a =>
    (r.abort, ⟨[a], some (⟨t.ioa, t.nof, .ofNat t.fileBuf.length, none, false⟩, t.fileBuf),
      none, none⟩)
  | .error e => (r.abort, .failed e)

/-- The end of a section: it is appended when its checksum is right. -/
def endOfSection (t : Active) (chs : UInt8) : Receiver × Reply :=
  if fileChecksum t.sectionBuf ≠ chs then
    ({ r with active := some { t with sectionBuf := [] } },
      match t.ack params t.nos .NEG_ACK_SECTION .CHECKSUM_FAILED with
      | .ok a => ⟨[a], none, none, some .fileChecksum⟩
      | .error e => .failed e)
  else
    ({ r with active := some { t with sectionBuf := [], fileBuf := t.fileBuf ++ t.sectionBuf } },
      .ofBuilt (t.ack params t.nos .POS_ACK_SECTION .NONE))

/-- `Receiver::on_last_section_or_segment`: the end of a section or of the file,
each with its checksum. -/
def onLastSectionOrSegment (a : Asdu) : Receiver × Reply :=
  match a.getLastSectionOrSegment with
  | .error e => (r, .failed e)
  | .ok info =>
    match r.activeFor a.identifier.commonAddr info.ioa info.nof with
    | none => (r, .failed .noTransfer)
    | some t =>
      if info.lsq.isEndOfFile then endOfFile params r t info.nos
      else if info.lsq = .SECTION_WITHOUT_DEACTIVATE ∨ info.lsq = .SECTION_WITH_DEACTIVATE then
        endOfSection params r t info.chs
      else (r, .nothing)

variable (host : Host)

/-- `Receiver::step`: the transition of one file ASDU. -/
def step (a : Asdu) : Receiver × Reply :=
  let id := a.identifier
  if id.typeId = .F_DR_TA_1 then
    match a.getFileDirectory host with
    | .ok dir => (r, ⟨[], none, some (id.commonAddr, dir), none⟩)
    | .error e => (r, .failed e)
  else if id.typeId = .F_FR_NA_1 then onFileReady params r a
  else if id.typeId = .F_SR_NA_1 then onSectionReady params r a
  else if id.typeId = .F_SG_NA_1 then onSegment r a
  else if id.typeId = .F_LS_NA_1 then onLastSectionOrSegment params r a
  else if id.typeId = .F_SC_NA_1 ∧ id.coa.isNegative then onRefused r a
  else if id.typeId = .F_AF_NA_1 ∨ id.typeId = .F_SC_NA_1 then (r, .failed .fileServiceUnsupported)
  else (r, .nothing)

end transitions

/-! One rule for each type, so that `step` need not be unfolded. -/

section steps

variable {params : Params} {r : Receiver} {host : Host} {a : Asdu}

theorem step_fileReady (ht : a.identifier.typeId = .F_FR_NA_1) :
    step params r host a = onFileReady params r a := by
  unfold step
  dsimp only
  rw [ht]
  rfl

theorem step_sectionReady (ht : a.identifier.typeId = .F_SR_NA_1) :
    step params r host a = onSectionReady params r a := by
  unfold step
  dsimp only
  rw [ht]
  rfl

theorem step_segment (ht : a.identifier.typeId = .F_SG_NA_1) :
    step params r host a = onSegment r a := by
  unfold step
  dsimp only
  rw [ht]
  rfl

theorem step_marker (ht : a.identifier.typeId = .F_LS_NA_1) :
    step params r host a = onLastSectionOrSegment params r a := by
  unfold step
  dsimp only
  rw [ht]
  rfl

theorem step_refused (ht : a.identifier.typeId = .F_SC_NA_1) (hn : a.identifier.coa.isNegative) :
    step params r host a = onRefused r a := by
  unfold step
  dsimp only
  rw [ht, hn]
  rfl

/-- A control-direction ASDU changes nothing. -/
theorem step_unsupported (ht : a.identifier.typeId = .F_AF_NA_1 ∨ a.identifier.typeId = .F_SC_NA_1)
    (hn : a.identifier.typeId = .F_SC_NA_1 → a.identifier.coa.isNegative = false) :
    step params r host a = (r, .failed .fileServiceUnsupported) := by
  unfold step
  dsimp only
  rcases ht with ht | ht
  · rw [ht]
    rfl
  · rw [ht, hn ht]
    rfl

/-- A listing changes nothing, and completes no file. -/
theorem step_directory (ht : a.identifier.typeId = .F_DR_TA_1) :
    (step params r host a).1 = r ∧ (step params r host a).2.file = none := by
  unfold step
  dsimp only
  rw [if_pos ht]
  cases a.getFileDirectory host with
  | ok dir => exact ⟨rfl, rfl⟩
  | error e => exact ⟨rfl, rfl⟩

end steps

/-- What handling one ASDU comes to.  `file` goes to the store, when there is
one, and to the file handler, when one is set; `directory` to the directory
handler. -/
structure Outcome where
  receiver : Receiver
  sent : List Asdu
  file : Option (Entry × Octets)
  directory : Option (UInt16 × List DirectoryInfo)
  result : Except Error Bool

/-- The error of a reply, after its file went to the store. -/
def Reply.stored (reply : Reply) (store : Option Store) : Option Error :=
  match reply.error, reply.file, store with
  | none, some (entry, data), some store =>
    match store.write entry.ioa entry.nof data with
    | .error e => some e
    | .ok () => none
  | error, _, _ => error

/-- Storing, the handlers and the sends; a failed send ends the transfer. -/
def finish (store : Option Store) (conn : Connect) (r : Receiver) (reply : Reply) : Outcome :=
  match conn.sendAll [] reply.send with
  | (sent, some e) => ⟨r.abort, sent, reply.file, reply.directory, .error e⟩
  | (sent, none) =>
    ⟨r, sent, reply.file, reply.directory,
      match reply.stored store with
      | some e => .error e
      | none => .ok true⟩

/-- `Receiver::handle`: an ASDU of another service is left to others; of the file
service, one transition and what follows from it. -/
def handle (host : Host) (store : Option Store) (conn : Connect) (r : Receiver) (a : Asdu) :
    Outcome :=
  if !isFileAsdu a.identifier.typeId then ⟨r, [], none, none, .ok false⟩
  else
    let (r, reply) := step conn.params r host a
    finish store conn r reply

/-- `Receiver::request_file`: refused while a transfer is under way; otherwise the
transfer is marked and the file selected. -/
def requestFile (conn : Connect) (r : Receiver) (ca : UInt16) (ioa : InfoObjAddr)
    (nof : NameOfFile) : Except Error (List Asdu) × Receiver :=
  if r.active.isSome then (.error .transferBusy, r)
  else
    let t := Active.start ca ioa nof
    let r := { r with active := some t }
    match t.call conn.params 0 .SELECT_FILE with
    -- this error is returned past the clean-up
    | .error e => (.error e, r)
    | .ok a =>
      match conn.send [] a with
      | .error e => (.error e, r.abort)
      | .ok () => (.ok [a], r)

end Receiver

end FileTransfer
end Iec60870
