import Iec60870.Asdu.Files
import Iec60870.Lib.Chunks

/-!
# Files, sections and connections

What the two ends of a file transfer act on: the store that holds the files, the
connection that takes their ASDUs, and the cut of a file into sections.

## Main definitions

* `Store`, `Connect` — what the environment answers.
* `splitSections` — the sections of a file.

## Main results

* `flatten_splitSections`, `length_splitSections_le` — **the sections are the
  file, and there are at most 255.**
-/

namespace Iec60870

/-- A traversal that succeeds, element by element. -/
theorem mapM_eq_ok {ε α β : Type} {f : α → Except ε β} {P : α → Prop} {g : α → β} {xs : List α}
    {ys : List β} (h : ∀ x ∈ xs, ∀ y, f x = .ok y ↔ P x ∧ y = g x) :
    xs.mapM f = .ok ys ↔ (∀ x ∈ xs, P x) ∧ ys = xs.map g := by
  induction xs generalizing ys with
  | nil =>
    rw [List.mapM_nil]
    constructor
    · intro hok
      cases hok
      exact ⟨nofun, rfl⟩
    · rintro ⟨-, rfl⟩
      rfl
  | cons x xs ih =>
    have hrest (ys : List β) : xs.mapM f = .ok ys ↔ (∀ x ∈ xs, P x) ∧ ys = xs.map g :=
      ih fun x' hx' => h x' (List.mem_cons_of_mem _ hx')
    rw [List.mapM_cons, List.forall_mem_cons]
    constructor
    · intro hok
      obtain ⟨y, hy, hok⟩ := bind_eq_ok.mp hok
      obtain ⟨ys', hys, hok⟩ := bind_eq_ok.mp hok
      cases hok
      obtain ⟨hx, rfl⟩ := (h x List.mem_cons_self y).mp hy
      obtain ⟨hall, rfl⟩ := (hrest _).mp hys
      exact ⟨⟨hx, hall⟩, rfl⟩
    · rintro ⟨⟨hx, hall⟩, rfl⟩
      rw [(h x List.mem_cons_self _).mpr ⟨hx, rfl⟩, (hrest _).mpr ⟨hall, rfl⟩]
      rfl

/-- `Asdu::negated`: the same ASDU with P/N set. -/
def Asdu.negated (a : Asdu) : Asdu :=
  { a with identifier := { a.identifier with coa := { a.identifier.coa with isNegative := true } } }

namespace FileTransfer

/-- `transfer`: the cause of the procedure. -/
def transfer : CauseOfTransmission := .new .FILE_TRANSFER

/-- One file held by a store, as the directory lists it. -/
structure Entry where
  ioa : InfoObjAddr
  nof : NameOfFile
  size : UInt32
  time : Option DateTime
  isDirectory : Bool
  deriving DecidableEq, Repr

/-- What a store answers while one ASDU is handled. -/
structure Store where
  list : Except Error (List Entry)
  read : InfoObjAddr → NameOfFile → Except Error Octets
  write : InfoObjAddr → NameOfFile → Octets → Except Error Unit
  delete : InfoObjAddr → NameOfFile → Except Error Unit

/-- A connection: its parameters, and what it answers to an ASDU after those it
has already taken from the same call. -/
structure Connect where
  params : Params
  send : List Asdu → Asdu → Except Error Unit

namespace Connect

/-- Every ASDU is taken, as on a connection that is up and has room in its queue. -/
def Takes (conn : Connect) : Prop := ∀ sent a, conn.send sent a = .ok ()

/-- The ASDUs go out one by one up to the first refusal; which were taken, and
the refusal. -/
def sendAll (conn : Connect) (sent : List Asdu) : List Asdu → List Asdu × Option Error
  | [] => (sent, none)
  | a :: rest =>
    match conn.send sent a with
    | .error e => (sent, some e)
    | .ok () => conn.sendAll (sent ++ [a]) rest

/-- What was taken stays taken. -/
theorem prefix_sendAll (conn : Connect) (sent as : List Asdu) :
    sent <+: (conn.sendAll sent as).1 := by
  induction as generalizing sent with
  | nil => exact List.prefix_rfl
  | cons a rest ih =>
    rw [sendAll]
    cases conn.send sent a with
    | error e => exact List.prefix_rfl
    | ok u => exact (List.prefix_append sent [a]).trans (ih _)

theorem Takes.sendAll {conn : Connect} (h : conn.Takes) (sent as : List Asdu) :
    conn.sendAll sent as = (sent ++ as, none) := by
  induction as generalizing sent with
  | nil => rw [Connect.sendAll, List.append_nil]
  | cons a rest ih =>
    rw [Connect.sendAll, h]
    dsimp only
    rw [ih, List.append_assoc, List.singleton_append]

end Connect

/-- `is_file_asdu`. -/
def isFileAsdu (t : TypeId) : Bool :=
  t ∈ [TypeId.F_FR_NA_1, .F_SR_NA_1, .F_SC_NA_1, .F_LS_NA_1, .F_AF_NA_1, .F_SG_NA_1, .F_DR_TA_1]

/-! ### Sections -/

/-- The most sections one file can have. -/
def MAX_SECTIONS : ℕ := 255

/-- `split_sections`: sections of the configured size, or of the least one that
needs no more than `MAX_SECTIONS`. -/
def splitSections (data : Octets) (sectionSize : ℕ) : List Octets :=
  if sectionSize = 0 ∨ data = [] then [data]
  else
    let needed := (data.length + (MAX_SECTIONS - 1)) / MAX_SECTIONS
    data.chunks (max sectionSize needed)

variable {data : Octets} {sectionSize : ℕ}

/-- A file has a section, also an empty one. -/
theorem splitSections_ne_nil : splitSections data sectionSize ≠ [] := by
  unfold splitSections
  split
  · exact List.cons_ne_nil _ _
  · next h => exact List.chunks_ne_nil (not_or.mp h).2

/-- **The sections are the file.** -/
theorem flatten_splitSections : (splitSections data sectionSize).flatten = data := by
  unfold splitSections
  split
  · exact List.append_nil _
  · next h =>
    have hsize : 0 < sectionSize := Nat.pos_of_ne_zero (not_or.mp h).1
    exact List.flatten_chunks (lt_of_lt_of_le hsize (le_max_left _ _)) _

/-- **There are at most 255 sections.** -/
theorem length_splitSections_le : (splitSections data sectionSize).length ≤ MAX_SECTIONS := by
  unfold splitSections
  split
  · exact Nat.le_of_ble_eq_true rfl
  · refine List.length_chunks_le ?_
    have hneeded : data.length ≤
        MAX_SECTIONS * ((data.length + (MAX_SECTIONS - 1)) / MAX_SECTIONS) := by
      unfold MAX_SECTIONS
      omega
    exact hneeded.trans (Nat.mul_le_mul_left _ (le_max_right _ _))

/-- No section is longer than the file. -/
theorem length_le_of_mem_splitSections {sec : Octets} (h : sec ∈ splitSections data sectionSize) :
    sec.length ≤ data.length := by
  have hflat : (splitSections data sectionSize).flatten = data := flatten_splitSections
  rw [← congrArg List.length hflat]
  exact (List.sublist_flatten_of_mem h).length_le

end FileTransfer

end Iec60870
