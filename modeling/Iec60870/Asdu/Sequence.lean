import Iec60870.Asdu.MonitorTrip

/-!
# The addresses of a sequence

With SQ only the first object carries its address and the reader counts on from
it.  The builders check that one address and drop the others, so a sequence keeps
the addresses of its objects exactly when they can be counted.

## Main definitions

* `SequenceOf` — one starting address stands for all of them.
* `KeepsAddresses` — a getter reports the addresses that were given.

## Main results

* `keepsAddresses_iff` — the loops keep the addresses of a sequence, and no
  others.
* `sequence_keepsAddresses_iff` — **the same for every builder of a sequence.**
* `sequence_reassigns` — a value that arrives at another address.
-/

namespace Iec60870

/-- One starting address stands for all of them: each follows the one before, and
the last one still fits the configured width. -/
def SequenceOf (p : Params) (addrs : List InfoObjAddr) : Prop :=
  Consecutive addrs ∧ ∀ last ∈ addrs.getLast?, p.FitsAddr last

/-- The getter reports these addresses, position by position, and each is one the
configured width can hold. -/
def KeepsAddresses {γ : Type} (p : Params) (ioa : γ → InfoObjAddr) (got : Except Error (List γ))
    (addrs : List InfoObjAddr) : Prop :=
  (∃ vs, got = .ok vs ∧ vs.map ioa = addrs) ∧ ∀ addr ∈ addrs, p.FitsAddr addr

/-! ### Counting addresses -/

theorem Params.WellFormed.addr_lt {p : Params} (hw : p.WellFormed) {addr : InfoObjAddr}
    (h : p.FitsAddr addr) : addr.toNat < 2 ^ 24 := by
  unfold Params.FitsAddr at h
  obtain hs | hs | hs := hw.infoObjAddrSize_cases <;> rw [hs] at h
  · exact h.trans (by decide)
  · exact h.trans (by decide)
  · exact h

/-- Consecutive addresses do not pass the last one. -/
theorem Consecutive.le_last {addrs : List InfoObjAddr} {addr last : InfoObjAddr}
    (h : Consecutive (addr :: addrs)) (hlt : addr.toNat + addrs.length < 2 ^ 32)
    (hlast : last ∈ (addr :: addrs).getLast?) : ∀ x ∈ addr :: addrs, x.toNat ≤ last.toNat := by
  induction addrs generalizing addr with
  | nil =>
    obtain rfl : addr = last := by simpa using hlast
    simp
  | cons next addrs ih =>
    obtain ⟨hnext, hrest⟩ := List.isChain_cons_cons.mp h
    rw [List.length_cons] at hlt
    have hsucc : next.toNat = addr.toNat + 1 := by
      rw [hnext, UInt32.toNat_add]
      exact Nat.mod_eq_of_lt (by show addr.toNat + 1 < _; omega)
    have hle := ih hrest (by omega) (by rwa [List.getLast?_cons_cons] at hlast)
    intro x hx
    obtain rfl | hx := List.mem_cons.mp hx
    · have := hle next List.mem_cons_self
      omega
    · exact hle x hx

section

variable {α γ : Type} {ioa : α → InfoObjAddr} {ioa' : γ → InfoObjAddr} {f : InfoObjAddr → α → γ}
  (hf : ∀ addr v, ioa' (f addr v) = addr)

include hf

/-- Counted addresses are the given ones exactly when these are consecutive. -/
theorem map_assigned_eq_iff {vs : List α} {i : ℕ} {previous : InfoObjAddr} :
    (assigned true ioa f (i + 1) previous vs).map ioa' = vs.map ioa ↔
      Consecutive (previous :: vs.map ioa) := by
  induction vs generalizing i previous with
  | nil => exact ⟨fun _ => .singleton previous, fun _ => rfl⟩
  | cons v vs ih =>
    have haddr : (if writesAddr true (i + 1) then ioa v else previous + 1) = previous + 1 := by
      rw [writesAddr_succ]
      rfl
    rw [assigned, haddr, List.map_cons, List.map_cons, hf, List.cons_eq_cons, ih]
    unfold Consecutive
    rw [List.isChain_cons_cons]
    constructor
    · rintro ⟨heq, hchain⟩
      exact ⟨heq.symm, heq ▸ hchain⟩
    · rintro ⟨heq, hchain⟩
      exact ⟨heq.symm, heq ▸ hchain⟩

/-- **The loops keep the addresses of a sequence, and no others.** -/
theorem keepsAddresses_iff {p : Params} (hw : p.WellFormed) {v : α} {vs : List α}
    (hfirst : p.FitsAddr (ioa v)) (hlen : vs.length < 256) :
    KeepsAddresses p ioa' (.ok (assigned true ioa f 0 0 (v :: vs))) ((v :: vs).map ioa) ↔
      SequenceOf p ((v :: vs).map ioa) := by
  have hmap : (assigned true ioa f 0 0 (v :: vs)).map ioa' = (v :: vs).map ioa ↔
      Consecutive ((v :: vs).map ioa) := by
    rw [assigned, writesAddr_zero, if_pos rfl, List.map_cons, List.map_cons, hf, List.cons_eq_cons]
    exact ⟨fun h => (map_assigned_eq_iff hf).mp h.2, fun h => ⟨rfl, (map_assigned_eq_iff hf).mpr h⟩⟩
  constructor
  · rintro ⟨⟨vs', hok, haddrs⟩, hfit⟩
    cases hok
    exact ⟨hmap.mp haddrs, fun last hlast => hfit last (List.mem_of_getLast? hlast)⟩
  · rintro ⟨hchain, hlast⟩
    refine ⟨⟨_, rfl, hmap.mpr hchain⟩, fun addr haddr => ?_⟩
    have hlt := hw.addr_lt hfirst
    -- no address passes the last one, and that one fits
    obtain ⟨last, hmem⟩ : ∃ last, last ∈ ((v :: vs).map ioa).getLast? :=
      ⟨_, List.getLast?_eq_getLast_of_ne_nil (List.cons_ne_nil _ _)⟩
    have hle := Consecutive.le_last hchain (by rw [List.length_map]; omega) hmem addr haddr
    exact hle.trans_lt (hlast last hmem)

end

/-! ### The builders of a sequence -/

/-- Of the lists a builder accepts as a sequence, its getter reports the given
addresses exactly for those that one starting address stands for. -/
def SequenceKept {β : Type} (params : Params) (ioa : β → InfoObjAddr)
    (build : List β → Except Error Asdu) (get : Asdu → Except Error (List β)) : Prop :=
  ∀ infos a, build infos = .ok a →
    (KeepsAddresses params ioa (get a) (infos.map ioa) ↔ SequenceOf params (infos.map ioa))

/-- The first address of a built sequence fits, and the count is one of an
octet. -/
theorem first_fits_of_buildObjects {α : Type} {params : Params} {typeId : TypeId}
    {coa : CauseOfTransmission} {ca : UInt16} {ioa : α → InfoObjAddr}
    {element : α → Except Error Octets} {infos : List α} {a : Asdu}
    (h : buildObjects params typeId true coa ca ioa element infos = .ok a) :
    params.WellFormed ∧ ∃ v vs, infos = v :: vs ∧ params.FitsAddr (ioa v) ∧ vs.length < 256 := by
  obtain ⟨w, hwrite, hb⟩ := built_of_buildObjects h
  refine ⟨hb.valid, ?_⟩
  cases infos with
  | nil => exact absurd hb.nonempty (lt_irrefl 0)
  | cons v vs =>
    have hlt := a.identifier.variable'.number.toNat_lt
    rw [hb.number, List.length_cons] at hlt
    unfold writeObjects at hwrite
    obtain ⟨addr, haddr, -⟩ := bind_eq_ok.mp hwrite
    rw [writeAddr, writesAddr_zero, if_pos rfl, encoder_infoObjAddr hb.valid] at haddr
    split at haddr
    · next hfit => exact ⟨v, vs, rfl, hfit, by omega⟩
    · cases haddr

/-- A builder that checks the cause first. -/
theorem Family.sequenceKept {β : Type} {fam : Family β} (host : Host) {reduce : TypeId → β → β}
    (hl : fam.Lossless reduce) {typeId : TypeId} (htype : typeId ∈ fam.types.untagged)
    (params : Params) (coa : CauseOfTransmission) (ca : UInt16) (check : Except Error Unit) :
    SequenceKept params Stamped.ioa
      (fun infos => do
        check
        fam.withType host params typeId true coa ca infos) (fam.get host) := by
  intro infos a ha
  obtain ⟨_, -, ha⟩ := bind_eq_ok.mp ha
  obtain ⟨hw, v, vs, rfl, hfirst, hlen⟩ := first_fits_of_buildObjects ha
  rw [Family.get_untagged host hl htype ha]
  exact keepsAddresses_iff (fun _ _ => rfl) hw hfirst hlen

theorem scd_sequenceKept (params : Params) (coa : CauseOfTransmission) (ca : UInt16) :
    SequenceKept params PackedSinglePointWithScdInfo.ioa
      (Asdu.packedSinglePointWithScd params true coa ca) Asdu.getPackedSinglePointWithScd := by
  intro infos a ha
  obtain ⟨_, -, ha⟩ := bind_eq_ok.mp ha
  obtain ⟨hw, v, vs, rfl, hfirst, hlen⟩ := first_fits_of_buildObjects ha
  rw [get_scd ha]
  exact keepsAddresses_iff (fun _ _ => rfl) hw hfirst hlen

/-- **Every builder of a sequence keeps the addresses of the lists that one
starting address stands for, and reassigns those of every other list it
accepts.** -/
theorem sequence_keepsAddresses_iff (host : Host) (params : Params) (coa : CauseOfTransmission)
    (ca : UInt16) :
    SequenceKept params Stamped.ioa (Asdu.single host params true coa ca)
      (Asdu.getSinglePoint host) ∧
    SequenceKept params Stamped.ioa (Asdu.double host params true coa ca)
      (Asdu.getDoublePoint host) ∧
    SequenceKept params Stamped.ioa (Asdu.step host params true coa ca)
      (Asdu.getStepPosition host) ∧
    SequenceKept params Stamped.ioa (Asdu.bitstring32 host params true coa ca)
      (Asdu.getBitstring32 host) ∧
    SequenceKept params Stamped.ioa (Asdu.measuredValueNormal host params true coa ca)
      (Asdu.getMeasuredValueNormal host) ∧
    SequenceKept params Stamped.ioa (Asdu.measuredValueNormalNoQuality host params true coa ca)
      (Asdu.getMeasuredValueNormal host) ∧
    SequenceKept params Stamped.ioa (Asdu.measuredValueScaled host params true coa ca)
      (Asdu.getMeasuredValueScaled host) ∧
    SequenceKept params Stamped.ioa (Asdu.measuredValueFloat host params true coa ca)
      (Asdu.getMeasuredValueFloat host) ∧
    SequenceKept params Stamped.ioa (Asdu.integratedTotals host params true coa ca)
      (Asdu.getIntegratedTotals host) ∧
    SequenceKept params PackedSinglePointWithScdInfo.ioa
      (Asdu.packedSinglePointWithScd params true coa ca) Asdu.getPackedSinglePointWithScd := by
  -- Each builder fixes its type, and that type has no time tag.
  have hfam {β : Type} {fam : Family β} {reduce : TypeId → β → β} (hl : fam.Lossless reduce)
      {typeId : TypeId} (htype : typeId ∈ fam.types.untagged) (check : Except Error Unit) :=
    Family.sequenceKept host hl htype params coa ca check
  exact ⟨hfam Family.singlePoint_lossless (by decide) _,
    hfam Family.doublePoint_lossless (by decide) _,
    hfam Family.stepPosition_lossless (by decide) _,
    hfam Family.bitString_lossless (by decide) _,
    hfam Family.normalValue_lossless (by decide) _,
    hfam Family.normalValue_lossless (by decide) _,
    hfam Family.scaledValue_lossless (by decide) _,
    hfam Family.floatValue_lossless (by decide) _,
    hfam Family.integratedTotal_lossless (by decide) _,
    scd_sequenceKept params coa ca⟩

/-- Three points in a row keep their addresses. -/
theorem sequence_keepsAddresses_iff_three :
    let now : DateTime := ⟨2026, 1, 1, 0, 0, 0, 0, by decide⟩
    ∃ a, Asdu.single (.utc now) paramsWide true (.new .SPONTANEOUS) 1
        [⟨100, ⟨true, 0⟩, none, .GOOD⟩, ⟨101, ⟨false, 0⟩, none, .GOOD⟩,
          ⟨102, ⟨true, 0⟩, none, .GOOD⟩] = .ok a ∧
      KeepsAddresses paramsWide Stamped.ioa (Asdu.getSinglePoint (.utc now) a) [100, 101, 102] := by
  intro now
  have hseq : SequenceOf paramsWide [100, 101, 102] := by
    refine ⟨by decide, fun last hlast => ?_⟩
    cases hlast
    decide
  exact ⟨_, rfl, ((sequence_keepsAddresses_iff (.utc now) paramsWide (.new .SPONTANEOUS) 1).1
    [⟨100, ⟨true, 0⟩, none, .GOOD⟩, ⟨101, ⟨false, 0⟩, none, .GOOD⟩, ⟨102, ⟨true, 0⟩, none, .GOOD⟩]
    _ rfl).mpr hseq⟩

/-- The second of two points is accepted for address 200 and arrives at 101. -/
theorem sequence_reassigns :
    let now : DateTime := ⟨2026, 1, 1, 0, 0, 0, 0, by decide⟩
    ∃ a, Asdu.single (.utc now) paramsWide true (.new .SPONTANEOUS) 1
        [⟨100, ⟨true, 0⟩, none, .GOOD⟩, ⟨200, ⟨true, 0⟩, none, .GOOD⟩] = .ok a ∧
      Asdu.getSinglePoint (.utc now) a =
        .ok [⟨100, ⟨true, 0⟩, none, .GOOD⟩, ⟨101, ⟨true, 0⟩, none, .GOOD⟩] ∧
      ¬KeepsAddresses paramsWide Stamped.ioa (Asdu.getSinglePoint (.utc now) a) [100, 200] := by
  intro now
  refine ⟨_, rfl, by decide +kernel, ?_⟩
  rintro ⟨⟨vs, hok, haddrs⟩, -⟩
  have hget : Except.ok vs =
      Except.ok [⟨100, ⟨true, 0⟩, none, .GOOD⟩, ⟨101, ⟨true, 0⟩, none, .GOOD⟩] :=
    hok.symm.trans (by decide +kernel)
  cases hget
  exact absurd haddrs (by decide)

end Iec60870
