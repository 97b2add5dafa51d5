import Knxd.Tunnel.RoundTrip

/-!
# Reading a description

The block of services starts with its size, from which the parsers compute the length of
the list that they make.  They check that the size is even and that the block ends inside
the packet, but not that it has room for its own two bytes of header: for a size of 0 the
length is -1, and as a number without a sign it is larger than any list can be.
-/

namespace Knxd.Packet

open Memory LPDU

structure Listed (data : CArray) (block : ℕ) (services : List DIBServiceEntry) : Prop where
  length : (services.length : ℤ) = ((byteAt data block).toNat : ℤ) / 2 - 1
  entries : ∀ index entry, services[index]? = some entry →
    readAt data (block + 2 + 2 * index) = .ok entry.family ∧
      readAt data (block + 3 + 2 * index) = .ok entry.version

/-- The blocks are those of a device, and the one of the services has the size 0. -/
def EmptyBlock (data : CArray) (base : ℕ) : Prop :=
  byteAt data base = 54 ∧ byteAt data (base + 1) = 1 ∧ byteAt data (base + 55) = 2 ∧
    byteAt data (base + 54) = 0
  deriving Decidable

/-- The packet is taken for a description, but its block of services has the size 0. -/
def EmptyDescription (p : EIBNetIPPacket) : Prop :=
  p.service = DiscoveryType.descriptionResponse.code ∧ 56 ≤ p.data.length ∧ EmptyBlock p.data 0

/-- The packet is taken for the answer to a search, but its block of services has the size 0. -/
def EmptySearch (nat : Bool) (p : EIBNetIPPacket) : Prop :=
  p.service = DiscoveryType.searchResponse.code ∧ 64 ≤ p.data.length ∧
    (eibnetToIP (p.data.take 8) p.src nat).isSome ∧ EmptyBlock p.data 8

section Services

variable {data : CArray}

/-- The loop over the entries stays inside the block. -/
theorem readServices_of_le {start count : ℕ} (hblock : start + 2 * count ≤ data.length) :
    ∃ services, readServices data start count = .ok services ∧ services.length = count ∧
      ∀ index entry, services[index]? = some entry →
        readAt data (start + 2 * index) = .ok entry.family ∧
          readAt data (start + 1 + 2 * index) = .ok entry.version := by
  induction count generalizing start with
  | zero => exact ⟨[], rfl, rfl, by simp⟩
  | succ count ih =>
    have hlater : start + 2 + 2 * count ≤ data.length := by omega
    obtain ⟨rest, hrest, hlength, hentries⟩ := ih hlater
    have hfamily := readAt_of_lt (show start < data.length by omega)
    have hversion := readAt_of_lt (show start + 1 < data.length by omega)
    refine ⟨⟨byteAt data start, byteAt data (start + 1)⟩ :: rest, ?_, ?_, ?_⟩
    · rw [readServices, hfamily, ok_bind, hversion, ok_bind, hrest, ok_bind, pure_eq_ok]
    · rw [List.length_cons, hlength]
    · intro index entry hentry
      cases index with
      | zero =>
        cases hentry
        exact ⟨hfamily, hversion⟩
      | succ index =>
        obtain ⟨hfirst, hsecond⟩ := hentries index entry hentry
        have hshift : start + 2 + 2 * index = start + 2 * (index + 1) := by ring
        have hnext : start + 2 + 1 + 2 * index = start + 1 + 2 * (index + 1) := by ring
        rw [← hshift, ← hnext]
        exact ⟨hfirst, hsecond⟩

/-- The list that a block of an even size holds. -/
theorem readServices_listed {block : ℕ} (hsize : (byteAt data block).toNat ≠ 0)
    (heven : (byteAt data block).toNat % 2 = 0)
    (hinside : (byteAt data block).toNat + block ≤ data.length) :
    ∃ services, readServices data (block + 2) ((byteAt data block).toNat / 2 - 1) = .ok services ∧
      Listed data block services := by
  have hentire : block + 2 + 2 * ((byteAt data block).toNat / 2 - 1) ≤ data.length := by omega
  obtain ⟨services, hread, hlength, hentries⟩ := readServices_of_le hentire
  refine ⟨services, hread, ?_, hentries⟩
  rw [hlength]
  omega

theorem readBlock_of_le {start size : ℕ} (hpart : start + size ≤ data.length) :
    ∃ block, readBlock data start size = .ok block :=
  ⟨_, dif_pos hpart⟩

/-- What a parser may return: nothing, or a device whose services were read from inside the
packet. -/
def Described (data : CArray) (base : ℕ) (result : Option DeviceInfo) : Prop :=
  ∀ device, result = some device → (byteAt data (base + 54)).toNat + (base + 54) ≤ data.length ∧
      Listed data (base + 54) device.services

theorem described_none (data : CArray) (base : ℕ) : Described data base none := by
  intro device hdevice
  cases hdevice

/-- Two blocks that start inside the packet: the reads stay inside, and the result is a list of
the length that the size gives, unless the size is 0. -/
theorem readDeviceInfo_cases {base : ℕ} (hlength : base + 56 ≤ data.length) :
    (EmptyBlock data base ∧ readDeviceInfo data base = .error .abort) ∨
    (¬ EmptyBlock data base ∧ ∃ result, readDeviceInfo data base = .ok result ∧
      Described data base result) := by
  have hread : ∀ index, index < 56 →
      readAt data (base + index) = .ok (byteAt data (base + index)) :=
    fun index hindex => readAt_of_lt (by omega)
  obtain ⟨_, hserial⟩ := readBlock_of_le (show base + 8 + 6 ≤ data.length by omega)
  obtain ⟨_, hmulticast⟩ := readBlock_of_le (show base + 14 + 4 ≤ data.length by omega)
  obtain ⟨_, hmac⟩ := readBlock_of_le (show base + 18 + 6 ≤ data.length by omega)
  obtain ⟨_, hname⟩ := readBlock_of_le (show base + 24 + 30 ≤ data.length by omega)
  unfold readDeviceInfo
  rw [readAt_of_lt (show base < data.length by omega), ok_bind]
  split
  · next hkind => exact .inr ⟨fun hempty => hkind hempty.1, none, rfl, described_none data base⟩
  next hdevice =>
  rw [hread 1 (by omega), ok_bind]
  split
  · next hkind => exact .inr ⟨fun hempty => hkind hempty.2.1, none, rfl, described_none data base⟩
  next htype =>
  rw [hread 2 (by omega), ok_bind, hread 3 (by omega), ok_bind, hread 4 (by omega), ok_bind,
    hread 5 (by omega), ok_bind, hread 6 (by omega), ok_bind, hread 7 (by omega), ok_bind,
    hserial, ok_bind, hmulticast, ok_bind, hmac, ok_bind, hname, ok_bind, hread 55 (by omega),
    ok_bind]
  split
  · next hkind => exact .inr ⟨fun hempty => hkind hempty.2.2.1, none, rfl, described_none data base⟩
  next hservice =>
  rw [hread 54 (by omega), ok_bind]
  have hzero : EmptyBlock data base → (byteAt data (base + 54)).toNat = 0 := by
    rintro ⟨-, -, -, hsize⟩
    rw [hsize]
    rfl
  split
  · next hodd =>
    exact .inr ⟨fun hempty => hodd (by rw [hzero hempty]), none, rfl, described_none data base⟩
  next heven =>
  split
  · next hlong =>
    refine .inr ⟨fun hempty => ?_, none, rfl, described_none data base⟩
    have hsize := hzero hempty
    omega
  next hinside =>
  split
  · next hsize =>
    exact .inl ⟨⟨not_not.1 hdevice, not_not.1 htype, not_not.1 hservice,
      BitVec.eq_of_toNat_eq hsize⟩, rfl⟩
  next hsize =>
  obtain ⟨_, hservices, hlisted⟩ := readServices_listed hsize (not_not.1 heven)
    (not_lt.1 hinside)
  rw [hservices, ok_bind]
  refine .inr ⟨fun hempty => hsize (hzero hempty), _, rfl, fun device hresult => ?_⟩
  cases hresult
  exact ⟨not_lt.1 hinside, hlisted⟩

end Services

/-- A parser rejects a packet, or returns a device whose services it read from inside it. -/
def SafeResult {R : Type} (program : Run (Option R)) (device : R → DeviceInfo) (data : CArray)
    (base : ℕ) : Prop :=
  ∃ result, program = .ok result ∧ Described data base (result.map device)

section Results

variable {R : Type} {device : R → DeviceInfo} {data : CArray} {base : ℕ}

theorem safeResult_none : SafeResult (pure none : Run (Option R)) device data base :=
  ⟨none, rfl, described_none data base⟩

theorem not_safeResult_error (fault : Fault) :
    ¬ SafeResult (.error fault : Run (Option R)) device data base := by
  rintro ⟨_, hresult, -⟩
  cases hresult

/-- A parser goes on with the device that it has read. -/
theorem safeResult_bind_iff (hlength : base + 56 ≤ data.length) {rest : DeviceInfo → Run (Option R)}
    (hrest : ∀ info, (byteAt data (base + 54)).toNat + (base + 54) ≤ data.length →
      ∃ r, rest info = .ok (some r) ∧ device r = info) :
    SafeResult (do
      match ← readDeviceInfo data base with
      | none => pure none
      | some info => rest info) device data base ↔ ¬ EmptyBlock data base := by
  obtain ⟨hempty, habort⟩ | ⟨hfilled, result, hread, hdescribed⟩ := readDeviceInfo_cases hlength
  · rw [habort]
    exact iff_of_false (not_safeResult_error .abort) fun hnot => hnot hempty
  · rw [hread]
    refine iff_of_true ?_ hfilled
    cases result with
    | none => exact safeResult_none
    | some info =>
      obtain ⟨hinside, hlisted⟩ := hdescribed info rfl
      obtain ⟨r, hr, hdevice⟩ := hrest info hinside
      refine ⟨some r, hr, fun other hother => ?_⟩
      cases hother
      rw [hdevice]
      exact ⟨hinside, hlisted⟩

end Results

/-- For every packet the two parsers reject it, or return a list of services of length
(size of the block / 2) - 1 whose entries were all read from inside the packet, unless everything
else about the packet is right and the size of its block of services is 0. -/
theorem device_parsers_safe_iff (p : EIBNetIPPacket) (nat : Bool) :
    (SafeResult (parseDescriptionResponse p) EIBnetDescriptionResponse.device p.data 0 ↔
      ¬ EmptyDescription p) ∧
    (SafeResult (parseSearchResponse nat p) EIBnetSearchResponse.device p.data 8 ↔
      ¬ EmptySearch nat p) := by
  constructor
  · unfold parseDescriptionResponse
    split
    · next hservice => exact iff_of_true safeResult_none fun hempty => hservice hempty.1
    next hservice =>
    split
    · next hshort =>
      exact iff_of_true safeResult_none fun hempty => absurd hempty.2.1 (Nat.not_le.2 hshort)
    next hlength =>
    have hcondition : EmptyDescription p ↔ EmptyBlock p.data 0 :=
      ⟨fun hempty => hempty.2.2, fun hempty => ⟨not_not.1 hservice, not_lt.1 hlength, hempty⟩⟩
    rw [hcondition]
    refine safeResult_bind_iff (by omega) fun info hinside => ?_
    -- what follows the blocks is copied
    rw [Nat.zero_add] at hinside
    rw [readAt_of_lt (by omega), ok_bind, readPart_of_le (by omega), ok_bind]
    exact ⟨_, rfl, rfl⟩
  · unfold parseSearchResponse
    split
    · next hservice => exact iff_of_true safeResult_none fun hempty => hservice hempty.1
    next hservice =>
    split
    · next hshort =>
      exact iff_of_true safeResult_none fun hempty => absurd hempty.2.1 (Nat.not_le.2 hshort)
    next hlength =>
    split
    · next haddr =>
      refine iff_of_true safeResult_none fun hempty => ?_
      have hsome := hempty.2.2.1
      rw [haddr] at hsome
      cases hsome
    next caddr natNow haddr =>
    have hcondition : EmptySearch nat p ↔ EmptyBlock p.data 8 := by
      refine ⟨fun hempty => hempty.2.2.2, fun hempty => ?_⟩
      exact ⟨not_not.1 hservice, not_lt.1 hlength, Option.isSome_of_eq_some haddr, hempty⟩
    rw [hcondition]
    exact safeResult_bind_iff (by omega) fun info _ => ⟨_, rfl, rfl⟩

/-- The blocks of a device without services, with the size 0 in place of 2. -/
def emptyDevice : CArray :=
  [54, 1] ++ List.replicate 52 0 ++ [0, 2]

/-- Both parsers ask for a list of length -1. -/
theorem device_parsers_not_safe :
    parseDescriptionResponse { service := 0x0204, data := emptyDevice } = .error .abort ∧
    parseSearchResponse false
      { service := 0x0202, data := [8, 1, 192, 168, 0, 1, 14, 87] ++ emptyDevice } =
        .error .abort := by
  constructor <;> decide +kernel

end Knxd.Packet
