import Knxd.Codec.LPDU

/-!
# The router's block of client addresses

The router hands out individual addresses to its clients from one configured
block.  It looks for the next free address behind the one it handed out last, and
skips an address that something else on the bus is known to have.  The address
is computed with 16 bits; releasing one computes its position without them.  So
the two agree only for a block that does not run over the end of the address
space, and an address of 0 means that there was none.
-/

namespace Knxd.ClientAddrs

open LPDU List Nat

/-- `client_addrs_start`, `client_addrs_pos` and `client_addrs`, whose length is
`client_addrs_len`. -/
structure AddrPool where
  start : Addr
  pos : ℕ
  used : List Bool
  deriving DecidableEq, Repr

namespace AddrPool

def addrAt (p : AddrPool) (pos : ℕ) : Addr :=
  p.start + BitVec.ofNat 16 pos

/-- The block as `Router::setup` reads it from the configuration. -/
def configured (start : Addr) (length : ℕ) : AddrPool :=
  ⟨start, length - 1, List.replicate length false⟩

/-- The positions in the order in which `get_client_addr` tries them. -/
def positions (p : AddrPool) : List ℕ :=
  (List.range p.used.length).map fun i => (p.pos + (i + 1)) % p.used.length

/-- `get_client_addr`, where `addr` is the router's own address and `known` says
which addresses some link has. -/
def getClientAddr (p : AddrPool) (addr : Addr) (known : Addr → Bool) : Addr × AddrPool :=
  match p.positions.find? fun pos =>
      p.used[pos]? = some false ∧ p.addrAt pos ≠ addr ∧ known (p.addrAt pos) = false with
  | some pos => (p.addrAt pos, { p with pos, used := p.used.set pos true })
  | none => (0, p)

def releaseClientAddr (p : AddrPool) (addr : Addr) : AddrPool :=
  if addr.toNat < p.start.toNat then p
  else
    let pos := addr.toNat - p.start.toNat
    if pos ≥ p.used.length then p
    else if p.used[pos]? = some false then p
    else { p with used := p.used.set pos false }

def IsUsed (p : AddrPool) (addr : Addr) : Prop :=
  ∃ pos, p.used[pos]? = some true ∧ p.addrAt pos = addr

def usedAddrs (p : AddrPool) : List Addr :=
  ((List.range p.used.length).filter fun pos => p.used[pos]? = some true).map p.addrAt

/-- The block neither holds the address 0 nor runs over the end of the address
space. -/
def Placed (p : AddrPool) : Prop :=
  0 < p.start.toNat ∧ p.start.toNat + p.used.length ≤ 2 ^ 16

variable {p : AddrPool} {pos : ℕ}

theorem toNat_addrAt_eq_mod (p : AddrPool) (pos : ℕ) :
    (p.addrAt pos).toNat = (p.start.toNat + pos) % 2 ^ 16 := by
  rw [addrAt, BitVec.toNat_add, BitVec.toNat_ofNat, add_mod_mod]

theorem toNat_addrAt (hplaced : p.Placed) (hpos : pos < p.used.length) :
    (p.addrAt pos).toNat = p.start.toNat + pos := by
  obtain ⟨-, _⟩ := hplaced
  rw [toNat_addrAt_eq_mod]
  exact mod_eq_of_lt (by omega)

theorem addrAt_ne_zero (hplaced : p.Placed) (hpos : pos < p.used.length) : p.addrAt pos ≠ 0 := by
  intro hzero
  have htoNat := toNat_addrAt hplaced hpos
  rw [hzero, show (0 : Addr).toNat = 0 from rfl] at htoNat
  exact absurd hplaced.1 (by omega)

theorem addrAt_injective (hplaced : p.Placed) {other : ℕ} (hpos : pos < p.used.length)
    (hother : other < p.used.length) (heq : p.addrAt pos = p.addrAt other) : pos = other := by
  have htoNat := congrArg BitVec.toNat heq
  rw [toNat_addrAt hplaced hpos, toNat_addrAt hplaced hother] at htoNat
  exact add_left_cancel htoNat

theorem lt_of_getElem? {value : Bool} (h : p.used[pos]? = some value) : pos < p.used.length :=
  (List.getElem?_eq_some_iff.1 h).1

theorem not_isUsed_of_free (hplaced : p.Placed) (hfree : p.used[pos]? = some false) :
    ¬ p.IsUsed (p.addrAt pos) := by
  rintro ⟨_, hother, heq⟩
  obtain rfl := addrAt_injective hplaced (lt_of_getElem? hother) (lt_of_getElem? hfree) heq
  rw [hfree] at hother
  cases hother

theorem mem_usedAddrs {addr : Addr} : addr ∈ p.usedAddrs ↔ p.IsUsed addr := by
  rw [usedAddrs, mem_map]
  constructor
  · rintro ⟨pos, hpos, rfl⟩
    exact ⟨pos, by simpa using (mem_filter.1 hpos).2, rfl⟩
  · rintro ⟨pos, hpos, rfl⟩
    exact ⟨pos, mem_filter.2 ⟨mem_range.2 (lt_of_getElem? hpos), by simpa using hpos⟩, rfl⟩

/-- Every position of the block is tried. -/
theorem mem_positions : pos ∈ p.positions ↔ pos < p.used.length := by
  rw [positions, mem_map]
  constructor
  · rintro ⟨i, hi, rfl⟩
    exact mod_lt _ (zero_lt_of_lt (mem_range.1 hi))
  · intro hpos
    have hfirst := mod_lt (p.pos + 1) (zero_lt_of_lt hpos)
    -- the distance from the first position that is tried, around the end of the block
    by_cases hle : (p.pos + 1) % p.used.length ≤ pos
    · refine ⟨pos - (p.pos + 1) % p.used.length, mem_range.2 (by omega), ?_⟩
      rw [add_comm _ 1, ← add_assoc, add_mod, mod_eq_of_lt (a := pos - _) (by omega),
        Nat.add_sub_cancel' hle, Nat.mod_eq_of_lt hpos]
    · refine ⟨pos + p.used.length - (p.pos + 1) % p.used.length, mem_range.2 (by omega), ?_⟩
      rw [add_comm _ 1, ← add_assoc, add_mod,
        mod_eq_of_lt (a := pos + p.used.length - _) (by omega),
        Nat.add_sub_cancel' (by omega), Nat.add_mod_right, Nat.mod_eq_of_lt hpos]

/-- Either no free position has an address to hand out and nothing changes, or
such a position is marked. -/
theorem getClientAddr_cases (p : AddrPool) (addr : Addr) (known : Addr → Bool) :
    (p.getClientAddr addr known = (0, p) ∧
      ∀ pos, p.used[pos]? = some false → p.addrAt pos ≠ addr → known (p.addrAt pos) = true) ∨
    ∃ pos, p.used[pos]? = some false ∧ p.addrAt pos ≠ addr ∧ known (p.addrAt pos) = false ∧
      p.getClientAddr addr known = (p.addrAt pos, { p with pos, used := p.used.set pos true }) := by
  unfold getClientAddr
  split
  · next pos hfind =>
    have hfound := find?_some hfind
    obtain ⟨hfree, hown, hunknown⟩ := of_decide_eq_true hfound
    exact .inr ⟨pos, hfree, hown, hunknown, rfl⟩
  · next hfind =>
    refine .inl ⟨rfl, fun pos hfree hown => ?_⟩
    have hnot := find?_eq_none.1 hfind pos (mem_positions.2 (lt_of_getElem? hfree))
    simpa [hfree, hown] using hnot

theorem isUsed_set_true (hpos : pos < p.used.length) (cursor : ℕ) (other : Addr) :
    IsUsed { p with pos := cursor, used := p.used.set pos true } other ↔
      other = p.addrAt pos ∨ p.IsUsed other := by
  constructor
  · rintro ⟨index, hindex, rfl⟩
    rw [getElem?_set] at hindex
    split at hindex
    · next heq =>
      subst heq
      exact .inl rfl
    · exact .inr ⟨index, hindex, rfl⟩
  · rintro (rfl | ⟨index, hindex, rfl⟩)
    · exact ⟨pos, by simp [hpos], rfl⟩
    · refine ⟨index, ?_, rfl⟩
      rw [getElem?_set]
      split
      · rfl
      · exact hindex

/-- Either the address stands for no marked position and nothing changes, or the
mark of its position is taken away. -/
theorem releaseClientAddr_cases (p : AddrPool) (addr : Addr) : (p.releaseClientAddr addr = p ∧
      ∀ pos, p.start.toNat + pos = addr.toNat → p.used[pos]? ≠ some true) ∨
    ∃ pos, p.start.toNat + pos = addr.toNat ∧ p.used[pos]? = some true ∧
      p.releaseClientAddr addr = { p with used := p.used.set pos false } := by
  unfold releaseClientAddr
  by_cases hbelow : addr.toNat < p.start.toNat
  · rw [if_pos hbelow]
    exact .inl ⟨rfl, fun pos hpos => by omega⟩
  rw [if_neg hbelow]
  dsimp only
  have hpos : p.start.toNat + (addr.toNat - p.start.toNat) = addr.toNat := by omega
  generalize addr.toNat - p.start.toNat = pos at hpos ⊢
  have hunique : ∀ other, p.start.toNat + other = addr.toNat → other = pos := by omega
  by_cases hlen : pos ≥ p.used.length
  · rw [if_pos hlen]
    refine .inl ⟨rfl, fun other hother => ?_⟩
    rw [hunique other hother, getElem?_eq_none hlen]
    decide
  rw [if_neg hlen]
  by_cases hfree : p.used[pos]? = some false
  · rw [if_pos hfree]
    refine .inl ⟨rfl, fun other hother => ?_⟩
    rw [hunique other hother, hfree]
    decide
  · rw [if_neg hfree]
    refine .inr ⟨pos, hpos, ?_, rfl⟩
    rw [getElem?_eq_getElem (by omega)] at hfree ⊢
    simpa using hfree

/-- Releasing an address of a well placed block frees exactly that address. -/
theorem isUsed_releaseClientAddr (hplaced : p.Placed) {addr : Addr} (hused : p.IsUsed addr)
    (other : Addr) : (p.releaseClientAddr addr).IsUsed other ↔ p.IsUsed other ∧ other ≠ addr := by
  obtain ⟨pos, hpos, rfl⟩ := hused
  have hlt := lt_of_getElem? hpos
  have htoNat := toNat_addrAt hplaced hlt
  obtain ⟨-, hnone⟩ | ⟨place, _, -, hrelease⟩ := p.releaseClientAddr_cases (p.addrAt pos)
  · exact absurd hpos (hnone pos htoNat.symm)
  obtain rfl : place = pos := by omega
  rw [hrelease]
  constructor
  · rintro ⟨index, hindex, rfl⟩
    rw [getElem?_set] at hindex
    split at hindex
    · cases hindex
    · next hne =>
      refine ⟨⟨index, hindex, rfl⟩, fun heq => hne ?_⟩
      exact (addrAt_injective hplaced (lt_of_getElem? hindex) hlt heq).symm
  · rintro ⟨⟨index, hindex, rfl⟩, hne⟩
    refine ⟨index, ?_, rfl⟩
    rw [getElem?_set, if_neg fun heq => hne (by rw [heq])]
    exact hindex

/-- The block never moves. -/
theorem placed_releaseClientAddr (addr : Addr) : (p.releaseClientAddr addr).Placed ↔ p.Placed := by
  obtain ⟨hsame, -⟩ | ⟨_, -, -, hrelease⟩ := p.releaseClientAddr_cases addr
  · rw [hsame]
  · rw [hrelease]
    simp [Placed]

end AddrPool

end Knxd.ClientAddrs
