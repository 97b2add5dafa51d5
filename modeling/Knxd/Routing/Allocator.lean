import Knxd.Core.Transition
import Knxd.Routing.ClientAddrs

/-!
# The client addresses as an allocator

The block of client addresses is read from the configuration without looking at
its place in the address space.  A session is a sequence of requests to the block
together with the addresses that are handed out and not released yet.  The block
is an allocator in every session exactly if each of its positions stands for an
address of its own, the one position of the router's address apart.
-/

namespace Knxd.Allocator

open LPDU Transition ClientAddrs List AddrPool Option

/-- `readaddrblock` on the four numbers of the text `X.Y.Z:N`: the start of the
block and its length. -/
def readaddrblock (a b c len : BitVec 32) : Addr × ℤ :=
  (((a &&& 0x0f) <<< 12 ||| (b &&& 0x0f) <<< 8 ||| (c &&& 0xff)).setWidth 16, len.toInt)

/-- What `Router::setup` makes of a block.  The vector of a negative length is
never built: `resize` throws. -/
def setup (block : Addr × ℤ) : Option AddrPool :=
  if 0 ≤ block.2 then some (.configured block.1 block.2.toNat) else none

/-- The address is one of the block, as `recv_L_Data` decides it. -/
def InBlock (p : AddrPool) (addr : Addr) : Prop :=
  p.start.toNat ≤ addr.toNat ∧ addr.toNat < p.start.toNat + p.used.length

instance (p : AddrPool) (addr : Addr) : Decidable (InBlock p addr) :=
  inferInstanceAs (Decidable (_ ∧ _))

/-- Every position is a place of its own in the address space and does not stand
for the address 0, unless it stands for the router's own address. -/
def Fits (own : Addr) (p : AddrPool) : Prop :=
  ∀ pos < p.used.length,
    (0 < p.start.toNat + pos ∧ p.start.toNat + pos < 2 ^ 16) ∨ p.addrAt pos = own

instance (own : Addr) (p : AddrPool) : Decidable (Fits own p) :=
  inferInstanceAs (Decidable (∀ pos < p.used.length, _ ∨ _))

structure Session where
  pool : AddrPool
  handedOut : List Addr
  deriving DecidableEq, Repr

inductive Request
  | get (known : Addr → Bool)
  | release (addr : Addr)

/-- One call of `get_client_addr` or `release_client_addr`. -/
def step (own : Addr) (s : Session) : Request → Option Session
  | .get known =>
    let (addr, pool) := s.pool.getClientAddr own known
    some ⟨pool, if addr = 0 then s.handedOut else addr :: s.handedOut⟩
  | .release addr => some ⟨s.pool.releaseClientAddr addr, s.handedOut.filter (· ≠ addr)⟩

structure Available (own : Addr) (s : Session) (known : Addr → Bool) (addr : Addr) : Prop where
  ne_zero : addr ≠ 0
  inBlock : InBlock s.pool addr
  fresh : addr ∉ s.handedOut
  ne_own : addr ≠ own
  unknown : known addr = false

structure Allocates (own : Addr) (s : Session) : Prop where
  available : ∀ known, (s.pool.getClientAddr own known).1 ≠ 0 →
    Available own s known (s.pool.getClientAddr own known).1
  exhausted : ∀ known, (s.pool.getClientAddr own known).1 = 0 →
    (∀ addr, ¬ Available own s known addr) ∧ (s.pool.getClientAddr own known).2 = s.pool
  reusable : ∀ addr ∈ s.handedOut, ∀ known, known addr = false →
    (∀ other, other ≠ addr → known other = true) →
    ((s.pool.releaseClientAddr addr).getClientAddr own known).1 = addr

variable {own : Addr} {p : AddrPool} {pos : ℕ} {s next : Session} {known : Addr → Bool}

/-- A position that can be handed out stands where the address says. -/
theorem Fits.toNat_addrAt (hfits : Fits own p) (hpos : pos < p.used.length)
    (hown : p.addrAt pos ≠ own) : (p.addrAt pos).toNat = p.start.toNat + pos := by
  obtain ⟨-, hend⟩ | heq := hfits pos hpos
  · rw [p.toNat_addrAt_eq_mod, Nat.mod_eq_of_lt hend]
  · exact absurd heq hown

theorem Fits.addrAt_ne_zero (hfits : Fits own p) (hpos : pos < p.used.length)
    (hown : p.addrAt pos ≠ own) : p.addrAt pos ≠ 0 := by
  intro hzero
  have htoNat := hfits.toNat_addrAt hpos hown
  obtain ⟨hstart, -⟩ | heq := hfits pos hpos
  · rw [hzero, show (0 : Addr).toNat = 0 from rfl] at htoNat
    omega
  · exact hown heq

/-- The position behind an address of the block. -/
theorem exists_addrAt_of_inBlock {addr : Addr} (hblock : InBlock p addr) :
    ∃ place < p.used.length, p.start.toNat + place = addr.toNat ∧ p.addrAt place = addr := by
  obtain ⟨hstart, _⟩ := hblock
  refine ⟨addr.toNat - p.start.toNat, by omega, by omega, ?_⟩
  apply BitVec.eq_of_toNat_eq
  rw [p.toNat_addrAt_eq_mod, Nat.add_sub_cancel' hstart, Nat.mod_eq_of_lt addr.isLt]

/-- The marks of the block are the addresses handed out. -/
structure Consistent (own : Addr) (s : Session) : Prop where
  fits : Fits own s.pool
  ne_own : ∀ pos, s.pool.used[pos]? = some true → s.pool.addrAt pos ≠ own
  handedOut : ∀ addr, addr ∈ s.handedOut ↔ s.pool.IsUsed addr

theorem consistent_configured {start : Addr} {length : ℕ}
    (hfits : Fits own (.configured start length)) :
    Consistent own ⟨.configured start length, []⟩ := by
  have hfree : ∀ pos : ℕ, (configured start length).used[pos]? ≠ some true := by
    intro pos hpos
    cases eq_of_mem_replicate (mem_of_getElem? hpos)
  refine ⟨hfits, fun pos hpos => absurd hpos (hfree pos), fun addr => ?_⟩
  constructor
  · intro hmem
    cases hmem
  · rintro ⟨pos, hpos, -⟩
    exact absurd hpos (hfree pos)

section

variable (hinv : Consistent own s)
include hinv

/-- A position of the block is handed out exactly if it is marked. -/
theorem Consistent.addrAt_mem_iff {pos : ℕ}
    (hpos : pos < s.pool.used.length) (hown : s.pool.addrAt pos ≠ own) :
    s.pool.addrAt pos ∈ s.handedOut ↔ s.pool.used[pos]? = some true := by
  rw [hinv.handedOut]
  constructor
  · rintro ⟨other, hother, heq⟩
    have hlt := lt_of_getElem? hother
    have hleft := hinv.fits.toNat_addrAt hlt (hinv.ne_own other hother)
    rw [heq, hinv.fits.toNat_addrAt hpos hown] at hleft
    obtain rfl : pos = other := Nat.add_left_cancel hleft
    exact hother
  · intro hmark
    exact ⟨pos, hmark, rfl⟩

theorem Consistent.step_get (known : Addr → Bool)
    (hstep : step own s (.get known) = some next) : Consistent own next := by
  obtain ⟨hnone, -⟩ | ⟨_, hfree, hown, -, hget⟩ := s.pool.getClientAddr_cases own known
  · simp only [step, hnone, if_true, some.injEq] at hstep
    subst hstep
    exact hinv
  have hlt := lt_of_getElem? hfree
  simp only [step, hget, if_neg (hinv.fits.addrAt_ne_zero hlt hown), some.injEq] at hstep
  subst hstep
  refine ⟨?_, fun other hother => ?_, fun addr => ?_⟩
  · intro other hother
    exact hinv.fits other (by simpa using hother)
  · rw [getElem?_set] at hother
    split at hother
    · next heq => exact heq ▸ hown
    · exact hinv.ne_own other hother
  · rw [isUsed_set_true hlt, mem_cons, hinv.handedOut]

theorem Consistent.step_release (addr : Addr)
    (hstep : step own s (.release addr) = some next) : Consistent own next := by
  cases hstep
  obtain ⟨hsame, hunmarked⟩ | ⟨pos, hpos, hmark, hrelease⟩ := s.pool.releaseClientAddr_cases addr
  · -- nothing was handed out under this address
    have hnot : addr ∉ s.handedOut := by
      intro hmem
      obtain ⟨pos, hmark, rfl⟩ := (hinv.handedOut addr).1 hmem
      refine hunmarked pos ?_ hmark
      exact (hinv.fits.toNat_addrAt (lt_of_getElem? hmark) (hinv.ne_own pos hmark)).symm
    have hfilter : s.handedOut.filter (· ≠ addr) = s.handedOut := by
      rw [filter_eq_self]
      intro other hother
      exact decide_eq_true fun heq => hnot (heq ▸ hother)
    rw [hsame, hfilter]
    exact hinv
  have hlt := lt_of_getElem? hmark
  obtain rfl : s.pool.addrAt pos = addr := by
    apply BitVec.eq_of_toNat_eq
    rw [hinv.fits.toNat_addrAt hlt (hinv.ne_own pos hmark), hpos]
  rw [hrelease]
  refine ⟨?_, fun other hother => ?_, fun other => ?_⟩
  · intro other hother
    exact hinv.fits other (by simpa using hother)
  · rw [getElem?_set] at hother
    split at hother
    · cases hother
    · exact hinv.ne_own other hother
  · rw [mem_filter, hinv.handedOut, decide_eq_true_iff]
    constructor
    · rintro ⟨⟨index, hindex, rfl⟩, hne⟩
      refine ⟨index, ?_, rfl⟩
      rw [getElem?_set, if_neg fun heq => hne (by rw [heq])]
      exact hindex
    · rintro ⟨index, hindex, rfl⟩
      rw [getElem?_set] at hindex
      split at hindex
      · cases hindex
      · next hne =>
        refine ⟨⟨index, hindex, rfl⟩, fun heq => hne ?_⟩
        have htoNat := congrArg BitVec.toNat heq
        change (s.pool.addrAt index).toNat = (s.pool.addrAt pos).toNat at htoNat
        rw [← hpos, hinv.fits.toNat_addrAt (lt_of_getElem? hindex)
          (hinv.ne_own index hindex)] at htoNat
        exact (Nat.add_left_cancel htoNat).symm

theorem Consistent.available (hresult : (s.pool.getClientAddr own known).1 ≠ 0) :
    Available own s known (s.pool.getClientAddr own known).1 := by
  obtain ⟨hnone, -⟩ | ⟨_, hfree, hown, hunknown, hget⟩ := s.pool.getClientAddr_cases own known
  · rw [hnone] at hresult
    exact absurd rfl hresult
  rw [hget] at hresult ⊢
  dsimp only at hresult ⊢
  have hlt := lt_of_getElem? hfree
  have htoNat := hinv.fits.toNat_addrAt hlt hown
  refine ⟨hresult, ⟨by omega, by omega⟩, ?_, hown, hunknown⟩
  rw [hinv.addrAt_mem_iff hlt hown, hfree]
  decide

theorem Consistent.exhausted (hresult : (s.pool.getClientAddr own known).1 = 0) :
    (∀ addr, ¬ Available own s known addr) ∧ (s.pool.getClientAddr own known).2 = s.pool := by
  obtain ⟨hnone, hall⟩ | ⟨pos, hfree, hown, -, hget⟩ := s.pool.getClientAddr_cases own known
  · refine ⟨fun addr havailable => ?_, by rw [hnone]⟩
    obtain ⟨-, hblock, hfresh, hown, hunknown⟩ := havailable
    obtain ⟨pos, hlt, -, rfl⟩ := exists_addrAt_of_inBlock hblock
    rw [hinv.addrAt_mem_iff hlt hown, getElem?_eq_getElem hlt, some.injEq,
      Bool.not_eq_true] at hfresh
    have hknown := hall pos (by rw [getElem?_eq_getElem hlt, hfresh]) hown
    rw [hknown] at hunknown
    cases hunknown
  · rw [hget] at hresult
    exact absurd hresult (hinv.fits.addrAt_ne_zero (lt_of_getElem? hfree) hown)

end

/-- Only the marks change, so the block stays where it is. -/
theorem inBlock_releaseClientAddr (p : AddrPool) (released addr : Addr) :
    InBlock (p.releaseClientAddr released) addr ↔ InBlock p addr := by
  obtain ⟨hsame, -⟩ | ⟨_, -, -, hrelease⟩ := p.releaseClientAddr_cases released
  · rw [hsame]
  · rw [hrelease]
    simp [InBlock]

theorem Consistent.reusable (hinv : Consistent own s) {addr : Addr} (hmem : addr ∈ s.handedOut)
    (hunknown : known addr = false) (hothers : ∀ other, other ≠ addr → known other = true) :
    ((s.pool.releaseClientAddr addr).getClientAddr own known).1 = addr := by
  have hreleased := hinv.step_release addr rfl
  obtain ⟨pos, hmark, rfl⟩ := (hinv.handedOut addr).1 hmem
  have hlt := lt_of_getElem? hmark
  have hown := hinv.ne_own pos hmark
  have htoNat := hinv.fits.toNat_addrAt hlt hown
  by_cases hzero : ((s.pool.releaseClientAddr (s.pool.addrAt pos)).getClientAddr own known).1 = 0
  · refine absurd ?_ ((hreleased.exhausted hzero).1 (s.pool.addrAt pos))
    refine ⟨hinv.fits.addrAt_ne_zero hlt hown, ?_, by simp, hown, hunknown⟩
    rw [inBlock_releaseClientAddr]
    exact ⟨by omega, by omega⟩
  · by_contra hne
    have hfalse := (hreleased.available hzero).unknown
    rw [hothers _ hne] at hfalse
    cases hfalse

theorem Consistent.allocates (hinv : Consistent own s) : Allocates own s where
  available _ hresult := hinv.available hresult
  exhausted _ hresult := hinv.exhausted hresult
  reusable _ hmem _ hunknown hothers := hinv.reusable hmem hunknown hothers

/-- One request keeps the marks and the addresses handed out together. -/
theorem Consistent.step (hinv : Consistent own s) {request : Request}
    (hstep : step own s request = some next) : Consistent own next := by
  cases request with
  | get known => exact hinv.step_get known hstep
  | release addr => exact hinv.step_release addr hstep

/-- Everything but one address is known on some link. -/
def allBut (addr other : Addr) : Bool :=
  decide (other ≠ addr)

section Misplaced

variable {own start : Addr} {length pos : ℕ} {p : AddrPool}

/-- With a single unknown address, one of its free positions is marked. -/
theorem getClientAddr_allBut (hfree : p.used[pos]? = some false) (hown : p.addrAt pos ≠ own) :
    ∃ place, p.used[place]? = some false ∧ p.getClientAddr own (allBut (p.addrAt pos)) =
      (p.addrAt pos, { p with pos := place, used := p.used.set place true }) := by
  obtain ⟨-, hall⟩ | ⟨place, hplace, -, hunknown, hget⟩ :=
    p.getClientAddr_cases own (allBut (p.addrAt pos))
  · exact absurd (hall pos hfree hown) (by simp [allBut])
  · have heq : p.addrAt place = p.addrAt pos := by simpa [allBut] using hunknown
    rw [heq] at hget
    exact ⟨place, hplace, hget⟩

/-- An address that two free positions stand for is handed out twice. -/
theorem not_allocates_of_double (hfree : p.used[pos]? = some false) (hown : p.addrAt pos ≠ own)
    (hzero : p.addrAt pos ≠ 0) {other : ℕ} (hother : p.used[other]? = some false)
    (heq : p.addrAt other = p.addrAt pos) (hne : other ≠ pos) :
    ∃ s, Path (step own) anyEvent ⟨p, []⟩ s ∧ ¬ Allocates own s := by
  obtain ⟨place, _, hget⟩ := getClientAddr_allBut hfree hown
  let taken : AddrPool := { p with pos := place, used := p.used.set place true }
  have hstep : step own ⟨p, []⟩ (.get (allBut (p.addrAt pos))) = some ⟨taken, [p.addrAt pos]⟩ := by
    simp only [step, hget, if_neg hzero, taken]
  -- whichever of the two is marked now, the other one is still free
  obtain ⟨rest, hrest, haddr⟩ : ∃ rest, taken.used[rest]? = some false ∧
      taken.addrAt rest = p.addrAt pos := by
    by_cases hpos : place = pos
    · exact ⟨other, by simpa [taken, getElem?_set, hpos, hne.symm] using hother, heq⟩
    · exact ⟨pos, by simpa [taken, getElem?_set, hpos] using hfree, rfl⟩
  refine ⟨_, .step .refl trivial hstep, fun hallocates => ?_⟩
  have hownRest : taken.addrAt rest ≠ own := by rwa [haddr]
  obtain ⟨_, -, hagain⟩ := getClientAddr_allBut hrest hownRest
  rw [haddr] at hagain
  have havailable := hallocates.available (allBut (p.addrAt pos)) (by rw [hagain]; exact hzero)
  apply havailable.fresh
  rw [hagain]
  exact mem_singleton.2 rfl

/-- A position that stands for 0 or for an address outside the block. -/
theorem not_allocates_of_outside (hfree : p.used[pos]? = some false) (hown : p.addrAt pos ≠ own)
    (hout : p.addrAt pos = 0 ∨ ¬ InBlock p (p.addrAt pos)) : ¬ Allocates own ⟨p, []⟩ := by
  intro hallocates
  obtain ⟨place, hplace, hget⟩ := getClientAddr_allBut hfree hown
  by_cases hzero : p.addrAt pos = 0
  · -- the caller is told that there was no address, but the position is gone
    have hpool := (hallocates.exhausted (allBut (p.addrAt pos)) (by rw [hget, hzero])).2
    rw [hget] at hpool
    have hused := congrArg (fun q : AddrPool => q.used[place]?) hpool
    simp only [getElem?_set_self (lt_of_getElem? hplace)] at hused
    rw [hplace] at hused
    cases hused
  · have havailable := hallocates.available (allBut (p.addrAt pos)) (by rw [hget]; exact hzero)
    rw [hget] at havailable
    exact hout.elim hzero (absurd havailable.inBlock)

/-- A block that is an allocator in every session fits. -/
theorem fits_of_allocates
    (hall : ∀ s, Path (step own) anyEvent ⟨.configured start length, []⟩ s → Allocates own s) :
    Fits own (.configured start length) := by
  intro pos hpos
  by_contra hnot
  obtain ⟨hplace, hown⟩ := not_or.1 hnot
  have hfree : ∀ place < (configured start length).used.length,
      (configured start length).used[place]? = some false := by
    intro place hlt
    simp only [configured, length_replicate] at hlt ⊢
    rw [getElem?_replicate, if_pos hlt]
  have hzero : ¬ (configured start length).addrAt pos = 0 := by
    intro hzero
    exact not_allocates_of_outside (hfree pos hpos) hown (.inl hzero) (hall _ .refl)
  have hblock : InBlock (.configured start length) ((configured start length).addrAt pos) := by
    by_contra hout
    exact not_allocates_of_outside (hfree pos hpos) hown (.inr hout) (hall _ .refl)
  obtain ⟨place, hlt, _, heq⟩ := exists_addrAt_of_inBlock hblock
  have hne : place ≠ pos := by
    rintro rfl
    have hbound := ((configured start length).addrAt place).isLt
    have hpositive : ((configured start length).addrAt place).toNat ≠ 0 := by
      intro heq
      exact hzero (BitVec.eq_of_toNat_eq heq)
    exact hplace ⟨by omega, by omega⟩
  obtain ⟨s, hpath, hfails⟩ :=
    not_allocates_of_double (hfree pos hpos) hown hzero (hfree place hlt) heq hne
  exact hfails (hall s hpath)

end Misplaced

/-- A configured block hands out addresses correctly in every session exactly if
each of its positions stands for an address of its own other than 0, the
position of the router's own address apart. -/
theorem client_block_allocates_iff (own : Addr) (a b c len : BitVec 32) {p : AddrPool}
    (hsetup : setup (readaddrblock a b c len) = some p) :
    (∀ s, Path (step own) anyEvent ⟨p, []⟩ s → Allocates own s) ↔ Fits own p := by
  rw [setup] at hsetup
  obtain ⟨-, ⟨⟩⟩ := Option.ite_none_right_eq_some.1 hsetup
  constructor
  · exact fits_of_allocates
  · intro hfits s hpath
    apply Consistent.allocates
    exact hpath.invariant (Consistent own) (consistent_configured hfits)
      fun _ _ _ hinv _ hstep => hinv.step hstep

/-- The three addresses from 1.1.10 on, for a router at 1.1.1. -/
theorem client_block_allocates_three :
    setup (readaddrblock 1 1 10 3) = some (.configured 0x110a 3) ∧
    ∀ s, Path (step 0x1101) anyEvent ⟨.configured 0x110a 3, []⟩ s → Allocates 0x1101 s :=
  ⟨by decide, (client_block_allocates_iff 0x1101 1 1 10 3 (by decide)).2 (by decide)⟩

/-- The three addresses from 15.15.255 on.  The second request uses up a position
for the address 0, the third one gets an address that can never be released. -/
theorem wrapped_block_not_released : ∃ p s, setup (readaddrblock 15 15 255 3) = some p ∧
    Path (step 0x1101) anyEvent ⟨p, []⟩ s ∧ s.handedOut = [1, 0xffff] ∧
    s.pool.used = [true, true, true] ∧ s.pool.releaseClientAddr 1 = s.pool ∧
    ¬ Allocates 0x1101 s := by
  let nothingKnown : Addr → Bool := fun _ => false
  have hrun : run (step 0x1101) ⟨.configured 0xffff 3, []⟩
      [.get nothingKnown, .get nothingKnown, .get nothingKnown] =
        some ⟨⟨0xffff, 2, [true, true, true]⟩, [1, 0xffff]⟩ := by
    decide +kernel
  refine ⟨.configured 0xffff 3, _, by decide, path_of_run hrun, rfl, rfl, by decide, ?_⟩
  intro hallocates
  have hagain := hallocates.reusable 1 (by decide) (allBut 1) (by decide)
    fun other hother => decide_eq_true hother
  exact absurd hagain (by decide)

end Knxd.Allocator
