import Knxd.Routing.Traffic

/-!
# Every address belongs to one link

The router learns addresses from the frames it receives and hands out addresses of
its block.  Both ways ask the links first, and learning stays out of the block, so
two links of the table never have the same address.  The invariant follows an
address of the block from its allocation over its client to its link; a tunnel
gives the address back while its link is still in the table, and only the question
to the links keeps it from being handed out again.
-/

namespace Knxd.Ownership

open Memory LPDU Link Routing ClientAddrs Allocator Traffic Function AddrPool Option List
open Transition (Path anyEvent)

/-- The block and the clients agree, and no two links of the table have an address
in common. -/
structure Owned (t : Relay) : Prop where
  inside : t.pool.start.toNat + t.pool.used.length ≤ 2 ^ 16
  nodup : t.router.links.Nodup
  present : ∀ key ∈ t.router.links, t.router.book key ≠ none
  exclusive : ∀ key ∈ t.router.links, ∀ other ∈ t.router.links, ∀ addr, addr ≠ 0 →
    linkHasAddress t.router key addr → linkHasAddress t.router other addr → key = other
  own : ∀ key ∈ t.router.links, linkHasAddress t.router key t.router.addr → t.router.addr = 0
  given : ∀ key ∈ t.router.links, ∀ addr, addr ≠ 0 → linkHasAddress t.router key addr →
    InBlock t.pool addr → addr ≠ t.router.addr → (t.port key).given = addr
  has : ∀ key ∈ t.router.links, (t.port key).given ≠ 0 →
    linkHasAddress t.router key (t.port key).given
  held : ∀ id client, t.clients id = some client → client.addr ≠ 0 →
    t.pool.IsUsed client.addr ∧ client.addr ≠ t.router.addr ∧
      ∀ key ∈ t.router.links, (t.port key).given = client.addr → client.link = some key
  distinct : ∀ id client other holder, t.clients id = some client → t.clients other = some holder →
    client.addr ≠ 0 → client.addr = holder.addr → id = other

/-- The address is marked for a user that is not a client yet, and no link has it. -/
structure Unclaimed (t : Relay) (addr : Addr) : Prop where
  ne_zero : addr ≠ 0
  used : t.pool.IsUsed addr
  ne_own : addr ≠ t.router.addr
  links : ∀ key ∈ t.router.links, linkHasAddress t.router key addr = false

theorem owned_boot {addr start : Addr} {length : ℕ} {forceBroadcast : Bool}
    (hblock : start.toNat + length ≤ 2 ^ 16) :
    Owned (Traffic.boot addr start length forceBroadcast) where
  inside := by simpa [Traffic.boot, configured] using hblock
  nodup := .nil
  present _ hkey := by cases hkey
  exclusive _ hkey := by cases hkey
  own _ hkey := by cases hkey
  given _ hkey := by cases hkey
  has _ hkey := by cases hkey
  held _ _ hclient := by cases hclient
  distinct _ _ _ _ hclient := by cases hclient

variable {t next : Relay} {key id : ℕ} {addr : Addr} {book : Addr → Bool} {client : Client}
variable {port : Port} {config : LinkConnect} {transient : Bool}

/-- One link may get addresses that no link had. -/
theorem Owned.extend (howned : Owned t) (key : ℕ) (new : Addr → Prop)
    (haddr : next.router.addr = t.router.addr) (hpool : next.pool = t.pool)
    (hclients : next.clients = t.clients) (hnodup : next.router.links.Nodup)
    (hpresent : ∀ other ∈ next.router.links, next.router.book other ≠ none)
    (hclaims : ∀ other ∈ next.router.links, ∀ addr, linkHasAddress next.router other addr →
      (other ∈ t.router.links ∧ (next.port other).given = (t.port other).given ∧
        linkHasAddress t.router other addr) ∨ other = key ∧ new addr)
    (hnew : ∀ addr, addr ≠ 0 → new addr → addr ≠ t.router.addr ∧
      (∀ other ∈ t.router.links, linkHasAddress t.router other addr = false) ∧
      (InBlock t.pool addr → (next.port key).given = addr))
    (hhas : ∀ other ∈ next.router.links, (next.port other).given ≠ 0 →
      linkHasAddress next.router other (next.port other).given)
    (hheld : ∀ id client, t.clients id = some client → client.addr ≠ 0 →
      ∀ other ∈ next.router.links, (next.port other).given = client.addr →
        client.link = some other) : Owned next := by
  constructor
  · rw [hpool]
    exact howned.inside
  · exact hnodup
  · exact hpresent
  · intro first hfirst second hsecond addr hzero hleft hright
    obtain ⟨hfirst, -, hleft⟩ | ⟨rfl, hadded⟩ := hclaims first hfirst addr hleft
    · obtain ⟨hsecond, -, hright⟩ | ⟨-, hadded⟩ := hclaims second hsecond addr hright
      · exact howned.exclusive first hfirst second hsecond addr hzero hleft hright
      · rw [(hnew addr hzero hadded).2.1 first hfirst] at hleft
        cases hleft
    · obtain ⟨hsecond, -, hright⟩ | ⟨rfl, -⟩ := hclaims second hsecond addr hright
      · rw [(hnew addr hzero hadded).2.1 second hsecond] at hright
        cases hright
      · rfl
  · intro other hother hclaim
    rw [haddr] at hclaim ⊢
    obtain ⟨hother, -, hclaim⟩ | ⟨-, hadded⟩ := hclaims other hother _ hclaim
    · exact howned.own other hother hclaim
    · by_contra hzero
      exact (hnew _ hzero hadded).1 rfl
  · intro other hother addr hzero hclaim hblock hown
    rw [hpool] at hblock
    rw [haddr] at hown
    obtain ⟨hother, hsame, hclaim⟩ | ⟨rfl, hadded⟩ := hclaims other hother addr hclaim
    · rw [hsame]
      exact howned.given other hother addr hzero hclaim hblock hown
    · exact (hnew addr hzero hadded).2.2 hblock
  · exact hhas
  · intro id client hclient hzero
    rw [hclients] at hclient
    rw [hpool, haddr]
    obtain ⟨hused, hown, -⟩ := howned.held id client hclient hzero
    exact ⟨hused, hown, hheld id client hclient hzero⟩
  · rw [hclients]
    exact howned.distinct

/-- Whatever the router does on its own, addresses stay where they are. -/
theorem Owned.keeps (howned : Owned t) (hkeeps : SameBooks t.router next.router)
    (hport : ∀ key, (next.port key).given = (t.port key).given) (hpool : next.pool = t.pool)
    (hclients : next.clients = t.clients) : Owned next := by
  have hclaims : ∀ key addr,
      linkHasAddress next.router key addr = linkHasAddress t.router key addr := by
    intro key addr
    rw [linkHasAddress, linkHasAddress, hkeeps.book]
  refine howned.extend 0 (fun _ => False) hkeeps.addr hpool hclients
    (hkeeps.nodup howned.nodup) ?_ ?_ (fun _ _ => False.elim) ?_ ?_
  · intro key hkey
    rw [hkeeps.book]
    exact howned.present key (hkeeps.links key hkey)
  · exact fun key hkey addr hclaim =>
      .inl ⟨hkeeps.links key hkey, hport key, hclaims key addr ▸ hclaim⟩
  · intro key hkey
    rw [hport, hclaims]
    exact howned.has key (hkeeps.links key hkey)
  · intro id client hclient hzero key hkey
    rw [hport]
    exact (howned.held id client hclient hzero).2.2 key (hkeeps.links key hkey)

/-! ## Received frames -/

/-- A newly learned address is no one else's. -/
theorem Owned.learn (howned : Owned t) (hlearns : Learns t addr) {link : LinkConnect}
    (hobject : t.router.object key = some link) :
    Owned { t with router := t.router.setLink key (busAddAddress link addr) } := by
  have hclaims := linkHasAddress_learned addr hobject
  refine howned.extend key (· = addr) rfl rfl rfl howned.nodup ?_ ?_ ?_ ?_
    fun id client hclient hzero => (howned.held id client hclient hzero).2.2
  · intro other hother
    by_cases hsame : other = key
    · simp [Router.book, Router.setLink, hsame]
    · simpa [Router.book, Router.setLink, hsame] using howned.present other hother
  · intro other hother asked hclaim
    rw [hclaims, Bool.or_eq_true, decide_eq_true_iff] at hclaim
    exact hclaim.symm.imp_left fun hbefore => ⟨hother, rfl, hbefore⟩
  · rintro asked - rfl
    exact ⟨hlearns.ne_own, findAddress_eq_none hlearns.unknown,
      fun hblock => absurd hblock hlearns.outside⟩
  · intro other hother hzero
    rw [hclaims, howned.has other hother hzero, Bool.or_true]

theorem Owned.recvLData (howned : Owned t) (key : ℕ) (received : LDataPDU) :
    Owned (t.recvLData key received) := by
  apply recvLData_preserves received howned
  · exact fun base buf hbase =>
      hbase.keeps (KeepsBooks.refl _).toSameBooks (fun _ => rfl) rfl rfl
  · exact fun link hlearns hobject _ => howned.learn hlearns hobject
  · exact howned.keeps ⟨rfl, fun _ => rfl, fun _ => id, id⟩ (fun _ => rfl) rfl rfl

/-! ## The block -/

theorem toNat_addrAt_of_inside {p : AddrPool} {pos : ℕ}
    (hinside : p.start.toNat + p.used.length ≤ 2 ^ 16) (hpos : pos < p.used.length) :
    (p.addrAt pos).toNat = p.start.toNat + pos := by
  rw [p.toNat_addrAt_eq_mod, Nat.mod_eq_of_lt (by omega)]

theorem inBlock_of_isUsed {p : AddrPool} (hinside : p.start.toNat + p.used.length ≤ 2 ^ 16)
    (hused : p.IsUsed addr) : InBlock p addr := by
  obtain ⟨_, hmark, rfl⟩ := hused
  have hpos := lt_of_getElem? hmark
  have htoNat := toNat_addrAt_of_inside hinside hpos
  exact ⟨by omega, by omega⟩

/-- Other marks in the same block, as long as the addresses of the clients are marked. -/
theorem Owned.remark (howned : Owned t) {pool : AddrPool} (hstart : pool.start = t.pool.start)
    (hlength : pool.used.length = t.pool.used.length)
    (hmarked : ∀ id client, t.clients id = some client → client.addr ≠ 0 →
      pool.IsUsed client.addr) : Owned { t with pool } := by
  refine { howned with inside := ?_, given := ?_, held := ?_ }
  · dsimp only
    rw [hstart, hlength]
    exact howned.inside
  · intro key hkey addr hzero hclaim hin
    dsimp only [InBlock] at hin
    rw [hstart, hlength] at hin
    exact howned.given key hkey addr hzero hclaim hin
  · exact fun id client hclient hzero =>
      ⟨hmarked id client hclient hzero, (howned.held id client hclient hzero).2⟩

/-- An address from the block has no user yet, and marking it changes nothing else. -/
theorem Owned.getClientAddr (howned : Owned t) : Owned t.getClientAddr.2 ∧
      (t.getClientAddr.1 ≠ 0 → Unclaimed t.getClientAddr.2 t.getClientAddr.1 ∧
        ∀ id client, t.clients id = some client → client.addr ≠ t.getClientAddr.1) := by
  unfold Relay.getClientAddr
  dsimp only
  obtain ⟨hnone, -⟩ | ⟨pos, hfree, hown, hunknown, hget⟩ :=
    t.pool.getClientAddr_cases t.router.addr (hasAddress t.router)
  · rw [hnone]
    exact ⟨howned, fun hzero => absurd rfl hzero⟩
  rw [hget]
  dsimp only
  have hpos := lt_of_getElem? hfree
  have hused := isUsed_set_true hpos pos
  refine ⟨?_, fun hzero => ⟨⟨hzero, (hused _).2 (.inl rfl), hown, ?_⟩, ?_⟩⟩
  · refine howned.remark (by rfl) (by simp) fun id client hclient hzero => ?_
    exact (hused _).2 (.inr (howned.held id client hclient hzero).1)
  · rw [hasAddress, Bool.or_eq_false_iff, isSome_eq_false_iff, isNone_iff_eq_none] at hunknown
    exact findAddress_eq_none hunknown.2
  · intro id client hclient heq
    obtain ⟨⟨place, hmark, hplace⟩, -⟩ := howned.held id client hclient (heq ▸ hzero)
    -- the mark of the client's address would be on the free position
    have hleft := toNat_addrAt_of_inside howned.inside (lt_of_getElem? hmark)
    rw [hplace, heq, toNat_addrAt_of_inside howned.inside hpos] at hleft
    obtain rfl : pos = place := Nat.add_left_cancel hleft
    rw [hfree] at hmark
    cases hmark

/-! ## The link table -/

/-- A new link whose addresses no other link has. -/
theorem Owned.register (howned : Owned t) (hregisters : Registers t.router next.router key book)
    (hport : ∀ other, other ≠ key → (next.port other).given = (t.port other).given)
    (hpool : next.pool = t.pool) (hclients : next.clients = t.clients)
    (hnew : ∀ addr, addr ≠ 0 → book addr → addr ≠ t.router.addr ∧
      (∀ other ∈ t.router.links, linkHasAddress t.router other addr = false) ∧
      (InBlock t.pool addr → (next.port key).given = addr))
    (hhas : (next.port key).given ≠ 0 → book (next.port key).given)
    (hlink : ∀ id client, t.clients id = some client → client.addr ≠ 0 →
      (next.port key).given = client.addr → client.link = some key) : Owned next := by
  have hne : ∀ other ∈ t.router.links, other ≠ key := by
    rintro other hother rfl
    exact howned.present other hother hregisters.fresh
  have hmem : ∀ other ∈ next.router.links, other ∈ t.router.links ∧ other ≠ key ∨ other = key := by
    intro other hother
    rw [hregisters.links, mem_append, mem_singleton] at hother
    exact hother.imp_left fun hbefore => ⟨hbefore, hne other hbefore⟩
  have hbook (addr : Addr) : linkHasAddress next.router key addr = book addr := by
    rw [linkHasAddress, hregisters.same]
  have hsame {other : ℕ} (hne : other ≠ key) (addr : Addr) :
      linkHasAddress next.router other addr = linkHasAddress t.router other addr := by
    rw [linkHasAddress, linkHasAddress, hregisters.other other hne]
  refine howned.extend key (book ·) hregisters.addr hpool hclients ?_ ?_ ?_ hnew ?_ ?_
  · rw [hregisters.links]
    exact nodup_append.2 ⟨howned.nodup, nodup_singleton key, fun other hother new hnew =>
      mem_singleton.1 hnew ▸ hne other hother⟩
  · intro other hother
    obtain ⟨hbefore, hne⟩ | rfl := hmem other hother
    · rw [hregisters.other other hne]
      exact howned.present other hbefore
    · rw [hregisters.same]
      exact some_ne_none book
  · intro other hother addr hclaim
    obtain ⟨hbefore, hne⟩ | rfl := hmem other hother
    · exact .inl ⟨hbefore, hport other hne, hsame hne addr ▸ hclaim⟩
    · exact .inr ⟨rfl, hbook addr ▸ hclaim⟩
  · intro other hother
    obtain ⟨hbefore, hne⟩ | rfl := hmem other hother
    · rw [hport other hne, hsame hne]
      exact howned.has other hbefore
    · rw [hbook]
      exact hhas
  · intro id client hclient hzero other hother
    obtain ⟨hbefore, hne⟩ | rfl := hmem other hother
    · rw [hport other hne]
      exact (howned.held id client hclient hzero).2.2 other hbefore
    · exact hlink id client hclient hzero

/-! ## Clients -/

theorem setClient_cases {other : ℕ} {holder : Client}
    (hholder : (t.setClient id client).clients other = some holder) :
    (other = id ∧ holder = client) ∨ other ≠ id ∧ t.clients other = some holder := by
  by_cases hsame : other = id
  · subst hsame
    simp only [Relay.setClient, update_self, Option.some.injEq] at hholder
    exact .inl ⟨rfl, hholder.symm⟩
  · simp only [Relay.setClient, update_of_ne hsame] at hholder
    exact .inr ⟨hsame, hholder⟩

/-- A client with an address that is its own. -/
theorem Owned.setClient (howned : Owned t)
    (hheld : client.addr ≠ 0 → t.pool.IsUsed client.addr ∧ client.addr ≠ t.router.addr ∧
      ∀ key ∈ t.router.links, (t.port key).given = client.addr → client.link = some key)
    (hother : ∀ other holder, other ≠ id → t.clients other = some holder → client.addr ≠ 0 →
      holder.addr ≠ client.addr) : Owned (t.setClient id client) := by
  refine { howned with held := ?_, distinct := ?_ }
  · intro other holder hholder hzero
    obtain ⟨-, rfl⟩ | ⟨-, hbefore⟩ := setClient_cases hholder
    · exact hheld hzero
    · exact howned.held other holder hbefore hzero
  · intro first left second right hfirst hsecond hzero heq
    obtain ⟨rfl, rfl⟩ | ⟨hne, hleft⟩ := setClient_cases hfirst
    · obtain ⟨rfl, -⟩ | ⟨hne, hright⟩ := setClient_cases hsecond
      · rfl
      · exact absurd heq.symm (hother second right hne hright hzero)
    · obtain ⟨rfl, rfl⟩ | ⟨-, hright⟩ := setClient_cases hsecond
      · exact absurd heq (hother first left hne hleft (heq ▸ hzero))
      · exact howned.distinct first left second right hleft hright hzero heq

/-- What a client's change of its own record must keep. -/
theorem Owned.update (howned : Owned t) (hclient : t.clients id = some client) {changed : Client}
    (haddr : changed.addr = client.addr)
    (hlink : ∀ key ∈ t.router.links, (t.port key).given = client.addr → client.addr ≠ 0 →
      changed.link = some key) : Owned (t.setClient id changed) := by
  apply howned.setClient
  · rw [haddr]
    intro hzero
    obtain ⟨hused, hown, -⟩ := howned.held id client hclient hzero
    exact ⟨hused, hown, fun key hkey hgiven => hlink key hkey hgiven hzero⟩
  · rw [haddr]
    intro other holder hne hholder hzero heq
    exact hne (howned.distinct id client other holder hclient hholder hzero heq.symm).symm

/-- What is known about the state after `unregisterLink`. -/
structure Unregistered (t next : Relay) (link : Option ℕ) : Prop where
  owned : Owned next
  clients : next.clients = t.clients
  port : next.port = t.port
  links : ∀ key ∈ next.router.links, key ∈ t.router.links ∧ link ≠ some key

section

variable (howned : Owned t)
include howned

theorem Owned.unregister {link : Option ℕ}
    (hunregister : t.unregister link = some next) : Unregistered t next link := by
  obtain ⟨rfl, habsent⟩ | ⟨key, router, rfl, hstep, rfl⟩ := unregister_cases hunregister
  · exact ⟨howned, rfl, rfl, fun key hkey => ⟨hkey, habsent key hkey⟩⟩
  cases steps_of_step hstep with
  | unregisterLink =>
    have herase : ∀ other ∈ t.router.links.erase key, other ∈ t.router.links ∧ key ≠ other := by
      intro other hother
      obtain ⟨hne, hbefore⟩ := (howned.nodup.mem_erase_iff).1 hother
      exact ⟨hbefore, hne.symm⟩
    refine ⟨?_, rfl, rfl, fun other hother => ?_⟩
    · refine howned.keeps ⟨rfl, fun _ => rfl, ?_, fun hnodup => hnodup.erase _⟩
        (fun _ => rfl) rfl rfl
      exact fun other hother => (herase other hother).1
    · exact ⟨(herase other hother).1, fun heq => (herase other hother).2 (Option.some.inj heq)⟩

theorem Owned.closeLink (hclient : t.clients id = some client)
    (hclose : t.closeLink id client = some next) : Owned next := by
  obtain ⟨_, hunregister, rfl⟩ := map_eq_some_iff.1 hclose
  obtain ⟨hafter, hclients, _, hlinks⟩ := howned.unregister hunregister
  rw [← hclients] at hclient
  refine hafter.update hclient rfl fun key hkey hgiven hzero => ?_
  -- the link with this address was the one that has just left the table
  obtain ⟨-, -, hheld⟩ := hafter.held id client hclient hzero
  exact absurd (hheld key hkey hgiven) (hlinks key hkey).2

/-- An address that no client holds any more may be released. -/
theorem Owned.release {addr : Addr}
    (hfree : ∀ id client, t.clients id = some client → client.addr ≠ addr) :
    Owned (t.release addr) := by
  unfold Relay.release
  split
  · exact howned
  obtain ⟨hunchanged, -⟩ | ⟨pos, hpos, _, hrelease⟩ := t.pool.releaseClientAddr_cases addr
  · rw [hunchanged]
    exact howned
  rw [hrelease]
  refine howned.remark (by rfl) (by simp) fun id client hclient hzero => ?_
  obtain ⟨⟨place, hplace, heq⟩, -⟩ := howned.held id client hclient hzero
  refine ⟨place, ?_, heq⟩
  -- the mark of another address is on another position
  have hne : pos ≠ place := by
    rintro rfl
    refine hfree id client hclient (BitVec.eq_of_toNat_eq ?_)
    rw [← heq, toNat_addrAt_of_inside howned.inside (lt_of_getElem? hplace), hpos]
  rw [getElem?_set, if_neg hne]
  exact hplace

theorem Owned.releaseClient (hclient : t.clients id = some client) :
    Owned (t.releaseClient id client) := by
  have hcleared : Owned (t.setClient id { client with addr := 0 }) :=
    howned.setClient (fun hzero => absurd rfl hzero) fun _ _ _ _ hzero => absurd rfl hzero
  have hcommute : t.releaseClient id client =
      (t.setClient id { client with addr := 0 }).release client.addr := by
    unfold Relay.releaseClient Relay.release
    split <;> rfl
  by_cases hzero : client.addr = 0
  · rw [hcommute, Relay.release, if_pos hzero]
    exact hcleared
  rw [hcommute]
  apply hcleared.release
  intro other holder hholder heq
  obtain ⟨-, rfl⟩ | ⟨hne, hholder⟩ := setClient_cases hholder
  · exact hzero heq.symm
  · exact hne (howned.distinct id client other holder hclient hholder hzero heq.symm).symm

/-- The address of a client without a link is still unclaimed. -/
theorem Owned.unclaimed (hclient : t.clients id = some client)
    (hzero : client.addr ≠ 0) (hlink : client.link = none) : Unclaimed t client.addr := by
  obtain ⟨hused, hown, hheld⟩ := howned.held id client hclient hzero
  refine ⟨hzero, hused, hown, fun key hkey => ?_⟩
  by_contra hclaims
  have hclaim : linkHasAddress t.router key client.addr = true := by simpa using hclaims
  have hgiven := howned.given key hkey client.addr hzero hclaim
    (inBlock_of_isUsed howned.inside hused) hown
  have hsome := hheld key hkey hgiven
  rw [hlink] at hsome
  cases hsome

/-- A client takes over an unclaimed address. -/
theorem Owned.newClient (hunclaimed : Unclaimed t client.addr)
    (hothers : ∀ other holder, other ≠ id → t.clients other = some holder →
      holder.addr ≠ client.addr) : Owned (t.setClient id client) := by
  apply howned.setClient
  · intro hzero
    refine ⟨hunclaimed.used, hunclaimed.ne_own, fun key hkey heq => ?_⟩
    have hhas := howned.has key hkey (heq ▸ hzero)
    rw [heq, hunclaimed.links key hkey] at hhas
    cases hhas
  · exact fun other holder hne hholder _ => hothers other holder hne hholder

/-- A client's link is registered with its address from the block. -/
theorem Owned.openLink {addr : Addr} {key : ℕ} {port : Port}
    {config : LinkConnect} {transient : Bool}
    (hopen : ((t.register key port (fun other => other == addr) config transient).map
      fun next => next.setClient id client) = some next)
    (hunclaimed : Unclaimed t addr)
    (hothers : ∀ other holder, other ≠ id → t.clients other = some holder → holder.addr ≠ addr)
    (hgiven : port.given = addr) (haddr : client.addr = addr ∨ client.addr = 0)
    (hlink : client.link = some key) : Owned next := by
  have hclient : Owned (t.setClient id client) := by
    by_cases hzero : client.addr = 0
    · exact howned.setClient (fun hne => absurd hzero hne) fun _ _ _ _ hne => absurd hzero hne
    · obtain rfl := haddr.resolve_right hzero
      exact howned.newClient hunclaimed hothers
  obtain ⟨_, hregister, rfl⟩ := map_eq_some_iff.1 hopen
  obtain ⟨_, hstep, rfl⟩ := map_eq_some_iff.1 hregister
  refine hclient.register (registers_of_step hstep) ?_ rfl rfl ?_ ?_ ?_
  · intro other hother
    simp [Relay.setClient, update_of_ne hother]
  · intro asked _ hasked
    obtain rfl : asked = addr := eq_of_beq hasked
    exact ⟨hunclaimed.ne_own, hunclaimed.links, fun _ => by simp [Relay.setClient, hgiven]⟩
  · simp [Relay.setClient, hgiven]
  · intro other holder hholder _ heq
    obtain ⟨-, rfl⟩ | ⟨hne, hholder⟩ := setClient_cases hholder
    · exact hlink
    · simp only [Relay.setClient, update_self, hgiven] at heq
      exact absurd heq.symm (hothers other holder hne hholder)

end

/-! ## Runs -/

section

variable (howned : Owned t)
include howned

/-- A link without addresses. -/
theorem Owned.registerPlain {book : Addr → Bool}
    (hbook : ∀ addr, book addr → addr = 0) (hgiven : port.given = 0)
    (hregister : t.register key port book config transient = some next) : Owned next := by
  obtain ⟨_, hstep, rfl⟩ := map_eq_some_iff.1 hregister
  have hport : (Function.update t.port key port key).given = 0 := by
    rw [Function.update_self, hgiven]
  refine howned.register (registers_of_step hstep) ?_ rfl rfl ?_ ?_ ?_
  · intro other hother
    simp [update_of_ne hother]
  · exact fun addr hzero hhas => absurd (hbook addr hhas) hzero
  · exact fun hzero => absurd hport hzero
  · exact fun id client _ hzero heq => absurd (heq.symm.trans hport) hzero

theorem Owned.openConn {id : ℕ} {client : Client}
    (hclient : t.clients id = some client) (hlink : client.link = none)
    (hopen : t.openConn id key client config = some next) : Owned next := by
  obtain ⟨hallotted, hfresh⟩ := howned.getClientAddr
  cases opens_of_openConn hopen with
  | full => exact hallotted
  | allotted hzero hne hregister =>
    obtain ⟨hunclaimed, hothers⟩ := hfresh hne
    exact hallotted.openLink hregister hunclaimed
      (fun other holder _ hholder => hothers other holder hholder) rfl (.inr hzero) rfl
  | kept hzero hregister =>
    refine howned.openLink hregister (howned.unclaimed hclient hzero hlink) ?_ rfl (.inl rfl) rfl
    intro other holder hne hholder heq
    exact hne (howned.distinct id client other holder hclient hholder hzero heq.symm).symm

theorem Owned.addTunnel {id : ℕ} {setupOk : Bool}
    (hadd : t.addTunnel id key config setupOk = some next) : Owned next := by
  obtain ⟨hallotted, hfresh⟩ := howned.getClientAddr
  unfold Relay.addTunnel at hadd
  dsimp only at hadd
  split at hadd
  · cases hadd
    exact hallotted
  · next hne =>
    obtain ⟨hunclaimed, hothers⟩ := hfresh fun hzero => hne (.inl hzero)
    exact hallotted.openLink hadd hunclaimed
      (fun other holder _ hholder => hothers other holder hholder) rfl (.inl rfl) rfl

theorem Owned.trigger {now : ℕ} (htrigger : t.trigger now = some next) : Owned next := by
  cases passes_of_trigger htrigger with
  | aborts | drops =>
    exact howned.keeps ⟨rfl, fun _ => rfl, fun _ => id, id⟩ (fun _ => rfl) rfl rfl
  | distributes _ _ hstep =>
    obtain ⟨haddr, hbook, hlinks, hnodup⟩ := (sendLData_books hstep).1
    exact howned.keeps ⟨haddr, hbook, hlinks, hnodup⟩ (fun _ => rfl) rfl rfl

/-- One step of the program keeps every address with one link. -/
theorem Owned.step {event : Traffic.Event}
    (hstep : Traffic.step t event = some next) : Owned next := by
  rw [Traffic.step.eq_def] at hstep
  split at hstep
  · cases hstep
  cases event with
  | router =>
    obtain ⟨hinternal, hon⟩ := ite_none_right_eq_some.1 hstep
    obtain ⟨router, hrouter, rfl⟩ := map_eq_some_iff.1 hon
    obtain hkeeps | ⟨frame, -, key, hpasses⟩ := step_books hinternal hrouter
    · exact howned.keeps hkeeps.toSameBooks (fun _ => rfl) rfl rfl
    · exact howned.keeps hpasses.toSameBooks (fun _ => rfl) rfl rfl
  | receive key l =>
    obtain ⟨-, ⟨⟩⟩ := ite_none_right_eq_some.1 hstep
    exact howned.recvLData key l
  | setAddress key =>
    obtain ⟨-, ⟨⟩⟩ := ite_none_right_eq_some.1 hstep
    refine howned.keeps (KeepsBooks.refl _).toSameBooks (fun other => ?_) rfl rfl
    by_cases hother : other = key <;> simp [Function.update, hother]
  | registerBus | registerServer =>
    exact howned.registerPlain (by simp) rfl hstep
  | registerCache key =>
    obtain ⟨-, hregister⟩ := ite_none_right_eq_some.1 hstep
    have hcache : Owned { t with cache := some key } :=
      howned.keeps (KeepsBooks.refl _).toSameBooks (fun _ => rfl) rfl rfl
    exact hcache.registerPlain (fun _ => eq_of_beq) rfl hregister
  | clientConnection =>
    obtain ⟨-, ⟨⟩⟩ := ite_none_right_eq_some.1 hstep
    obtain ⟨hallotted, hfresh⟩ := howned.getClientAddr
    by_cases hzero : t.getClientAddr.1 = 0
    · exact hallotted.setClient (fun hne => absurd hzero hne) fun _ _ _ _ hne => absurd hzero hne
    · obtain ⟨hunclaimed, hothers⟩ := hfresh hzero
      exact hallotted.newClient hunclaimed fun other holder _ hholder =>
        hothers other holder hholder
  | openConn =>
    obtain ⟨client, hclient, hopen⟩ := bind_eq_some_iff.1 hstep
    obtain ⟨hlink, hopen⟩ := ite_none_right_eq_some.1 hopen
    exact howned.openConn (filter_eq_some_iff.1 hclient).1 hlink hopen
  | exitConn | dropConn =>
    obtain ⟨client, hclient, hclose⟩ := bind_eq_some_iff.1 hstep
    exact howned.closeLink (filter_eq_some_iff.1 hclient).1 hclose
  | clientStop =>
    obtain ⟨client, hclient, hclose⟩ := bind_eq_some_iff.1 hstep
    have hreleased := howned.releaseClient (filter_eq_some_iff.1 hclient).1
    exact hreleased.closeLink (update_self _ _ _) hclose
  | addTunnel =>
    obtain ⟨-, hadd⟩ := ite_none_right_eq_some.1 hstep
    exact howned.addTunnel hadd
  | addConfig =>
    obtain ⟨-, hadd⟩ := ite_none_right_eq_some.1 hstep
    obtain ⟨_, hregister, rfl⟩ := map_eq_some_iff.1 hadd
    have hregistered := howned.registerPlain (fun _ => eq_of_beq) rfl hregister
    exact hregistered.setClient (fun hzero => absurd rfl hzero)
      fun _ _ _ _ hzero => absurd rfl hzero
  | connStop =>
    obtain ⟨client, hclient, rfl⟩ := map_eq_some_iff.1 hstep
    exact howned.releaseClient (filter_eq_some_iff.1 hclient).1
  | trigger =>
    obtain ⟨-, htrigger⟩ := ite_none_right_eq_some.1 hstep
    exact howned.trigger htrigger
  | expire =>
    cases hstep
    exact howned.keeps (KeepsBooks.refl _).toSameBooks (fun _ => rfl) rfl rfl

end

/-- What exclusive ownership means in one state: no two links of the table have an
address in common; no link has the router's own address; an address of the block is
only on the link it was handed out for; and a received frame teaches its link nothing
about the router's address or the block. -/
structure ExclusiveOwnership (t : Relay) : Prop where
  exclusive : ∀ key ∈ t.router.links, ∀ other ∈ t.router.links, ∀ addr, addr ≠ 0 →
    linkHasAddress t.router key addr → linkHasAddress t.router other addr → key = other
  own : ∀ key ∈ t.router.links, linkHasAddress t.router key t.router.addr → t.router.addr = 0
  block : ∀ key ∈ t.router.links, ∀ addr, addr ≠ 0 → linkHasAddress t.router key addr →
    InBlock t.pool addr → addr ≠ t.router.addr → (t.port key).given = addr
  learned : ∀ key l next, Traffic.step t (.receive key l) = some next → ∀ other addr,
    linkHasAddress next.router other addr →
    linkHasAddress t.router other addr ∨ other = key ∧ addr ≠ t.router.addr ∧ ¬ InBlock t.pool addr

/-- Only the source of the frame is learned, by the link it came from. -/
theorem learned_of_receive {t next : Relay} {key : ℕ} {l : LDataPDU}
    (hstep : Traffic.step t (.receive key l) = some next) (other : ℕ) (addr : Addr)
    (hclaims : linkHasAddress next.router other addr) :
    linkHasAddress t.router other addr ∨
      other = key ∧ addr ≠ t.router.addr ∧ ¬ InBlock t.pool addr := by
  rw [Traffic.step.eq_def] at hstep
  split at hstep
  · cases hstep
  obtain ⟨-, ⟨⟩⟩ := ite_none_right_eq_some.1 hstep
  obtain hsame | ⟨hqueue, -⟩ | ⟨hqueue, hlearns⟩ := recvLData_cases t key l
  · rw [hsame] at hclaims
    exact .inl hclaims
  · rw [hqueue, queueLData_router] at hclaims
    exact .inl hclaims
  · rw [hqueue, queueLData_router] at hclaims
    obtain ⟨link, hobject, -, hadd⟩ | ⟨hadd, -⟩ | hadd := addAddress_cases t key (t.sourceOf key l)
    · rw [hadd, linkHasAddress_learned _ hobject, Bool.or_eq_true, decide_eq_true_iff] at hclaims
      obtain ⟨hkey, rfl⟩ | hbefore := hclaims
      · exact .inr ⟨hkey, hlearns.ne_own, hlearns.outside⟩
      · exact .inl hbefore
    · rw [hadd] at hclaims
      exact .inl hclaims
    · rw [hadd] at hclaims
      exact .inl hclaims

/-- In every run with a block inside the address space, every link has its
addresses to itself. -/
theorem link_addresses_exclusive {addr start : Addr} {length : ℕ} {forceBroadcast : Bool}
    {t : Relay} (hblock : start.toNat + length ≤ 2 ^ 16)
    (hpath : Path Traffic.step anyEvent (Traffic.boot addr start length forceBroadcast) t) :
    ExclusiveOwnership t := by
  have howned : Owned t := hpath.invariant Owned (owned_boot hblock)
    fun _ _ _ howned _ hstep => howned.step hstep
  exact ⟨howned.exclusive, howned.own, howned.given, fun _ _ _ => learned_of_receive⟩

/-- Two buses, a client and a tunnel, with a device behind the first bus. -/
def meeting : List Traffic.Event :=
  [.registerBus 0 {}, .registerBus 1 {}, .clientConnection 7, .openConn 7 2 {},
    .receive 0 { source := 0x1203, dest := 0x1105, data := [0x00] }, .addTunnel 8 3 {} true]

theorem link_addresses_exclusive_meeting : ∃ t : Relay,
    ExclusiveOwnership t ∧ t.router.links = [0, 1, 2, 3] ∧ linkHasAddress t.router 0 0x1203 ∧
      linkHasAddress t.router 2 0x1105 ∧ linkHasAddress t.router 3 0x1106 := by
  obtain ⟨t, ht, hfields⟩ : ∃ t,
      Transition.run Traffic.step (Traffic.boot 0x1101 0x1105 2 false) meeting = some t ∧
      t.router.links = [0, 1, 2, 3] ∧ linkHasAddress t.router 0 0x1203 ∧
      linkHasAddress t.router 2 0x1105 ∧ linkHasAddress t.router 3 0x1106 := by decide +kernel
  exact ⟨t, link_addresses_exclusive (by decide) (Transition.path_of_run ht), hfields⟩

end Knxd.Ownership
