import Knxd.Core.Linked

/-!
# Building the filter chain of a link

The filters of a link stand between its `LinkConnect` and its driver.  `LinkConnect_::setup`
creates those that the configuration lists, links each of them next to the driver, and then
follows the `send` pointers and calls `setup` of everything it meets, the driver last.  The
driver's `setup` may ask for further filters, at either end of the chain; those are linked and
set up on the spot.

What the `setup` functions of the filters return, and which filters a driver asks for and what
it makes of the answers, is left open.
-/

namespace Knxd.FilterChain

open DoublyLinked List Nat

abbrev Name := List Char

/-- The elements of a chain; the filters are numbered in the order of their creation. -/
inductive Node
  | connect
  | filter (index : ℕ)
  | driver
  deriving DecidableEq, Repr

structure Config where
  /-- `filters` of the link's section. -/
  filters : Name
  /-- `filter` of a section; without one it is the section's name. -/
  value : Name → Name
  /-- `get_filter` finds a filter of this name. -/
  known : Name → Bool
  /-- The driver's `name`. -/
  driverName : Name
  /-- The results of the filters' `setup`. -/
  works : ℕ → Bool

/-- What a driver's `setup` does with the chain: it asks for filters, sees whether it got them,
and succeeds or fails. -/
inductive DriverSetup
  | done (result : Bool)
  | assure (name : Name) (first : Bool) (rest : Bool → DriverSetup)

structure Chain where
  /-- `set_driver` was called. -/
  hasDriver : Bool := false
  /-- The pointers `send` and `recv`. -/
  links : Links Node := {}
  /-- The `name`s of the filters that were created. -/
  filters : List Name := []
  setups : List Node := []

namespace Chain

def send (c : Chain) : Node → Option Node := c.links.next

def recv (c : Chain) : Node → Option Node := c.links.prev

/-- `LinkRecv::link`: `_link` of the next element sets `send` of this one and its own `recv`. -/
def link (c : Chain) (node next : Node) : Chain :=
  { c with links := c.links.connect node next }

def setDriver (c : Chain) : Chain :=
  { c.link .connect .driver with hasDriver := true }

/-- `get_filter` makes a new filter. -/
def create (c : Chain) (name : Name) : Chain :=
  { c with filters := c.filters ++ [name] }

def pushFilter (c : Chain) (filter : Node) (first : Bool) : Option Chain :=
  if first then (c.send .connect).map fun t => (c.link .connect filter).link filter t
  else (c.recv .driver).map fun r => (c.link r filter).link filter .driver

/-- `findFilter` of the elements; a `LinkConnect` has none. -/
def findFilter (c : Chain) (name : Name) : ℕ → Node → Bool
  | 0, _ => false
  | _ + 1, .connect => false
  | fuel + 1, .driver => (c.recv .driver).any (c.findFilter name fuel)
  | fuel + 1, .filter index =>
    (c.recv (.filter index)).any fun r =>
      c.filters[index]? == some name || c.findFilter name fuel r

/-- `setup` of a filter. -/
def setupFilter (cfg : Config) (c : Chain) (index : ℕ) : Bool × Chain :=
  (cfg.works index, { c with setups := .filter index :: c.setups })

/-- The section that `add_auto` makes has no values; its name is the name of the filter. -/
def autoName (cfg : Config) (name : Name) : Name :=
  cfg.driverName ++ '.' :: name ++ ['_']

def assureFilter (cfg : Config) (c : Chain) (name : Name) (first : Bool) : Bool × Chain :=
  if c.findFilter name (c.filters.length + 2) .driver then (true, c)
  else if cfg.known name then
    let index := c.filters.length
    let created := c.create (autoName cfg name)
    match created.pushFilter (.filter index) first with
    | none => (false, created)
    | some next => setupFilter cfg next index
  else (false, c)

def runDriver (cfg : Config) : DriverSetup → Chain → Bool × Chain
  | .done result, c => (result, c)
  | .assure name first rest, c =>
    let (found, next) := assureFilter cfg c name first
    runDriver cfg (rest found) next

/-- `setup` of the driver. -/
def setupDriver (cfg : Config) (program : DriverSetup) (c : Chain) : Bool × Chain :=
  runDriver cfg program { c with setups := .driver :: c.setups }

def addFilter (cfg : Config) (c : Chain) (name : Name) : Bool × Chain :=
  if cfg.known (cfg.value name) then
    let created := c.create (cfg.value name)
    match created.pushFilter (.filter c.filters.length) false with
    | none => (false, created)
    | some next => (true, next)
  else (false, c)

def addFilters (cfg : Config) : List Name → Chain → Bool × Chain
  | [], c => (true, c)
  | name :: names, c =>
    let (found, next) := addFilter cfg c name
    if found then addFilters cfg names next else (false, next)

/-- The loop that follows the `send` pointers; none if it does not end. -/
def setupAll (cfg : Config) (program : DriverSetup) : ℕ → Option Node → Chain →
    Option (Bool × Chain)
  | 0, _, _ => none
  | _ + 1, none, c => some (false, c)
  | _ + 1, some .connect, c => some (false, c)
  | _ + 1, some .driver, c => some (setupDriver cfg program c)
  | fuel + 1, some (.filter index), c =>
    let (works, next) := setupFilter cfg c index
    if works then setupAll cfg program fuel (next.send (.filter index)) next
    else some (false, next)

end Chain

open Chain

def parts (x : Name) : List Name :=
  match _hrest : x.dropWhile (· ≠ ',') with
  | [] => [x.takeWhile (· ≠ ',')]
  | _ :: rest => x.takeWhile (· ≠ ',') :: parts rest
termination_by x.length
decreasing_by
  have hle := (List.dropWhile_sublist (· ≠ ',') (l := x)).length_le
  rw [_hrest] at hle
  exact hle

def names (cfg : Config) : List Name :=
  (parts cfg.filters).filter (· ≠ [])

/-- `LinkConnect_::setup`; none if it does not end. -/
def setup (cfg : Config) (program : DriverSetup) (c : Chain) : Option (Bool × Chain) :=
  let called : Chain := { c with setups := .connect :: c.setups }
  if c.hasDriver then
    let (found, next) := called.addFilters cfg (names cfg)
    if found then next.setupAll cfg program (next.filters.length + 1) (next.send .connect)
    else some (false, next)
  else some (false, called)

/-! ## The list of filters -/

/-- The loop splits the list at the commas. -/
theorem parts_eq_splitOn (x : Name) : parts x = x.splitOn ',' := by
  have hpart : ∀ y : Name, ∀ char ∈ y.takeWhile (· ≠ ','), (char == ',') = false := by
    intro y char hchar
    simpa using mem_takeWhile_imp hchar
  induction x using parts.induct with
  | case1 x hend =>
    have hwhole : x.takeWhile (· ≠ ',') = x := by
      have happend := @takeWhile_append_dropWhile _ (fun char => decide (char ≠ ',')) x
      rwa [hend, append_nil] at happend
    have hnone := hpart x
    rw [hwhole] at hnone
    rw [parts, splitOn, splitOnP_eq_singleton hnone]
    split
    · rw [hwhole]
    · next hrest => cases hend.symm.trans hrest
  | case2 x comma rest hrest ih =>
    have hcomma : (comma == ',') = true := by
      have hhead := head?_dropWhile_not (fun char => decide (char ≠ ',')) x
      rw [hrest] at hhead
      simpa using hhead
    have hsplit : x.splitOn ',' = x.takeWhile (· ≠ ',') :: rest.splitOn ',' := by
      have happend := @takeWhile_append_dropWhile _ (fun char => decide (char ≠ ',')) x
      rw [hrest] at happend
      rw [splitOn]
      nth_rewrite 1 [← happend]
      exact splitOnP_append_cons_of_forall_mem (hpart x) comma hcomma rest
    rw [hsplit, ← ih, parts]
    split
    · next hend => cases hend.symm.trans hrest
    · next hsame =>
      cases hsame.symm.trans hrest
      rfl

/-! ## Insertion -/

variable {cfg : Config} {c : Chain} {order : List ℕ}

/-- The elements of a chain, from the `LinkConnect` to the driver. -/
def nodes (order : List ℕ) : List Node :=
  .connect :: order.map .filter ++ [.driver]

structure Built (c : Chain) (order : List ℕ) : Prop where
  linked : Linked c.links (nodes order)
  perm : order.Perm (List.range c.filters.length)

variable {cfg : Config} {c : Chain} {order : List ℕ}

theorem mem_nodes {index : ℕ} : .filter index ∈ nodes order ↔ index ∈ order := by
  simp [nodes]

/-- A new filter is not in the chain yet. -/
theorem Built.new_notMem (hbuilt : Built c order) : .filter c.filters.length ∉ nodes order := by
  rw [mem_nodes, hbuilt.perm.mem_iff, mem_range]
  exact lt_irrefl _

/-- The `send` pointer of an element leads to what comes after it. -/
theorem Built.send_eq (hbuilt : Built c order) {before rest : List Node} {node : Node}
    (hnodes : nodes order = before ++ node :: rest) (hrest : rest ≠ []) :
    c.send node = rest.head? := by
  obtain ⟨_, _, rfl⟩ := exists_cons_of_ne_nil hrest
  have hlinked := hbuilt.linked
  rw [hnodes] at hlinked
  exact hlinked.next_eq

/-- The place of a new filter. -/
def insert (order : List ℕ) (index : ℕ) (first : Bool) : List ℕ :=
  if first then index :: order else order ++ [index]

theorem insert_perm (order : List ℕ) (index : ℕ) (first : Bool) :
    (insert order index first).Perm (index :: order) := by
  cases first
  · exact perm_append_singleton index order
  · exact List.Perm.refl _

/-- A new filter is linked between two neighbours. -/
theorem Built.link (hbuilt : Built c order) {inserted : List ℕ} {before after : List Node}
    {r t : Node} (hnodes : nodes order = before ++ r :: t :: after)
    (hinserted : nodes inserted = before ++ r :: .filter c.filters.length :: t :: after)
    (hperm : inserted.Perm (c.filters.length :: order)) (name : Name) :
    Built (((c.create name).link r (.filter c.filters.length)).link (.filter c.filters.length) t)
      inserted := by
  have hlinked := hbuilt.linked
  have hnew := hbuilt.new_notMem
  rw [hnodes] at hlinked hnew
  constructor
  · rw [hinserted]
    exact hlinked.insert hnew
  · have hlength : (c.filters ++ [name]).length = c.filters.length + 1 := by
      rw [length_append, length_singleton]
    change inserted.Perm (range (c.filters ++ [name]).length)
    rw [hlength, range_succ]
    exact (hperm.trans (hbuilt.perm.cons _)).trans (perm_append_singleton _ _).symm

/-- `push_filter` finds a place at either end. -/
theorem Built.pushFilter (hbuilt : Built c order) (name : Name) (first : Bool) :
    ∃ links, (c.create name).pushFilter (.filter c.filters.length) first =
        some { c with links, filters := c.filters ++ [name] } ∧
      Built { c with links, filters := c.filters ++ [name] }
        (insert order c.filters.length first) := by
  have hperm := insert_perm order c.filters.length first
  have hlinked := hbuilt.linked
  cases first with
  | true =>
    obtain ⟨t, rest, hrest⟩ : ∃ t rest, order.map Node.filter ++ [.driver] = t :: rest :=
      exists_cons_of_ne_nil (by simp)
    have hnodes : nodes order = [] ++ .connect :: t :: rest := by
      rw [nodes, cons_append, hrest]
      rfl
    have hinserted : nodes (insert order c.filters.length true) =
        [] ++ .connect :: .filter c.filters.length :: t :: rest := by
      rw [nodes, ← hrest]
      rfl
    rw [hnodes] at hlinked
    have hsend : (c.create name).send .connect = some t := hlinked.next_eq
    refine ⟨_, ?_, hbuilt.link hnodes hinserted hperm name⟩
    rw [Chain.pushFilter, if_pos rfl, hsend]
    rfl
  | false =>
    obtain ⟨before, r, hbefore⟩ : ∃ before r, .connect :: order.map Node.filter = before ++ [r] :=
      (eq_nil_or_concat' _).resolve_left (by simp)
    have hnodes : nodes order = before ++ r :: .driver :: [] := by
      rw [nodes, hbefore, append_assoc]
      rfl
    have hinserted : nodes (insert order c.filters.length false) =
        before ++ r :: .filter c.filters.length :: .driver :: [] := by
      rw [nodes, insert, if_neg Bool.false_ne_true, map_append, ← cons_append, hbefore]
      simp
    rw [hnodes] at hlinked
    have hrecv : (c.create name).recv .driver = some r := hlinked.prev_eq_some_iff.2 hlinked.next_eq
    refine ⟨_, ?_, hbuilt.link hnodes hinserted hperm name⟩
    rw [Chain.pushFilter, if_neg Bool.false_ne_true, hrecv]
    rfl

/-! ## The configured filters -/

/-- `push_filter` for the next filter of the list puts it after the others. -/
theorem addFilter_built {count : ℕ} (hbuilt : Built c (List.range count))
    (hcount : c.filters.length = count) (name : Name) :
    (∃ c', c.addFilter cfg name = (false, c')) ∨
    ∃ links, c.addFilter cfg name =
        (true, { c with links, filters := c.filters ++ [cfg.value name] }) ∧
      Built { c with links, filters := c.filters ++ [cfg.value name] }
        (List.range (count + 1)) := by
  unfold addFilter
  split
  · obtain ⟨links, hpush, hnext⟩ := hbuilt.pushFilter (cfg.value name) false
    rw [insert, if_neg Bool.false_ne_true, hcount, ← range_succ] at hnext
    refine .inr ⟨links, ?_, hnext⟩
    dsimp only
    rw [hpush]
  · exact .inl ⟨c, rfl⟩

theorem addFilters_built {names : List Name} (hbuilt : Built c (List.range c.filters.length)) :
    (∃ c', c.addFilters cfg names = (false, c')) ∨
    ∃ links, c.addFilters cfg names =
        (true, { c with links, filters := c.filters ++ names.map cfg.value }) ∧
      Built { c with links, filters := c.filters ++ names.map cfg.value }
        (List.range (c.filters.length + names.length)) := by
  induction names generalizing c with
  | nil =>
    refine .inr ⟨c.links, ?_, ?_⟩
    · rw [addFilters, map_nil, append_nil]
    · rw [map_nil, append_nil]
      exact hbuilt
  | cons name _ ih =>
    obtain ⟨c', hfails⟩ | ⟨links, hadd, hnext⟩ := @addFilter_built cfg c _ hbuilt rfl name
    · refine .inl ⟨c', ?_⟩
      rw [addFilters, hfails]
      rfl
    · have hlength : (c.filters ++ [cfg.value name]).length = c.filters.length + 1 := by
        rw [length_append, length_singleton]
      rw [← hlength] at hnext
      have hrest := ih hnext
      dsimp only at hrest
      rw [append_assoc, singleton_append, hlength, add_assoc, add_comm 1]
        at hrest
      rw [addFilters, hadd, map_cons, length_cons]
      exact hrest

/-! ## The filters that the driver asks for -/

/-- The filters that a driver's `setup` adds, with the ends it wants them at.  A filter that is
there already is not made again. -/
def wanted (cfg : Config) : DriverSetup → List Name → List (ℕ × Bool)
  | .done _, _ => []
  | .assure name first rest, filters =>
    if name ∈ filters then wanted cfg (rest true) filters
    else if cfg.known name then
      (filters.length, first) :: wanted cfg (rest (cfg.works filters.length))
        (filters ++ [Chain.autoName cfg name])
    else wanted cfg (rest false) filters

/-- The filters in the order of the chain: those added at the front, the latest first, those of
the configuration, and those added next to the driver, the latest last. -/
def assembled (configured : List ℕ) (added : List (ℕ × Bool)) : List ℕ :=
  ((added.filter Prod.snd).map Prod.fst).reverse ++ configured ++
    (added.filter fun entry => !entry.2).map Prod.fst

theorem assembled_cons (configured : List ℕ) (index : ℕ) (first : Bool) (added : List (ℕ × Bool)) :
    assembled configured ((index, first) :: added) =
      assembled (insert configured index first) added := by
  cases first
  · simp [assembled, insert]
  · simp [assembled, insert]

section

variable (hbuilt : Built c order)
include hbuilt

/-- `findFilter` sees the filters from an element back to the `LinkConnect`. -/
theorem findFilter_iff (name : Name) {before after : List Node}
    {node : Node} (hnodes : nodes order = before ++ node :: after) {fuel : ℕ}
    (hfuel : before.length < fuel) :
    c.findFilter name fuel node = true ↔
      ∃ index, .filter index ∈ before ++ [node] ∧ c.filters[index]? = some name := by
  induction before using reverseRecOn generalizing node after fuel with
  | nil =>
    obtain ⟨fuel, rfl⟩ := exists_eq_add_one_of_ne_zero hfuel.ne'
    obtain rfl : node = .connect := (cons.inj hnodes).1.symm
    simp [findFilter]
  | append_singleton before r ih =>
    obtain ⟨fuel, rfl⟩ := exists_eq_add_one_of_ne_zero (ne_zero_of_lt hfuel)
    rw [append_assoc, singleton_append] at hnodes
    have hrest := ih hnodes (by simpa using hfuel)
    have hlinked := hbuilt.linked
    rw [hnodes] at hlinked
    have hrecv : c.recv node = some r := hlinked.prev_eq_some_iff.2 hlinked.next_eq
    cases node with
    | connect =>
      -- it is the first element, and only that
      have hmem : Node.connect ∈ (before ++ r :: .connect :: after).tail := by
        cases before <;> simp
      rw [← hnodes] at hmem
      simp [nodes] at hmem
    | driver =>
      rw [findFilter, hrecv, Option.any_some, hrest]
      simp
    | filter index =>
      rw [findFilter, hrecv, Option.any_some, Bool.or_eq_true, hrest, beq_iff_eq]
      constructor
      · rintro (hname | ⟨other, hmem, hname⟩)
        · exact ⟨index, by simp, hname⟩
        · exact ⟨other, mem_append_left _ hmem, hname⟩
      · rintro ⟨other, hmem, hname⟩
        obtain hmem | hmem := mem_append.1 hmem
        · exact .inr ⟨other, hmem, hname⟩
        · cases mem_singleton.1 hmem
          exact .inl hname

/-- The driver finds the filters that were created. -/
theorem findFilter_driver (name : Name) :
    c.findFilter name (c.filters.length + 2) .driver = true ↔ name ∈ c.filters := by
  have hlength : (Node.connect :: order.map Node.filter).length < c.filters.length + 2 := by
    have hsame := hbuilt.perm.length_eq
    rw [length_range] at hsame
    rw [length_cons, length_map, hsame]
    exact lt_succ_self _
  rw [findFilter_iff hbuilt name rfl hlength, mem_iff_getElem?]
  refine exists_congr fun index => and_iff_right_of_imp fun hname => ?_
  have hlt : index < c.filters.length := (List.getElem?_eq_some_iff.1 hname).1
  exact mem_nodes.2 (hbuilt.perm.mem_iff.2 (mem_range.2 hlt))

theorem assureFilter_of_mem {name : Name} (hmem : name ∈ c.filters)
    (first : Bool) : c.assureFilter cfg name first = (true, c) :=
  if_pos ((findFilter_driver hbuilt name).2 hmem)

theorem assureFilter_of_unknown {name : Name} (hmem : name ∉ c.filters)
    (hunknown : ¬ cfg.known name) (first : Bool) : c.assureFilter cfg name first = (false, c) := by
  rw [assureFilter, if_neg (mt (findFilter_driver hbuilt name).1 hmem), if_neg hunknown]

theorem assureFilter_of_known {name : Name} (hmem : name ∉ c.filters)
    (hknown : cfg.known name) (first : Bool) :
    ∃ links, c.assureFilter cfg name first = (cfg.works c.filters.length,
          { c with
            links, filters := c.filters ++ [Chain.autoName cfg name],
            setups := .filter c.filters.length :: c.setups }) ∧
      Built
        { c with
          links, filters := c.filters ++ [Chain.autoName cfg name],
          setups := .filter c.filters.length :: c.setups }
        (insert order c.filters.length first) := by
  obtain ⟨links, hpush, hlinked, hperm⟩ := hbuilt.pushFilter (autoName cfg name) first
  refine ⟨links, ?_, hlinked, hperm⟩
  rw [assureFilter, if_neg (mt (findFilter_driver hbuilt name).1 hmem), if_pos hknown]
  dsimp only
  rw [hpush]
  rfl

end

theorem runDriver_assure (name : Name) (first : Bool) (rest : Bool → DriverSetup) :
    c.runDriver cfg (.assure name first rest) =
      (c.assureFilter cfg name first).2.runDriver cfg (rest (c.assureFilter cfg name first).1) :=
  rfl

theorem nodes_insert_perm (order : List ℕ) (index : ℕ) (first : Bool) :
    (nodes (insert order index first)).Perm (.filter index :: nodes order) := by
  have hfilters : ((insert order index first).map Node.filter).Perm
      (.filter index :: order.map Node.filter) := (insert_perm order index first).map Node.filter
  exact ((hfilters.append_right [Node.driver]).cons Node.connect).trans (List.Perm.swap _ _ _)

/-- What the driver asks for is added at the end it names, and set up. -/
theorem runDriver_built (program : DriverSetup) (hbuilt : Built c order)
    (hsetups : c.setups.Perm (nodes order)) :
    Built (c.runDriver cfg program).2 (assembled order (wanted cfg program c.filters)) ∧
      (c.runDriver cfg program).2.setups.Perm
        (nodes (assembled order (wanted cfg program c.filters))) ∧
      c.filters <+: (c.runDriver cfg program).2.filters := by
  induction program generalizing c order with
  | done =>
    have hsame : assembled order [] = order := by simp [assembled]
    rw [wanted, hsame]
    exact ⟨hbuilt, hsetups, prefix_rfl⟩
  | assure name first _ ih =>
    rw [runDriver_assure, wanted]
    by_cases hmem : name ∈ c.filters
    · rw [assureFilter_of_mem hbuilt hmem, if_pos hmem]
      exact ih true hbuilt hsetups
    rw [if_neg hmem]
    by_cases hknown : cfg.known name
    · obtain ⟨_, hassure, hnext⟩ := assureFilter_of_known hbuilt hmem hknown first
      have hafter := (hsetups.cons _).trans (nodes_insert_perm order c.filters.length first).symm
      obtain ⟨hdone, hcalls, hstart⟩ := ih (cfg.works c.filters.length) hnext hafter
      rw [hassure, if_pos hknown, assembled_cons]
      exact ⟨hdone, hcalls, (prefix_append _ _).trans hstart⟩
    · rw [assureFilter_of_unknown hbuilt hmem hknown, if_neg hknown]
      exact ih false hbuilt hsetups

/-- The walk over the `send` pointers reaches the driver and calls everything on its way. -/
theorem setupAll_built (program : DriverSetup) (hbuilt : Built c order) {visited rest : List ℕ}
    (horder : order = visited ++ rest)
    (hsetups : c.setups.Perm (.connect :: visited.map .filter)) {fuel : ℕ}
    (hfuel : rest.length < fuel) :
    ∃ ok after, c.setupAll cfg program fuel (rest.map Node.filter ++ [Node.driver]).head? =
        some (ok, after) ∧
      (ok = true → Built after (assembled order (wanted cfg program c.filters)) ∧
        after.setups.Perm (nodes (assembled order (wanted cfg program c.filters))) ∧
        c.filters <+: after.filters) := by
  induction rest generalizing c visited fuel with
  | nil =>
    obtain ⟨fuel, rfl⟩ := exists_eq_add_one_of_ne_zero (ne_zero_of_lt hfuel)
    rw [append_nil] at horder
    have hall : (Node.driver :: c.setups).Perm (nodes order) := by
      rw [horder, nodes]
      exact (hsetups.cons _).trans (perm_append_singleton _ _).symm
    refine ⟨_, _, rfl, fun _ => ?_⟩
    exact @runDriver_built cfg { c with setups := .driver :: c.setups } order program
      ⟨hbuilt.linked, hbuilt.perm⟩ hall
  | cons index rest ih =>
    obtain ⟨fuel, rfl⟩ := exists_eq_add_one_of_ne_zero (ne_zero_of_lt hfuel)
    rw [map_cons, cons_append, head?_cons, setupAll, setupFilter]
    dsimp only
    split
    · have hnodes : nodes order = (.connect :: visited.map .filter) ++ .filter index ::
          (rest.map Node.filter ++ [.driver]) := by
        rw [nodes, horder]
        simp
      have hsplit : order = visited ++ [index] ++ rest := by
        rw [horder, append_assoc]
        rfl
      have hcalled : Built { c with setups := .filter index :: c.setups } order :=
        ⟨hbuilt.linked, hbuilt.perm⟩
      rw [hcalled.send_eq hnodes (by simp)]
      refine ih hcalled hsplit ?_ (lt_of_succ_lt_succ hfuel)
      rw [map_append, ← cons_append]
      exact (hsetups.cons _).trans (perm_append_singleton _ _).symm
    · exact ⟨false, _, rfl, nofun⟩

/-- A link whose driver was set, or not. -/
def prepared (hasDriver : Bool) : Chain :=
  if hasDriver then Chain.setDriver {} else {}

def begun : Chain :=
  { prepared true with setups := [.connect] }

theorem begun_built : Built begun [] where
  linked := linked_pair (by decide)
  perm := List.Perm.refl _

theorem setup_prepared (cfg : Config) (program : DriverSetup) : setup cfg program (prepared true) =
      if (begun.addFilters cfg (names cfg)).1 then
        (begun.addFilters cfg (names cfg)).2.setupAll cfg program
          ((begun.addFilters cfg (names cfg)).2.filters.length + 1)
          ((begun.addFilters cfg (names cfg)).2.send .connect)
      else some (false, (begun.addFilters cfg (names cfg)).2) :=
  rfl

/-- The three parts of `setup` together. -/
theorem setup_built (cfg : Config) (program : DriverSetup) {types : List Name}
    (htypes : (names cfg).map cfg.value = types) :
    ∃ ok c, setup cfg program (prepared true) = some (ok, c) ∧ (ok = true →
      Built c (assembled (List.range types.length) (wanted cfg program types)) ∧
      c.setups.Perm (nodes (assembled (List.range types.length) (wanted cfg program types))) ∧
      types <+: c.filters) := by
  rw [setup_prepared]
  obtain ⟨c, hfails⟩ | ⟨_, hadd, hbuilt⟩ := @addFilters_built cfg begun (names cfg) begun_built
  · rw [hfails]
    exact ⟨false, c, rfl, nofun⟩
  · have hcount : begun.filters.length + (names cfg).length = types.length := by
      rw [← htypes, length_map]
      exact zero_add _
    rw [htypes, hcount] at hbuilt
    have hnodes : nodes (range types.length) =
        [] ++ .connect :: ((range types.length).map Node.filter ++ [.driver]) := rfl
    have hcalls : begun.setups.Perm (.connect :: [].map .filter) := List.Perm.refl _
    have hfuel : (range types.length).length < (begun.filters ++ types).length + 1 := by
      rw [length_range]
      exact lt_succ_self _
    rw [hadd, if_pos rfl, htypes, hbuilt.send_eq hnodes (by simp)]
    exact setupAll_built program hbuilt (nil_append _).symm hcalls hfuel

/-- `setup` of a link ends.  If it succeeds, then the `send` pointers lead from the
`LinkConnect` through the filters that the driver has added at the front, the configured ones
in the order of the list, and those that it has added next to itself, to the driver; the `recv`
pointers are the inverse of the `send` pointers; and `setup` was called once on every
element. -/
theorem setup_builds_chain (cfg : Config) (program : DriverSetup) (hasDriver : Bool) :
    ∃ ok c, setup cfg program (prepared hasDriver) = some (ok, c) ∧ (ok = true →
      let types := ((cfg.filters.splitOn ',').filter (· ≠ [])).map cfg.value
      let elements := nodes (assembled (List.range types.length) (wanted cfg program types))
      types <+: c.filters ∧ elements.Nodup ∧
      elements.IsChain (fun node next => c.send node = some next) ∧ c.send .driver = none ∧
      (∀ node other, c.recv other = some node ↔ c.send node = some other) ∧
      c.setups.Perm elements) := by
  cases hasDriver with
  | false => exact ⟨false, _, rfl, nofun⟩
  | true =>
    rw [← parts_eq_splitOn]
    obtain ⟨ok, c, hsetup, hall⟩ := @setup_built cfg program _ rfl
    refine ⟨ok, c, hsetup, fun hok => ?_⟩
    obtain ⟨hbuilt, hsetups, hstart⟩ := hall hok
    have hlinked := hbuilt.linked
    exact ⟨hstart, hlinked.nodup, hlinked.isChain, hlinked.next_last,
      fun _ _ => hlinked.prev_eq_some_iff, hsetups⟩

/-- The `ipt` driver wants a queue at the front; the list has an empty name in it. -/
theorem setup_builds_chain_queue : ∃ cfg c,
    setup cfg (.assure "queue".toList true .done) (prepared true) = some (true, c) ∧
    (nodes [2, 0, 1]).IsChain (fun node next => c.send node = some next) ∧
    c.setups.Perm (nodes [2, 0, 1]) := by
  let cfg : Config :=
    { filters := "pace,,log".toList, value := id, known := fun _ => true,
      driverName := "ipt".toList, works := fun _ => true }
  obtain ⟨ok, c, hsetup, hall⟩ := setup_builds_chain cfg (.assure "queue".toList true .done) true
  have hok : (setup cfg (.assure "queue".toList true .done) (prepared true)).map Prod.fst =
      some true := by decide +kernel
  rw [hsetup, Option.map_some, Option.some.injEq] at hok
  obtain rfl : ok = true := hok
  have hnodes : nodes (assembled (range
      (((cfg.filters.splitOn ',').filter (· ≠ [])).map cfg.value).length)
        (wanted cfg (.assure "queue".toList true .done)
          (((cfg.filters.splitOn ',').filter (· ≠ [])).map cfg.value))) = nodes [2, 0, 1] := by
    decide +kernel
  obtain ⟨-, -, hchain, -, -, hsetups⟩ := hall rfl
  rw [hnodes] at hchain hsetups
  exact ⟨cfg, c, hsetup, hchain, hsetups⟩

end Knxd.FilterChain
