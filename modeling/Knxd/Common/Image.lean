import Knxd.Codec.LPDU

/-!
# Images

An image is a header with a size field and a list of streams.  The stream of a list parameter holds
a name and the announced number of elements, each with a zero byte behind it.  The parser looks for
the zero bytes; it checks where it is only behind them.
-/

namespace Knxd.Image

open Memory LPDU List Nat

structure ListParameter where
  addr : Addr
  name : CArray
  elements : List CArray
  deriving DecidableEq, Repr

/-- `while (*d) d++`: the bytes from `d` up to the zero byte, and those behind it. -/
def scan : CArray → Run (CArray × CArray)
  | [] => .error .outOfBounds
  | byte :: rest =>
    if byte = 0 then pure ([], rest)
    else do
      let (text, behind) ← scan rest
      pure (byte :: text, behind)

/-- The loop over the elements; no test keeps `d` from the end of the array. -/
def initElements : ℕ → CArray → Run (List CArray × CArray)
  | 0, d => pure ([], d)
  | el + 1, d => do
    let (element, d) ← scan d
    let (elements, d) ← initElements el d
    pure (element :: elements, d)

/-- `init` from `d = &c[8]` on. -/
def initStrings (addr : Addr) (el : ℕ) (d : CArray) : Run (Option ListParameter) := do
  let named ← scan d
  if named.2 = [] then pure none
  else
    let split ← initElements el named.2
    pure (if split.2 = [] then some ⟨addr, named.1, split.1⟩ else none)

/-- `STR_ListParameter::init`; `none` is the answer `false`. -/
def init (c : CArray) : Run (Option ListParameter) :=
  if c.length < 9 then pure none
  else do
    let addrHigh ← readAt c 4
    let addrLow ← readAt c 5
    let elHigh ← readAt c 6
    let elLow ← readAt c 7
    let last ← readAt c (c.length - 1)
    if last ≠ 0 then pure none
    else initStrings (joinBytes addrHigh addrLow) (joinBytes elHigh elLow).toNat (c.drop 8)

/-- `CArray::setpart`. -/
def setpart (d part : CArray) (start : ℕ) : CArray :=
  let d := d ++ List.replicate (part.length + start - d.length) 0
  d.take start ++ part ++ d.drop (start + part.length)

def terminated (text : CArray) : CArray :=
  text ++ [0]

/-- `L_LIST_PAR`. -/
def listPar : Addr := 503

/-- One pass of the loop of `toArray`; the place has sixteen bits. -/
def putElement (state : CArray × ℕ) (element : CArray) : CArray × ℕ :=
  (setpart state.1 (terminated element) state.2, (state.2 + element.length + 1) % 2 ^ 16)

def wordBytes (word : Addr) : CArray :=
  [highByte word, lowByte word]

/-- The beginning of the `toArray` of a stream: an array of `2 + len` bytes that starts with the
length, the type and the fields. -/
def packed (len : ℕ) (type : Addr) (fields : CArray) : Run CArray :=
  if 2 + len < 4 + fields.length then .error .outOfBounds
  else pure (wordBytes (BitVec.ofNat 16 len) ++ wordBytes type ++ fields ++
    List.replicate (2 + len - (4 + fields.length)) 0)

/-- `STR_ListParameter::toArray`. -/
def ListParameter.toArray (p : ListParameter) : Run CArray := do
  let d ← packed ((7 + p.name.length + (p.elements.map (·.length + 1)).sum) % 2 ^ 16) listPar
    (wordBytes p.addr ++ wordBytes (BitVec.ofNat 16 p.elements.length))
  pure (p.elements.foldl putElement
    (setpart d (terminated p.name) 8, (8 + p.name.length + 1) % 2 ^ 16)).1

/-- A stream that `fromArray` passes to the parser. -/
def IsListStream (c : CArray) : Prop :=
  (joinBytes (byteAt c 0) (byteAt c 1)).toNat + 2 = c.length ∧
    joinBytes (byteAt c 2) (byteAt c 3) = listPar

def announced (c : CArray) : ℕ :=
  (joinBytes (byteAt c 6) (byteAt c 7)).toNat

/-- There are fewer terminated elements behind the name than announced. -/
def RunsOut (c : CArray) : Prop :=
  9 ≤ c.length ∧ byteAt c (c.length - 1) = 0 ∧ ∃ name rest, c.drop 8 = terminated name ++ rest ∧
    0 ∉ name ∧ rest ≠ [] ∧ rest.count 0 < announced c

/-- The last element is empty, and its place does not fit into sixteen bits. -/
def Wraps (c : CArray) (p : ListParameter) : Prop :=
  c.length = 2 ^ 16 + 1 ∧ p.elements.getLast? = some []

section Scan

variable {d text rest : CArray} {el : ℕ} {elements : List CArray}

theorem scan_terminated (htext : 0 ∉ text) : scan (terminated text ++ rest) = .ok (text, rest) := by
  induction text with
  | nil => rfl
  | cons byte text ih =>
    obtain ⟨hne, hnot⟩ := ne_and_not_mem_of_not_mem_cons htext
    change scan (byte :: (terminated text ++ rest)) = _
    rw [scan, if_neg (Ne.symm hne), ih hnot]
    rfl

theorem scan_of_not_mem (hnot : 0 ∉ d) : scan d = .error .outOfBounds := by
  induction d with
  | nil => rfl
  | cons _ _ ih =>
    obtain ⟨hne, hnot⟩ := ne_and_not_mem_of_not_mem_cons hnot
    rw [scan, if_neg (Ne.symm hne), ih hnot]
    rfl

theorem exists_terminated (hmem : 0 ∈ d) : ∃ text rest, d = terminated text ++ rest ∧ 0 ∉ text := by
  obtain ⟨text, rest, rfl, hnot⟩ := eq_append_cons_of_mem hmem
  exact ⟨text, rest, by rw [terminated, append_assoc, singleton_append], hnot⟩

/-- The loop splits the bytes, and the number of zero bytes decides whether it stays inside. -/
theorem initElements_spec (el : ℕ) (d : CArray) : (Returns (initElements el d) ↔ el ≤ d.count 0) ∧
      ∀ elements rest, initElements el d = .ok (elements, rest) →
        elements.length = el ∧ d = elements.flatMap terminated ++ rest := by
  induction el generalizing d with
  | zero =>
    refine ⟨iff_of_true (returns_ok _) (zero_le _), fun elements rest hinit => ?_⟩
    cases hinit
    exact ⟨rfl, rfl⟩
  | succ el ih =>
    unfold initElements
    by_cases hmem : 0 ∈ d
    · obtain ⟨text, behind, rfl, hnot⟩ := exists_terminated hmem
      obtain ⟨hreturns, hsplits⟩ := ih behind
      have hcount : (terminated text ++ behind).count 0 = behind.count 0 + 1 := by
        rw [terminated, count_append, count_append, count_eq_zero.2 hnot]
        simp [add_comm]
      rw [scan_terminated hnot, ok_bind, hcount, add_le_add_iff_right, ← hreturns]
      constructor
      · cases hrest : initElements el behind <;> simp [hrest]
      · intro elements rest hinit
        obtain ⟨⟨_, _⟩, hmore, hinit⟩ := bind_eq_ok_iff.1 hinit
        cases hinit
        obtain ⟨hlength, hbehind⟩ := hsplits _ _ hmore
        rw [length_cons, hlength, flatMap_cons, append_assoc, ← hbehind]
        exact ⟨rfl, rfl⟩
    · rw [scan_of_not_mem hmem, count_eq_zero.2 hmem]
      exact ⟨iff_of_false (not_returns_error _) (not_succ_le_zero el), nofun⟩

end Scan

section Arrays

variable {c front part : CArray} {elements : List CArray}

theorem setpart_end {size : ℕ} (hpart : part.length ≤ size) :
    setpart (front ++ replicate size 0) part front.length =
      (front ++ part) ++ replicate (size - part.length) 0 := by
  have hroom : part.length + front.length - (front ++ replicate size (0 : Byte)).length = 0 := by
    rw [length_append, length_replicate]
    omega
  rw [setpart, hroom]
  simp [drop_append]

theorem length_terminated (text : CArray) : (terminated text).length = text.length + 1 :=
  length_append

/-- The loop writes the elements one behind the other, as long as their places fit. -/
theorem foldl_putElement (extra : ℕ)
    (hfits : front.length + (elements.flatMap terminated).length ≤ 2 ^ 16) :
    elements.foldl putElement (front ++ replicate ((elements.flatMap terminated).length + extra) 0,
      front.length % 2 ^ 16) = (front ++ elements.flatMap terminated ++ replicate extra 0,
        (front.length + (elements.flatMap terminated).length) % 2 ^ 16) := by
  induction elements generalizing front with
  | nil => simp
  | cons element _ ih =>
    have hlength := length_terminated element
    have hplace : front.length + element.length + 1 = (front ++ terminated element).length := by
      rw [length_append, hlength, add_assoc]
    rw [flatMap_cons, length_append] at hfits ⊢
    have hnext := @ih (front ++ terminated element) (by rw [length_append]; omega)
    rw [foldl_cons, mod_eq_of_lt (by omega), putElement, setpart_end (by omega), hplace,
      add_assoc, Nat.add_sub_cancel_left, hnext, length_append, append_assoc front, add_assoc]

theorem bytes_joinBytes (high low : Byte) :
    highByte (joinBytes high low) = high ∧ lowByte (joinBytes high low) = low := by
  have hones : ∀ index (hindex : index < 8), (255#8)[index] = true := by decide
  constructor <;> ext index hindex
  · simp [highByte, joinBytes, hones, show 8 + index < 16 by omega, hindex]
  · simp [lowByte, joinBytes, hones]

section

variable (hstream : IsListStream c)
include hstream

/-- The first eight bytes of a stream and what they say. -/
theorem take_eight (hlength : 8 ≤ c.length) : c.take 8 =
    wordBytes (BitVec.ofNat 16 (c.length - 2)) ++ wordBytes listPar ++
      (wordBytes (joinBytes (byteAt c 4) (byteAt c 5)) ++
        wordBytes (BitVec.ofNat 16 (announced c))) := by
  obtain ⟨hsize, htype⟩ := hstream
  rw [← hsize, Nat.add_sub_cancel, BitVec.ofNat_toNat, ← htype, announced, BitVec.ofNat_toNat]
  simp only [BitVec.setWidth_eq, wordBytes, bytes_joinBytes]
  rcases c with _ | ⟨c0, _ | ⟨c1, _ | ⟨c2, _ | ⟨c3, _ | ⟨c4, _ | ⟨c5, _ | ⟨c6, _ | ⟨c7, c⟩⟩⟩⟩⟩⟩⟩⟩
  all_goals first
    | rfl
    | simp at hlength

theorem packed_take_eight (hlength : 8 ≤ c.length) :
    packed (c.length - 2) listPar (wordBytes (joinBytes (byteAt c 4) (byteAt c 5)) ++
      wordBytes (BitVec.ofNat 16 (announced c))) =
        .ok (c.take 8 ++ replicate (c.length - 8) 0) := by
  have hfields : ∀ first second, (wordBytes first ++ wordBytes second).length = 4 := fun _ _ => rfl
  rw [packed, hfields, if_neg (by omega), ← take_eight hstream hlength,
    show 2 + (c.length - 2) - (4 + 4) = c.length - 8 by omega]
  rfl

/-- The array of a stream before its last element is written. -/
theorem toArray_concat {name last : CArray} {front : List CArray}
    (hlength : 8 ≤ c.length) (hcount : (front ++ [last]).length = announced c)
    (hdata : c.drop 8 = terminated name ++ front.flatMap terminated ++ terminated last) :
    ∃ base, c = base ++ terminated last ∧
      (ListParameter.mk (joinBytes (byteAt c 4) (byteAt c 5)) name (front ++ [last])).toArray =
        .ok (setpart (base ++ replicate (last.length + 1) 0) (terminated last)
          (base.length % 2 ^ 16)) := by
  have hmax := (joinBytes (byteAt c 0) (byteAt c 1)).isLt
  have hwhole := hstream.1
  have hsize := congrArg length hdata
  rw [length_drop, length_append, length_append, length_terminated, length_terminated] at hsize
  have hhead : (c.take 8).length = 8 := length_take_of_le hlength
  have hnamed : (c.take 8 ++ terminated name).length = 8 + name.length + 1 := by
    rw [length_append, hhead, length_terminated, add_assoc]
  have hlen : (7 + name.length + ((front ++ [last]).map (·.length + 1)).sum) % 2 ^ 16 =
      c.length - 2 := by
    have hsum : ((front ++ [last]).map (·.length + 1)).sum =
        (front.flatMap terminated).length + (last.length + 1) := by
      simp [length_flatMap, terminated]
    rw [hsum, mod_eq_of_lt] <;> omega
  have hput := @setpart_end (c.take 8) (terminated name) (c.length - 8)
    (by rw [length_terminated]; omega)
  have hfront := @foldl_putElement (c.take 8 ++ terminated name) front (last.length + 1)
    (by omega)
  have hroom : c.length - 8 - (terminated name).length =
      (front.flatMap terminated).length + (last.length + 1) := by
    rw [length_terminated]
    omega
  refine ⟨c.take 8 ++ terminated name ++ front.flatMap terminated, ?_, ?_⟩
  · rw [append_assoc, append_assoc, ← append_assoc (terminated name), ← hdata, take_append_drop]
  · rw [hhead, hroom] at hput
    rw [← length_append, hnamed] at hfront
    rw [ListParameter.toArray, hlen, hcount, packed_take_eight hstream hlength, ok_bind, hput,
      foldl_append, hfront]
    rfl

/-- Only the place of the last element can be too large, and then the first byte of the array is
overwritten. -/
theorem toArray_eq_iff {name : CArray} (hlength : 8 ≤ c.length)
    (hcount : elements.length = announced c) (hsome : elements ≠ [])
    (hdata : c.drop 8 = terminated name ++ elements.flatMap terminated) :
    let p : ListParameter := ⟨joinBytes (byteAt c 4) (byteAt c 5), name, elements⟩
    p.toArray = .ok c ↔ ¬ Wraps c p := by
  intro p
  obtain rfl | ⟨front, last, rfl⟩ := eq_nil_or_concat' elements
  · exact absurd rfl hsome
  have hwraps : Wraps c p ↔ c.length = 2 ^ 16 + 1 ∧ last = [] := by
    simp [Wraps, p]
  rw [flatMap_append, ← append_assoc, flatMap_singleton] at hdata
  obtain ⟨base, hbase, harray⟩ := toArray_concat hstream hlength hcount hdata
  have hmax := (joinBytes (byteAt c 0) (byteAt c 1)).isLt
  have hsize := congrArg length hbase
  rw [← hstream.1, length_append, length_terminated] at hsize
  rw [hwraps, harray, ← hstream.1]
  by_cases hplace : base.length < 2 ^ 16
  · rw [mod_eq_of_lt hplace, setpart_end (length_terminated last).le, length_terminated,
      Nat.sub_self, replicate_zero, append_nil, ← hbase]
    refine iff_of_true rfl fun hwrapped => ?_
    rw [hwrapped.2, length_nil] at hsize
    omega
  · have hlast : last = [] := length_eq_zero_iff.1 (by omega)
    refine iff_of_false (fun hsame => ?_) (not_not.2 ⟨by omega, hlast⟩)
    rw [show base.length = 2 ^ 16 by omega, hlast] at hsame
    have hfirst : byteAt c 0 = 0 := by
      rw [← Except.ok.inj hsame]
      simp [byteAt, setpart, terminated]
    have hjoin : ∀ low, (joinBytes 0 low).toNat < 256 := by decide
    have := hjoin (byteAt c 1)
    rw [← hfirst] at this
    omega

end

theorem init_of_le (hlength : 9 ≤ c.length) : init c =
    if byteAt c (c.length - 1) ≠ 0 then .ok none
    else initStrings (joinBytes (byteAt c 4) (byteAt c 5)) (announced c) (c.drop 8) := by
  rw [init, if_neg (by omega), readAt_of_lt (by omega), ok_bind, readAt_of_lt (by omega), ok_bind,
    readAt_of_lt (by omega), ok_bind, readAt_of_lt (by omega), ok_bind, readAt_of_lt (by omega),
    ok_bind]
  rfl

theorem mem_of_last (hlength : 9 ≤ c.length) (hlast : byteAt c (c.length - 1) = 0) :
    0 ∈ c.drop 8 := by
  refine mem_iff_getElem?.2 ⟨c.length - 9, ?_⟩
  rw [getElem?_drop, show 8 + (c.length - 9) = c.length - 1 by omega, ← hlast]
  simp [byteAt, show c.length - 1 < c.length by omega]

theorem runsOut_iff {name rest : CArray} (hlength : 9 ≤ c.length)
    (hlast : byteAt c (c.length - 1) = 0) (hdata : c.drop 8 = terminated name ++ rest)
    (hname : 0 ∉ name) : RunsOut c ↔ rest ≠ [] ∧ rest.count 0 < announced c := by
  refine ⟨?_, fun hruns => ⟨hlength, hlast, name, rest, hdata, hname, hruns⟩⟩
  rintro ⟨-, -, _, _, hother, hnot, hruns⟩
  have hsame := @scan_terminated name rest hname
  rw [← hdata, hother, scan_terminated hnot] at hsame
  cases hsame
  exact hruns

end Arrays

/-- Every read is inside the array exactly if the announced elements are there; a parameter that is
accepted has them, and all bytes are theirs.  A stream is reproduced unless the place of its last
element wraps around. -/
theorem list_parameter_safe_iff (c : CArray) : (Returns (init c) ↔ ¬ RunsOut c) ∧
    ∀ p, init c = .ok (some p) → p.elements.length = announced c ∧
      c.drop 8 = terminated p.name ++ p.elements.flatMap terminated ∧
      (IsListStream c → (p.toArray = .ok c ↔ ¬ Wraps c p)) := by
  by_cases hlength : 9 ≤ c.length
  · by_cases hlast : byteAt c (c.length - 1) = 0
    · obtain ⟨_, rest, hdata, hname⟩ := exists_terminated (mem_of_last hlength hlast)
      obtain ⟨hreturns, hsplits⟩ := initElements_spec (announced c) rest
      rw [init_of_le hlength, if_neg (not_not.2 hlast), runsOut_iff hlength hlast hdata hname,
        hdata, initStrings, scan_terminated hname, ok_bind]
      by_cases hrest : rest = []
      · simp [hrest]
      rw [if_neg hrest]
      constructor
      · rw [not_and, not_lt, ← hreturns]
        cases initElements (announced c) rest <;> simp [hrest]
      · intro p hp
        obtain ⟨⟨elements, d⟩, helements, hp⟩ := bind_eq_ok_iff.1 hp
        by_cases hd : d = []
        · cases hd
          cases hp
          obtain ⟨hcount, rfl⟩ := hsplits _ _ helements
          rw [append_nil] at hdata hrest ⊢
          have hsome : elements ≠ [] := fun hnil => hrest (by rw [hnil]; rfl)
          exact ⟨hcount, rfl, fun hstream =>
            toArray_eq_iff hstream (by omega) hcount hsome hdata⟩
        · simp [hd] at hp
    · rw [init_of_le hlength, if_pos hlast]
      exact ⟨iff_of_true (returns_ok _) fun hruns => hlast hruns.2.1, nofun⟩
  · have hrejected : init c = .ok none := if_pos (not_le.1 hlength)
    rw [hrejected]
    exact ⟨iff_of_true (returns_ok _) fun hruns => hlength hruns.1, nofun⟩

/-- Two elements are announced and one is there. -/
theorem list_parameter_read_outside : IsListStream [0, 8, 1, 0xF7, 0, 0, 0, 2, 0, 0] ∧
    init [0, 8, 1, 0xF7, 0, 0, 0, 2, 0, 0] = .error .outOfBounds := by
  unfold IsListStream
  decide

/-! ## The streams -/

def keyBytes (key : BitVec 32) : CArray :=
  wordBytes (key.extractLsb' 16 16) ++ wordBytes (key.setWidth 16)

/-- What `STR_Stream::fromArray` makes of a stream.  The words of `STR_BCU2Start` are in the order
of their declaration, and `STR_Invalid` holds the stream itself. -/
inductive Stream
  | invalid (data : { data : CArray // data ≠ [] })
  | unknown (type : Addr) (data : CArray)
  | bcuType (bcutype : Addr)
  | code (code : CArray)
  | stringParameter (addr length : Addr) (name : CArray)
  | intParameter (addr : Addr) (type : Byte) (name : CArray)
  | floatParameter (addr : Addr) (name : CArray)
  | listParameter (p : ListParameter)
  | groupObject (no : Byte) (name : CArray)
  | bcu1Size (textsize stacksize datasize bsssize : Addr)
  | bcu2Size (textsize stacksize loDatasize loBsssize hiDatasize hiBsssize : Addr)
  | bcu2Start (words : Fin 21 → Addr) (pollSlot : Byte)
  | bcu2Key (installkey : BitVec 32) (keys : List (BitVec 32))

/-- The `toArray` of a stream of fields with at most one text or array behind them. -/
def plainBytes (type : Addr) (fields text : CArray) : Run CArray := do
  let d ← packed ((2 + fields.length + text.length) % 2 ^ 16) type fields
  pure (setpart d text (4 + fields.length))

/-- `toArray` of the classes. -/
def Stream.toArray : Stream → Run CArray
  | invalid data => pure data.1
  | unknown type data => plainBytes type [] data
  | bcuType bcutype => plainBytes 100 (wordBytes bcutype) []
  | code bytes => plainBytes 1 [] bytes
  | stringParameter addr length name =>
    plainBytes 500 (wordBytes addr ++ wordBytes length) (terminated name)
  | intParameter addr type name => plainBytes 501 (wordBytes addr ++ [type]) (terminated name)
  | floatParameter addr name => plainBytes 502 (wordBytes addr) (terminated name)
  | listParameter p => p.toArray
  | groupObject no name => plainBytes 504 [no] (terminated name)
  | bcu1Size textsize stacksize datasize bsssize =>
    plainBytes 2 ([textsize, stacksize, datasize, bsssize].flatMap wordBytes) []
  | bcu2Size textsize stacksize loDatasize loBsssize hiDatasize hiBsssize =>
    plainBytes 3 ([textsize, stacksize, loDatasize, loBsssize, hiDatasize, hiBsssize].flatMap
      wordBytes) []
  | bcu2Start words pollSlot =>
    plainBytes 101 ((List.ofFn words).flatMap wordBytes ++ [pollSlot]) []
  | bcu2Key installkey keys => plainBytes 102 ((installkey :: keys).flatMap keyBytes) []

section Streams

variable {len start : ℕ} {type : Addr} {fields text d part : CArray}

theorem setpart_ne_nil (hd : d ≠ []) : setpart d part start ≠ [] := by
  have hlength := length_pos_iff.2 hd
  apply ne_nil_of_length_pos
  simp only [setpart, length_append, length_take, length_drop, length_replicate]
  omega

theorem packed_ne_nil (hpacked : packed len type fields = .ok d) : d ≠ [] := by
  unfold packed at hpacked
  split at hpacked
  · cases hpacked
  · cases hpacked
    simp [wordBytes]

theorem plainBytes_ne_nil : plainBytes type fields text ≠ .ok [] := by
  intro hbytes
  obtain ⟨d, hpacked, hput⟩ := bind_eq_ok_iff.1 hbytes
  exact setpart_ne_nil (packed_ne_nil hpacked) (Except.ok.inj hput)

/-- No stream is empty. -/
theorem Stream.toArray_ne_nil (s : Stream) : s.toArray ≠ .ok [] := by
  cases s with
  | invalid data => exact fun hbytes => data.2 (Except.ok.inj hbytes)
  | listParameter p =>
    intro hbytes
    obtain ⟨d, hpacked, hput⟩ := bind_eq_ok_iff.1 hbytes
    exact foldlRecOn (motive := fun state : CArray × ℕ => state.1 ≠ []) p.elements putElement
      (setpart_ne_nil (packed_ne_nil hpacked)) (fun _ hstate _ _ => setpart_ne_nil hstate)
      (Except.ok.inj hput)
  | _ => exact plainBytes_ne_nil

end Streams

/-! ## The container -/

section Container

variable {σ : Type} (streamBytes : σ → Run CArray) (readStream : CArray → Run σ)

def magic : CArray :=
  [0xBC, 0x68, 0x0C, 0x05, 0xBC, 0x68, 0x0C, 0x05]

def sizeBytes (size : ℕ) : CArray :=
  [BitVec.ofNat 8 (size / 256), BitVec.ofNat 8 size]

/-- One pass of the loop of `Image::toArray`. -/
def putStream (data : CArray) (s : σ) : Run CArray := do
  let part ← streamBytes s
  pure (setpart data part data.length)

/-- `Image::toArray`: the size is that of the array without any streams. -/
def toArray (str : List σ) : Run CArray :=
  str.foldlM (putStream streamBytes) (magic ++ sizeBytes 10)

/-- The loop of `Image::fromArray`, from `pos` on. -/
def readStreams (c : CArray) : Run (Option (List σ)) :=
  if c = [] then pure (some [])
  else if c.length ≤ 4 then pure none
  else
    let len := (joinBytes (byteAt c 0) (byteAt c 1)).toNat
    if c.length < 2 + len ∨ len < 2 then pure none
    else do
      let s ← readStream (c.take (len + 2))
      let str ← readStreams (c.drop (len + 2))
      pure (str.map (s :: ·))
termination_by c.length
decreasing_by
  rw [List.length_drop]
  omega

/-- `Image::fromArray`; `none` is the null pointer. -/
def fromArray (c : CArray) : Run (Option (List σ)) :=
  if c.length < 10 ∨ c.take 10 ≠ magic ++ sizeBytes c.length then pure none
  else readStreams readStream (c.drop 10)

variable {streamBytes} {str : List σ} {data : CArray}

theorem sizeBytes_inj {size other : ℕ} (hsize : size < 65536) (hother : other < 65536)
    (hbytes : sizeBytes size = sizeBytes other) : size = other := by
  simp only [sizeBytes, cons.injEq, ← BitVec.toNat_inj, BitVec.toNat_ofNat] at hbytes
  omega

theorem setpart_length (part : CArray) : setpart data part data.length = data ++ part := by
  simp [setpart]

/-- The streams are appended, and each of them has a byte. -/
theorem foldlM_putStream (hbytes : ∀ s, streamBytes s ≠ .ok []) {front : CArray}
    (hdata : str.foldlM (putStream streamBytes) front = .ok data) :
    front <+: data ∧ (str ≠ [] → front.length < data.length) := by
  induction str generalizing front with
  | nil =>
    cases hdata
    exact ⟨prefix_rfl, fun hne => absurd rfl hne⟩
  | cons s _ ih =>
    obtain ⟨_, hnext, hrest⟩ := bind_eq_ok_iff.1 hdata
    obtain ⟨part, hpart, hput⟩ := bind_eq_ok_iff.1 hnext
    cases hput
    rw [setpart_length] at hrest
    obtain ⟨hfront, -⟩ := ih hrest
    have hsome : part ≠ [] := fun hnil => hbytes s (hnil ▸ hpart)
    refine ⟨(prefix_append front part).trans hfront, fun _ => ?_⟩
    have hlength := hfront.length_le
    rw [length_append] at hlength
    have := length_pos_iff.2 hsome
    omega

/-- An image is read back only if it has no streams. -/
theorem image_roundTrips_iff (hbytes : ∀ s, streamBytes s ≠ .ok [])
    (hdata : toArray streamBytes str = .ok data) (hsize : data.length < 65536) :
    (fromArray readStream data = .ok (some str) ↔ str = []) ∧
      (str ≠ [] → fromArray readStream data = .ok none) := by
  have hrejected : str ≠ [] → fromArray readStream data = .ok none := by
    intro hne
    obtain ⟨hfront, hlonger⟩ := foldlM_putStream hbytes hdata
    refine if_pos (.inr fun hsame => ?_)
    have htake : data.take 10 = magic ++ sizeBytes 10 := (prefix_iff_eq_take.1 hfront).symm
    have heq := append_cancel_left (htake.symm.trans hsame)
    have hten := sizeBytes_inj (by norm_num) hsize heq
    exact absurd (hlonger hne) (hten ▸ lt_irrefl 10)
  refine ⟨⟨fun hread => ?_, ?_⟩, hrejected⟩
  · by_contra hne
    cases (hrejected hne).symm.trans hread
  · rintro rfl
    cases hdata
    rw [fromArray, if_neg (by decide), readStreams]
    rfl

/-- At no stream, and at one. -/
theorem image_roundTrips_iff_none :
    fromArray (fun c => pure (.code c)) (magic ++ sizeBytes 10) = .ok (some ([] : List Stream)) ∧
      fromArray (fun c => pure (Stream.code c)) (magic ++ [0, 10, 0, 4, 0, 100, 0, 0x12]) =
        .ok none :=
  ⟨(@image_roundTrips_iff Stream Stream.toArray _ [] _ Stream.toArray_ne_nil rfl
    (by decide)).1.2 rfl,
  (@image_roundTrips_iff Stream Stream.toArray _ [.bcuType 0x12] _ Stream.toArray_ne_nil rfl
    (by decide)).2 (cons_ne_nil _ _)⟩

/-- With one stream the size field says ten. -/
theorem image_bcuType_rejected : ∃ data, toArray Stream.toArray [.bcuType 0x12] = .ok data ∧
    data = magic ++ [0, 10, 0, 4, 0, 100, 0, 0x12] ∧
    ∀ readStream : CArray → Run Stream, fromArray readStream data = .ok none :=
  ⟨_, rfl, rfl, fun _ => if_pos (by decide)⟩

end Container

end Knxd.Image
