import Mathlib

/-!
# Byte arrays and programs that can fault

The daemon is written in C++, where an index outside an array, a failing
`assert` and an explicit `abort()` all end the process.  A function that can
do one of these is modelled as a computation in `Run`, whose error names the
fault.  Reading a byte goes through `readAt`, so that "all reads are inside the
array" is the statement that the computation does not fault.
-/

namespace Knxd.Memory

open List

abbrev Byte := BitVec 8

/-- The three ways a modelled function can end the process. -/
inductive Fault
  | outOfBounds
  | assertion
  | abort
  deriving DecidableEq, Repr

abbrev Run (α : Type) := Except Fault α

/-- The growable byte array of the source, as its list of elements. -/
abbrev CArray := List Byte

/-- An `assert` of the source. -/
def require (condition : Prop) [Decidable condition] : Run Unit :=
  if condition then .ok () else .error .assertion

/-- `bytes[index]`, checked. -/
def readAt (bytes : CArray) (index : ℕ) : Run Byte :=
  match bytes[index]? with
  | some byte => .ok byte
  | none => .error .outOfBounds

def byteAt (bytes : CArray) (index : ℕ) : Byte :=
  bytes.getD index 0

/-- Copying `count` elements from the address of `bytes[start]`, checked. -/
def readPart (bytes : CArray) (start count : ℕ) : Run CArray :=
  if start + count ≤ bytes.length then .ok ((bytes.drop start).take count)
  else .error .outOfBounds

abbrev Block (size : ℕ) := { bytes : CArray // bytes.length = size }

/-- `memcpy` into an array of fixed size from the address of `bytes[start]`, checked. -/
def readBlock (bytes : CArray) (start size : ℕ) : Run (Block size) :=
  if hpart : start + size ≤ bytes.length then
    .ok ⟨(bytes.drop start).take size, by simp only [List.length_take, List.length_drop]; omega⟩
  else .error .outOfBounds

def Returns {α : Type} (program : Run α) : Prop :=
  ∃ value, program = .ok value

variable {α β : Type}

@[simp]
theorem returns_ok (value : α) : Returns (.ok value : Run α) := ⟨value, rfl⟩

@[simp]
theorem not_returns_error (fault : Fault) : ¬ Returns (.error fault : Run α) := by
  rintro ⟨_, hvalue⟩
  cases hvalue

@[simp]
theorem ok_bind (value : α) (next : α → Run β) : ((.ok value : Run α) >>= next) = next value := rfl

@[simp]
theorem error_bind (fault : Fault) (next : α → Run β) :
    ((.error fault : Run α) >>= next) = .error fault := rfl

@[simp]
theorem pure_eq_ok (value : α) : (pure value : Run α) = .ok value := rfl

/-- A sequence returns when its first part returns and the rest does on its
value. -/
theorem bind_eq_ok_iff {program : Run α} {next : α → Run β} {result : β} :
    (program >>= next) = .ok result ↔ ∃ value, program = .ok value ∧ next value = .ok result := by
  cases program with
  | ok | error => simp

theorem toOption_eq_some_iff {program : Run α} {value : α} :
    program.toOption = some value ↔ program = .ok value := by
  cases program <;> simp [Except.toOption]

section Require

variable {condition : Prop} [Decidable condition]

theorem require_of (hcondition : condition) : require condition = .ok () := by
  simp [require, hcondition]

theorem of_require {done : Unit} (hrequire : require condition = .ok done) : condition := by
  by_contra hcondition
  simp [require, hcondition] at hrequire

theorem require_of_not (hcondition : ¬ condition) : require condition = .error .assertion := by
  simp [require, hcondition]

@[simp]
theorem returns_require_bind_iff {α : Type} (next : Unit → Run α) :
    Returns (require condition >>= next) ↔ condition ∧ Returns (next ()) := by
  by_cases hcondition : condition
  · rw [require_of hcondition, ok_bind]
    simp [hcondition]
  · rw [require_of_not hcondition, error_bind]
    simp [hcondition]

end Require

section Read

variable {bytes : CArray} {index start count : ℕ}

/-- A read inside the array returns the byte there; this is the form in which
the decoders are stepped through. -/
theorem readAt_of_lt (hindex : index < bytes.length) :
    readAt bytes index = .ok (byteAt bytes index) := by
  simp [readAt, byteAt, hindex]

@[simp]
theorem readAt_cons_zero (byte : Byte) (rest : CArray) : readAt (byte :: rest) 0 = .ok byte := rfl

@[simp]
theorem readAt_cons_succ (byte : Byte) (rest : CArray) (index : ℕ) :
    readAt (byte :: rest) (index + 1) = readAt rest index := rfl

theorem readPart_of_le (hpart : start + count ≤ bytes.length) :
    readPart bytes start count = .ok ((bytes.drop start).take count) := by
  simp [readPart, hpart]

@[simp]
theorem readPart_cons_succ (byte : Byte) (rest : CArray) (start count : ℕ) :
    readPart (byte :: rest) (start + 1) count = readPart rest start count := by
  by_cases hpart : start + count ≤ rest.length
  · rw [readPart_of_le hpart, readPart_of_le (by simp; omega)]
    simp
  · simp [readPart, hpart, show ¬ start + 1 + count ≤ rest.length + 1 by omega]

/-- Reading a whole leading block back out of an array. -/
theorem readPart_append_left (block rest : CArray) :
    readPart (block ++ rest) 0 block.length = .ok block := by
  rw [readPart_of_le (by simp)]
  simp

/-- A part between a head and a rest. -/
theorem readPart_middle (head data rest : CArray) :
    readPart (head ++ data ++ rest) head.length data.length = .ok data := by
  simp [readPart]

/-- What follows a head is read to the end of the array. -/
theorem readPart_tail (head data : CArray) :
    readPart (head ++ data) head.length ((head ++ data).length - head.length) = .ok data := by
  simp [readPart]

/-- Reading a fixed part behind a head of known length. -/
theorem readBlock_append {size : ℕ} (head : CArray) (block : Block size) (rest : CArray) :
    readBlock (head ++ (block.1 ++ rest)) head.length size = .ok block := by
  obtain ⟨_, rfl⟩ := block
  rw [readBlock, dif_pos (by simp)]
  simp

theorem readBlock_first {size : ℕ} (block : Block size) (rest : CArray) :
    readBlock (block.1 ++ rest) 0 size = .ok block :=
  readBlock_append [] block rest

theorem lt_of_readAt {byte : Byte} (hbyte : readAt bytes index = .ok byte) :
    index < bytes.length := by
  by_contra hindex
  rw [readAt, getElem?_eq_none (not_lt.1 hindex)] at hbyte
  cases hbyte

end Read

section Joined

variable {bytes : CArray} {index start count : ℕ} (more : CArray)

theorem byteAt_append_left (hindex : index < bytes.length) :
    byteAt (bytes ++ more) index = byteAt bytes index := by
  simp [byteAt, getElem?_append_left hindex]

theorem readAt_append_left (hindex : index < bytes.length) :
    readAt (bytes ++ more) index = readAt bytes index := by
  simp [readAt, getElem?_append_left hindex]

theorem readPart_append_of_le (hpart : start + count ≤ bytes.length) :
    readPart (bytes ++ more) start count = readPart bytes start count := by
  rw [readPart_of_le (by rw [length_append]; omega), readPart_of_le hpart,
    drop_append_of_le_length (by omega),
    take_append_of_le_length (by rw [length_drop]; omega)]

theorem readAt_append_right (head : CArray) (index : ℕ) :
    readAt (head ++ more) (head.length + index) = readAt more index := by
  rw [readAt, readAt, getElem?_append_right (Nat.le_add_right _ _), Nat.add_sub_cancel_left]

theorem readBlock_append_right (head : CArray) (start size : ℕ) :
    readBlock (head ++ more) (head.length + start) size = readBlock more start size := by
  simp [readBlock, Nat.add_assoc]

/-- Reading behind a part of fixed size. -/
theorem readAt_skip (block : Block count) (index : ℕ) :
    readAt (block.1 ++ more) (count + index) = readAt more index := by
  have hskip := readAt_append_right more block.1 index
  rwa [block.2] at hskip

theorem readBlock_skip (block : Block count) (start size : ℕ) :
    readBlock (block.1 ++ more) (count + start) size = readBlock more start size := by
  have hskip := readBlock_append_right more block.1 start size
  rwa [block.2] at hskip

end Joined

/-- The checksum loops of the source: fold all bytes with exclusive or. -/
def xorAll (bytes : CArray) : Byte :=
  bytes.foldl (· ^^^ ·) 0

end Knxd.Memory
