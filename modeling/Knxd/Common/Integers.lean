import Knxd.Common.IniFile
import Knxd.LowLevel.USBConverter

/-!
# Integers in the configuration file

An integer is read by `std::stoi` with base 0, which throws an exception when the text does not
start with a number or when the number is no `int`.  Nothing catches it, so the default value is
returned only without a text, and for a number with something behind it.  The names of the EMI
versions are texts that do not start with a number.
-/

namespace Knxd.IniFile

open Memory Option
open USB (EMIVer)

/-- `isspace`. -/
def isSpace (c : Char) : Bool :=
  c = ' ' ∨ 9 ≤ c.toNat ∧ c.toNat ≤ 13

def digitOf (base : ℕ) (c : Char) : Option ℕ :=
  let digit :=
    if '0' ≤ c ∧ c ≤ '9' then c.toNat - '0'.toNat
    else if 'a' ≤ c ∧ c ≤ 'f' then c.toNat - 'a'.toNat + 10
    else if 'A' ≤ c ∧ c ≤ 'F' then c.toNat - 'A'.toNat + 10
    else base
  if digit < base then some digit else none

structure Parts where
  sign : ℤ
  base : ℕ
  digits : List Char

/-- The base of a number without its sign, by its first characters. -/
def unsigned (sign : ℤ) : List Char → Parts
  | '0' :: x :: c :: rest =>
    if (x = 'x' ∨ x = 'X') ∧ (digitOf 16 c).isSome then ⟨sign, 16, c :: rest⟩
    else ⟨sign, 8, '0' :: x :: c :: rest⟩
  | '0' :: rest => ⟨sign, 8, '0' :: rest⟩
  | rest => ⟨sign, 10, rest⟩

/-- White space, the sign and the prefix of the base come before the digits. -/
def parts (text : List Char) : Parts :=
  match text.dropWhile isSpace with
  | '-' :: rest => unsigned (-1) rest
  | '+' :: rest => unsigned 1 rest
  | rest => unsigned 1 rest

/-- The digits at the start of a text, behind those of a number, and what follows them. -/
def readDigits (base : ℕ) : ℕ → List Char → ℕ × List Char
  | number, [] => (number, [])
  | number, c :: rest =>
    match digitOf base c with
    | some digit => readDigits base (number * base + digit) rest
    | none => (number, c :: rest)

/-- `strtol` with base 0: the number, and what follows it, if there is a digit. -/
def strtol (text : List Char) : Option (ℤ × List Char) :=
  let p := parts text
  if (p.digits.head?.bind (digitOf p.base)).isSome then
    let read := readDigits p.base 0 p.digits
    some (p.sign * read.1, read.2)
  else none

def IsInt (number : ℤ) : Prop :=
  -2 ^ 31 ≤ number ∧ number < 2 ^ 31
  deriving Decidable

/-- `std::stoi`; an exception ends the program. -/
def stoi (text : List Char) : Run (ℤ × List Char) :=
  match strtol text with
  | some read => if IsInt read.1 then pure read else .error .abort
  | none => .error .abort

/-- What `IniSection::value` makes of the text. -/
def intOf (v : String) (default : ℤ) : Run ℤ := do
  if v = "" then pure default
  else
    let (res, rest) ← stoi v.toList
    if rest = [] then pure res else pure default

/-- `IniSection::value` with an integer as the default. -/
def intValue (name : String) (default : ℤ) (depth : ℕ) (data : IniData) (s : IniSection) :
    Option (Run ℤ × IniData) :=
  (value name "" depth data s).map fun found => (intOf found.1 default, found.2)

/-- What `cfgEMIVersion` makes of the two values. -/
def versionOf (number : Run ℤ) (sv : String) : Run EMIVer := do
  let v ← number
  if v > 4 ∨ v < 0 then pure .error
  else if v = 1 then pure .emi1
  else if v = 2 then pure .emi2
  else if v = 3 then pure .cemi
  else if v = 4 then pure .raw
  else if sv = "" then pure .unknown
  else if sv = "EMI1" then pure .emi1
  else if sv = "EMI2" then pure .emi2
  else if sv = "CEMI" then pure .cemi
  else if sv = "raw" then pure .raw
  else pure .error

def cfgEMIVersion (depth : ℕ) (data : IniData) (s : IniSection) : Option (Run EMIVer) := do
  let (number, data) ← intValue "version" 0 depth data s
  let (sv, _) ← value "version" "" depth data s
  return versionOf number sv

/-- Behind white space, a sign and a prefix there are digits of the base, at least one and nothing
else. -/
def Literal (text : List Char) (number : ℤ) : Prop :=
  ∃ digits, digits ≠ [] ∧
    (parts text).digits.Forall₂ (fun c digit => digitOf (parts text).base c = some digit) digits ∧
    number = (parts text).sign *
      (digits.foldl (fun number digit => number * (parts text).base + digit) 0 : ℕ)

section Integers

variable {s : IniSection} {name v : String} {text : List Char} {number : ℤ}

theorem readDigits_eq_iff {base : ℕ} (first result : ℕ) :
    readDigits base first text = (result, []) ↔
      ∃ digits, text.Forall₂ (fun c digit => digitOf base c = some digit) digits ∧
        result = digits.foldl (fun number digit => number * base + digit) first := by
  induction text generalizing first with
  | nil => simp [readDigits, eq_comm]
  | cons _ _ ih =>
    rw [readDigits]
    constructor
    · intro hread
      split at hread
      · next digit hdigit =>
        obtain ⟨digits, hdigits, rfl⟩ := (ih _).1 hread
        exact ⟨digit :: digits, .cons hdigit hdigits, rfl⟩
      · cases hread
    · rintro ⟨_, hdigits, rfl⟩
      obtain ⟨digit, digits, hdigit, hrest, rfl⟩ := List.forall₂_cons_left_iff.1 hdigits
      rw [hdigit]
      exact (ih _).2 ⟨digits, hrest, rfl⟩

theorem strtol_eq_iff : strtol text = some (number, []) ↔ Literal text number := by
  unfold strtol Literal
  obtain ⟨sign, _, digits⟩ := parts text
  dsimp only
  constructor
  · intro hstrtol
    obtain ⟨hsome, hread⟩ := ite_none_right_eq_some.1 hstrtol
    obtain ⟨rfl, hend⟩ := Prod.mk.inj (some.inj hread)
    obtain ⟨digits, hdigits, hvalue⟩ := (readDigits_eq_iff 0 _).1 (Prod.ext rfl hend)
    refine ⟨digits, ?_, hdigits, congrArg (fun n : ℕ => sign * n) hvalue⟩
    rintro rfl
    rw [List.forall₂_nil_right_iff.1 hdigits] at hsome
    cases hsome
  · rintro ⟨numbers, hne, hdigits, rfl⟩
    have hread := (readDigits_eq_iff 0 _).2 ⟨numbers, hdigits, rfl⟩
    cases hdigits with
    | nil => exact absurd rfl hne
    | cons hfirst =>
      rw [List.head?_cons, bind_some, hfirst, hread]
      rfl

/-- The text starts with a number that is an `int`. -/
def StartsWithInt (text : List Char) : Prop :=
  ∃ read, strtol text = some read ∧ IsInt read.1

theorem intOf_eq_ok_iff {default result : ℤ} : intOf v default = .ok result ↔
    v = "" ∧ result = default ∨ v ≠ "" ∧ ∃ read, strtol v.toList = some read ∧ IsInt read.1 ∧
      result = if read.2 = [] then read.1 else default := by
  unfold intOf stoi
  by_cases hempty : v = ""
  · simp [hempty, eq_comm]
  cases strtol v.toList with
  | none => simp [hempty]
  | some read =>
    by_cases hint : IsInt read.1
    · simp [hempty, hint, ← apply_ite (Except.ok), eq_comm]
    · simp [hempty, hint]

theorem returns_intOf_iff (v : String) (default : ℤ) :
    Returns (intOf v default) ↔ v = "" ∨ StartsWithInt v.toList := by
  simp only [Returns, intOf_eq_ok_iff, StartsWithInt]
  by_cases hempty : v = ""
  · simp [hempty]
  · simp only [hempty, false_and, false_or, ne_eq, not_false_eq_true, true_and]
    constructor
    · rintro ⟨-, read, hread, hint, -⟩
      exact ⟨read, hread, hint⟩
    · rintro ⟨read, hread, hint⟩
      exact ⟨_, read, hread, hint, rfl⟩

theorem intOf_of_literal (hliteral : Literal v.toList number) {default result : ℤ}
    (hresult : intOf v default = .ok result) : IsInt number ∧ result = number := by
  have hread := strtol_eq_iff.2 hliteral
  obtain ⟨rfl, -⟩ | ⟨-, _, hsome, hint, rfl⟩ := intOf_eq_ok_iff.1 hresult
  · cases hread
  · cases hread.symm.trans hsome
    exact ⟨hint, rfl⟩

theorem intOf_of_not_literal (hliteral : ∀ number, ¬ Literal v.toList number) {default result : ℤ}
    (hresult : intOf v default = .ok result) : result = default := by
  obtain ⟨-, rfl⟩ | ⟨-, ⟨number, rest⟩, hread, -, rfl⟩ := intOf_eq_ok_iff.1 hresult
  · rfl
  · refine if_neg fun hrest => hliteral number (strtol_eq_iff.1 ?_)
    rw [hread, show rest = [] from hrest]

theorem returns_versionOf_iff {number : Run ℤ} {sv : String} :
    Returns (versionOf number sv) ↔ Returns number := by
  cases number with
  | error => simp [versionOf]
  | ok v =>
    refine iff_of_true ?_ (returns_ok v)
    rw [versionOf, ok_bind]
    split_ifs <;> exact returns_ok _

/-- A stored text ends the program unless it is empty or starts with an `int`.  Otherwise the number
is returned if the text is nothing else, and the default value if it is; and so with the version. -/
theorem int_value_total_iff (hstored : s.values.lookup name = some v) (data : IniData)
    (default : ℤ) (depth : ℕ) :
    ∃ outcome, intValue name default (depth + 1) data s = some (outcome, data) ∧
      (Returns outcome ↔ v = "" ∨ StartsWithInt v.toList) ∧
      (∀ result, outcome = .ok result →
        (∀ number, Literal v.toList number → IsInt number ∧ result = number) ∧
          ((∀ number, ¬ Literal v.toList number) → result = default)) ∧
      (name = "version" → ∃ version, cfgEMIVersion (depth + 1) data s = some version ∧
        (Returns version ↔ v = "" ∨ StartsWithInt v.toList)) := by
  have hvalue : value name "" (depth + 1) data s = some (v, data) := by rw [value, hstored]
  have hint (default : ℤ) :
      intValue name default (depth + 1) data s = some (intOf v default, data) := by
    rw [intValue, hvalue, Option.map_some]
  refine ⟨_, hint default, returns_intOf_iff v default, fun result hresult => ?_, ?_⟩
  · exact ⟨fun _ h => intOf_of_literal h hresult, fun h => intOf_of_not_literal h hresult⟩
  · rintro rfl
    refine ⟨versionOf (intOf v 0) v, ?_, returns_versionOf_iff.trans (returns_intOf_iff v 0)⟩
    simp [cfgEMIVersion, hint, hvalue]

theorem int_value_total_hex : ∃ outcome,
    intValue "version" 0 1 {} ⟨[("version", "0x02")]⟩ = some (outcome, {}) ∧ Returns outcome := by
  obtain ⟨outcome, houtcome, hreturns, -⟩ :=
    @int_value_total_iff ⟨[("version", "0x02")]⟩ "version" "0x02" rfl {} 0 0
  have hread : strtol "0x02".toList = some (2, []) := by decide +kernel
  exact ⟨outcome, houtcome, hreturns.2 (.inr ⟨(2, []), hread, by decide⟩)⟩

/-- The names of the versions, which the caller compares the text with, are no numbers. -/
theorem version_name_aborts :
    cfgEMIVersion 1 {} ⟨[("version", "EMI1")]⟩ = some (.error .abort) ∧
      cfgEMIVersion 1 {} ⟨[("version", "4294967296")]⟩ = some (.error .abort) := by
  decide +kernel

end Integers

end Knxd.IniFile
