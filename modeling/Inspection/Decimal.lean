/-!
# Decimal numerals

The decimal digits of a natural number, written without leading zeros, and
the reading of a run of digits.  Reading undoes writing (`extend?_digits`).
-/

namespace Inspection

namespace Decimal

def digitChar (d : Nat) : Char :=
  Char.ofNat (48 + d)

def digitValue? (c : Char) : Option Nat :=
  if 48 ≤ c.toNat ∧ c.toNat ≤ 57 then some (c.toNat - 48) else none

/-- The digits of a natural number, most significant first. -/
def digits (n : Nat) : List Char :=
  if n < 10 then [digitChar n] else digits (n / 10) ++ [digitChar (n % 10)]
termination_by n
decreasing_by omega

/-- Reads further digits after a number already read. -/
def extend? (read : Nat) : List Char → Option Nat
  | [] => some read
  | c :: rest =>
    match digitValue? c with
    | none => none
    | some d => extend? (10 * read + d) rest

/-- The number written by a nonempty run of digits, leading zeros allowed. -/
def value? : List Char → Option Nat
  | [] => none
  | c :: rest => extend? 0 (c :: rest)

/-- The number of a run of digits that may have a plus sign. -/
def unsigned? : List Char → Option Nat
  | '+' :: digits => value? digits
  | digits => value? digits

/-- The integer of a run of digits that may have a sign. -/
def signed? : List Char → Option Int
  | '-' :: digits => (value? digits).map fun n => -(n : Int)
  | chars => (unsigned? chars).map fun n => (n : Int)

def ofNat (n : Nat) : String :=
  String.ofList (digits n)

/-- The text of an integer, with a minus sign when it is negative. -/
def ofInt : Int → String
  | .ofNat n => ofNat n
  | .negSucc n => String.ofList ('-' :: digits (n + 1))

/-- The digits of a natural number behind enough zeros to fill the width. -/
def padded (width n : Nat) : List Char :=
  List.replicate (width - (digits n).length) '0' ++ digits n

theorem digitValue?_digitChar {d : Nat} (h : d < 10) :
    digitValue? (digitChar d) = some d := by
  have hv : (48 + d).isValidChar := .inl (by omega)
  have hc : (digitChar d).toNat = 48 + d := by
    rw [digitChar, Char.ofNat, dif_pos hv]
    rfl
  simp only [digitValue?, hc]
  rw [if_pos (by omega)]
  congr 1
  omega

theorem extend?_append (read : Nat) (xs ys : List Char) :
    extend? read (xs ++ ys) = (extend? read xs).bind fun v => extend? v ys := by
  induction xs generalizing read with
  | nil => rfl
  | cons c rest ih =>
    simp only [List.cons_append, extend?]
    cases digitValue? c with
    | none => rfl
    | some d => exact ih _

theorem extend?_digits (n : Nat) : extend? 0 (digits n) = some n := by
  rw [digits]
  split
  · rename_i h
    simp [extend?, digitValue?_digitChar h]
  · rw [extend?_append, extend?_digits (n / 10)]
    simp only [Option.bind_some, extend?, digitValue?_digitChar (Nat.mod_lt n (by omega))]
    congr 1
    omega
termination_by n
decreasing_by omega

theorem digits_ne_nil (n : Nat) : digits n ≠ [] := by
  rw [digits]
  split <;> simp

end Decimal

end Inspection
