import ContactPlan.Text.BigEndian
import Mathlib.Algebra.Order.Group.Nat
import Mathlib.Data.List.Induction

namespace ContactPlan.BigEndian

/-- The bytes on the left count first. -/
theorem extend_append (value : Nat) (left right : List UInt8) :
    extend value (left ++ right) = extend (extend value left) right :=
  List.foldl_append

/-- The digits that fit into the width come back. -/
theorem read_write (width value : Nat) : read (write width value) = value % 256 ^ width := by
  induction width generalizing value with
  | zero => simp [Nat.mod_one]
  | succ width inductionHypothesis =>
      have digit : (UInt8.ofNat (value % 256)).toNat = value % 256 :=
        UInt8.toNat_ofNat_of_lt (Nat.mod_lt _ (by decide))
      calc
        read (write (width + 1) value)
          = 256 * read (write width (value / 256)) + (UInt8.ofNat (value % 256)).toNat :=
            extend_append 0 _ _
        _ = value % 256 + 256 * (value / 256 % 256 ^ width) := by
            rw [inductionHypothesis, digit, Nat.add_comm]
        _ = value % 256 ^ (width + 1) := by
            rw [Nat.pow_succ', Nat.mod_mul]

/-- Every byte adds one digit. -/
theorem extend_lt (value : Nat) (bytes : List UInt8) :
    extend value bytes < (value + 1) * 256 ^ bytes.length := by
  induction bytes generalizing value with
  | nil => simp [extend]
  | cons first rest inductionHypothesis =>
      have digit : first.toNat < 256 := first.toNat_lt
      calc
        extend value (first :: rest)
          < (256 * value + first.toNat + 1) * 256 ^ rest.length := inductionHypothesis _
        _ ≤ (value + 1) * 256 * 256 ^ rest.length := Nat.mul_le_mul_right _ (by omega)
        _ = (value + 1) * 256 ^ (first :: rest).length := by
            rw [List.length_cons, Nat.pow_succ', Nat.mul_assoc]

/-- The number of bytes bounds the number that they hold. -/
theorem read_lt (bytes : List UInt8) : read bytes < 256 ^ bytes.length := by
  have bound := extend_lt 0 bytes
  rw [Nat.zero_add, Nat.one_mul] at bound
  exact bound

/-- A number that fits is read as it was written. -/
theorem read_write_of_lt {width value : Nat} (fits : value < 256 ^ width) :
    read (write width value) = value := by
  rw [read_write, Nat.mod_eq_of_lt fits]

/-- The last bytes of a number are those of its remainder, and the others those of its quotient. -/
theorem write_add (upper lower value : Nat) :
    write (upper + lower) value = write upper (value / 256 ^ lower) ++ write lower value := by
  induction lower generalizing value with
  | zero => simp
  | succ lower inductionHypothesis =>
      calc
        write (upper + (lower + 1)) value
          = write (upper + lower) (value / 256) ++ [UInt8.ofNat (value % 256)] := rfl
        _ = write upper (value / 256 / 256 ^ lower) ++ write (lower + 1) value := by
            rw [inductionHypothesis, List.append_assoc]
            rfl
        _ = write upper (value / 256 ^ (lower + 1)) ++ write (lower + 1) value := by
            rw [Nat.div_div_eq_div_mul, Nat.pow_succ']

/-- A number is written with the bytes that it was read from. -/
theorem write_read (bytes : List UInt8) : write bytes.length (read bytes) = bytes := by
  induction bytes using List.reverseRecOn with
  | nil => rfl
  | append_singleton front last inductionHypothesis =>
      have digit : last.toNat < 256 := last.toNat_lt
      have value : read (front ++ [last]) = 256 * read front + last.toNat :=
        extend_append 0 front [last]
      have higher : (256 * read front + last.toNat) / 256 = read front := by omega
      have lowest : (256 * read front + last.toNat) % 256 = last.toNat := by omega
      rw [List.length_append, value]
      change write front.length _ ++ [UInt8.ofNat _] = _
      rw [higher, lowest, inductionHypothesis, UInt8.ofNat_toNat]

end ContactPlan.BigEndian
