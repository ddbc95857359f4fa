namespace ContactPlan.BigEndian

/-- The most significant byte stands first, and digits above the width are dropped. -/
def write : Nat → Nat → List UInt8
  | 0, _ => []
  | width + 1, value => write width (value / 256) ++ [UInt8.ofNat (value % 256)]

@[simp] theorem write_zero (value : Nat) : write 0 value = [] := rfl

@[simp] theorem length_write (width value : Nat) : (write width value).length = width := by
  induction width generalizing value with
  | zero => rfl
  | succ width inductionHypothesis => simp [write, inductionHypothesis]

/-- Each byte multiplies the value before it by 256. -/
def extend (value : Nat) (bytes : List UInt8) : Nat :=
  bytes.foldl (fun total byte => 256 * total + byte.toNat) value

def read (bytes : List UInt8) : Nat := extend 0 bytes

@[simp] theorem read_nil : read [] = 0 := rfl

end ContactPlan.BigEndian
