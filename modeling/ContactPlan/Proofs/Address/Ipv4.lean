import ContactPlan.Address.Ipv4
import ContactPlan.Proofs.Text.Decimal

namespace ContactPlan.Ipv4

/-- An octet is read as it is written. -/
theorem readOctet?_digits {octet : Nat} (fits : octet < 256) :
    readOctet? (Decimal.digits octet) = some octet := by
  have read := Decimal.read?_digits octet
  have short : (Decimal.digits octet).length ≤ 3 :=
    Decimal.length_digits_le (Nat.lt_of_lt_of_le fits (by decide))
  unfold readOctet?
  split
  next isZero =>
    rw [isZero] at read
    exact read
  next others notZero isNumeral =>
    rcases Nat.eq_zero_or_pos octet with rfl | positive
    · rw [Decimal.digits] at isNumeral
      cases isNumeral
      exact absurd rfl notZero
    · exact absurd (by rw [isNumeral]; rfl) (Decimal.head?_digits_ne positive)
  next => rw [if_pos short, read, Option.filter_some, if_pos (decide_eq_true fits)]

/-- The octets of an address make it up. -/
theorem ofOctets_octet (address : Ipv4) :
    ofOctets (address.octet 3) (address.octet 2) (address.octet 1) (address.octet 0) = address := by
  obtain ⟨bits⟩ := address
  have bound := bits.toNat_lt
  have whole : ((bits.toNat / 16777216 % 256 * 256 + bits.toNat / 65536 % 256) * 256 +
      bits.toNat / 256 % 256) * 256 + bits.toNat / 1 % 256 = bits.toNat := by omega
  exact congrArg Ipv4.mk ((congrArg UInt32.ofNat whole).trans UInt32.ofNat_toNat)

/-- The octets of an address stand between dots, the most significant first. -/
theorem toList_text (address : Ipv4) :
    address.text.toList = Decimal.digits (address.octet 3) ++ '.' ::
      (Decimal.digits (address.octet 2) ++ '.' :: (Decimal.digits (address.octet 1) ++ '.' ::
        Decimal.digits (address.octet 0))) := by
  simp [text, String.intercalate_cons_cons, Decimal.write, String.toList_append]

/-- An address is read from its text. -/
theorem ofText?_text (address : Ipv4) : ofText? address.text = some address := by
  have fits (place : Nat) : address.octet place < 256 := Nat.mod_lt _ (by decide)
  have noDot (value : Nat) : '.' ∉ Decimal.digits value := Decimal.notMem_digits (by decide) value
  simp only [ofText?, read?, toList_text, Fields.split_append (noDot _),
    Fields.split_of_notMem (noDot _), List.map_cons, List.map_nil, readOctet?_digits (fits _),
    ofOctets_octet]

end ContactPlan.Ipv4
