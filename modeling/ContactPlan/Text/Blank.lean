namespace ContactPlan.Blank

/-- The Unicode property White_Space has twenty-five members. -/
def isBlank (character : Char) : Bool :=
  let code := character.toNat
  (9 ≤ code && code ≤ 13) || code == 32 || code == 0x85 || code == 0xA0 || code == 0x1680 ||
    (0x2000 ≤ code && code ≤ 0x200A) || code == 0x2028 || code == 0x2029 || code == 0x202F ||
    code == 0x205F || code == 0x3000

/-- Only the front of a text is looked at. -/
def skip (text : List Char) : List Char := text.dropWhile isBlank

end ContactPlan.Blank
