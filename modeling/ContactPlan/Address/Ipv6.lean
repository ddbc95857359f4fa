import ContactPlan.Address.Ipv4
import ContactPlan.Text.Hex

namespace ContactPlan

structure Ipv6 where
  bits : BitVec 128
  deriving DecidableEq

/-- Each group multiplies the value before it by 65536. -/
def Ipv6.ofGroups (groups : List Nat) : Ipv6 :=
  ⟨BitVec.ofNat 128 (groups.foldl (fun total group => 65536 * total + group) 0)⟩

/-- The groups have 16 bits, and the most significant one stands first. -/
def Ipv6.groups (address : Ipv6) : List Nat :=
  (List.range 8).map fun index => address.bits.toNat / Nat.pow 65536 (7 - index) % 65536

/-- A group is written with its significant digits only. -/
def Ipv6.groupDigits (group : Nat) : List Char :=
  if group < 16 then [Hex.digitChar group]
  else Ipv6.groupDigits (group / 16) ++ [Hex.digitChar (group % 16)]

def Ipv6.groupsText (groups : List Nat) : String :=
  ":".intercalate (groups.map fun group => String.ofList (Ipv6.groupDigits group))

/-- How many zero groups a list begins with. -/
def Ipv6.zeroRun (groups : List Nat) : Nat := (groups.takeWhile (· = 0)).length

/-- The first of the longest runs of zero groups, as its start and its length. -/
def Ipv6.longestRun (groups : List Nat) : Nat × Nat :=
  (List.range groups.length).foldl
    (fun best start =>
      let length := Ipv6.zeroRun (groups.drop start)
      if best.2 < length then (start, length) else best)
    (0, 0)

/-- A run of at least two zero groups shrinks to a double colon. -/
def Ipv6.compressed (groups : List Nat) : String :=
  let (start, length) := Ipv6.longestRun groups
  if length < 2 then Ipv6.groupsText groups
  else
    Ipv6.groupsText (groups.take start) ++ "::" ++
      Ipv6.groupsText (groups.drop (start + length))

/-- An address that embeds a 32-bit one ends in dotted text. -/
def Ipv6.text (address : Ipv6) : String :=
  match address.groups with
  | [0, 0, 0, 0, 0, 65535, upper, lower] =>
      "::ffff:" ++ Ipv4.text ⟨UInt32.ofNat (65536 * upper + lower)⟩
  | groups => Ipv6.compressed groups

/-- A group has one to four hexadecimal digits. -/
def Ipv6.readGroup? (text : List Char) : Option Nat :=
  if text = [] ∨ 4 < text.length then none
  else text.foldlM (fun total character => (Hex.digitValue? character).map (16 * total + ·)) 0

/-- Dotted text may stand in place of the last two groups. -/
def Ipv6.readGroups? (dotted : Bool) : List (List Char) → Option (List Nat)
  | [] => some []
  | field :: fields =>
      match Ipv6.readGroup? field with
      | some group => (Ipv6.readGroups? dotted fields).map (group :: ·)
      | none =>
          if dotted ∧ fields = [] then
            (Ipv4.read? field).map fun address =>
              [address.bits.toNat / 65536, address.bits.toNat % 65536]
          else none

/-- The empty text has no group. -/
def Ipv6.readPart? (dotted : Bool) (text : List Char) : Option (List Nat) :=
  if text = [] then some [] else Ipv6.readGroups? dotted (Fields.split ':' text)

/-- The text is cut at its first double colon. -/
def Ipv6.cut : List Char → List Char × Option (List Char)
  | [] => ([], none)
  | [character] => ([character], none)
  | first :: second :: rest =>
      if first = ':' ∧ second = ':' then ([], some rest)
      else
        let (before, after) := Ipv6.cut (second :: rest)
        (first :: before, after)

/-- A double colon stands for at least one zero group. -/
def Ipv6.read? (text : List Char) : Option Ipv6 :=
  match Ipv6.cut text with
  | (whole, none) =>
      match Ipv6.readPart? true whole with
      | some groups => if groups.length = 8 then some (Ipv6.ofGroups groups) else none
      | none => none
  | (front, some back) =>
      match Ipv6.readPart? false front, Ipv6.readPart? true back with
      | some head, some tail =>
          if head.length + tail.length < 8 then
            some (Ipv6.ofGroups
              (head ++ List.replicate (8 - head.length - tail.length) 0 ++ tail))
          else none
      | _, _ => none

def Ipv6.ofText? (text : String) : Option Ipv6 := Ipv6.read? text.toList

end ContactPlan
