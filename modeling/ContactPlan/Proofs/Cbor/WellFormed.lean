import ContactPlan.Cbor.Segment
import ContactPlan.Proofs.Cbor.Header
import ContactPlan.Proofs.Text.Utf8

namespace ContactPlan.Cbor

open Reader

/-- The argument of an item may stand in more bytes than it needs. -/
inductive Head (major argument : Nat) : List UInt8 → Prop where
  | short (small : argument < 24) : Head major argument [UInt8.ofNat (32 * major + argument)]
  | long {exponent : Nat} {tail : List UInt8} (within : exponent < 4)
      (counted : tail.length = 2 ^ exponent) (means : BigEndian.read tail = argument) :
      Head major argument (UInt8.ofNat (32 * major + (24 + exponent)) :: tail)

/-- This byte opens an item whose length is left open. -/
def openHead (major : Nat) : UInt8 := UInt8.ofNat (32 * major + 31)

/-- This byte closes an item whose length is left open. -/
def breakByte : UInt8 := 0xFF

def StringKind.major : StringKind → Nat
  | .bytes => 2
  | .text => 3

/-- Only the content of a text has to be valid. -/
def StringKind.Admits : StringKind → List UInt8 → Prop
  | .bytes, _ => True
  | .text, content => Utf8.Valid content

/-- A chunk has a length, and a chunk of text does not end within a character. -/
inductive Chunk (kind : StringKind) : List UInt8 → Prop where
  | chunk {head content : List UInt8} (isHead : Head kind.major content.length head)
      (admits : kind.Admits content) : Chunk kind (head ++ content)

/-- A well-formed item is whole, and nothing stands behind it.
A simple value with a byte of its own is at least thirty-two, and wider arguments are floats. -/
inductive WellFormed : List UInt8 → Prop where
  | unsigned {value : Nat} {head : List UInt8} (isHead : Head 0 value head) : WellFormed head
  | negative {value : Nat} {head : List UInt8} (isHead : Head 1 value head) : WellFormed head
  | string {kind : StringKind} {chunk : List UInt8} (isChunk : Chunk kind chunk) : WellFormed chunk
  | openString {kind : StringKind} {chunks : List (List UInt8)}
      (areChunks : ∀ chunk ∈ chunks, Chunk kind chunk) :
      WellFormed (openHead kind.major :: (chunks.flatten ++ [breakByte]))
  | array {items : List (List UInt8)} {head : List UInt8} (isHead : Head 4 items.length head)
      (wellFormed : ∀ item ∈ items, WellFormed item) : WellFormed (head ++ items.flatten)
  | openArray {items : List (List UInt8)} (wellFormed : ∀ item ∈ items, WellFormed item) :
      WellFormed (openHead 4 :: (items.flatten ++ [breakByte]))
  | map {pairs : List (List UInt8 × List UInt8)} {head : List UInt8}
      (isHead : Head 5 pairs.length head) (keys : ∀ pair ∈ pairs, WellFormed pair.1)
      (values : ∀ pair ∈ pairs, WellFormed pair.2) :
      WellFormed (head ++ (pairs.map fun pair => pair.1 ++ pair.2).flatten)
  | openMap {pairs : List (List UInt8 × List UInt8)} (keys : ∀ pair ∈ pairs, WellFormed pair.1)
      (values : ∀ pair ∈ pairs, WellFormed pair.2) :
      WellFormed (openHead 5 :: ((pairs.map fun pair => pair.1 ++ pair.2).flatten ++ [breakByte]))
  | tag {number : Nat} {head item : List UInt8} (isHead : Head 6 number head)
      (wellFormed : WellFormed item) : WellFormed (head ++ item)
  | simple {value : Nat} {head : List UInt8} (isHead : Head 7 value head)
      (wide : head.length = 2 → 32 ≤ value) : WellFormed head

/-- The header of an item says how its bytes go on. -/
theorem Head.reads {major value : Nat} {head : List UInt8} (isHead : Head major value head)
    (isMajor : major < 8) :
    ∃ information, ∀ found, headerOf? major information (some value) = some found →
      header.Reads head found := by
  cases isHead with
  | short small =>
      refine ⟨value, fun found => header_reads_of_argument isMajor (by omega) fun start => ?_⟩
      rw [argument, if_pos small]
      exact Reads.done (some value)
  | @long exponent tail within counted means =>
      refine ⟨24 + exponent, fun found => ?_⟩
      refine header_reads_of_argument isMajor (by omega) fun start => ?_
      have takes : (Reader.unsigned (2 ^ exponent)).Reads tail (BigEndian.read tail) :=
        (Reads.take counted).map BigEndian.read
      rw [means] at takes
      obtain rfl | rfl | rfl | rfl : exponent = 0 ∨ exponent = 1 ∨ exponent = 2 ∨ exponent = 3 := by
        omega
      all_goals exact takes.map some

/-- A small integer is a byte. -/
theorem head_of_small {value : Nat} (small : value < 24) : Head 0 value [UInt8.ofNat value] := by
  have isHead : Head 0 value [UInt8.ofNat (32 * 0 + value)] := .short small
  rw [Nat.mul_zero, Nat.zero_add] at isHead
  exact isHead

/-- No header is wide enough for more than 64 bits. -/
theorem Head.lt {major argument : Nat} {head : List UInt8} (isHead : Head major argument head) :
    argument < UInt64.size := by
  cases isHead with
  | short small => exact small.trans (by decide)
  | @long exponent tail within counted means =>
      have bound := BigEndian.read_lt tail
      rw [means, counted] at bound
      have width : 2 ^ exponent ≤ 2 ^ 3 := Nat.pow_le_pow_right (by decide) (by omega)
      exact bound.trans_le (Nat.pow_le_pow_right (by decide) width)

/-- A header of open length is its first byte alone. -/
theorem openHead_reads {major : Nat} (isMajor : major < 8) {found : Header}
    (means : headerOf? major 31 none = some found) : header.Reads [openHead major] found := by
  have takes (start : Nat) : (argument start 31).Reads [] none := Reads.done none
  exact header_reads_of_argument isMajor (by decide) takes means

/-- The break is read as a header. -/
theorem breakByte_reads : header.Reads [breakByte] .stop := by
  have reads : header.Reads [openHead 7] .stop := openHead_reads (by decide) rfl
  exact reads

/-- A chunk has a header that tells its length. -/
theorem Chunk.reads {kind : StringKind} {chunk : List UInt8} (isChunk : Chunk kind chunk) :
    ∃ head content found, chunk = head ++ content ∧ header.Reads head found ∧
      kind.length? found = some (some content.length) ∧ kind.Admits content := by
  obtain ⟨isHead, admits⟩ := isChunk
  cases kind with
  | bytes =>
      obtain ⟨information, reads⟩ := isHead.reads (by decide)
      exact ⟨_, _, _, rfl, reads _ rfl, rfl, admits⟩
  | text =>
      obtain ⟨information, reads⟩ := isHead.reads (by decide)
      exact ⟨_, _, _, rfl, reads _ rfl, rfl, admits⟩

/-- The parts of a sequence stand up to their number or up to a break. -/
inductive Sequence (part : List UInt8 → Prop) : Option Nat → List UInt8 → Prop where
  | counted {parts : List (List UInt8)} (areParts : ∀ bytes ∈ parts, part bytes) :
      Sequence part (some parts.length) parts.flatten
  | untilBreak {parts : List (List UInt8)} (areParts : ∀ bytes ∈ parts, part bytes) :
      Sequence part none (parts.flatten ++ [breakByte])

/-- The content of a string is its bytes or a sequence of chunks. -/
inductive StringBody (kind : StringKind) : Option Nat → List UInt8 → Prop where
  | whole {content : List UInt8} (admits : kind.Admits content) :
      StringBody kind (some content.length) content
  | chunked {chunks : List (List UInt8)} (areChunks : ∀ chunk ∈ chunks, Chunk kind chunk) :
      StringBody kind none (chunks.flatten ++ [breakByte])

def Pair (item : List UInt8 → Prop) (bytes : List UInt8) : Prop :=
  ∃ key value, bytes = key ++ value ∧ item key ∧ item value

/-- What stands behind the header of an item that is not a tag. -/
inductive Body (item : List UInt8 → Prop) : Header → List UInt8 → Prop where
  | unsigned (value : Nat) : Body item (.unsigned value) []
  | negative (value : Nat) : Body item (.negative value) []
  | bytes {length : Option Nat} {content : List UInt8} (body : StringBody .bytes length content) :
      Body item (.bytes length) content
  | text {length : Option Nat} {content : List UInt8} (body : StringBody .text length content) :
      Body item (.text length) content
  | array {length : Option Nat} {content : List UInt8} (items : Sequence item length content) :
      Body item (.array length) content
  | map {length : Option Nat} {content : List UInt8}
      (pairs : Sequence (Pair item) length content) : Body item (.map length) content
  | simple (number : Nat) : Body item (.simple number) []
  | float (value : Binary64) : Body item (.float value) []

/-- A sequence of items is one of items of a wider kind. -/
theorem Sequence.imp {first second : List UInt8 → Prop}
    (implies : ∀ bytes, first bytes → second bytes) {length : Option Nat} {content : List UInt8}
    (sequence : Sequence first length content) : Sequence second length content := by
  cases sequence with
  | counted areParts => exact .counted fun bytes member => implies bytes (areParts bytes member)
  | untilBreak areParts =>
      exact .untilBreak fun bytes member => implies bytes (areParts bytes member)

theorem Body.imp {first second : List UInt8 → Prop}
    (implies : ∀ bytes, first bytes → second bytes) {found : Header} {content : List UInt8}
    (body : Body first found content) : Body second found content := by
  cases body with
  | unsigned value => exact .unsigned value
  | negative value => exact .negative value
  | bytes body => exact .bytes body
  | text body => exact .text body
  | array items => exact .array (items.imp implies)
  | map pairs =>
      refine .map (pairs.imp fun bytes pair => ?_)
      obtain ⟨key, value, split, isKey, isValue⟩ := pair
      exact ⟨key, value, split, implies key isKey, implies value isValue⟩
  | simple number => exact .simple number
  | float value => exact .float value

/-- Every item is a tag and another item, or a header and what stands behind it. -/
theorem WellFormed.byHeader {motive : List UInt8 → Prop}
    (tag : ∀ {head item : List UInt8} {number : Nat}, header.Reads head (.tag number) →
      WellFormed item → motive item → motive (head ++ item))
    (other : ∀ {head content : List UInt8} {found : Header}, header.Reads head found →
      Body (fun item => WellFormed item ∧ motive item) found content → motive (head ++ content))
    {bytes : List UInt8} (wellFormed : WellFormed bytes) : motive bytes := by
  have alone {head : List UInt8} {found : Header} (reads : header.Reads head found)
      (body : Body (fun item => WellFormed item ∧ motive item) found []) : motive head :=
    List.append_nil head ▸ other reads body
  have arePairs {pairs : List (List UInt8 × List UInt8)}
      (keys : ∀ pair ∈ pairs, WellFormed pair.1 ∧ motive pair.1)
      (values : ∀ pair ∈ pairs, WellFormed pair.2 ∧ motive pair.2) :
      ∀ bytes ∈ pairs.map fun pair => pair.1 ++ pair.2,
        Pair (fun item => WellFormed item ∧ motive item) bytes := by
    intro bytes member
    obtain ⟨pair, isPair, rfl⟩ := List.mem_map.mp member
    exact ⟨pair.1, pair.2, rfl, keys pair isPair, values pair isPair⟩
  induction wellFormed with
  | @unsigned value head isHead =>
      obtain ⟨information, reads⟩ := isHead.reads (by decide)
      exact alone (reads _ rfl) (.unsigned value)
  | @negative value head isHead =>
      obtain ⟨information, reads⟩ := isHead.reads (by decide)
      exact alone (reads _ rfl) (.negative value)
  | @string kind chunk isChunk =>
      obtain ⟨isHead, admits⟩ := isChunk
      cases kind with
      | bytes =>
          obtain ⟨information, reads⟩ := isHead.reads (by decide)
          exact other (reads _ rfl) (.bytes (.whole admits))
      | text =>
          obtain ⟨information, reads⟩ := isHead.reads (by decide)
          exact other (reads _ rfl) (.text (.whole admits))
  | @openString kind chunks areChunks =>
      cases kind with
      | bytes => exact other (openHead_reads (by decide) rfl) (.bytes (.chunked areChunks))
      | text => exact other (openHead_reads (by decide) rfl) (.text (.chunked areChunks))
  | array isHead wellFormed inductionHypothesis =>
      obtain ⟨information, reads⟩ := isHead.reads (by decide)
      refine other (reads _ rfl) (.array (.counted fun item member => ?_))
      exact ⟨wellFormed item member, inductionHypothesis item member⟩
  | openArray wellFormed inductionHypothesis =>
      refine other (openHead_reads (by decide) rfl) (.array (.untilBreak fun item member => ?_))
      exact ⟨wellFormed item member, inductionHypothesis item member⟩
  | map isHead keys values keysHypothesis valuesHypothesis =>
      obtain ⟨information, reads⟩ := isHead.reads (by decide)
      have pairsCounted := Sequence.counted (arePairs
        (fun pair member => ⟨keys pair member, keysHypothesis pair member⟩)
        (fun pair member => ⟨values pair member, valuesHypothesis pair member⟩))
      rw [List.length_map] at pairsCounted
      exact other (reads _ rfl) (.map pairsCounted)
  | openMap keys values keysHypothesis valuesHypothesis =>
      refine other (openHead_reads (by decide) rfl) (.map (.untilBreak (arePairs ?_ ?_)))
      · exact fun pair member => ⟨keys pair member, keysHypothesis pair member⟩
      · exact fun pair member => ⟨values pair member, valuesHypothesis pair member⟩
  | tag isHead wellFormed inductionHypothesis =>
      obtain ⟨information, reads⟩ := isHead.reads (by decide)
      exact tag (reads _ rfl) wellFormed inductionHypothesis
  | @simple value head isHead =>
      obtain ⟨information, reads⟩ := isHead.reads (by decide)
      have read := reads _ rfl
      unfold otherHeader at read
      split_ifs at read
      · exact alone read (.float _)
      · exact alone read (.float _)
      · exact alone read (.float _)
      · exact alone read (.simple value)

/-- The first header of an item is not a break. -/
def Begins (bytes : List UInt8) : Prop :=
  ∃ head rest found, bytes = head ++ rest ∧ header.Reads head found ∧ found ≠ .stop

/-- A well-formed item begins with a header that is no break. -/
theorem WellFormed.begins {bytes : List UInt8} (wellFormed : WellFormed bytes) : Begins bytes := by
  refine wellFormed.byHeader ?_ ?_
  · intro head item number reads _ _
    exact ⟨head, item, _, rfl, reads, by simp⟩
  · intro head content found reads body
    refine ⟨head, content, found, rfl, reads, ?_⟩
    rintro rfl
    cases body

theorem Begins.append {bytes : List UInt8} (begins : Begins bytes) (others : List UInt8) :
    Begins (bytes ++ others) := by
  obtain ⟨head, rest, found, rfl, reads, notStop⟩ := begins
  exact ⟨head, rest ++ others, found, List.append_assoc _ _ _, reads, notStop⟩

/-- A header takes a byte at least. -/
theorem header_reads_ne_nil {head : List UInt8} {found : Header}
    (reads : header.Reads head found) : head ≠ [] := by
  rintro rfl
  cases reads 0 []

theorem Begins.ne_nil {bytes : List UInt8} (begins : Begins bytes) : bytes ≠ [] := by
  obtain ⟨head, rest, found, rfl, reads, -⟩ := begins
  exact List.append_ne_nil_of_left_ne_nil (header_reads_ne_nil reads) rest

end ContactPlan.Cbor
