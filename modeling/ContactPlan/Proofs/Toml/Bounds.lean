import ContactPlan.Proofs.Toml.Line

namespace ContactPlan.Toml

/-- A result has the property if there is one. -/
def Gives {Result : Type} (property : Result → Prop) (result : Option Result) : Prop :=
  ∀ found, result = some found → property found

section Gives

variable {First Result : Type} {property : Result → Prop}

/-- A result that is missing has every property. -/
theorem gives_none : Gives property none := by
  intro found never
  cases never

/-- What is given has the property that it has. -/
theorem gives_some {found : Result} (holds : property found) : Gives property (some found) := by
  intro other same
  cases same
  exact holds

/-- A reader gives what its second part gives after what the first one gives. -/
theorem Gives.bind {earlier : First → Prop} {first : Option First} {next : First → Option Result}
    (gives : Gives earlier first)
    (continues : ∀ found, earlier found → Gives property (next found)) :
    Gives property (first.bind next) := by
  cases first with
  | none => exact gives_none
  | some found => exact continues found (gives found rfl)

theorem gives_bind {first : Option First} {next : First → Option Result}
    (continues : ∀ found, Gives property (next found)) : Gives property (first.bind next) := by
  cases first with
  | none => exact gives_none
  | some found => exact continues found

/-- A function gives what it makes of what is found. -/
theorem Gives.map {earlier : First → Prop} {first : Option First} {function : First → Result}
    (gives : Gives earlier first) (keeps : ∀ found, earlier found → property (function found)) :
    Gives property (first.map function) := by
  cases first with
  | none => exact gives_none
  | some found => exact gives_some (keeps found (gives found rfl))

theorem gives_map {first : Option First} {function : First → Result}
    (holds : ∀ found, property (function found)) : Gives property (first.map function) := by
  cases first with
  | none => exact gives_none
  | some found => exact gives_some (holds found)

/-- A list of results has the property of each of them. -/
theorem gives_mapM {read : First → Option Result} {items : List First}
    (gives : ∀ item ∈ items, Gives property (read item)) :
    Gives (fun results => ∀ result ∈ results, property result) (items.mapM read) := by
  induction items with
  | nil => exact gives_some (List.forall_mem_nil _)
  | cons item items inductionHypothesis =>
      obtain ⟨isFirst, areOthers⟩ := List.forall_mem_cons.mp gives
      rw [List.mapM_cons]
      exact isFirst.bind fun result holds => (inductionHypothesis areOthers).bind fun results all =>
        gives_some (List.forall_mem_cons.mpr ⟨holds, all⟩)

end Gives

/-- No integer in a value reaches the limit. -/
inductive Value.Bounded : Value → Prop where
  | text (value : String) : Bounded (.text value)
  | integer {value : Int} (below : value < Numeral.limit) : Bounded (.integer value)
  | float : Bounded .float
  | boolean (value : Bool) : Bounded (.boolean value)
  | moment : Bounded .moment
  | array {values : List Value} (elements : ∀ value ∈ values, Bounded value) :
      Bounded (.array values)
  | table (dotted : Bool) {members : Members} (all : ∀ member ∈ members, Bounded member.2) :
      Bounded (.table dotted members)

/-- What is left of the text behind a value does not matter. -/
def Found (found : Value × List Char) : Prop := found.1.Bounded

namespace Numeral

/-- An integer has a sign in its 64 bits or is refused. -/
theorem gives_integer? (value : Int) : Gives Value.Bounded (integer? value) := by
  unfold integer?
  split
  next range =>
    have last : Int64.maxValue.toInt = 9223372036854775807 := rfl
    rw [last] at range
    have below : value < limit := by
      unfold limit
      omega
    exact gives_some (.integer below)
  next => exact gives_none

theorem gives_unsigned? (base : Nat) (text : List Char) :
    Gives Value.Bounded (unsigned? base text) := by
  unfold unsigned?
  split
  · exact gives_integer? _
  · exact gives_none

theorem gives_decimal? (text : List Char) : Gives Value.Bounded (decimal? text) := by
  unfold decimal?
  split
  · exact gives_integer? _
  · exact gives_none

/-- A float is no integer. -/
theorem gives_finiteFloat? (significand : List Char) (places : Nat) (suffix rest : List Char) :
    Gives Found (finiteFloat? significand places suffix rest) := by
  refine gives_bind fun exponent => ?_
  dsimp only
  split
  · exact gives_some .float
  · exact gives_none

theorem gives_float? (word rest : List Char) : Gives Found (float? word rest) :=
  gives_bind fun _ => gives_finiteFloat? _ _ _ _

theorem gives_fractional? (word fraction rest : List Char) :
    Gives Found (fractional? word fraction rest) := by
  refine gives_bind fun integral => ?_
  split
  · exact gives_bind fun _ => gives_finiteFloat? _ _ _ _
  · exact gives_none

/-- What a number word gives is bounded. -/
theorem gives_read? (word rest : List Char) : Gives Found (read? word rest) := by
  unfold read?
  split
  · exact (gives_unsigned? _ _).map fun _ bounded => bounded
  · exact (gives_unsigned? _ _).map fun _ bounded => bounded
  · exact (gives_unsigned? _ _).map fun _ bounded => bounded
  · split
    · exact gives_float? _ _
    · split
      · exact gives_bind fun _ => gives_fractional? _ _ _
      · split
        · exact gives_some .float
        · exact (gives_decimal? _).map fun _ bounded => bounded

end Numeral

/-- A moment is no integer. -/
theorem Moment.gives_read? (text : List Char) : Gives Found (Moment.read? text) := by
  unfold Moment.read?
  split
  · exact gives_map fun _ => .moment
  · exact gives_some .moment

/-- What a number gives is bounded. -/
theorem gives_readNumber? (word rest : List Char) : Gives Found (readNumber? word rest) := by
  unfold readNumber?
  split
  · exact gives_none
  · split
    · exact Moment.gives_read? _
    · split
      · exact gives_map fun _ => .moment
      · exact Numeral.gives_read? _ _

/-- What a bare word gives is bounded. -/
theorem gives_readWord? (text : List Char) : Gives Found (readWord? text) := by
  refine gives_bind fun found => ?_
  dsimp only
  split
  · exact gives_some (.boolean true)
  · split
    · exact gives_some (.boolean false)
    · exact gives_readNumber? _ _

/-- A quoted text is no integer. -/
theorem gives_readText? (text : List Char) : Gives Found (readText? text) :=
  gives_map fun quoted => .text quoted.value

/-- No integer in the members reaches the limit. -/
def Members.Bounded (members : Members) : Prop := ∀ member ∈ members, member.2.Bounded

/-- A member is changed to a bounded value. -/
theorem gives_update? {members : Members} (bounded : members.Bounded) (name : String)
    {change : Value → Option Value}
    (keeps : ∀ value, value.Bounded → Gives Value.Bounded (change value)) :
    Gives Members.Bounded (members.update? name change) := by
  induction members with
  | nil =>
      have opened := keeps (.table true []) (.table true (List.forall_mem_nil _))
      exact opened.map fun value isBounded => List.forall_mem_singleton.mpr isBounded
  | cons member members inductionHypothesis =>
      obtain ⟨isFirst, areOthers⟩ := List.forall_mem_cons.mp bounded
      obtain ⟨other, value⟩ := member
      rw [Members.update?]
      split
      · exact (keeps value isFirst).map fun changed isBounded =>
          List.forall_mem_cons.mpr ⟨isBounded, areOthers⟩
      · exact (inductionHypothesis areOthers).map fun changed areBounded =>
          List.forall_mem_cons.mpr ⟨isFirst, areBounded⟩

/-- A bounded value may be added under a path of names. -/
theorem gives_add? {value : Value} (isBounded : value.Bounded) {names : List String}
    {members : Members} (bounded : members.Bounded) :
    Gives Members.Bounded (members.add? value names) := by
  induction names generalizing members with
  | nil => exact gives_none
  | cons name names inductionHypothesis =>
      cases names with
      | nil =>
          exact gives_some
            (List.forall_mem_append.mpr ⟨bounded, List.forall_mem_singleton.mpr isBounded⟩)
      | cons second names =>
          apply gives_update? bounded
          intro inner innerBounded
          split
          next members =>
            cases innerBounded with
            | table _ all =>
                exact (inductionHypothesis all).map fun _ areBounded => .table true areBounded
          next => exact gives_none

section Fuel

variable {fuel : Nat} (value : ∀ text, Gives Found (value? fuel text))
  (elements : ∀ text, Gives (fun found => ∀ value ∈ found.1, value.Bounded) (elements? fuel text))
  (pairs : ∀ {members : Members}, members.Bounded → ∀ text,
    Gives (fun found => found.1.Bounded) (pairs? fuel members text))

include elements pairs in
/-- A value is bounded when all values inside are. -/
theorem gives_value?_succ (text : List Char) : Gives Found (value? (fuel + 1) text) := by
  unfold value?
  split
  · exact gives_readText? _
  · exact gives_readText? _
  · exact gives_bind fun _ => Numeral.gives_read? _ _
  · exact (elements _).map fun _ areBounded => .array areBounded
  · split
    · exact gives_some (.table false (List.forall_mem_nil _))
    · exact (pairs (List.forall_mem_nil _) _).map fun _ areBounded => .table false areBounded
  · exact gives_readWord? _

include value elements in
/-- The elements of an array are bounded. -/
theorem gives_elements?_succ (text : List Char) :
    Gives (fun found => ∀ value ∈ found.1, value.Bounded) (elements? (fuel + 1) text) := by
  unfold elements?
  refine gives_bind fun text => ?_
  split
  · exact gives_some (List.forall_mem_nil _)
  · refine (value _).bind fun first isFirst => gives_bind fun rest => ?_
    split
    · exact gives_some (List.forall_mem_singleton.mpr isFirst)
    · exact (elements _).bind fun others areOthers =>
        gives_some (List.forall_mem_cons.mpr ⟨isFirst, areOthers⟩)
    · exact gives_none

include value pairs in
theorem gives_pairs?_succ {members : Members} (bounded : members.Bounded) (text : List Char) :
    Gives (fun found => found.1.Bounded) (pairs? (fuel + 1) members text) := by
  unfold pairs?
  refine gives_bind fun path => gives_bind fun text => ?_
  refine (value _).bind fun found isBounded => ?_
  refine (gives_add? isBounded bounded).bind fun members areBounded => ?_
  split
  · exact gives_some areBounded
  · exact pairs areBounded _
  · exact gives_none

end Fuel

/-- The readers of values, elements and pairs call each other with less fuel. -/
theorem gives_value? (fuel : Nat) :
    (∀ text, Gives Found (value? fuel text)) ∧
      (∀ text, Gives (fun found => ∀ value ∈ found.1, value.Bounded) (elements? fuel text)) ∧
      ∀ {members : Members}, members.Bounded → ∀ text,
        Gives (fun found => found.1.Bounded) (pairs? fuel members text) := by
  induction fuel with
  | zero => exact ⟨fun _ => gives_none, fun _ => gives_none, fun _ _ => gives_none⟩
  | succ fuel inductionHypothesis =>
      obtain ⟨value, elements, pairs⟩ := inductionHypothesis
      exact ⟨gives_value?_succ elements pairs, gives_elements?_succ value elements,
        gives_pairs?_succ value pairs⟩

/-- A pair adds a bounded value. -/
theorem gives_pair? {members : Members} (bounded : members.Bounded) (text : List Char) :
    Gives (fun found => found.1.Bounded) (pair? members text) := by
  refine gives_bind fun path => gives_bind fun text => ?_
  refine ((gives_value? _).1 _).bind fun found isBounded => ?_
  exact (gives_add? isBounded bounded).bind fun members areBounded =>
    gives_bind fun rest => gives_some areBounded

/-- No integer in the sections reaches the limit. -/
def SectionsBounded (sections : List Section) : Prop :=
  ∀ current ∈ sections, current.members.Bounded

/-- Some of the sections are bounded when all are. -/
theorem SectionsBounded.of_subset {others sections : List Section}
    (bounded : SectionsBounded sections) (subset : others ⊆ sections) : SectionsBounded others :=
  fun other member => bounded other (subset member)

/-- A section stays bounded below the first name of its path. -/
theorem SectionsBounded.descend {sections : List Section} (bounded : SectionsBounded sections) :
    SectionsBounded (sections.map Section.descend) := by
  intro below member
  obtain ⟨above, isAbove, rfl⟩ := List.mem_map.mp member
  exact bounded above isAbove

/-- A header starts a section without members. -/
theorem gives_header? (text : List Char) :
    Gives (fun found => found.1.members.Bounded) (header? text) := by
  unfold header?
  split
  refine gives_bind fun path => ?_
  split
  split
  · exact gives_bind fun rest => gives_some (List.forall_mem_nil _)
  · exact gives_bind fun rest => gives_some (List.forall_mem_nil _)
  · exact gives_none

/-- The sections of a document are bounded. -/
theorem gives_sections (fuel : Nat) {current : Section} (bounded : current.members.Bounded)
    (text : List Char) : Gives SectionsBounded (sections fuel current text) := by
  induction fuel generalizing current text with
  | zero => exact gives_none
  | succ fuel inductionHypothesis =>
      unfold sections
      refine gives_bind fun text => ?_
      split
      · exact gives_some (List.forall_mem_singleton.mpr bounded)
      · refine (gives_header? _).bind fun next isNext => ?_
        exact (inductionHypothesis isNext _).bind fun others areOthers =>
          gives_some (List.forall_mem_cons.mpr ⟨bounded, areOthers⟩)
      · exact (gives_pair? bounded _).bind fun pair isPair => inductionHypothesis isPair _

section Fuel

variable {fuel : Nat} {sections : List Section} (bounded : SectionsBounded sections)
  (members : ∀ parent {sections}, SectionsBounded sections →
    Gives Members.Bounded (membersOf fuel parent sections))
  (table : ∀ repeated {sections}, SectionsBounded sections →
    Gives Value.Bounded (tableOf fuel repeated sections))
  (elements : ∀ {sections}, SectionsBounded sections →
    Gives (fun values => ∀ value ∈ values, value.Bounded) (elementsOf fuel sections))

include bounded members table in
/-- The members that sections form are bounded. -/
theorem gives_membersOf_succ (parent : Option (List String)) :
    Gives Members.Bounded (membersOf (fuel + 1) parent sections) := by
  cases sections with
  | nil => exact gives_some (List.forall_mem_nil _)
  | cons current rest =>
      obtain ⟨isFirst, areOthers⟩ := List.forall_mem_cons.mp bounded
      unfold membersOf
      refine gives_bind fun parent => ?_
      split
      · dsimp only
        split
        · exact gives_none
        · exact (members _ areOthers).bind fun others areMembers =>
            gives_some (List.forall_mem_append.mpr ⟨isFirst, areMembers⟩)
      next name names _ =>
        have inner : SectionsBounded ((current :: rest).filter (Section.isBelow name)) :=
          bounded.of_subset List.filter_sublist.subset
        have outer : SectionsBounded (rest.filter fun other => !other.isBelow name) :=
          SectionsBounded.of_subset areOthers List.filter_sublist.subset
        refine (table _ inner.descend).bind fun value isValue => ?_
        exact (members _ outer).bind fun others areMembers =>
          gives_some (List.forall_mem_cons.mpr ⟨isValue, areMembers⟩)

include bounded members elements in
theorem gives_tableOf_succ (repeated : Bool) :
    Gives Value.Bounded (tableOf (fuel + 1) repeated sections) := by
  unfold tableOf
  split
  · exact (elements bounded).map fun _ areBounded => .array areBounded
  · exact (members _ bounded).map fun _ areBounded => .table false areBounded

include bounded members elements in
theorem gives_elementsOf_succ :
    Gives (fun values => ∀ value ∈ values, value.Bounded) (elementsOf (fuel + 1) sections) := by
  cases sections with
  | nil => exact gives_some (List.forall_mem_nil _)
  | cons current rest =>
      obtain ⟨isFirst, areOthers⟩ := List.forall_mem_cons.mp bounded
      have inner : SectionsBounded (rest.takeWhile fun other => !other.startsElement) :=
        SectionsBounded.of_subset areOthers (List.takeWhile_prefix _).subset
      have outer : SectionsBounded (rest.dropWhile fun other => !other.startsElement) :=
        SectionsBounded.of_subset areOthers (List.dropWhile_suffix _).subset
      refine (members _ inner).bind fun inside areInside => ?_
      exact (elements outer).bind fun others areElements =>
        gives_some (List.forall_mem_cons.mpr
          ⟨.table false (List.forall_mem_append.mpr ⟨isFirst, areInside⟩), areElements⟩)

end Fuel

/-- Tables are nested by their headers without a change of their members. -/
theorem gives_membersOf (fuel : Nat) :
    (∀ parent {sections}, SectionsBounded sections →
        Gives Members.Bounded (membersOf fuel parent sections)) ∧
      (∀ repeated {sections}, SectionsBounded sections →
        Gives Value.Bounded (tableOf fuel repeated sections)) ∧
      ∀ {sections}, SectionsBounded sections →
        Gives (fun values => ∀ value ∈ values, value.Bounded) (elementsOf fuel sections) := by
  induction fuel with
  | zero => exact ⟨fun _ _ _ => gives_none, fun _ _ _ => gives_none, fun _ => gives_none⟩
  | succ fuel inductionHypothesis =>
      obtain ⟨members, table, elements⟩ := inductionHypothesis
      exact ⟨fun parent _ bounded => gives_membersOf_succ bounded members table parent,
        fun repeated _ bounded => gives_tableOf_succ bounded members elements repeated,
        fun bounded => gives_elementsOf_succ bounded members elements⟩

/-- Every integer in a document is below the limit. -/
theorem gives_read? (text : String) : Gives Members.Bounded (read? text) := by
  have noMembers : (Section.mk [] false []).members.Bounded := List.forall_mem_nil _
  refine (gives_sections _ noMembers _).bind fun found areFound => ?_
  split
  · exact gives_none
  next root rest =>
    obtain ⟨isRoot, areOthers⟩ := List.forall_mem_cons.mp areFound
    exact ((gives_membersOf _).1 _ areOthers).bind fun others areMembers =>
      gives_some (List.forall_mem_append.mpr ⟨isRoot, areMembers⟩)

end ContactPlan.Toml
