namespace ContactPlan.Toml

/--
No setting has a fraction or a bare date, so that only their presence is kept.
A table that was opened by a dotted key can be extended by another one.
-/
inductive Value where
  | text (value : String)
  | integer (value : Int)
  | float
  | boolean (value : Bool)
  | moment
  | array (values : List Value)
  | table (dotted : Bool) (members : List (String × Value))

/-- The members of a table stand in the order of the document, and a name may come twice. -/
abbrev Members := List (String × Value)

/-- The first member with the name is changed, and a missing one starts as a dotted table. -/
def Members.update? (name : String) (change : Value → Option Value) : Members → Option Members
  | [] => (change (.table true [])).map fun value => [(name, value)]
  | (other, value) :: rest =>
      if other = name then (change value).map fun value => (other, value) :: rest
      else (Members.update? name change rest).map ((other, value) :: ·)

/-- The names but the last lead through dotted tables. -/
def Members.add? (members : Members) (value : Value) : List String → Option Members
  | [] => none
  | [name] => some (members ++ [(name, value)])
  | name :: names =>
      members.update? name fun
        | .table true inner => (Members.add? inner value names).map (.table true)
        | _ => none

/-- A name that comes twice has no value. -/
def Members.unique? (members : Members) (name : String) : Option (Option Value) :=
  match members.filter fun member => member.1 = name with
  | [] => some none
  | [member] => some (some member.2)
  | _ => none

end ContactPlan.Toml
