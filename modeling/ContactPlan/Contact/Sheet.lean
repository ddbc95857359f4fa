import ContactPlan.Contact.Row

namespace ContactPlan.Sheet

/-- A column is as wide as its widest cell. -/
def widths (rows : List (List String)) : List Nat :=
  rows.foldl (fun widths row => List.zipWith max widths (row.map String.length))
    (Contact.columns.map String.length)

/-- A cell is filled up to its width and has a blank on either side. -/
def cell (width : Nat) (text : String) : String :=
  " " ++ text ++ String.ofList (List.replicate (width + 1 - text.length) ' ')

/-- The last cell of a line is not filled up. -/
def line : List Nat → List String → String
  | width :: second :: widths, text :: texts => cell width text ++ line (second :: widths) texts
  | _, [text] => cell text.length text
  | _, _ => ""

def ruler (widths : List Nat) : String :=
  String.ofList (widths.flatMap fun width => List.replicate (width + 2) '-')

/-- A ruler parts the names of the columns from the rows. -/
def text (contacts : List Contact) : String :=
  let rows := contacts.map Contact.row
  let widths := widths rows
  "\n".intercalate (line widths Contact.columns :: ruler widths :: rows.map (line widths)) ++ "\n"

end ContactPlan.Sheet
