/-!
# Records as text

Values are described to a reader as records: a name and the fields in order. A
record that does not show all it holds ends in two dots, and a record of a
name alone is just the name. The text is either on one line or indented with a
line for each field.
-/

namespace Blake2b.Text

/-- What the description of a value shows. -/
structure Record where
  name : String
  fields : List (String × String)
  complete : Bool

namespace Record

/-- A record that shows all it holds. -/
def full (name : String) (fields : List (String × String)) : Record :=
  ⟨name, fields, true⟩

/-- A record that keeps some of what it holds to itself. -/
def partly (name : String) (fields : List (String × String)) : Record :=
  ⟨name, fields, false⟩

/-- One entry for each field, and two dots if something is not shown. -/
def entries (r : Record) : List String :=
  r.fields.map (fun field => field.1 ++ ": " ++ field.2) ++
    if r.complete then [] else [".."]

def oneLine (r : Record) : String :=
  if r.entries.isEmpty then r.name
  else r.name ++ " \x7b " ++ ", ".intercalate r.entries ++ " \x7d"

def indented (r : Record) : String :=
  if r.entries.isEmpty then r.name
  else
    r.name ++ " \x7b\n" ++
      String.join (r.fields.map fun field =>
        "    " ++ field.1 ++ ": " ++ field.2 ++ ",\n") ++
      (if r.complete then "" else "    ..\n") ++ "\x7d"

end Record

def byteList (bytes : List UInt8) : String :=
  "[" ++ ", ".intercalate (bytes.map fun byte => toString byte.toNat) ++ "]"

end Blake2b.Text
