import DiskQuery.Lookup
import DiskQuery.Text.JsonString

/-!
# Records

The answer for one disk as the command prints it: a row of fields that are
separated by tabs, or an object of a JSON array.
-/

namespace DiskQuery.Command

/-- The answer for one disk. -/
structure Record where
  disk : String
  lookup : Lookup
deriving DecidableEq, Repr

/-! ## Rows -/

/-- A flag in a row. -/
def yesNo : Option Bool → String
  | some true => "yes"
  | some false => "no"
  | none => "-"

/-- A record as one row.  A disk that is there shows its attributes, with a
hyphen for each one it does not report.  There is no row for a service out of
reach. -/
def Record.row? (record : Record) : Option String :=
  match record.lookup with
  | .described attributes =>
      some (record.disk ++ "\tremovable: " ++ yesNo attributes.removable ++
        "\tvendor: " ++ attributes.vendor.getD "-" ++
        "\tmodel: " ++ attributes.model.getD "-" ++ "\n")
  | .notFound => some (record.disk ++ "\tnot found\n")
  | .unavailable => none

/-! ## JSON -/

/-- A JSON string. -/
def jsonText (text : String) : String :=
  String.ofList (Text.JsonString.encode text.toList)

/-- A JSON string, or `null`. -/
def jsonText? : Option String → String
  | some text => jsonText text
  | none => "null"

/-- A JSON boolean, or `null`. -/
def jsonFlag? : Option Bool → String
  | some true => "true"
  | some false => "false"
  | none => "null"

/-- The members of an object, one a line, after `indent`. -/
def jsonMembers (indent : String) (members : List (String × String)) : String :=
  String.intercalate ",\n" (members.map fun (name, value) =>
    indent ++ jsonText name ++ ": " ++ value)

/-- An object whose lines after the first stand after `indent`. -/
def jsonObject (indent : String) (members : List (String × String)) : String :=
  "\x7b\n" ++ jsonMembers (indent ++ "  ") members ++ "\n" ++ indent ++ "\x7d"

/-- The attributes as a member, if there are any. -/
def jsonAttributes (indent : String) : Lookup → List (String × String)
  | .described attributes =>
      [("attributes", jsonObject indent
        [("removable", jsonFlag? attributes.removable),
          ("vendor", jsonText? attributes.vendor),
          ("model", jsonText? attributes.model)])]
  | _ => []

/-- A record as a JSON object. -/
def Record.json (record : Record) : String :=
  jsonObject "  " ([("disk", jsonText record.disk), ("status", jsonText record.lookup.status)] ++
    jsonAttributes "    " record.lookup)

/-- Records as a JSON array, in order. -/
def jsonArray : List Record → String
  | [] => "[]\n"
  | records =>
      "[\n" ++ String.intercalate ",\n" (records.map fun record => "  " ++ record.json) ++ "\n]\n"

end DiskQuery.Command
