import RouteInventory.Record
import RouteInventory.Text.Lines

/-!
Comma-separated rows as RFC 4180 has them, with a newline between records. The comment table has a
heading of bare names and every field below it in quotes; a quote inside a field is written twice.
-/

namespace RouteInventory.Csv

/-- A field with every quote doubled. -/
def escape (field : List Char) : List Char :=
  field.flatMap fun c => if c = '"' then ['"', '"'] else [c]

/-- A record of two fields in quotes. -/
def record (first second : List Char) : List Char :=
  '"' :: escape first ++ '"' :: ',' :: '"' :: escape second ++ ['"']

/-- The rows of the comment table: one for each comment, in order. -/
def commentRows (entries : List FileItems) : List (String × String) :=
  entries.flatMap fun entry => entry.items.map fun comment => (entry.file, comment)

/-- The comment table. -/
def comments (entries : List FileItems) : String :=
  .ofList (Text.join '\n' ("File,Comment".toList ::
    (commentRows entries).map fun (file, comment) => record file.toList comment.toList))

end RouteInventory.Csv
