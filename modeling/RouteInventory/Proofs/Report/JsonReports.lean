import RouteInventory.Proofs.Json.RoundTrip
import RouteInventory.Report

/-!
What can be read back from the reports in JSON: everything (`holdsRecords_files`). A record is read
from an object that has exactly the record's fields, each found by its name wherever it stands; a
report is an array of such objects.
-/

namespace RouteInventory

namespace Json.Value

variable {α : Type}

/-- A string. -/
def text? : Value → Option String
  | text s => some s
  | _ => none

/-- An array, read element by element. -/
def items? (read : Value → Option α) : Value → Option (List α)
  | array vs => vs.mapM read
  | _ => none

/-- The values of the fields of these names, in the order of the names, of an object that has no
    other fields. -/
def record? (names : List String) : Value → Option (List Value)
  | object fields =>
    if fields.length = names.length then names.mapM fun name => fields.lookup name else none
  | _ => none

theorem mapM_map {β : Type} {write : α → β} {read : β → Option α}
    (h : ∀ x, read (write x) = some x) (xs : List α) : (xs.map write).mapM read = some xs := by
  induction xs with
  | nil => rfl
  | cons x xs ih => simp [h, ih]

/-- An array is read back if its elements are. -/
theorem items?_value {write : α → Json} {read : Value → Option α}
    (h : ∀ x, read (write x).value = some x) (xs : List α) :
    (Json.array (xs.map write)).value.items? read = some xs := by
  rw [value, itemValues_eq_map, List.map_map]
  exact mapM_map h xs

theorem items?_texts (xs : List String) : (Json.texts xs).value.items? text? = some xs :=
  items?_value (fun x => (rfl : text? (Json.text x).value = some x)) xs

end Json.Value

namespace Report

open Json (Value)

/-- A route. -/
def route? (v : Value) : Option Route := do
  let [path, method, file] ← v.record? ["route", "method", "file"] | none
  return ⟨← path.text?, ← method.text?, ← file.text?⟩

/-- A bare URL. -/
def url? (v : Value) : Option UrlMention := do
  let [url, file] ← v.record? ["url", "file"] | none
  return ⟨← url.text?, ← file.text?⟩

/-- The items of a file, under the name that says what they are. -/
def items? (kind : String) (v : Value) : Option FileItems := do
  let [file, items] ← v.record? ["file", kind] | none
  return ⟨← file.text?, ← items.items? Value.text?⟩

/-- The `:name` segments of a route. -/
def pathParameters? (v : Value) : Option PathParameters := do
  let [route, file, names] ← v.record? ["route", "file", "parameters"] | none
  return ⟨← route.text?, ← file.text?, ← names.items? Value.text?⟩

theorem route?_ofRoute (r : Route) : route? (ofRoute r).value = some r := rfl

theorem url?_ofUrl (u : UrlMention) : url? (ofUrl u).value = some u := rfl

theorem items?_ofItems {kind : String} (hkind : kind ≠ "file") (f : FileItems) :
    items? kind (ofItems kind f).value = some f := by
  have hrecord : (ofItems kind f).value.record? ["file", kind] =
      some [.text f.file, (Json.texts f.items).value] := by
    simp [ofItems, Json.value, Json.fieldValues, Value.record?, List.lookup_cons,
      beq_false_of_ne hkind]
  simp [items?, hrecord, Value.text?, Value.items?_texts]

theorem pathParameters?_ofPathParameters (p : PathParameters) :
    pathParameters? (ofPathParameters p).value = some p := by
  have hrecord : (ofPathParameters p).value.record? ["route", "file", "parameters"] =
      some [.text p.route, .text p.file, (Json.texts p.names).value] := rfl
  simp [pathParameters?, hrecord, Value.text?, Value.items?_texts]

/-- What the report of a name gives, record by record. -/
def records? {α : Type} (read : Value → Option α) (files : List (String × String)) (name : String) :
    Option (List α) := do
  (← Value.ofText? (← files.lookup name)).items? read

/-- What is written record by record is read back. -/
theorem records?_of_lookup {α : Type} {write : α → Json} {read : Value → Option α}
    (h : ∀ x, read (write x).value = some x) {files : List (String × String)} {name : String}
    {xs : List α} (hlookup : files.lookup name = some (arrayOf write xs)) :
    records? read files name = some xs := by
  simp [records?, hlookup, arrayOf, Json.ofText?_pretty, Value.items?_value h]

/-- The reports in JSON hold these parts of an inventory, and nothing else. -/
structure HoldsRecords (files : List (String × String)) (inv : Inventory) : Prop where
  routes : records? route? files "routes.json" = some inv.combinations
  bodyParameters :
    records? (items? "parameters") files "body_parameters.json" = some inv.bodyParameters
  queryParameters :
    records? (items? "parameters") files "query_parameters.json" = some inv.queryParameters
  pathParameters : records? pathParameters? files "path_parameters.json" = some inv.pathParameters
  headers : records? (items? "headers") files "headers.json" = some inv.headers
  otherUrls : records? url? files "other_urls.json" = some inv.otherUrls
  secrets : records? (items? "secrets") files "hardcoded_secrets.json" = some inv.secrets

/-- The reports that are written in JSON can be read back. -/
theorem holdsRecords_files (inv : Inventory) : HoldsRecords (files inv) inv where
  routes := records?_of_lookup route?_ofRoute rfl
  bodyParameters := records?_of_lookup (items?_ofItems (by decide)) rfl
  queryParameters := records?_of_lookup (items?_ofItems (by decide)) rfl
  pathParameters := records?_of_lookup pathParameters?_ofPathParameters rfl
  headers := records?_of_lookup (items?_ofItems (by decide)) rfl
  otherUrls := records?_of_lookup url?_ofUrl rfl
  secrets := records?_of_lookup (items?_ofItems (by decide)) rfl

end Report
end RouteInventory
