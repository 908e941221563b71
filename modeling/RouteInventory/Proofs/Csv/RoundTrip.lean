import RouteInventory.Csv
import RouteInventory.Proofs.Text.Pieces
import Mathlib.Data.List.Forall2

/-!
Reading rows with commas as RFC 4180 has them, a newline ending a record. A field is bare or in
quotes. In quotes it may hold anything, each of its quotes being written twice; bare it holds neither
quotes nor commas nor line breaks. The comment table is read back row by row
(`read_comments`), whatever its files and comments hold.
-/

namespace RouteInventory.Csv

/-! ### The reader -/

/-- Where reading is in a field. -/
inductive Mode where
  /-- Before its first character. -/
  | start
  /-- In a bare field. -/
  | bare
  /-- In a field in quotes. -/
  | quoted
  /-- Behind a quote in such a field: it ends the field, unless it is the first of two. -/
  | closed
  deriving DecidableEq, Repr

/-- What has been read, the latest first. -/
structure Reader where
  mode : Mode := .start
  /-- The characters of the field that is being read. -/
  field : List Char := []
  /-- The fields before it in its record. -/
  fields : List (List Char) := []
  /-- The records before that one. -/
  records : List (List (List Char)) := []
  deriving DecidableEq, Repr

namespace Reader

/-- One more character of a field. -/
def push (r : Reader) (mode : Mode) (c : Char) : Reader := { r with mode, field := c :: r.field }

/-- The end of a field. -/
def endField (r : Reader) : Reader :=
  { r with mode := .start, field := [], fields := r.field.reverse :: r.fields }

/-- The end of a record. -/
def endRecord (r : Reader) : Reader :=
  { records := (r.field.reverse :: r.fields).reverse :: r.records }

/-- One character. -/
def step (r : Reader) (c : Char) : Option Reader :=
  match r.mode with
  | .quoted => some (if c = '"' then { r with mode := .closed } else r.push .quoted c)
  | mode =>
    if c = '"' then
      match mode with
      | .start => some { r with mode := .quoted }
      | .closed => some (r.push .quoted c)
      | _ => none
    else if c = ',' then some r.endField
    else if c = '\n' then some r.endRecord
    else if mode = .closed ∨ c = '\r' then none
    else some (r.push .bare c)

/-- The records of a text that ends here. A newline at the end only ends the last record. -/
def finish (r : Reader) : Option (List (List (List Char))) :=
  if r.mode = .quoted then none
  else if r.mode = .start ∧ r.fields = [] ∧ r.records ≠ [] then some r.records.reverse
  else some r.endRecord.records.reverse

end Reader

/-- The records of a text. -/
def readChars (s : List Char) : Option (List (List (List Char))) :=
  (s.foldlM Reader.step {}).bind Reader.finish

/-- `readChars` on strings. -/
def read (s : String) : Option (List (List String)) :=
  (readChars s.toList).map fun records => records.map fun fields => fields.map String.ofList

example : read "a,\"b,\"\"\n\"\n,c\n" = some [["a", "b,\"\n"], ["", "c"]] := by decide

example : read "a\"b" = none ∧ read "\"a\"b" = none ∧ read "\"a" = none := by decide

/-! ### Reading what is written -/

variable {written : List Char} {fields : List (List Char)}

/-- In quotes, a field is read as it was before its quotes were doubled. -/
theorem foldlM_step_escape (field : List Char) (r : Reader) (hr : r.mode = .quoted) :
    (escape field).foldlM Reader.step r = some { r with field := field.reverse ++ r.field } := by
  induction field generalizing r with
  | nil => rfl
  | cons c field ih =>
    have hchar : (if c = '"' then ['"', '"'] else [c]).foldlM Reader.step r =
        some (r.push .quoted c) := by
      split
      · next hquote => simp [hquote, Reader.step, hr, Reader.push]
      · next hquote => simp [hquote, Reader.step, hr]
    rw [escape, List.flatMap_cons, List.foldlM_append, hchar]
    simp only [Option.bind_eq_bind, Option.bind_some]
    rw [← escape, ih _ rfl]
    simp [Reader.push, hr]

/-- Whether a text is read as one record, from the beginning of the record up to the end of its last
    field. -/
def IsRecord (written : List Char) (fields : List (List Char)) : Prop :=
  ∀ records, ∃ r, written.foldlM Reader.step { records } = some r ∧
    (r.mode = .bare ∨ r.mode = .closed) ∧ r.endRecord.records = fields :: records

theorem isRecord_record (first second : List Char) :
    IsRecord (record first second) [first, second] := by
  intro records
  refine ⟨⟨.closed, second.reverse, [first], records⟩, ?_, .inr rfl, by simp [Reader.endRecord]⟩
  simp [record, List.foldlM_append, List.foldlM_cons, foldlM_step_escape, Reader.step,
    Reader.endField]

theorem isRecord_heading : IsRecord "File,Comment".toList ["File".toList, "Comment".toList] :=
  fun _ => ⟨_, rfl, .inl rfl, rfl⟩

/-- Records with newlines between them are read one after the other. -/
theorem bind_finish_join {texts : List (List Char)} {table : List (List (List Char))}
    (h : List.Forall₂ IsRecord texts table) (hne : texts ≠ []) (records : List (List (List Char))) :
    ((Text.join '\n' texts).foldlM Reader.step { records }).bind Reader.finish =
      some (records.reverse ++ table) := by
  induction h generalizing records with
  | nil => exact absurd rfl hne
  | @cons written fields texts table hrecord hrest ih =>
    obtain ⟨r, hread, hmode, hrecords⟩ := hrecord records
    cases texts with
    | nil =>
      cases hrest
      have hfinish : r.finish = some r.endRecord.records.reverse := by
        rcases hmode with hmode | hmode <;> simp [Reader.finish, hmode]
      rw [Text.join, hread, Option.bind_some, hfinish, hrecords, List.reverse_cons]
    | cons next texts =>
      have hnewline : r.step '\n' = some { records := fields :: records } := by
        rw [← hrecords]
        rcases hmode with hmode | hmode <;> simp [Reader.step, Reader.endRecord, hmode]
      rw [Text.join_cons_cons, List.foldlM_append, hread]
      simp only [Option.bind_eq_bind, Option.bind_some, List.foldlM_cons, hnewline]
      rw [ih (by simp), List.reverse_cons, List.append_assoc]
      rfl

/-- The comment table is read back: its heading, and a record for each comment. So two tables are the
    same text exactly if they have the same rows. -/
theorem read_comments :
    (∀ entries : List FileItems, read (comments entries) =
      some (["File", "Comment"] ::
        entries.flatMap fun entry => entry.items.map fun comment => [entry.file, comment])) ∧
    ∀ entries others : List FileItems,
      comments entries = comments others ↔ commentRows entries = commentRows others := by
  have hread : ∀ entries, read (comments entries) = some (["File", "Comment"] ::
      (commentRows entries).map fun row => [row.1, row.2]) := by
    intro entries
    have hrows : List.Forall₂ IsRecord
        ((commentRows entries).map fun row => record row.1.toList row.2.toList)
        ((commentRows entries).map fun row => [row.1.toList, row.2.toList]) := by
      rw [List.forall₂_map_left_iff, List.forall₂_map_right_iff, List.forall₂_same]
      exact fun row _ => isRecord_record _ _
    have htable := bind_finish_join (.cons isRecord_heading hrows) (by simp) []
    rw [read, readChars, comments, String.toList_ofList, htable]
    simp [String.ofList_toList]
  constructor
  · intro entries
    rw [hread, commentRows]
    simp only [List.map_flatMap, List.map_map]
    rfl
  · intro entries others
    constructor
    · intro h
      have hrows := (hread entries).symm.trans (h ▸ hread others)
      simp only [Option.some.injEq, List.cons.injEq, true_and] at hrows
      refine List.map_injective_iff.2 ?_ hrows
      rintro ⟨file, comment⟩ ⟨file', comment'⟩ heq
      simpa using heq
    · intro h
      rw [comments, comments, h]

end RouteInventory.Csv
