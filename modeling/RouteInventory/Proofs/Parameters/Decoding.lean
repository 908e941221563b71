import RouteInventory.Proofs.Parameters.QueryString

/-!
Reading a query string back when its names may hold equals signs. The value of a piece holds none,
so a piece is cut at its last equals sign; and if no name holds an ampersand, the string is cut at
the ampersands. Read in this way, a query string gives back its names in their order, each with the
tag and its number (`decode_render`).
-/

namespace RouteInventory.QueryString

open Text

/-- What stands in front of the last separator of a text, and what stands behind it. -/
def cutLast? (sep : Char) (s : List Char) : Option (List Char × List Char) :=
  match s.reverse.dropWhile (· ≠ sep) with
  | [] => none
  | _ :: front => some (front.reverse, (s.reverse.takeWhile (· ≠ sep)).reverse)

/-- The name and the value of a piece, which is cut at its last equals sign. -/
def assignment? (piece : List Char) : Option (String × String) :=
  (cutLast? '=' piece).map fun (name, value) => (.ofList name, .ofList value)

/-- The names and values of a query string, which is cut at its ampersands; there are none in an
    empty one. -/
def decode? (q : String) : Option (List (String × String)) :=
  if q = "" then some [] else (split '&' q.toList).mapM assignment?

/-- What the parameters are called: body names before query names, without their colons, less those
    of which nothing is left and every later repetition. -/
def distinctNames (body query : List FileItems) : List String :=
  let names := (body.flatMap (·.items) ++ query.flatMap (·.items)).map
    fun name => String.ofList (name.toList.filter (· ≠ ':'))
  (names.filter (· ≠ "")).eraseDups

/-- The names, each with the tag and its number; the first has the number `n`. -/
def numbered (tag : String) (n : Nat) (names : List String) : List (String × String) :=
  (names.zipIdx n).map fun (name, number) => (name, tag ++ toString number)

/-! ### Cutting -/

variable {sep : Char} {tag : String} {body query : List FileItems}

theorem cutLast?_append {back : List Char} (h : sep ∉ back) (front : List Char) :
    cutLast? sep (front ++ sep :: back) = some (front, back) := by
  have hback : ∀ c ∈ back.reverse, decide (c ≠ sep) = true := by
    intro c hc
    rw [decide_eq_true_iff]
    exact fun heq => h (heq ▸ List.mem_reverse.1 hc)
  have hreverse : (front ++ sep :: back).reverse = back.reverse ++ sep :: front.reverse := by simp
  rw [cutLast?, hreverse, List.dropWhile_append_of_pos hback, List.takeWhile_append_of_pos hback]
  simp

theorem ofList_value (tag : String) (n : Nat) : .ofList (value tag n) = tag ++ toString n := by
  rw [← String.toList_inj, String.toList_ofList, String.toList_append, value]

/-- A piece is cut where its name ends. -/
theorem assignment?_piece (htag : '=' ∉ tag.toList) (n : Nat) (name : String) :
    assignment? (piece tag n name) = some (name, tag ++ toString n) := by
  rw [assignment?, piece_eq, cutLast?_append (not_mem_value htag (by decide) n), Option.map_some]
  simp only [String.ofList_toList, ofList_value]

theorem mapM_assignment?_pieces (htag : '=' ∉ tag.toList) (n : Nat) (names : List String) :
    (pieces tag n names).mapM assignment? = some (numbered tag n names) := by
  induction names generalizing n with
  | nil => rfl
  | cons name names ih =>
    rw [pieces, List.mapM_cons, assignment?_piece htag, ih]
    rfl

/-! ### Query strings -/

theorem names_eq_distinctNames (body query : List FileItems) :
    names body query = distinctNames body query := by
  rw [names, distinctNames, OrderedSet.items_ofList, List.flatMap_append]

/-- No name of a list of parameters holds an ampersand. -/
def NoAmpersand (items : List FileItems) : Prop :=
  ∀ entry ∈ items, ∀ name ∈ entry.items, '&' ∉ name.toList

theorem amp_not_mem_of_mem_names (hbody : NoAmpersand body) (hquery : NoAmpersand query) :
    ∀ name ∈ names body query, '&' ∉ name.toList := by
  intro name hname hamp
  obtain ⟨-, parameter, hparameter, hclean⟩ := mem_names_iff.1 hname
  rw [← hclean] at hamp
  have hin := List.mem_of_mem_filter hamp
  rcases hparameter with h | h
  · obtain ⟨entry, hentry, hitem⟩ := List.mem_flatMap.1 h
    exact hbody entry hentry parameter hitem hin
  · obtain ⟨entry, hentry, hitem⟩ := List.mem_flatMap.1 h
    exact hquery entry hentry parameter hitem hin

/-- A query string is read back as the names and their values. -/
theorem decode?_render_eq (htag : '&' ∉ tag.toList ∧ '=' ∉ tag.toList) (hbody : NoAmpersand body)
    (hquery : NoAmpersand query) :
    decode? (render body query tag) = some (numbered tag 1 (distinctNames body query)) := by
  rw [decode?]
  rw [← names_eq_distinctNames]
  by_cases hempty : render body query tag = ""
  · rw [if_pos hempty, render_eq_empty_iff.1 hempty]
    rfl
  · have hne : names body query ≠ [] := mt render_eq_empty_iff.2 hempty
    rw [if_neg hempty, toList_render,
      split_join_pieces htag.1 1 hne (amp_not_mem_of_mem_names hbody hquery),
      mapM_assignment?_pieces htag.2]

/-- Numbered names tell the names. -/
theorem map_fst_numbered (tag : String) (n : Nat) (names : List String) :
    (numbered tag n names).map Prod.fst = names := by
  rw [numbered, List.map_map]
  exact List.zipIdx_map_fst n names

/-- If no parameter holds an ampersand and the tag no separator, the query string is read back as
    the names, each with the tag and its number; it is empty if there are none; and it tells the list
    of names apart from any other. -/
theorem decode_render {body query : List FileItems} {tag : String}
    (htag : '&' ∉ tag.toList ∧ '=' ∉ tag.toList) (hbody : NoAmpersand body)
    (hquery : NoAmpersand query) :
    decode? (render body query tag) = some (numbered tag 1 (distinctNames body query)) ∧
    (render body query tag = "" ↔ distinctNames body query = []) ∧
    ∀ body' query', NoAmpersand body' → NoAmpersand query' →
      (render body query tag = render body' query' tag ↔
        distinctNames body query = distinctNames body' query') := by
  have hread := decode?_render_eq htag hbody hquery
  have hempty : render body query tag = "" ↔ distinctNames body query = [] := by
    rw [← names_eq_distinctNames, render_eq_empty_iff]
  refine ⟨hread, hempty, fun body' query' hbody' hquery' => ⟨fun h => ?_, fun h => ?_⟩⟩
  · have hread' := decode?_render_eq htag hbody' hquery'
    rw [← h, hread] at hread'
    rw [← map_fst_numbered tag 1 (distinctNames body query), Option.some.inj hread',
      map_fst_numbered]
  · rw [render, render, names_eq_distinctNames, names_eq_distinctNames, h]

/-- Names that hold equals signs and colons, one of them given twice. -/
theorem decode_render_of_equals :
    let body : List FileItems := [⟨"a.js", ["a=1", "b:", ":"]⟩]
    let query : List FileItems := [⟨"b.js", ["b", "x=T1=2"]⟩]
    ('&' ∉ "T".toList ∧ '=' ∉ "T".toList) ∧ NoAmpersand body ∧ NoAmpersand query ∧
      render body query "T" = "a=1=T1&b=T2&x=T1=2=T3" ∧
      decode? "a=1=T1&b=T2&x=T1=2=T3" = some [("a=1", "T1"), ("b", "T2"), ("x=T1=2", "T3")] := by
  intro body query
  have htag : '&' ∉ "T".toList ∧ '=' ∉ "T".toList := by decide
  have hbody : NoAmpersand body := by simp [NoAmpersand, body]
  have hquery : NoAmpersand query := by simp [NoAmpersand, query]
  have hrender : render body query "T" = "a=1=T1&b=T2&x=T1=2=T3" := by decide +kernel
  have hnumbered : numbered "T" 1 (distinctNames body query) =
      [("a=1", "T1"), ("b", "T2"), ("x=T1=2", "T3")] := by decide +kernel
  refine ⟨htag, hbody, hquery, hrender, ?_⟩
  rw [← hrender, (decode_render htag hbody hquery).1, hnumbered]

end RouteInventory.QueryString
