import RouteInventory.OrderedSet
import Mathlib.Data.Finset.Card

/-!
What an ordered set holds after any run of operations: the values given to it, each at its first
place (`keeps_run`). The members are one list here. They can as well be stored as a list for the
order and, beside it, a set to look them up in, which every operation has to keep in step; a set that
is stored in this way gives the same answers all through a run.
-/

namespace RouteInventory.OrderedSet

variable {α : Type} [DecidableEq α]

/-- An operation that gives values to a set. -/
inductive Op (α : Type) where
  | insert (x : α)
  | extend (xs : List α)
  deriving DecidableEq, Repr

/-- The values that an operation gives. -/
def Op.given : Op α → List α
  | insert x => [x]
  | extend xs => xs

/-- The values that a list of operations gives, in their order. -/
def givenBy (ops : List (Op α)) : List α := ops.flatMap Op.given

/-- The set after an operation. -/
def apply (s : OrderedSet α) : Op α → OrderedSet α
  | .insert x => (s.insertNew x).2
  | .extend xs => s.insertAll xs

/-- The set after a list of operations. -/
def run (s : OrderedSet α) (ops : List (Op α)) : OrderedSet α := ops.foldl apply s

/-! ### Runs -/

/-- An operation goes from the set of the values so far to the set of these and its own. -/
theorem apply_ofList (given : List α) (op : Op α) :
    (ofList given).apply op = ofList (given ++ op.given) := by
  rw [ofList, ofList, insertAll_append]
  cases op <;> rfl

/-- And so does a list of operations. -/
theorem run_ofList (initial : List α) (ops : List (Op α)) :
    (ofList initial).run ops = ofList (initial ++ givenBy ops) := by
  induction ops generalizing initial with
  | nil => rw [givenBy, List.flatMap_nil, List.append_nil, run, List.foldl_nil]
  | cons op ops ih =>
    have hrest := ih (initial ++ op.given)
    rw [← apply_ofList, List.append_assoc] at hrest
    exact hrest

/-! ### The set of a list -/

/-- Distinct values that are all new go to the end as they are. -/
theorem items_insertAll_of_nodup {xs : List α} (hxs : xs.Nodup) {s : OrderedSet α}
    (hnew : ∀ x ∈ xs, x ∉ s) : (s.insertAll xs).items = s.items ++ xs := by
  induction xs generalizing s with
  | nil => rw [insertAll_nil, List.append_nil]
  | cons x xs ih =>
    obtain ⟨hx, hxs⟩ := List.nodup_cons.1 hxs
    obtain ⟨hxnew, hnew⟩ := List.forall_mem_cons.1 hnew
    have hinsert : (s.insert x).items = s.items ++ [x] := by
      rw [items_insert, if_neg (mt mem_def.2 hxnew)]
    have hnew' : ∀ y ∈ xs, y ∉ s.insert x := by
      intro y hy
      rw [mem_insert, not_or]
      exact ⟨hnew y hy, fun h => hx (h ▸ hy)⟩
    rw [insertAll_cons, ih hxs hnew', hinsert, List.append_assoc, List.singleton_append]

/-- A set is made again from its own members. -/
theorem ofList_items (s : OrderedSet α) : ofList s.items = s := by
  refine ext_items ?_
  rw [ofList, items_insertAll_of_nodup s.nodup (by simp [mem_def]), items_empty, List.nil_append]

/-- There are as many members as distinct values. -/
theorem size_ofList (xs : List α) : (ofList xs).size = xs.toFinset.card := by
  have hsame : (ofList xs).items.toFinset = xs.toFinset := by
    ext x
    rw [List.mem_toFinset, List.mem_toFinset, ← mem_def, mem_ofList]
  rw [← hsame, List.toFinset_card_of_nodup (ofList xs).nodup, size]

/-! ### Sets stored in two parts -/

/-- A set stored in two parts: the members in order, and the same members as a set to look them up
    in. -/
structure Stored (α : Type) [DecidableEq α] where
  order : List α
  members : Finset α

namespace Stored

/-- The set without members. -/
def empty : Stored α := ⟨[], ∅⟩

/-- Looks a value up, and puts it into both parts if it is not found. -/
def insertNew (t : Stored α) (x : α) : Bool × Stored α :=
  if x ∈ t.members then (false, t) else (true, ⟨t.order ++ [x], Insert.insert x t.members⟩)

/-- The values of a list, inserted one after the other. -/
def insertAll (t : Stored α) (xs : List α) : Stored α := xs.foldl (fun t x => (t.insertNew x).2) t

/-- The set of a list's values. -/
def ofList (xs : List α) : Stored α := empty.insertAll xs

/-- Whether a value is found. -/
def contains (t : Stored α) (x : α) : Bool := decide (x ∈ t.members)

/-- The number of members. -/
def size (t : Stored α) : Nat := t.order.length

/-- The set after an operation. -/
def apply (t : Stored α) : Op α → Stored α
  | .insert x => (t.insertNew x).2
  | .extend xs => t.insertAll xs

/-- The set after a list of operations. -/
def run (t : Stored α) (ops : List (Op α)) : Stored α := ops.foldl apply t

/-- The two parts are in step, and they store this set. -/
structure Shows (t : Stored α) (s : OrderedSet α) : Prop where
  order : t.order = s.items
  members : ∀ x, x ∈ t.members ↔ x ∈ t.order

variable {t : Stored α} {s : OrderedSet α}

theorem shows_empty : (empty : Stored α).Shows OrderedSet.empty := ⟨rfl, by simp [empty]⟩

theorem Shows.mem_iff (h : t.Shows s) (x : α) : x ∈ t.members ↔ x ∈ s := by
  rw [h.members, h.order, mem_def]

/-- A stored set gives the answers of the set. -/
theorem Shows.answers (h : t.Shows s) (x : α) :
    t.contains x = s.contains x ∧ t.size = s.size ∧ (t.insertNew x).1 = (s.insertNew x).1 := by
  have hcontains : t.contains x = s.contains x := by
    rw [Bool.eq_iff_iff, contains, decide_eq_true_iff, h.mem_iff, contains_iff]
  refine ⟨hcontains, congrArg List.length h.order, ?_⟩
  rw [OrderedSet.insertNew, ← hcontains, insertNew, contains]
  split <;> simp [*]

/-- Inserting keeps the two parts in step. -/
theorem Shows.insertNew (h : t.Shows s) (x : α) : (t.insertNew x).2.Shows (s.insertNew x).2 := by
  rw [Stored.insertNew, OrderedSet.insertNew]
  split
  · next hx => rwa [insert_of_mem ((h.mem_iff x).1 hx)]
  · next hx =>
    have hnew : x ∉ s := mt (h.mem_iff x).2 hx
    constructor
    · rw [items_insert, if_neg (mt mem_def.2 hnew), h.order]
    · intro y
      rw [Finset.mem_insert, h.members, List.mem_append, List.mem_singleton, or_comm]

theorem Shows.insertAll (h : t.Shows s) (xs : List α) : (t.insertAll xs).Shows (s.insertAll xs) := by
  induction xs generalizing t s with
  | nil => exact h
  | cons x xs ih => exact ih (h.insertNew x)

theorem Shows.apply (h : t.Shows s) (op : Op α) : (t.apply op).Shows (s.apply op) := by
  cases op with
  | insert x => exact h.insertNew x
  | extend xs => exact h.insertAll xs

/-- And so does every list of operations. -/
theorem Shows.run (h : t.Shows s) (ops : List (Op α)) : (t.run ops).Shows (s.run ops) := by
  induction ops generalizing t s with
  | nil => exact h
  | cons op ops ih => exact ih (h.apply op)

end Stored

/-! ### What is kept -/

/-- What holds of a set to which values have been given in this order, and of the set as it is
    stored in two parts. -/
structure Keeps (given : List α) (s : OrderedSet α) (t : Stored α) : Prop where
  /-- The members are the given values, less every later repetition. -/
  items : s.items = given.eraseDups
  nodup : s.items.Nodup
  contains : ∀ x, s.contains x = true ↔ x ∈ given
  size : s.size = given.toFinset.card
  /-- To insert a value tells whether it is given for the first time. -/
  isNew : ∀ x, (s.insertNew x).1 = true ↔ x ∉ given
  /-- A value that was given before changes nothing, so it keeps its place. -/
  unchanged : ∀ x ∈ given, (s.insertNew x).2 = s
  extend : ∀ xs ys, (s.insertAll xs).insertAll ys = s.insertAll (xs ++ ys)
  rebuilt : ofList s.items = s
  /-- The two parts are in step. -/
  stored : t.Shows s
  /-- They give the same answers. -/
  answers : ∀ x, t.contains x = s.contains x ∧ t.size = s.size ∧
    (t.insertNew x).1 = (s.insertNew x).1

theorem keeps_ofList {given : List α} {t : Stored α} (h : t.Shows (ofList given)) :
    Keeps given (ofList given) t where
  items := items_ofList given
  nodup := (ofList given).nodup
  contains x := by rw [contains_iff, mem_ofList]
  size := size_ofList given
  isNew x := by rw [insertNew, Bool.not_eq_true', ← Bool.not_eq_true, contains_iff, mem_ofList]
  unchanged x hx := insert_of_mem (mem_ofList.2 hx)
  extend xs ys := (insertAll_append _ xs ys).symm
  rebuilt := ofList_items _
  stored := h
  answers := h.answers

/-- After any list of operations a set holds the values given so far, each at its first place, whether
    it began as the set without members or as that of a list. Any part of a run is a run, so this
    tells what each insertion in it answers. -/
theorem keeps_run (ops : List (Op α)) :
    Keeps (givenBy ops) (empty.run ops) (Stored.empty.run ops) ∧
    ∀ initial, Keeps (initial ++ givenBy ops) ((ofList initial).run ops)
      ((Stored.ofList initial).run ops) := by
  have hlist : ∀ initial, Keeps (initial ++ givenBy ops) ((ofList initial).run ops)
      ((Stored.ofList initial).run ops) := by
    intro initial
    have hstored := (Stored.shows_empty.insertAll initial).run ops
    rw [← ofList, run_ofList] at hstored
    rw [run_ofList]
    exact keeps_ofList hstored
  exact ⟨hlist [], hlist⟩

end RouteInventory.OrderedSet
