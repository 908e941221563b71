/-!
Sets that remember the order in which their members were first given. The members are a list without
duplicates; giving one again changes nothing.
-/

namespace RouteInventory

/-- Distinct members in the order in which they were first given. -/
structure OrderedSet (α : Type) [DecidableEq α] where
  items : List α
  nodup : items.Nodup

namespace OrderedSet

variable {α : Type} [DecidableEq α]

/-- The set without members. -/
def empty : OrderedSet α := ⟨[], .nil⟩

instance : Inhabited (OrderedSet α) := ⟨empty⟩

theorem ext_items {s t : OrderedSet α} (h : s.items = t.items) : s = t := by
  cases s; cases t; simp_all

/-- Sets are equal when they hold the same members in the same order. -/
instance : DecidableEq (OrderedSet α) := fun s t =>
  if h : s.items = t.items then isTrue (ext_items h) else isFalse fun e => h (e ▸ rfl)

/-- Membership. -/
def contains (s : OrderedSet α) (x : α) : Bool := decide (x ∈ s.items)

instance : Membership α (OrderedSet α) := ⟨fun s x => x ∈ s.items⟩

/-- The number of members. -/
def size (s : OrderedSet α) : Nat := s.items.length

/-- Whether there are no members. -/
def isEmpty (s : OrderedSet α) : Bool := s.items.isEmpty

/-- A new member goes to the end; one that is there keeps its place. -/
def insert (s : OrderedSet α) (x : α) : OrderedSet α :=
  if h : x ∈ s.items then s
  else ⟨s.items ++ [x], List.nodup_append.2 ⟨s.nodup, by simp, by
    intro a ha b hb hab
    rw [List.mem_singleton] at hb
    exact h (hb ▸ hab ▸ ha)⟩⟩

/-- `insert`, and whether the member was new. -/
def insertNew (s : OrderedSet α) (x : α) : Bool × OrderedSet α := (!s.contains x, s.insert x)

/-- The members of a list, after those already there. -/
def insertAll (s : OrderedSet α) (xs : List α) : OrderedSet α := xs.foldl insert s

/-- The set of a list's members. -/
def ofList (xs : List α) : OrderedSet α := empty.insertAll xs

@[simp] theorem items_empty : (empty : OrderedSet α).items = [] := rfl

theorem items_insert (s : OrderedSet α) (x : α) :
    (s.insert x).items = if x ∈ s.items then s.items else s.items ++ [x] := by
  unfold insert
  split <;> rfl

@[simp] theorem insertAll_nil (s : OrderedSet α) : s.insertAll [] = s := rfl

@[simp] theorem insertAll_cons (s : OrderedSet α) (x : α) (xs : List α) :
    s.insertAll (x :: xs) = (s.insert x).insertAll xs := rfl

theorem mem_def {s : OrderedSet α} {x : α} : x ∈ s ↔ x ∈ s.items := Iff.rfl

@[simp] theorem contains_iff {s : OrderedSet α} {x : α} : s.contains x = true ↔ x ∈ s := by
  simp [contains, mem_def]

/-- Giving a member again changes nothing. -/
theorem insert_of_mem {s : OrderedSet α} {x : α} (h : x ∈ s) : s.insert x = s :=
  ext_items (by rw [items_insert, if_pos (mem_def.1 h)])

@[simp] theorem mem_insert {s : OrderedSet α} {x y : α} : y ∈ s.insert x ↔ y ∈ s ∨ y = x := by
  rw [mem_def, mem_def, items_insert]
  split
  · next h => exact ⟨Or.inl, fun hy => hy.elim id fun e => e ▸ h⟩
  · simp

@[simp] theorem mem_insertAll {xs : List α} : ∀ {s : OrderedSet α} {y : α},
    y ∈ s.insertAll xs ↔ y ∈ s ∨ y ∈ xs := by
  induction xs with
  | nil => simp
  | cons x xs ih =>
    intro s y
    rw [insertAll_cons, ih, mem_insert, List.mem_cons, or_assoc]

/-- The set of a list has the members of the list. -/
theorem mem_ofList {xs : List α} {y : α} : y ∈ ofList xs ↔ y ∈ xs := by
  simp [ofList, mem_def (s := empty)]

theorem insertAll_append (s : OrderedSet α) (xs ys : List α) :
    s.insertAll (xs ++ ys) = (s.insertAll xs).insertAll ys := by
  simp [insertAll]

theorem insertAll_items_insert (s t : OrderedSet α) (x : α) :
    s.insertAll (t.insert x).items = (s.insertAll t.items).insert x := by
  rw [items_insert]
  split
  · next h =>
    have hmem : x ∈ s.insertAll t.items := mem_insertAll.2 (.inr h)
    rw [insert_of_mem hmem]
  · rw [insertAll_append, insertAll_cons, insertAll_nil]

theorem insertAll_items_insertAll (s t : OrderedSet α) (xs : List α) :
    s.insertAll (t.insertAll xs).items = (s.insertAll t.items).insertAll xs := by
  induction xs generalizing t with
  | nil => rfl
  | cons x xs ih => rw [insertAll_cons, ih, insertAll_items_insert, insertAll_cons]

/-- The set of two lists has the members of the first and then those of the second. -/
theorem ofList_append (xs ys : List α) :
    ofList (xs ++ ys) = (ofList xs).insertAll (ofList ys).items := by
  have hset : (ofList xs).insertAll (ofList ys).items = (ofList xs).insertAll ys :=
    insertAll_items_insertAll (ofList xs) empty ys
  rw [hset]
  exact insertAll_append empty xs ys

/-- The members of a list come after those already there, later repetitions dropped. -/
theorem items_insertAll (s : OrderedSet α) (xs : List α) :
    (s.insertAll xs).items = s.items ++ (xs.filter (· ∉ s.items)).eraseDups := by
  induction xs generalizing s with
  | nil => simp
  | cons x xs ih =>
    rw [insertAll_cons, ih, items_insert]
    by_cases h : x ∈ s.items
    · simp [h]
    · simp [h, List.eraseDups_cons, List.filter_filter, Bool.and_comm, Bool.beq_eq_decide_eq]

/-- The members of a list are set in order of first appearance. -/
theorem items_ofList (xs : List α) : (ofList xs).items = xs.eraseDups := by
  have hall : xs.filter (· ∉ (empty : OrderedSet α).items) = xs := by simp
  rw [ofList, items_insertAll, hall, items_empty, List.nil_append]

end OrderedSet
end RouteInventory
