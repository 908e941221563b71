import RouteInventory.Proofs.FilePath.Parts
import RouteInventory.Proofs.Text.Octets
import Mathlib.Data.List.Lex

/-!
The order of paths: part by part, names by their octets. Of two paths below a directory the one
comes first whose way goes on to the other, or whose name is smaller where the ways part.
-/

namespace RouteInventory.FilePath

/-- The place of a part's kind among the others. -/
def Part.rank : Part → Nat
  | root => 0
  | here => 1
  | up => 2
  | name _ => 3

/-- Parts are ordered by kind, and names by their octets. -/
def Part.Lt : Part → Part → Prop
  | name a, name b => Text.encode a.toList < Text.encode b.toList
  | a, b => a.rank < b.rank

/-- Whether a path comes before another. -/
def Before (p q : String) : Prop := List.Lex Part.Lt (parts p) (parts q)

instance : Std.Asymm Part.Lt where
  asymm p q h := by
    cases p <;> cases q
    case name.name a b => exact fun h' => List.lt_irrefl _ (List.lt_trans h h')
    all_goals exact Nat.lt_asymm h

/-- Of two paths only one can come first. -/
theorem before_asymm {p q : String} (h : Before p q) : ¬ Before q p :=
  Std.Asymm.asymm (parts p) (parts q) h

section Under

variable {dir : String} {names : List String}

/-- A path comes before the paths below it. -/
theorem before_under (hdir : dir ≠ "") (hnames : ∀ name ∈ names, IsProper name)
    {more : List String} (hmore : IsWay more) :
    Before (under dir names) (under dir (names ++ more)) := by
  obtain ⟨name, rest, rfl⟩ := List.exists_cons_of_ne_nil hmore.1
  rw [Before, parts_under hdir hnames,
    parts_under hdir (List.forall_mem_append.2 ⟨hnames, hmore.2⟩), List.map_append,
    ← List.append_assoc]
  conv => arg 2; rw [← List.append_nil (parts dir ++ _)]
  exact List.Lex.append_left _ .nil _

/-- Where ways part, the smaller name comes first. -/
theorem before_of_lt (hdir : dir ≠ "") (hnames : ∀ name ∈ names, IsProper name) {a b : String}
    (hab : a < b) {restA restB : List String} (ha : ∀ name ∈ a :: restA, IsProper name)
    (hb : ∀ name ∈ b :: restB, IsProper name) :
    Before (under dir (names ++ a :: restA)) (under dir (names ++ b :: restB)) := by
  rw [Before, parts_under hdir (List.forall_mem_append.2 ⟨hnames, ha⟩),
    parts_under hdir (List.forall_mem_append.2 ⟨hnames, hb⟩), List.map_append, List.map_append,
    ← List.append_assoc, ← List.append_assoc]
  refine List.Lex.append_left _ (.rel ?_) _
  exact Text.encode_lt_encode (String.lt_iff.1 hab)

end Under

end RouteInventory.FilePath
