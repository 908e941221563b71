import RouteInventory.Extraction.Routes
import RouteInventory.Proofs.Pattern.Catalog
import RouteInventory.Proofs.Text.CaseFolding

/-!
What the declarations of a file come to. The pattern takes a verb up to simple case folding, and a
verb is looked up in ASCII case only. The two agree on every spelling without a long s; a
declaration that is spelled with one is matched and then left out (`accounted_routesIn`).
-/

namespace RouteInventory.Extraction

open Pattern Text

/-- The verb of a declaration as it is written. -/
def verbText (text : Array Char) (m : Match) : List Char := (m.groupText text 2).getD []

/-- The literal of a declaration, without its quotes. -/
def literalText (text : Array Char) (m : Match) : String := .ofList ((m.groupText text 3).getD [])

/-- Whether a verb is written without the long s. -/
def isPlain (verb : List Char) : Bool := !verb.contains longS

/-- Whether a verb is `use` in some ASCII case. -/
def isUse (verb : List Char) : Bool := Verb.asciiLower verb == "use".toList

/-! ### Spellings of a verb -/

theorem asciiLower_eq_of_ofName? {cs : List Char} {v : Verb} (h : Verb.ofName? cs = some v) :
    Verb.asciiLower cs = v.name.toList := by
  have := List.find?_some h
  exact (beq_iff_eq.1 this).symm

/-- The names of the verbs are different. -/
theorem ofName?_of_asciiLower {cs : List Char} {v : Verb} (h : Verb.asciiLower cs = v.name.toList) :
    Verb.ofName? cs = some v := by
  have hsame : Verb.ofName? cs = Verb.ofName? v.name.toList := by
    have hlower : Verb.asciiLower v.name.toList = v.name.toList := by cases v <;> decide
    rw [Verb.ofName?, Verb.ofName?, h, hlower]
  rw [hsame, Verb.ofName?_name]

theorem verb_letters : ∀ v : Verb, ∀ k ∈ v.name.toList, k.isLower = true ∧ k ≠ 'k' := by
  have hall : ∀ v : Verb, (v.name.toList.all fun k => k.isLower && k != 'k') = true := by
    intro v
    cases v <;> decide
  intro v k hk
  simpa using List.all_eq_true.1 (hall v) k hk

theorem not_sameFold_kelvin {k : Char} (hk : k.isLower = true) (hne : k ≠ 'k') :
    sameFold kelvin k = false := by
  rw [sameFold, fold_of_isLower hk]
  exact beq_false_of_ne fun h => hne (h.symm.trans (by decide +kernel))

/-- Without the long s a spelling up to case folding is one up to ASCII case. -/
theorem asciiLower_of_forall₂ {cs name : List Char}
    (hname : ∀ k ∈ name, k.isLower = true ∧ k ≠ 'k')
    (h : List.Forall₂ (fun d c => sameFold d c = true) cs name) (hplain : longS ∉ cs) :
    Verb.asciiLower cs = name := by
  induction h with
  | nil => rfl
  | @cons d k cs name hd _ ih =>
    obtain ⟨hk, hne⟩ := hname k List.mem_cons_self
    have hrest : Verb.asciiLower cs = name :=
      ih (fun x hx => hname x (List.mem_cons_of_mem _ hx)) fun hx =>
        hplain (List.mem_cons_of_mem _ hx)
    have hlower : d.toLower = k := by
      rcases sameFold_lower hk hd with hlower | rfl | rfl
      · exact hlower
      · exact absurd List.mem_cons_self hplain
      · rw [not_sameFold_kelvin hk hne] at hd
        exact absurd hd Bool.false_ne_true
    rw [Verb.asciiLower, List.map_cons, hlower, ← Verb.asciiLower, hrest]

/-- A spelling that the pattern takes for a verb is looked up as that verb, unless it is written
    with the long s. -/
theorem ofName?_of_upToCase {cs : List Char} {v : Verb} (h : UpToCase cs v.name) :
    Verb.ofName? cs = if isPlain cs then some v else none := by
  by_cases hplain : longS ∈ cs
  · have hnone : Verb.ofName? cs = none := by
      by_contra hsome
      obtain ⟨u, hu⟩ := Option.ne_none_iff_exists'.1 hsome
      have hmem : longS.toLower ∈ u.name.toList := by
        rw [← asciiLower_eq_of_ofName? hu, Verb.asciiLower]
        exact List.mem_map_of_mem hplain
      exact absurd (verb_letters u _ hmem).1 (by decide)
    simp [isPlain, hplain, hnone]
  · have := ofName?_of_asciiLower (asciiLower_of_forall₂ (verb_letters v) h hplain)
    simp [isPlain, hplain, this]

/-- The lookup tells `use` from the other verbs as its spelling does. -/
theorem isMount_eq_isUse {cs : List Char} {v : Verb} (h : Verb.ofName? cs = some v) :
    v.isMount = isUse cs := by
  rw [isUse, asciiLower_eq_of_ofName? h]
  cases v <;> decide

/-- The method of a verb is its spelling in capitals. -/
theorem method_eq_map_toUpper {cs : List Char} {v : Verb} (h : Verb.ofName? cs = some v) :
    v.method = .ofList (cs.map Char.toUpper) := by
  rw [Verb.method, ← asciiLower_eq_of_ofName? h, Verb.asciiLower, List.map_map]
  congr 1
  exact List.map_congr_left fun c _ => Char.toUpper_toLower_eq_toUpper c

/-! ### The matches of the pattern -/

variable {text : Array Char} {m : Match}

/-- A match has a verb and a literal, and the verb is one of ours up to simple case folding. -/
theorem spelled_of_mem (hm : m ∈ routeDeclaration.matchesIn text) :
    m.groupText text 2 = some (verbText text m) ∧
    (m.groupText text 3).map String.ofList = some (literalText text m) ∧
    ∃ v : Verb, UpToCase (verbText text m) v.name := by
  obtain ⟨r, hr, hstands, -, -, hgroups⟩ := @exists_reading .routeDeclaration text m hm
  have htext := groupText_eq hr hstands hgroups
  have hverb := htext 1
  have hliteral := htext 2
  cases hr with
  | routeDeclaration _ hv _ _ _ =>
    simp only [groupIn?, Nat.reduceAdd, Nat.reduceEqDiff, if_true, if_false] at hverb hliteral
    rw [verbText, literalText, hverb, hliteral]
    exact ⟨rfl, rfl, _, hv⟩

/-- What a match comes to: nothing if its verb is written with the long s. -/
theorem declaration?_eq (hm : m ∈ routeDeclaration.matchesIn text) :
    declaration? text m = (Verb.ofName? (verbText text m)).map fun v => (v, literalText text m) := by
  obtain ⟨hverb, hliteral, -⟩ := spelled_of_mem hm
  obtain ⟨cs, hcs, hlit⟩ := Option.map_eq_some_iff.1 hliteral
  rw [declaration?, hverb, hcs, ← hlit]
  cases h : Verb.ofName? (verbText text m) <;> simp [h]

theorem isSome_ofName? (hm : m ∈ routeDeclaration.matchesIn text) :
    (Verb.ofName? (verbText text m)).isSome = isPlain (verbText text m) := by
  obtain ⟨-, -, v, hv⟩ := spelled_of_mem hm
  rw [ofName?_of_upToCase hv]
  split <;> simp_all

/-! ### What is kept -/

/-- The matches whose verb is written without the long s. -/
def keptIn (text : Array Char) : List Match :=
  (routeDeclaration.matchesIn text).filter fun m => isPlain (verbText text m)

theorem filterMap_ite {α β : Type} (p : α → Bool) (f : α → β) (l : List α) :
    (l.filterMap fun x => if p x then some (f x) else none) = (l.filter p).map f := by
  rw [← List.filterMap_eq_map, List.filterMap_filter]
  rfl

/-- A choice among the declarations is one among the kept matches, if both choose alike. -/
theorem filterMap_declarationsIn {β : Type} {g : Verb × String → Option β} {p : Match → Bool}
    {f : Match → β}
    (h : ∀ m v, Verb.ofName? (verbText text m) = some v →
      g (v, literalText text m) = if p m then some (f m) else none) :
    (declarationsIn text).filterMap g = ((keptIn text).filter p).map f := by
  rw [declarationsIn, List.filterMap_filterMap, keptIn, ← filterMap_ite, List.filterMap_filter]
  refine List.filterMap_congr fun m hm => ?_
  rw [declaration?_eq hm, ← isSome_ofName? hm]
  cases hv : Verb.ofName? (verbText text m) with
  | none => rfl
  | some v => exact h m v hv

/-- Every declaration counts once, as a route or as a prefix. -/
theorem length_routesIn (file : String) (text : Array Char) :
    (routesIn file text).routes.length + (routesIn file text).basePaths.length =
      (declarationsIn text).length := by
  simp only [routesIn, List.length_filterMap_eq_countP]
  rw [List.length_eq_countP_add_countP (fun d : Verb × String => !d.1.isMount)]
  congr 1 <;> refine List.countP_congr fun d _ => ?_ <;> cases d.1.isMount <;> simp

theorem length_declarationsIn (text : Array Char) :
    (declarationsIn text).length =
      (routeDeclaration.matchesIn text).countP fun m => isPlain (verbText text m) := by
  rw [declarationsIn, List.length_filterMap_eq_countP]
  refine List.countP_congr fun m hm => ?_
  rw [declaration?_eq hm, Option.isSome_map, isSome_ofName? hm]

/-- What the matches of the pattern come to. -/
structure Accounted (file : String) (text : Array Char) (ms : List Match) (d : Declarations) :
    Prop where
  /-- Every match has a verb and a literal, and the verb is ours up to simple case folding. -/
  spelled : ∀ m ∈ ms, m.groupText text 2 = some (verbText text m) ∧
    (m.groupText text 3).map String.ofList = some (literalText text m) ∧
    ∃ v : Verb, UpToCase (verbText text m) v.name
  /-- A verb is looked up if it is written without the long s, and only then. -/
  looked : ∀ m ∈ ms, (Verb.ofName? (verbText text m)).isSome = isPlain (verbText text m)
  /-- The literals after `use`, in order. -/
  basePaths : d.basePaths =
    ((ms.filter fun m => isPlain (verbText text m)).filter fun m => isUse (verbText text m)).map
      (literalText text)
  /-- The literals after the other verbs, in order, with the verbs in capitals. -/
  routes : d.routes =
    ((ms.filter fun m => isPlain (verbText text m)).filter fun m => !isUse (verbText text m)).map
      fun m => ⟨literalText text m, .ofList ((verbText text m).map Char.toUpper), file⟩
  /-- Nothing is lost exactly if no verb is written with the long s. -/
  total : d.routes.length + d.basePaths.length = ms.length ↔
    ∀ m ∈ ms, longS ∉ verbText text m

/-- The declarations of a file are accounted for. -/
theorem accounted_routesIn (file : String) (text : Array Char) :
    Accounted file text (routeDeclaration.matchesIn text) (routesIn file text) where
  spelled _ hm := spelled_of_mem hm
  looked _ hm := isSome_ofName? hm
  basePaths := by
    refine filterMap_declarationsIn fun m v hv => ?_
    rw [← isMount_eq_isUse hv]
  routes := by
    refine filterMap_declarationsIn fun m v hv => ?_
    rw [← isMount_eq_isUse hv, ← method_eq_map_toUpper hv]
    cases hmount : v.isMount <;> simp [hmount]
  total := by
    rw [length_routesIn, length_declarationsIn, List.countP_eq_length]
    simp [isPlain]

/-- A mount that is spelled with the long s is matched, and no prefix comes of it. -/
theorem mount_with_longS_lost :
    (routeDeclaration.matchesIn "app.u\u017Fe('/x')".toList.toArray).length = 1 ∧
    routesIn "a.js" "app.u\u017Fe('/x')".toList.toArray = ⟨[], []⟩ := by
  decide +kernel

end RouteInventory.Extraction
