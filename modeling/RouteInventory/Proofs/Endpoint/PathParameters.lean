import RouteInventory.Parameters
import RouteInventory.Proofs.Endpoint.Composition
import RouteInventory.Proofs.Pattern.Pieces

/-!
The `:name` segments of composed routes. No name holds a slash, a backslash or a point, so nothing
that joining and normalizing puts between segments or takes away can make a name, part it or end it;
unless a segment goes up, and takes back another one with its names. Without such segments a route
under a prefix has the names of the prefix and then its own (`pathParameterNames_composed`).
-/

namespace RouteInventory

open Text UrlPath

/-- Whether a written path has a segment that goes up. -/
def GoesUp (path : String) : Prop := ['.', '.'] ∈ split '/' path.toList

instance (path : String) : Decidable (GoesUp path) := inferInstanceAs (Decidable (_ ∈ _))

/-- The `:name` segments of a text, from left to right. -/
def namesIn (s : List Char) : List (List Char) := Pattern.pathParameter.groupTexts 1 s.toArray

variable {s : List Char} {p : UrlPath} {pieces : List (List Char)}

/-! ### Names of texts -/

theorem avoids_slash : Pattern.pathParameter.avoids '/' = true := by decide

theorem avoids_backslash : Pattern.pathParameter.avoids '\\' = true := by decide

theorem namesIn_nil : namesIn [] = [] := by decide +kernel

theorem namesIn_here : namesIn ['.'] = [] := by decide +kernel

theorem namesIn_up : namesIn ['.', '.'] = [] := by decide +kernel

theorem namesIn_append_slash (s t : List Char) : namesIn (s ++ '/' :: t) = namesIn s ++ namesIn t :=
  Pattern.groupTexts_cut avoids_slash 1

theorem namesIn_join (pieces : List (List Char)) :
    namesIn (Text.join '/' pieces) = pieces.flatMap namesIn := by
  by_cases hne : pieces = []
  · rw [hne]
    exact namesIn_nil
  · exact Pattern.groupTexts_join avoids_slash hne

theorem namesIn_eq_flatMap (s : List Char) : namesIn s = (split '/' s).flatMap namesIn :=
  Pattern.groupTexts_split avoids_slash s

/-! ### Names of paths -/

/-- The `:name` segments of a path, from its first segment to its last one. -/
def namesOf (p : UrlPath) : List (List Char) := p.names.reverse.flatMap namesIn

/-- A segment that does not go up brings its names. -/
theorem namesOf_enter {segment : List Char} (h : segment ≠ ['.', '.']) (p : UrlPath) :
    namesOf (p.enter segment) = namesOf p ++ namesIn segment := by
  by_cases hstays : segment = [] ∨ segment = ['.']
  · have hnone : namesIn segment = [] := by
      rcases hstays with rfl | rfl
      · exact namesIn_nil
      · exact namesIn_here
    rw [enter, if_pos hstays, hnone, List.append_nil]
  · rw [enter, if_neg hstays, if_neg h]
    simp [namesOf]

theorem namesOf_foldl_enter (h : ['.', '.'] ∉ pieces) (p : UrlPath) :
    namesOf (pieces.foldl enter p) = namesOf p ++ pieces.flatMap namesIn := by
  induction pieces generalizing p with
  | nil => rw [List.foldl_nil, List.flatMap_nil, List.append_nil]
  | cons segment pieces ih =>
    obtain ⟨hsegment, hpieces⟩ := not_or.1 (mt List.mem_cons.2 h)
    rw [List.foldl_cons, ih hpieces, namesOf_enter (Ne.symm hsegment), List.flatMap_cons,
      List.append_assoc]

theorem namesIn_join_segments (p : UrlPath) : namesIn (Text.join '/' p.segments) = namesOf p := by
  have hups : (List.replicate p.climbs ['.', '.']).flatMap namesIn = [] := by
    refine List.flatMap_eq_nil_iff.2 fun segment hsegment => ?_
    rw [List.eq_of_mem_replicate hsegment, namesIn_up]
  rw [namesIn_join, segments, List.flatMap_append, hups, List.nil_append, namesOf]

/-- The written form of a path has its names. -/
theorem namesIn_toChars (p : UrlPath) : namesIn p.toChars = namesOf p := by
  have hslash : ∀ t, namesIn (t ++ if p.slashed then ['/'] else []) = namesIn t := by
    intro t
    cases p.slashed with
    | true => exact (namesIn_append_slash t []).trans (by rw [namesIn_nil, List.append_nil])
    | false => exact congrArg namesIn (List.append_nil t)
  have hroot : ∀ t, namesIn ('/' :: t) = namesIn t := by
    intro t
    exact (namesIn_append_slash [] t).trans (by rw [namesIn_nil, List.nil_append])
  have hnone : p.segments = [] → namesOf p = [] := by
    intro h
    rw [← namesIn_join_segments, h]
    exact namesIn_nil
  rw [toChars]
  split
  · split
    · next h => rw [hroot, namesIn_nil, hnone h]
    · rw [hslash, hroot, namesIn_join_segments]
  · rw [hslash]
    split
    · next h => rw [namesIn_here, hnone h]
    · exact namesIn_join_segments p

theorem namesIn_normalizeChars (h : ['.', '.'] ∉ split '/' s) :
    namesIn (normalizeChars s) = namesIn s := by
  rw [normalizeChars, namesIn_toChars, ofChars, namesOf_foldl_enter h, namesIn_eq_flatMap s]
  rfl

/-! ### Names of joined parts -/

/-- Parts that do not go up are joined to a path with the names of each. -/
theorem namesIn_joinChars {parts : List (List Char)}
    (h : ∀ part ∈ parts, ['.', '.'] ∉ split '/' part) :
    namesIn (joinChars parts) = parts.flatMap namesIn := by
  have hfilled : (filled parts).flatMap namesIn = parts.flatMap namesIn := by
    refine flatMap_filter_eq fun part _ hempty => ?_
    obtain rfl : part = [] := by simpa using hempty
    exact namesIn_nil
  rw [← hfilled]
  by_cases hnone : filled parts = []
  · rw [hnone, joinChars, ← filled, hnone]
    exact namesIn_here
  · have hup : ['.', '.'] ∉ split '/' (Text.join '/' (filled parts)) := by
      rw [split_join_eq_flatMap hnone, List.mem_flatMap]
      rintro ⟨part, hpart, hmem⟩
      exact h part (List.mem_of_mem_filter hpart) hmem
    rw [joinChars_of_filled hnone, namesIn_normalizeChars hup, namesIn_join]

theorem namesIn_slashed (path : String) :
    namesIn (slashed path).toList = namesIn path.toList := by
  rw [slashed, String.toList_ofList]
  exact Pattern.groupTexts_replace avoids_backslash avoids_slash _

/-! ### Composed routes -/

theorem pathParameterNames_eq (path : String) :
    pathParameterNames path = (namesIn path.toList).map String.ofList := rfl

/-- A path under a prefix has the names of the prefix and then its own, if neither goes up. -/
theorem pathParameterNames_slashed_join {base path : String} (hbase : ¬ GoesUp base)
    (hpath : ¬ GoesUp path) :
    pathParameterNames (slashed (UrlPath.join [base, path])) =
      pathParameterNames base ++ pathParameterNames path := by
  have hparts : ∀ part ∈ [base.toList, path.toList], ['.', '.'] ∉ split '/' part := by
    intro part hpart
    simp only [List.mem_cons, List.not_mem_nil, or_false] at hpart
    rcases hpart with rfl | rfl
    · exact hbase
    · exact hpath
  have hjoin : namesIn (UrlPath.join [base, path]).toList =
      namesIn base.toList ++ namesIn path.toList := by
    rw [UrlPath.join, String.toList_ofList]
    exact (namesIn_joinChars hparts).trans (by simp)
  rw [pathParameterNames_eq, namesIn_slashed, hjoin, List.map_append]
  rfl

/-- The entry of a route for its `:name` segments, if it has any. -/
def Route.parameters? (route : Route) : Option PathParameters :=
  match pathParameterNames route.path with
  | [] => none
  | names => some ⟨route.path, route.file, names⟩

theorem pathParameters_eq (routes : List Route) :
    pathParameters routes = routes.filterMap Route.parameters? := by
  rw [pathParameters]
  refine List.filterMap_congr fun route _ => ?_
  unfold Route.parameters?
  cases pathParameterNames route.path <;> rfl

/-- The same entry for the route under a prefix. -/
def PathParameters.under (entry : PathParameters) (base : String) : PathParameters :=
  { entry with route := slashed (UrlPath.join [base, entry.route]) }

/-- A prefix that neither goes up nor has names of its own. -/
def IsPlainPrefix (base : String) : Prop := ¬ GoesUp base ∧ pathParameterNames base = []

instance (base : String) : Decidable (IsPlainPrefix base) :=
  inferInstanceAs (Decidable (¬ GoesUp base ∧ pathParameterNames base = []))

variable {base : String} {bases : List String} {route : Route} {routes : List Route}

theorem parameters?_under (hbase : IsPlainPrefix base) (hroute : ¬ GoesUp route.path) :
    (route.under base).parameters? = route.parameters?.map (·.under base) := by
  have hnames : pathParameterNames (slashed (UrlPath.join [base, route.path])) =
      pathParameterNames route.path := by
    rw [pathParameterNames_slashed_join hbase.1 hroute, hbase.2, List.nil_append]
  simp only [under_eq, Route.parameters?, hnames]
  split <;> rfl

/-- A route has an entry under every such prefix if it has one itself. -/
theorem filterMap_under (hbases : ∀ base ∈ bases, IsPlainPrefix base)
    (hroute : ¬ GoesUp route.path) :
    (bases.map route.under).filterMap Route.parameters? =
      route.parameters?.toList.flatMap fun entry => bases.map entry.under := by
  have hentries : ∀ base ∈ bases,
      (route.under base).parameters? = route.parameters?.map (·.under base) :=
    fun base hbase => parameters?_under (hbases base hbase) hroute
  rw [List.filterMap_map, Function.comp_def, List.filterMap_congr hentries]
  cases route.parameters? <;> simp

theorem pathParameters_compose (hne : bases ≠ []) (hbases : ∀ base ∈ bases, IsPlainPrefix base)
    (hroutes : ∀ route ∈ routes, ¬ GoesUp route.path) :
    pathParameters (compose routes bases) =
      (pathParameters routes).flatMap fun entry => bases.map entry.under := by
  rw [compose_of_ne_nil routes hne, pathParameters_eq, pathParameters_eq]
  induction routes with
  | nil => rfl
  | cons route routes ih =>
    obtain ⟨hroute, hrest⟩ := List.forall_mem_cons.1 hroutes
    rw [List.flatMap_cons, List.filterMap_append, ih hrest, filterMap_under hbases hroute]
    cases h : route.parameters? <;> simp [h]

/-- A path under a prefix has the names of the prefix and then its own, if neither goes up; so under
    prefixes without names the composed routes have the entries that are listed for the declared
    ones. -/
theorem pathParameterNames_composed :
    (∀ base path : String, ¬ GoesUp base → ¬ GoesUp path →
      pathParameterNames (slashed (UrlPath.join [base, path])) =
        pathParameterNames base ++ pathParameterNames path) ∧
    ∀ (routes : List Route) (bases : List String), bases ≠ [] →
      (∀ base ∈ bases, IsPlainPrefix base) → (∀ route ∈ routes, ¬ GoesUp route.path) →
      pathParameters (compose routes bases) =
        (pathParameters routes).flatMap fun entry => bases.map entry.under :=
  ⟨fun _ _ => pathParameterNames_slashed_join, fun _ _ => pathParameters_compose⟩

/-- Names beside backslashes, points and each other, and prefixes that end in different slashes. -/
theorem pathParameterNames_composed_backslashes :
    let base := "./api\\:v1//"
    let path := "\\:id.json/./:a:b"
    let routes : List Route := [⟨"/users/:id", "GET", "a.js"⟩, ⟨"/health", "GET", "b.js"⟩]
    let bases := ["/api/", "v2\\"]
    ¬ GoesUp base ∧ ¬ GoesUp path ∧
      pathParameterNames (slashed (UrlPath.join [base, path])) = ["v1", "id", "a", "b"] ∧
      bases ≠ [] ∧ (∀ base ∈ bases, IsPlainPrefix base) ∧ (∀ route ∈ routes, ¬ GoesUp route.path) ∧
      pathParameters (compose routes bases) =
        [⟨"/api/users/:id", "a.js", ["id"]⟩, ⟨"v2//users/:id", "a.js", ["id"]⟩] := by
  intro base path routes bases
  have hbase : ¬ GoesUp base := by decide +kernel
  have hpath : ¬ GoesUp path := by decide +kernel
  have hnames : pathParameterNames base ++ pathParameterNames path = ["v1", "id", "a", "b"] := by
    decide +kernel
  have hne : bases ≠ [] := by simp [bases]
  have hbases : ∀ base ∈ bases, IsPlainPrefix base := by decide +kernel
  have hroutes : ∀ route ∈ routes, ¬ GoesUp route.path := by decide +kernel
  have hentries : ((pathParameters routes).flatMap fun entry => bases.map entry.under) =
      [⟨"/api/users/:id", "a.js", ["id"]⟩, ⟨"v2//users/:id", "a.js", ["id"]⟩] := by decide +kernel
  exact ⟨hbase, hpath, (pathParameterNames_composed.1 base path hbase hpath).trans hnames, hne,
    hbases, hroutes, (pathParameterNames_composed.2 routes bases hne hbases hroutes).trans hentries⟩

end RouteInventory
