import EntryPoints.Proofs.TypeTable.Arrays

/-! What is reported where a type is used is looked for along the elements of the type. The lookup
ends in every reached table, also where base types form a cycle, since no operation makes an array
older than its element.
-/

namespace EntryPoints.TypeTable

section
variable (table : TypeTable)

/-- A type, its element type, the element type of that, and so on, as long as these are arrays. -/
inductive ElementsOf : TypeId → List TypeId → Prop where
  | last {type : TypeId} (noArray : table.element? type = none) : ElementsOf type [type]
  | array {type element : TypeId} {rest : List TypeId} (link : table.element? type = some element)
      (elements : ElementsOf element rest)
    : ElementsOf type (type :: rest)

/-- A lookup that nothing bounds ends: at a type that carries a diagnostic, or with none behind a
type that is no array.
-/
inductive UseSiteEnds : TypeId → Option DiagnosticInfo → Prop where
  | carried {type : TypeId} {info : DiagnosticInfo}
      (carries : (table.symbol type).useSite = some info)
    : UseSiteEnds type (some info)
  | last {type : TypeId} (clean : (table.symbol type).useSite = none)
      (noArray : table.element? type = none)
    : UseSiteEnds type none
  | element {type element : TypeId} {found : Option DiagnosticInfo}
      (clean : (table.symbol type).useSite = none) (link : table.element? type = some element)
      (rest : UseSiteEnds element found)
    : UseSiteEnds type found

/-- The diagnostic is that of the first type in the list that carries one. -/
def FirstCarried (types : List TypeId) (info : DiagnosticInfo) : Prop :=
  ∃ before type after,
    types = before ++ type :: after
    ∧ (table.symbol type).useSite = some info
    ∧ ∀ earlier ∈ before, (table.symbol earlier).useSite = none

end

section
variable {table : TypeTable} {type : TypeId}

/-- The elements of a type are determined, by induction along them: an array has one element, and
nothing else has any.
-/
theorem ElementsOf.unique {types other : List TypeId} (h : table.ElementsOf type types)
    (h' : table.ElementsOf type other)
    : types = other := by
  induction h generalizing other with
  | last noArray =>
      cases h' with
      | last => rfl
      | array link => simp [noArray] at link
  | array link _ ih =>
      cases h' with
      | last noArray => simp [link] at noArray
      | array link' elements =>
          obtain rfl := Option.some.inj (link.symm.trans link')
          rw [ih elements]

/-- The bounded walk meets all elements of a type, by induction on the number of the type: an
element is older than its array.
-/
theorem ArraysInterned.elementsOf (interned : table.ArraysInterned) (type : TypeId)
    : table.ElementsOf type (table.elementChain type) := by
  obtain ⟨index⟩ := type
  induction index using Nat.strongRecOn with
  | _ index ih =>
      cases link : table.element? ⟨index⟩ with
      | none =>
          rw [elementChain_of_noArray link]
          exact .last link
      | some element =>
          rw [interned.elementChain_of_array link]
          exact .array link (ih element.index (interned.element?_lt link))

/-- A lookup meets the first diagnostic of the elements.
By induction along them, with two cases for each: it carries a diagnostic, or the lookup goes on to
its own element.
-/
theorem ElementsOf.useSiteEnds {types : List TypeId} (elements : table.ElementsOf type types)
    : table.UseSiteEnds type (types.findSome? (fun type => (table.symbol type).useSite)) := by
  induction elements with
  | @last type noArray =>
      cases carried : (table.symbol type).useSite with
      | none => simpa [carried] using UseSiteEnds.last carried noArray
      | some info => simpa [carried] using UseSiteEnds.carried carried
  | @array type element rest link _ ih =>
      rw [List.findSome?_cons]
      cases carried : (table.symbol type).useSite with
      | none => exact .element carried link ih
      | some info => exact .carried carried

/-- A lookup ends in one way only.
By induction along it: the first type decides whether it ends there, and if not, which element it
goes on with.
-/
theorem UseSiteEnds.unique {found other : Option DiagnosticInfo}
    (h : table.UseSiteEnds type found) (h' : table.UseSiteEnds type other)
    : found = other := by
  induction h with
  | carried carries =>
      cases h' with
      | carried carries' => rw [← carries, carries']
      | last clean => simp [carries] at clean
      | element clean => simp [carries] at clean
  | last clean noArray =>
      cases h' with
      | carried carries => simp [clean] at carries
      | last => rfl
      | element _ link => simp [noArray] at link
  | element clean link _ ih =>
      cases h' with
      | carried carries => simp [clean] at carries
      | last _ noArray => simp [link] at noArray
      | element _ link' rest =>
          obtain rfl := Option.some.inj (link.symm.trans link')
          exact ih rest

end

/-- What is found for the use of a type: the lookup ends with it, and of the elements of the type,
which are a finite sequence, it is the first diagnostic.
-/
structure FindsOutermost (table : TypeTable) (type : TypeId) (found : Option DiagnosticInfo) : Prop
    where
  ends : ∀ other, table.UseSiteEnds type other ↔ other = found
  first
    : ∃ types,
        (∀ other, table.ElementsOf type other ↔ other = types)
        ∧ (∀ info, found = some info ↔ table.FirstCarried types info)
        ∧ (found = none ↔ ∀ element ∈ types, (table.symbol element).useSite = none)

/-- In every reached table the lookup for a type ends and finds the outermost diagnostic, whether or
not the base chains of the table end.
-/
theorem Reached.useSite?_outermost {table : TypeTable} (reached : table.Reached) (type : TypeId)
    : table.FindsOutermost type (table.useSite? type) := by
  have elements := reached.arraysInterned.elementsOf type
  have ends : table.UseSiteEnds type (table.useSite? type) := elements.useSiteEnds
  refine ⟨fun other => ⟨fun h => h.unique ends, fun same => same ▸ ends⟩,
    table.elementChain type, fun other => ⟨fun h => h.unique elements, fun same => same ▸ elements⟩,
    ?_, ?_⟩
  · intro info
    rw [useSite?, List.findSome?_eq_some_iff]
    exact .rfl
  · rw [useSite?, List.findSome?_eq_none_iff]

/-- A list of lists of nodes, in which node types are their own bases. Nodes and lists of them carry
a diagnostic each.
-/
def listsOfCyclicNodes : TypeTable :=
  .performAll .empty
    [
      .defineType "Node" .classType none,
      .setBase ⟨11⟩ ⟨11⟩,
      .setUseSite ⟨11⟩ { code := .bogusType, arguments := ["Node"] },
      .arrayOf ⟨11⟩,
      .arrayOf ⟨12⟩,
      .setUseSite ⟨12⟩ { code := .bogusType, arguments := ["Node[]"] }
    ]

/-- The base chain never ends, and the diagnostic of the inner list is found before that of its
nodes.
-/
theorem listsOfCyclicNodes_outermost
    : listsOfCyclicNodes.Reached
      ∧ ¬ listsOfCyclicNodes.ChainsEnd
      ∧ listsOfCyclicNodes.FindsOutermost ⟨13⟩
          (some { code := .bogusType, arguments := ["Node[]"] }) := by
  have reached : listsOfCyclicNodes.Reached := ⟨_, by decide, rfl⟩
  have endless {type : TypeId} (ends : listsOfCyclicNodes.ChainEnds type)
      : listsOfCyclicNodes.base? type ≠ some type := by
    induction ends with
    | root none => simp [none]
    | derived link _ ih =>
        intro loop
        obtain rfl := Option.some.inj (link.symm.trans loop)
        exact ih loop
  exact ⟨reached, fun ends => endless (ends ⟨11⟩) (by decide), reached.useSite?_outermost ⟨13⟩⟩

end EntryPoints.TypeTable
