import EntryPoints.Proofs.TypeTable.Correspondence
import EntryPoints.Proofs.TypeTable.WellFormed

/-! Growth that leaves the types of a table alone. Whatever is added and however it is changed, from
the types that were there only they are met again, and every lookup finds what it found.
-/

namespace EntryPoints

------------------------------------------------------------------------------------------
-- Operations that spare a table

namespace TypeTable

/-- The operation changes no type of the table and registers no other future type. -/
def Operation.Spares (table : TypeTable) : Operation → Prop
  | .setBase type _ => ¬ table.Has type
  | .setUseSite type _ => ¬ table.Has type
  | .defineMethod containing _ => ¬ table.Has containing
  | .defineField containing _ _ => ¬ table.Has containing
  | .registerTask _ => False
  | .defineType _ _ _ | .arrayOf _ | .definePlatformTasks | .taskOf _ => True

instance (table : TypeTable) : (operation : Operation) → Decidable (operation.Spares table)
  | .setBase type _ => inferInstanceAs (Decidable (¬ table.Has type))
  | .setUseSite type _ => inferInstanceAs (Decidable (¬ table.Has type))
  | .defineMethod containing _ => inferInstanceAs (Decidable (¬ table.Has containing))
  | .defineField containing _ _ => inferInstanceAs (Decidable (¬ table.Has containing))
  | .registerTask _ => inferInstanceAs (Decidable False)
  | .defineType _ _ _ => inferInstanceAs (Decidable True)
  | .arrayOf _ => inferInstanceAs (Decidable True)
  | .definePlatformTasks => inferInstanceAs (Decidable True)
  | .taskOf _ => inferInstanceAs (Decidable True)

/-- A step that touches only types which are newer than a table extends what extends it, since
nothing is said about those types.
-/
theorem Grows.trans_new {touched : TypeId → Prop} {table middle later : TypeTable}
    (grown : Extends table middle) (step : Grows touched middle later)
    (new : ∀ type, touched type → ¬ table.Has type)
    : Extends table later :=
  ((grown.mono (fun _ _ => False.elim)).trans step).extends_of_new
    (fun type there touch => new type touch there)

/-- One operation that spares a table goes on extending it.
By cases on the operation: what it adds is new, and what it changes is no type of that table.
-/
theorem Operation.Spares.extends {table middle : TypeTable} {operation : Operation}
    (spares : operation.Spares table) (grown : Extends table middle) {task : TypeId}
    (registered : table.task = some task)
    : Extends table (operation.apply middle) := by
  have registered' : middle.task = some task := grown.task.trans registered
  cases operation with
  | defineType name kind base => exact grown.trans (.addType middle _)
  | setBase type base =>
      exact grown.trans_new (.setBase middle type base) (by rintro _ rfl; exact spares)
  | setUseSite type info =>
      exact grown.trans_new (.setUseSite middle type info) (by rintro _ rfl; exact spares)
  | defineMethod containing signature =>
      exact grown.trans_new (.defineMethod middle containing signature)
        (by rintro _ rfl; exact spares)
  | defineField containing name type =>
      exact grown.trans_new (.defineField middle containing name type)
        (by rintro _ rfl; exact spares)
  | arrayOf element => exact grown.trans (.arrayOf middle element)
  | registerTask type => exact spares.elim
  | definePlatformTasks =>
      rw [Operation.apply, definePlatformTasks_of_registered registered']
      exact grown
  | taskOf result => exact grown.trans (.taskOf registered' result)

/-- Operations that spare a table extend it, by induction over the operations; the table that they
have come to grows all the while.
-/
theorem Grows.performAll {table middle : TypeTable} (grown : Extends table middle)
    {task : TypeId} (registered : table.task = some task) {operations : List Operation}
    (spare : ∀ operation ∈ operations, operation.Spares table)
    : Extends table (middle.performAll operations) := by
  induction operations generalizing middle with
  | nil => exact grown
  | cons operation rest ih =>
      have step := (spare operation List.mem_cons_self).extends grown registered
      exact ih step (fun other listed => spare other (List.mem_cons_of_mem _ listed))

end TypeTable

------------------------------------------------------------------------------------------
-- Everything is like itself

section
variable {types : TypeId → TypeId → Prop}

/-- A kind is like itself if all types that it mentions are, by cases on the kind. -/
theorem TypeKind.alike_self {kind : TypeKind} (same : ∀ type ∈ kind.mentioned, types type type)
    : kind.Alike types kind := by
  cases kind with
  | special special => exact .special special
  | array element => exact .array (same element List.mem_cons_self)
  | named kind base typeArguments =>
      refine .named kind ?_ (List.forall₂_same.mpr (fun type listed => ?_))
      · cases base with
        | none => exact .none
        | some base => exact .some (same base (by simp [mentioned]))
      · exact same type (by simp [mentioned, listed])
  | error => exact .error

/-- A method is like itself if all types that it mentions are. -/
theorem MethodSymbol.alike_self {method : MethodSymbol}
    (same : ∀ type ∈ method.mentioned, types type type)
    : method.Alike types method where
  name := rfl
  containingType := same _ (by simp [mentioned])
  kind := rfl
  parameters :=
    List.forall₂_same.mpr (fun parameter listed =>
      ⟨rfl, same _ (by simp [mentioned, List.mem_map_of_mem listed]), rfl⟩)
  returnType := same _ (by simp [mentioned])
  accessibility := rfl
  isStatic := rfl
  isAsync := rfl
  isVirtual := rfl
  locations := rfl

end

namespace TypeTable

------------------------------------------------------------------------------------------
-- A table within a later one

/-- The types of a table, each matched with itself. -/
def Kept (table : TypeTable) (left right : TypeId) : Prop :=
  left = right ∧ table.Has left

section
variable {table later : TypeTable} (wellFormed : table.WellFormed) (grown : Extends table later)
include wellFormed grown

/-- The methods of a table are in every table that extends it, where they are like themselves. -/
theorem WellFormed.method_alike {id : MethodId} (there : id.index < table.methods.size)
    : MethodsAlike table.Kept table later id id := by
  rw [MethodsAlike, grown.method there]
  exact MethodSymbol.alike_self
    (fun type mentioned => ⟨rfl, wellFormed.typesThere.methods id there type mentioned⟩)

/-- A type of a table is the same in every table that extends it.
All that it mentions is in the table too, with the methods among its members.
-/
theorem WellFormed.type_alike {type : TypeId} (there : table.Has type)
    : TypesAlike table.Kept table later type type := by
  have mentions (other : TypeId) (mentioned : other ∈ (table.symbol type).mentioned)
      : table.Kept other other :=
    ⟨rfl, wellFormed.typesThere.symbols type other mentioned⟩
  have same := grown.symbol there id
  refine ⟨(grown.name there).symm, ?_, ?_, by rw [same]⟩
  · rw [same]
    exact TypeKind.alike_self
      (fun other mentioned => mentions other (List.mem_append_left _ mentioned))
  · rw [same]
    refine List.forall₂_same.mpr (fun member listed => ?_)
    cases member with
    | method id =>
        exact .method
          (wellFormed.method_alike grown (wellFormed.membersContained type id listed).1)
    | field name fieldType =>
        refine .field name (mentions fieldType (List.mem_append_right _ ?_))
        exact List.mem_flatMap.mpr ⟨_, listed, List.mem_singleton_self _⟩

end

/-- A table corresponds to every table that extends it, each type to itself.
No type of it is touched, and those that it looks up without asking are among its types.
-/
theorem Reached.corresponds_extended {table later : TypeTable} (reached : table.Reached)
    (grown : Extends table later)
    : Corresponds table.Kept table later where
  functional := by
    rintro _ _ _ ⟨rfl, _⟩ ⟨rfl, _⟩
    rfl
  injective := by
    rintro _ _ _ ⟨rfl, _⟩ ⟨rfl, _⟩
    rfl
  alike := by
    rintro _ _ ⟨rfl, there⟩
    exact reached.isWellFormed.type_alike grown there
  error := ⟨rfl, reached.typesThere.remembered _ (by simp [remembered, fixedTypes])⟩
  special special := by
    refine ⟨rfl, reached.typesThere.remembered _ (List.mem_append_right _ ?_)⟩
    cases special <;> decide
  array special listed := by
    obtain ⟨array, known⟩ :=
      Option.isSome_iff_exists.mp (reached.arraysInterned.special special listed)
    have kind := reached.arraysInterned.known.mp known
    rw [known, grown.arrays known]
    exact .some ⟨rfl, has_of_kind_ne_error (by simp [kind])⟩

------------------------------------------------------------------------------------------
-- The same lookups

section
variable {table later : TypeTable} (reached : table.Reached) (grown : Extends table later)
  {type : TypeId} (there : table.Has type)
include reached grown there

omit there in
/-- A member is called the same in a table that extends the first one: the name of a method is in
its entry, which stays.
-/
theorem memberName_extended {member : Member} (listed : member ∈ (table.symbol type).members)
    : later.memberName member = table.memberName member := by
  cases member with
  | method id => rw [memberName, grown.method (reached.membersContained type id listed).1]; rfl
  | field name _ => rfl

/-- A lookup in one type finds the same members, as their names are the same. -/
theorem lookup_extended (name : String) : later.lookup type name = table.lookup type name := by
  rw [lookup, grown.symbol there id]
  refine List.filter_congr (fun member listed => ?_)
  rw [memberName_extended reached grown listed]

/-- The same methods are of a kind, as their entries are the same. -/
theorem methodsOfKind_extended (kind : MethodKind)
    : later.methodsOfKind type kind = table.methodsOfKind type kind := by
  rw [methodsOfKind, grown.symbol there id]
  refine List.filterMap_congr (fun member listed => ?_)
  cases member with
  | method id =>
      dsimp only
      rw [grown.method (reached.membersContained type id listed).1]
  | field _ _ => rfl

/-- So the single one of them is the same, if there is one. -/
theorem singleMethodOfKind?_extended (kind : MethodKind)
    : later.singleMethodOfKind? type kind = table.singleMethodOfKind? type kind := by
  rw [singleMethodOfKind?, methodsOfKind_extended reached grown there]
  rfl

/-- The base chain is the same, though a walk along it may take more steps.
The chains correspond, type by type, and types correspond only to themselves.
-/
theorem baseChain_extended (ends : table.ChainEnds type)
    : later.baseChain type = table.baseChain type
      ∧ ∀ base ∈ table.baseChain type, table.Has base := by
  have chains := (reached.corresponds_extended grown).baseChain_rel ⟨rfl, there⟩ ends
  generalize table.baseChain type = chain at chains ⊢
  generalize later.baseChain type = chain' at chains ⊢
  induction chains with
  | nil => exact ⟨rfl, nofun⟩
  | cons kept _ ih =>
      obtain ⟨rfl, there'⟩ := kept
      obtain ⟨rfl, inside⟩ := ih
      exact ⟨rfl, List.forall_mem_cons.mpr ⟨there', inside⟩⟩

/-- A lookup along the base chain finds the same members of the same type: the chain is the same,
and so is what its types declare.
-/
theorem lookupInHierarchy_extended (ends : table.ChainEnds type) (name : String)
    : later.lookupInHierarchy type name = table.lookupInHierarchy type name := by
  obtain ⟨chain, inside⟩ := baseChain_extended reached grown there ends
  have same (base : TypeId) (met : base ∈ table.baseChain type)
      : later.lookup base name = table.lookup base name :=
    lookup_extended reached grown (inside base met) name
  have search
      : (table.baseChain type).find? (later.declares name)
        = (table.baseChain type).find? (table.declares name) := by
    rw [← List.head?_filter, ← List.head?_filter]
    refine congrArg List.head? (List.filter_congr (fun base met => ?_))
    rw [declares, same base met, declares]
  unfold lookupInHierarchy
  rw [chain]
  refine (congrArg (Option.map _) search).trans ?_
  refine Option.map_congr (fun owner found => ?_)
  rw [same owner (List.mem_of_find?_eq_some found)]

end

end TypeTable

end EntryPoints
