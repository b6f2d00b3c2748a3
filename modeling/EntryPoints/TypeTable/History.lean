import EntryPoints.TypeTable.Interning

/-! Histories of tables: the operations that lead to a table from a new one, and the base chains
that its types have in the end.
-/

namespace EntryPoints.TypeTable

/-- One operation on a table, with what it is given. -/
inductive Operation where
  | defineType (name : String) (kind : NamedKind) (base : Option TypeId)
  | setBase (type base : TypeId)
  | setUseSite (type : TypeId) (info : DiagnosticInfo)
  | defineMethod (containing : TypeId) (signature : MethodSignature)
  | defineField (containing : TypeId) (name : String) (type : TypeId)
  | arrayOf (element : TypeId)
  | registerTask (type : TypeId)
  | definePlatformTasks
  | taskOf (result : TypeId)
  deriving DecidableEq, Repr, Inhabited

/-- A table has the types that it has given out ids for. -/
def Has (table : TypeTable) (type : TypeId) : Prop :=
  type.index < table.typeCount

instance (table : TypeTable) (type : TypeId) : Decidable (table.Has type) :=
  inferInstanceAs (Decidable (type.index < table.typeCount))

namespace Operation

/-- The table that an operation leaves. -/
def apply (table : TypeTable) : Operation → TypeTable
  | .defineType name kind base => (table.defineType name kind base).2
  | .setBase type base => table.setBase type base
  | .setUseSite type info => table.setUseSite type info
  | .defineMethod containing signature => (table.defineMethod containing signature).2
  | .defineField containing name type => table.defineField containing name type
  | .arrayOf element => (table.arrayOf element).2
  | .registerTask type => table.registerTask type
  | .definePlatformTasks => table.definePlatformTasks.2
  | .taskOf result => (table.taskOf result).2

/-- The types that an operation is given. -/
def mentioned : Operation → List TypeId
  | .defineType _ _ base => base.toList
  | .setBase type base => [type, base]
  | .setUseSite type _ => [type]
  | .defineMethod containing signature =>
      containing :: signature.returnType :: signature.parameters.map Prod.snd
  | .defineField containing _ type => [containing, type]
  | .arrayOf element => [element]
  | .registerTask type => [type]
  | .definePlatformTasks => []
  | .taskOf result => [result]

/-- An operation can only be given types that the table has. -/
def Fits (table : TypeTable) (operation : Operation) : Prop :=
  ∀ type ∈ operation.mentioned, table.Has type

instance (table : TypeTable) (operation : Operation) : Decidable (operation.Fits table) :=
  inferInstanceAs (Decidable (∀ type ∈ operation.mentioned, table.Has type))

end Operation

/-- The table after operations in order. -/
def performAll (table : TypeTable) (operations : List Operation) : TypeTable :=
  operations.foldl Operation.apply table

/-- Each operation fits the table that the ones before it have left. -/
def FitAll : TypeTable → List Operation → Prop
  | _, [] => True
  | table, operation :: rest => operation.Fits table ∧ FitAll (operation.apply table) rest

instance decidableFitAll : (table : TypeTable) → (operations : List Operation)
    → Decidable (FitAll table operations)
  | _, [] => inferInstanceAs (Decidable True)
  | table, operation :: rest =>
      have := decidableFitAll (operation.apply table) rest
      inferInstanceAs
        (Decidable (operation.Fits table ∧ FitAll (operation.apply table) rest))

/-- The tables that operations lead to from a new one. -/
def Reached (table : TypeTable) : Prop :=
  ∃ operations, FitAll empty operations ∧ performAll empty operations = table

/-- What every operation keeps, all of them keep together, by induction over the operations. -/
theorem performAll_keeps {keeps : TypeTable → Prop}
    (step : ∀ table operation, keeps table → Operation.Fits table operation →
      keeps (operation.apply table))
    {table : TypeTable} {operations : List Operation} (start : keeps table)
    (fits : FitAll table operations)
    : keeps (performAll table operations) := by
  induction operations generalizing table with
  | nil => exact start
  | cons operation rest ih => exact ih (step table operation start fits.1) fits.2

/-- What a new table has and every operation keeps, every reached table has. -/
theorem Reached.keeps {keeps : TypeTable → Prop} {table : TypeTable} (reached : Reached table)
    (start : keeps empty)
    (step : ∀ table operation, keeps table → Operation.Fits table operation →
      keeps (operation.apply table))
    : keeps table := by
  obtain ⟨operations, fits, rfl⟩ := reached
  exact performAll_keeps step start fits

/-- The base chain of a type ends at a type without a base. -/
inductive ChainEnds (table : TypeTable) : TypeId → Prop where
  | root {type : TypeId} (base : table.base? type = none) : ChainEnds table type
  | derived {type base : TypeId} (link : table.base? type = some base)
      (ends : ChainEnds table base)
      : ChainEnds table type

/-- All base chains of a table end, so every walk along one does. -/
def ChainsEnd (table : TypeTable) : Prop :=
  ∀ type, table.ChainEnds type

end EntryPoints.TypeTable
