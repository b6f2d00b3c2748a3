import EntryPoints.Proofs.Related
import EntryPoints.Proofs.TypeTable.FittingChange

/-! Reached tables are well formed: no id in them leads nowhere, each method is listed once, on the
type that contains it, and whatever is numbered is numbered in order.
-/

namespace EntryPoints

------------------------------------------------------------------------------------------
-- Methods are listed once, in order, on the types that contain them

/-- The method that a member is, if it is one. -/
def Member.methodId? : Member → Option MethodId
  | .method id => some id
  | .field _ _ => none

/-- The methods among the members of a type, in the order of their declaration. -/
def TypeSymbol.methodIds (symbol : TypeSymbol) : List MethodId :=
  symbol.members.filterMap Member.methodId?

/-- A type with another member lists the methods that it did, and then the member if that is a
method.
-/
theorem TypeSymbol.methodIds_addMember (symbol : TypeSymbol) (member : Member)
    : (symbol.addMember member).methodIds = symbol.methodIds ++ member.methodId?.toList := by
  cases member <;> simp [methodIds, addMember, Member.methodId?]

/-- With another base a type lists the methods that it did. -/
theorem TypeSymbol.methodIds_withBase (symbol : TypeSymbol) (base : TypeId)
    : (symbol.withBase base).methodIds = symbol.methodIds := by
  unfold withBase
  split <;> rfl

/-- The parameters of a declared method are numbered in their order, from zero on. -/
theorem MethodSignature.map_ordinal_declaredOn (signature : MethodSignature)
    (containing : TypeId)
    : (signature.declaredOn containing).parameters.map Parameter.ordinal
      = List.range (signature.declaredOn containing).parameters.length := by
  simp [declaredOn, numberedParameters, Function.comp_def, List.range_eq_range']

namespace TypeTable

/-- The methods among the members of all types. -/
def listedMethods (table : TypeTable) : List MethodId :=
  table.types.toList.flatMap TypeSymbol.methodIds

/-- The methods that a table has given out ids for. -/
def methodIds (table : TypeTable) : List MethodId :=
  (List.range table.methods.size).map MethodId.mk

/-- Among the members of all types each method occurs once, and on each type in the order of the
declarations.
-/
structure MethodsListed (table : TypeTable) : Prop where
  once : table.listedMethods.Perm table.methodIds
  increasing
    : ∀ type,
        (table.symbol type).methodIds.Pairwise
          (fun earlier later => earlier.index < later.index)

/-- The ids that a table has given out are those below the number of its methods. -/
theorem mem_methodIds {table : TypeTable} {id : MethodId}
    : id ∈ table.methodIds ↔ id.index < table.methods.size := by
  obtain ⟨index⟩ := id
  simp [methodIds]

/-- What a type lists is among the methods that all types list, if the table has the type; no other
type lists any.
-/
theorem mem_listedMethods {table : TypeTable} {type : TypeId} {id : MethodId}
    (member : id ∈ (table.symbol type).methodIds)
    : id ∈ table.listedMethods := by
  by_cases there : type.index < table.types.size
  · rw [symbol_of_lt there] at member
    exact List.mem_flatMap.mpr ⟨_, Array.getElem_mem_toList there, member⟩
  · simp [TypeTable.symbol, there, TypeSymbol.methodIds] at member

/-- Where one type lists more methods the types list as many more in all, though not in the order of
the types.
-/
theorem listedMethods_modifyType {table : TypeTable} {changed : TypeId}
    (there : table.Has changed) {change : TypeSymbol → TypeSymbol} (added : List MethodId)
    (methodIds : ∀ symbol : TypeSymbol, (change symbol).methodIds = symbol.methodIds ++ added)
    : (table.modifyType changed change).listedMethods.Perm (table.listedMethods ++ added) := by
  rw [listedMethods, TypeTable.modifyType, Array.toList_modify]
  exact flatMap_modify_perm methodIds there

namespace MethodsListed

variable {table later : TypeTable}

/-- A listed method is one that an id was given out for. -/
theorem inside (listed : table.MethodsListed) {type : TypeId} {id : MethodId}
    (member : id ∈ (table.symbol type).methodIds)
    : id.index < table.methods.size :=
  mem_methodIds.mp (listed.once.subset (mem_listedMethods member))

/-- A change of one type that lists no other methods than before keeps the methods listed once and
in order.
-/
theorem modifyType (listed : table.MethodsListed) {changed : TypeId}
    (there : table.Has changed) {change : TypeSymbol → TypeSymbol}
    (methodIds : ∀ symbol : TypeSymbol, (change symbol).methodIds = symbol.methodIds)
    : (table.modifyType changed change).MethodsListed := by
  refine ⟨?_, fun type => ?_⟩
  · have same := listedMethods_modifyType there [] (by simpa using methodIds)
    rw [List.append_nil] at same
    exact same.trans listed.once
  · rw [symbol_modifyType]
    split
    · rw [methodIds]
      exact listed.increasing type
    · exact listed.increasing type

/-- A new method is listed on the type that it is declared on, and once, since it is the newest of
all.
Being the newest it also comes behind all others that the type lists.
-/
theorem defineMethod (listed : table.MethodsListed) {containing : TypeId}
    (there : table.Has containing) (signature : MethodSignature)
    : (table.defineMethod containing signature).2.MethodsListed := by
  let new : MethodId := ⟨table.methods.size⟩
  refine ⟨?_, fun type => ?_⟩
  · let extended :=
      { table with methods := table.methods.push (signature.declaredOn containing) }
    let listing (symbol : TypeSymbol) : TypeSymbol := symbol.addMember (.method new)
    have more
        : (extended.modifyType containing listing).listedMethods.Perm
            (extended.listedMethods ++ [new]) :=
      listedMethods_modifyType there [new]
        (fun symbol => symbol.methodIds_addMember (.method new))
    have ids
        : (table.defineMethod containing signature).2.methodIds = table.methodIds ++ [new] := by
      simp [TypeTable.methodIds, TypeTable.defineMethod, TypeTable.modifyType, List.range_succ,
        new]
    rw [ids]
    exact more.trans (listed.once.append_right _)
  · rw [symbol_defineMethod]
    split
    · rw [TypeSymbol.methodIds_addMember]
      refine List.pairwise_append.mpr ⟨listed.increasing type, by simp [Member.methodId?], ?_⟩
      intro earlier member last newest
      obtain rfl : last = new := by simpa [Member.methodId?] using newest
      exact listed.inside member
    · exact listed.increasing type

/-- Every fitting change keeps the methods listed once and in order.
By cases on the change: a new type lists none, a declared method is the newest, and all other
changes leave the lists as they are.
-/
theorem change (change : FittingChange table later) (listed : table.MethodsListed)
    : later.MethodsListed := by
  cases change with
  | addType symbol bare fits =>
      have none : symbol.methodIds = [] := by simp [TypeSymbol.methodIds, bare]
      refine ⟨?_, fun type => ?_⟩
      · have same : (table.addType symbol).2.listedMethods = table.listedMethods := by
          simp [listedMethods, addType, none]
        rw [same]
        exact listed.once
      · rw [symbol_addType]
        split
        · simp [none]
        · exact listed.increasing type
  | setBase type base fits =>
      exact listed.modifyType fits.1 (fun symbol => symbol.methodIds_withBase base)
  | setUseSite type info fits => exact listed.modifyType fits (fun _ => rfl)
  | defineMethod containing signature fits =>
      refine listed.defineMethod (fits containing ?_) signature
      simp [signature.mentioned_declaredOn]
  | defineField containing name type fits =>
      refine listed.modifyType fits.1 (fun symbol => ?_)
      simp [TypeSymbol.methodIds_addMember, Member.methodId?]
  | rememberArray element array fits => exact ⟨listed.once, listed.increasing⟩
  | rememberTask result task fits => exact ⟨listed.once, listed.increasing⟩
  | registerTask type fits => exact ⟨listed.once, listed.increasing⟩

end MethodsListed

------------------------------------------------------------------------------------------
-- The whole representation

/-- The parameters of every method are numbered from zero in their order. -/
def ParametersNumbered (table : TypeTable) : Prop :=
  ∀ id,
    (table.method id).parameters.map Parameter.ordinal
      = List.range (table.method id).parameters.length

/-- Every fitting change keeps the parameters numbered, by cases on it; only a declaration brings a
method, which it numbers.
-/
theorem ParametersNumbered.change {table later : TypeTable} (change : FittingChange table later)
    (numbered : table.ParametersNumbered)
    : later.ParametersNumbered := by
  cases change with
  | defineMethod containing signature fits =>
      intro id
      rw [method_defineMethod]
      split
      · exact signature.map_ordinal_declaredOn containing
      · exact numbered id
  | addType symbol bare fits => exact numbered
  | setBase type base fits => exact numbered
  | setUseSite type info fits => exact numbered
  | defineField containing name type fits => exact numbered
  | rememberArray element array fits => exact numbered
  | rememberTask result task fits => exact numbered
  | registerTask type fits => exact numbered

/-- A table that represents its types and methods as it should. -/
structure WellFormed (table : TypeTable) : Prop where
  /-- No id of a type leads nowhere. -/
  typesThere : table.TypesThere
  /-- Each method is listed once, so no id of a method leads nowhere either. -/
  methodsListed : table.MethodsListed
  /-- What lists a method contains it. -/
  membersContained : table.MembersContained
  parametersNumbered : table.ParametersNumbered
  /-- Arrays are newer than their elements. -/
  elementOlder
    : ∀ array element,
        (table.symbol array).kind = .array element → element.index < array.index

/-- A new table has no methods, and none of its types lists any. -/
theorem MethodsListed.empty : TypeTable.empty.MethodsListed := by
  refine ⟨by decide, fun type => ?_⟩
  have bare : ∀ symbol ∈ initialTypes, symbol.methodIds = [] := by decide
  cases found : initialTypes[type.index]? with
  | none => simp [TypeTable.symbol, TypeTable.empty, found, TypeSymbol.methodIds]
  | some symbol =>
      simp [TypeTable.symbol, TypeTable.empty, found, bare symbol (List.mem_of_getElem? found)]

/-- Every reached table is well formed, as each part of that holds of a new table and is kept by
every change.
-/
theorem Reached.isWellFormed {table : TypeTable} (reached : Reached table)
    : table.WellFormed where
  typesThere := reached.typesThere
  methodsListed := reached.keeps_fittingChanges .empty MethodsListed.change
  membersContained := reached.membersContained
  parametersNumbered := reached.keeps_fittingChanges (fun _ => rfl) ParametersNumbered.change
  elementOlder _ _ kind := reached.arraysInterned.older kind

/-- Every reached table is well formed, and each single operation on it only appends, apart from the
base or the diagnostic that it may set.
-/
theorem Reached.wellFormed_appends {table : TypeTable} (reached : Reached table)
    : table.WellFormed
      ∧ ∀ operation : Operation,
          Appends operation.Rebases operation.Marks table (operation.apply table) :=
  ⟨reached.isWellFormed, Operation.appends table⟩

/-- A task of arrays, which defines the platform's future types first, and a class that derives from
it.
-/
def classOfTask : TypeTable :=
  .performAll .empty
    [
      .arrayOf ⟨9⟩,
      .taskOf ⟨11⟩,
      .defineType "Job" .classType none,
      .setBase ⟨16⟩ ⟨15⟩,
      .defineField ⟨16⟩ "results" ⟨11⟩,
      .defineMethod ⟨16⟩
        { MethodSignature.ordinary "Run" ⟨15⟩ with
          parameters := [("count", SpecialType.int32.id), ("arguments", ⟨8⟩)] }
    ]

/-- That table is well formed, and setting a base again would change nothing else. -/
theorem classOfTask_wellFormed
    : classOfTask.Reached
      ∧ classOfTask.WellFormed
      ∧ Appends (· = ⟨16⟩) (fun _ => False) classOfTask (classOfTask.setBase ⟨16⟩ ⟨13⟩) := by
  have reached : classOfTask.Reached := ⟨_, by decide, rfl⟩
  obtain ⟨wellFormed, appends⟩ := reached.wellFormed_appends
  exact ⟨reached, wellFormed, appends (.setBase ⟨16⟩ ⟨13⟩)⟩

end TypeTable

end EntryPoints
