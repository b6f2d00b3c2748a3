import EntryPoints.Proofs.TypeTable.Appending
import Mathlib.Tactic.Tauto

/-! Operations that are given only types of a table mention only types of it. Each is a sequence of
elementary changes that do so, and no id of a type in a reached table leads nowhere.
-/

namespace EntryPoints

------------------------------------------------------------------------------------------
-- What a table mentions

/-- The types that are part of a kind. -/
def TypeKind.mentioned : TypeKind → List TypeId
  | .special _ | .error => []
  | .array element => [element]
  | .named _ base typeArguments => base.toList ++ typeArguments

/-- A field mentions its type; a method has an entry of its own that does. -/
def Member.mentioned : Member → List TypeId
  | .method _ => []
  | .field _ type => [type]

/-- A type mentions what its kind and its members do. -/
def TypeSymbol.mentioned (symbol : TypeSymbol) : List TypeId :=
  symbol.kind.mentioned ++ symbol.members.flatMap Member.mentioned

/-- A method mentions the type that it is in, what it returns, and what its parameters are. -/
def MethodSymbol.mentioned (method : MethodSymbol) : List TypeId :=
  method.containingType :: method.returnType :: method.parameters.map Parameter.type

/-- A member more mentions what it mentions itself, behind the rest. -/
theorem TypeSymbol.mentioned_addMember (symbol : TypeSymbol) (member : Member)
    : (symbol.addMember member).mentioned = symbol.mentioned ++ member.mentioned := by
  simp [mentioned, addMember]

/-- With another base a type mentions that base, and nothing else that it did not mention before. -/
theorem TypeSymbol.mem_mentioned_of_withBase {symbol : TypeSymbol} {base type : TypeId}
    (mentioned : type ∈ (symbol.withBase base).mentioned)
    : type ∈ symbol.mentioned ∨ type = base := by
  unfold withBase at mentioned
  split at mentioned
  · next kind old typeArguments named =>
    simp only [TypeSymbol.mentioned, TypeKind.mentioned, Option.toList_some, List.mem_append,
      List.mem_singleton, named] at mentioned ⊢
    tauto
  · exact .inl mentioned

/-- A declared method mentions its container, and the types of its signature in their order;
numbering the parameters does not change these.
-/
theorem MethodSignature.mentioned_declaredOn (signature : MethodSignature)
    (containing : TypeId)
    : (signature.declaredOn containing).mentioned
      = containing :: signature.returnType :: signature.parameters.map Prod.snd := by
  have types
      : signature.numberedParameters.map Parameter.type = signature.parameters.map Prod.snd := by
    simp only [numberedParameters, List.map_map]
    conv_rhs => rw [← List.zipIdx_map_fst 0 signature.parameters, List.map_map]
    rfl
  simp [MethodSymbol.mentioned, declaredOn, types]

namespace TypeTable

/-- The types that every table has from the start and looks up without asking. -/
def fixedTypes : List TypeId :=
  errorType :: missingTask :: SpecialType.all.map SpecialType.id

/-- The types that a table looks up: arrays by their elements, tasks by their results, the
platform's future type and those from the start.
-/
def remembered (table : TypeTable) : List TypeId :=
  (table.arrays ++ table.genericTasks).flatMap (fun (made, type) => [made, type])
    ++ table.task.toList ++ fixedTypes

section
variable {table : TypeTable} {type made new : TypeId}

/-- A known array more is remembered, and so is its element. -/
theorem mem_remembered_cons_array
    : type ∈ { table with arrays := (made, new) :: table.arrays : TypeTable }.remembered
      ↔ type = made ∨ type = new ∨ type ∈ table.remembered := by
  simp [remembered]

/-- A known generic task more is remembered, and so is its result. -/
theorem mem_remembered_cons_task
    : type
        ∈ { table with genericTasks := (made, new) :: table.genericTasks : TypeTable }.remembered
      ↔ type = made ∨ type = new ∨ type ∈ table.remembered := by
  simp [remembered, or_left_comm]

/-- Registering a future type makes that type remembered, and may make another one forgotten. -/
theorem mem_remembered_of_registerTask (listed : type ∈ (table.registerTask new).remembered)
    : type = new ∨ type ∈ table.remembered := by
  simp only [remembered, registerTask, Option.toList_some, List.mem_append,
    List.mem_singleton] at listed ⊢
  tauto

end

------------------------------------------------------------------------------------------
-- Changes that mention only what is there

/-- An elementary change that is given only types that the table has. -/
inductive FittingChange (table : TypeTable) : TypeTable → Prop where
  | addType (symbol : TypeSymbol) (bare : symbol.members = [])
      (there : ∀ type ∈ symbol.mentioned, table.Has type)
    : FittingChange table (table.addType symbol).2
  | setBase (type base : TypeId) (there : table.Has type ∧ table.Has base)
    : FittingChange table (table.setBase type base)
  | setUseSite (type : TypeId) (info : DiagnosticInfo) (there : table.Has type)
    : FittingChange table (table.setUseSite type info)
  | defineMethod (containing : TypeId) (signature : MethodSignature)
      (there : ∀ type ∈ (signature.declaredOn containing).mentioned, table.Has type)
    : FittingChange table (table.defineMethod containing signature).2
  | defineField (containing : TypeId) (name : String) (type : TypeId)
      (there : table.Has containing ∧ table.Has type)
    : FittingChange table (table.defineField containing name type)
  | rememberArray (element array : TypeId) (there : table.Has element ∧ table.Has array)
    : FittingChange table { table with arrays := (element, array) :: table.arrays }
  | rememberTask (result task : TypeId) (there : table.Has result ∧ table.Has task)
    : FittingChange table { table with genericTasks := (result, task) :: table.genericTasks }
  | registerTask (type : TypeId) (there : table.Has type)
    : FittingChange table (table.registerTask type)

/-- Any number of fitting changes, one after the other. -/
abbrev FittingChanges : TypeTable → TypeTable → Prop :=
  Relation.ReflTransGen FittingChange

/-- All types that a table mentions are types that it has. -/
structure TypesThere (table : TypeTable) : Prop where
  symbols : ∀ type, ∀ other ∈ (table.symbol type).mentioned, table.Has other
  methods
    : ∀ id : MethodId, id.index < table.methods.size
      → ∀ other ∈ (table.method id).mentioned, table.Has other
  remembered : ∀ type ∈ table.remembered, table.Has type

namespace TypesThere

variable {table later : TypeTable}

/-- What is mentioned later was mentioned before or is there later, and the types that were there
before are still there.
-/
theorem grow (there : table.TypesThere) (typeCount : table.typeCount ≤ later.typeCount)
    (symbols
      : ∀ type, ∀ other ∈ (later.symbol type).mentioned,
          other ∈ (table.symbol type).mentioned ∨ later.Has other)
    (methods
      : ∀ id : MethodId, id.index < later.methods.size
        → ∀ other ∈ (later.method id).mentioned,
            id.index < table.methods.size ∧ other ∈ (table.method id).mentioned
            ∨ later.Has other)
    (remembered : ∀ type ∈ later.remembered, type ∈ table.remembered ∨ later.Has type)
    : later.TypesThere := by
  have still {type : TypeId} (has : table.Has type) : later.Has type :=
    Nat.lt_of_lt_of_le has typeCount
  refine ⟨fun type other mentioned => ?_, fun id inside other mentioned => ?_,
    fun type listed => ?_⟩
  · exact (symbols type other mentioned).elim (fun old => still (there.symbols type other old)) id
  · exact (methods id inside other mentioned).elim
      (fun old => still (there.methods id old.1 other old.2)) (fun has => has)
  · exact (remembered type listed).elim (fun old => still (there.remembered type old)) id

/-- A change of one type keeps all mentioned types there if that type mentions nothing else than
before that is not there.
-/
theorem modifyType (there : table.TypesThere) (changed : TypeId)
    {change : TypeSymbol → TypeSymbol}
    (mentions
      : ∀ symbol : TypeSymbol, ∀ other ∈ (change symbol).mentioned,
          other ∈ symbol.mentioned ∨ table.Has other)
    : (table.modifyType changed change).TypesThere := by
  have typeCount : (table.modifyType changed change).typeCount = table.typeCount := by
    simp [TypeTable.modifyType, TypeTable.typeCount]
  refine there.grow (Nat.le_of_eq typeCount.symm) (fun type other mentioned => ?_)
    (fun id inside other mentioned => .inl ⟨inside, mentioned⟩) (fun type listed => .inl listed)
  rw [symbol_modifyType] at mentioned
  rw [Has, typeCount]
  split at mentioned
  · exact mentions _ other mentioned
  · exact .inl mentioned

/-- A new method mentions its container and the types of its signature, and older ones mention what
they did.
-/
theorem defineMethod (there : table.TypesThere) {containing : TypeId}
    {signature : MethodSignature}
    (fits : ∀ type ∈ (signature.declaredOn containing).mentioned, table.Has type)
    : (table.defineMethod containing signature).2.TypesThere := by
  have declared := Grows.defineMethod table containing signature
  have size
      : (table.defineMethod containing signature).2.methods.size = table.methods.size + 1 := by
    simp [TypeTable.defineMethod, TypeTable.modifyType]
  refine there.grow declared.types (fun type other mentioned => ?_)
    (fun id inside other mentioned => ?_) (fun type listed => .inl listed)
  · rw [symbol_defineMethod] at mentioned
    split at mentioned
    · rw [TypeSymbol.mentioned_addMember] at mentioned
      exact .inl (by simpa [Member.mentioned] using mentioned)
    · exact .inl mentioned
  · rw [method_defineMethod] at mentioned
    split at mentioned
    · exact .inr (declared.has (fits other mentioned))
    · next old =>
      have different : id.index ≠ table.methods.size := fun same =>
        old (by rw [← same])
      exact .inl ⟨by omega, mentioned⟩

/-- Fitting changes keep all mentioned types there.
By cases on the change: each of them says of the types that it is given that they are there, and
these are all that it makes the table mention.
-/
theorem change (change : FittingChange table later) (there : table.TypesThere)
    : later.TypesThere := by
  cases change with
  | addType symbol bare fits =>
      have added := Grows.addType table symbol
      refine there.grow added.types (fun type other mentioned => ?_)
        (fun id inside other mentioned => .inl ⟨inside, mentioned⟩)
        (fun type listed => .inl listed)
      rw [symbol_addType] at mentioned
      split at mentioned
      · exact .inr (added.has (fits other mentioned))
      · exact .inl mentioned
  | setBase type base fits =>
      refine there.modifyType type (fun symbol other mentioned => ?_)
      rcases TypeSymbol.mem_mentioned_of_withBase mentioned with old | rfl
      · exact .inl old
      · exact .inr fits.2
  | setUseSite type info fits => exact there.modifyType type (fun _ _ mentioned => .inl mentioned)
  | defineMethod containing signature fits => exact there.defineMethod fits
  | defineField containing name type fits =>
      refine there.modifyType containing (fun symbol other mentioned => ?_)
      rw [TypeSymbol.mentioned_addMember, List.mem_append] at mentioned
      refine mentioned.imp_right (fun new => ?_)
      obtain rfl : other = type := by simpa [Member.mentioned] using new
      exact fits.2
  | rememberArray element array fits =>
      refine ⟨there.symbols, there.methods, fun type listed => ?_⟩
      rcases mem_remembered_cons_array.mp listed with rfl | rfl | old
      · exact fits.1
      · exact fits.2
      · exact there.remembered type old
  | rememberTask result task fits =>
      refine ⟨there.symbols, there.methods, fun type listed => ?_⟩
      rcases mem_remembered_cons_task.mp listed with rfl | rfl | old
      · exact fits.1
      · exact fits.2
      · exact there.remembered type old
  | registerTask type fits =>
      refine ⟨there.symbols, there.methods, fun other listed => ?_⟩
      rcases mem_remembered_of_registerTask listed with rfl | old
      · exact fits
      · exact there.remembered other old

/-- So do any number of them, by induction on them. -/
theorem changes (changes : FittingChanges table later) (there : table.TypesThere)
    : later.TypesThere := by
  induction changes with
  | refl => exact there
  | tail _ change ih => exact ih.change change

end TypesThere

------------------------------------------------------------------------------------------
-- Operations as fitting changes

section
variable {table : TypeTable}

/-- A new type with one method fits if what both mention is there; the method may mention the new
type as well.
-/
theorem addTypeWith_fits {symbol : TypeSymbol} {signature : MethodSignature}
    (bare : symbol.members = []) (symbolThere : ∀ type ∈ symbol.mentioned, table.Has type)
    (signatureThere
      : ∀ type ∈ signature.returnType :: signature.parameters.map Prod.snd, table.Has type)
    : FittingChanges table (table.addTypeWith symbol signature) := by
  have added : FittingChange table (table.addType symbol).2 := .addType symbol bare symbolThere
  refine .tail (.single added) (.defineMethod _ _ ?_)
  rw [signature.mentioned_declaredOn]
  intro type mentioned
  rcases List.mem_cons.mp mentioned with rfl | old
  · simp [Has, addType, typeCount]
  · exact (Grows.addType table symbol).has (signatureThere type old)

/-- A pair of future and awaiter fits if the types that tell it from others are there.
The awaiter is made first, so it is there when the method of the future comes to mention it.
-/
theorem makeFuture_fits {shape : FutureShape} (result : table.Has shape.result)
    (base : ∀ type ∈ shape.base, table.Has type)
    (arguments : ∀ type ∈ shape.typeArguments, table.Has type)
    : FittingChanges table (table.makeFuture shape).2 := by
  let getResult := MethodSignature.ordinary WellKnownMember.getResult.spelling shape.result
  have awaiterMade : FittingChanges table (table.addTypeWith shape.awaiterSymbol getResult) := by
    refine addTypeWith_fits rfl (fun type mentioned => ?_) (fun type mentioned => ?_)
    · exact arguments type
        (by simpa [TypeSymbol.mentioned, FutureShape.awaiterSymbol, TypeKind.mentioned] using
          mentioned)
    · obtain rfl : type = shape.result := by
        simpa [getResult, MethodSignature.ordinary] using mentioned
      exact result
  have grown := addTypeWith_extends table shape.awaiterSymbol getResult
  refine awaiterMade.trans (addTypeWith_fits rfl (fun type mentioned => ?_)
    (fun type mentioned => ?_))
  · have either : type ∈ shape.base ∨ type ∈ shape.typeArguments := by
      simpa [TypeSymbol.mentioned, FutureShape.futureSymbol, TypeKind.mentioned] using mentioned
    exact grown.has (either.elim (base type) (arguments type))
  · obtain rfl : type = ⟨table.typeCount⟩ := by
      simpa [MethodSignature.ordinary] using mentioned
    simp [Has]

/-- Interning an array fits if its element is there: the new type is remembered after it has been
added.
-/
theorem arrayOf_fits {element : TypeId} (there : table.Has element)
    : FittingChanges table (table.arrayOf element).2 := by
  cases known : table.arrayType? element with
  | some array => rw [arrayOf_of_known known]
  | none =>
      rw [arrayOf_of_new known]
      have added : FittingChange table (table.addType (table.arraySymbol element)).2 :=
        .addType _ rfl (by simpa [TypeSymbol.mentioned, arraySymbol, TypeKind.mentioned])
      refine .tail (.single added) (.rememberArray _ _ ⟨?_, ?_⟩)
      · exact (Grows.addType table _).has there
      · simp [Has, addType, typeCount]

/-- The platform's future types fit, since the type of nothing, which is their result, is there from
the start.
-/
theorem definePlatformTasks_fits (there : table.TypesThere)
    : FittingChanges table table.definePlatformTasks.2 := by
  cases registered : table.task with
  | some task => rw [definePlatformTasks_of_registered registered]
  | none =>
      rw [definePlatformTasks_of_absent registered]
      have void : table.Has SpecialType.void.id :=
        there.remembered _ (by simp [remembered, fixedTypes, SpecialType.all])
      have made : FittingChanges table (table.makeFuture .plain).2 :=
        makeFuture_fits void nofun nofun
      refine made.tail (.registerTask _ ?_)
      simp [Has, makeFuture]

/-- The platform's future type is there once it has been asked for, as a registered one that is
remembered or as a new type.
-/
theorem TypesThere.platformTask (there : table.TypesThere)
    : table.definePlatformTasks.2.Has table.definePlatformTasks.1.task := by
  cases registered : table.task with
  | some task =>
      rw [definePlatformTasks_of_registered registered]
      exact there.remembered task (by simp [TypeTable.remembered, registered])
  | none =>
      rw [definePlatformTasks_of_absent registered]
      change (table.makeFuture .plain).2.Has _
      simp [Has, makeFuture]

/-- A new generic task fits if its result is there; the platform's future type, from which it
derives, is there then as well.
-/
theorem taskOf_fits (there : table.TypesThere) {result : TypeId}
    (resultThere : table.Has result)
    : FittingChanges table (table.taskOf result).2 := by
  cases known : table.genericTasks.lookup result with
  | some task => rw [taskOf_of_known known]
  | none =>
      rw [taskOf_of_unknown known]
      have platform := definePlatformTasks_fits there
      have still : table.definePlatformTasks.2.Has result :=
        (Operation.appends table .definePlatformTasks).has resultThere
      let shape : FutureShape :=
        .generic table.definePlatformTasks.2 table.definePlatformTasks.1.task result
      have made
          : FittingChanges table.definePlatformTasks.2
              (table.definePlatformTasks.2.makeFuture shape).2 := by
        refine makeFuture_fits still ?_ ?_
        · simpa [shape, FutureShape.generic] using there.platformTask
        · simpa [shape, FutureShape.generic] using still
      refine (platform.trans made).tail (.rememberTask _ _ ⟨?_, ?_⟩)
      · exact (makeFuture_extends _ _).has still
      · simp [Has]

/-- Every fitting operation is a sequence of fitting changes.
By cases on the operation: the types that it is given are there, and all others that it needs it
makes itself.
-/
theorem Operation.fittingChanges {operation : Operation} (there : table.TypesThere)
    (fits : operation.Fits table)
    : FittingChanges table (operation.apply table) := by
  cases operation with
  | defineType name kind base =>
      refine .single (.addType _ rfl ?_)
      simpa [TypeSymbol.mentioned, TypeKind.mentioned, Operation.Fits, mentioned] using fits
  | setBase type base =>
      exact .single
        (.setBase type base ⟨fits type (by simp [mentioned]), fits base (by simp [mentioned])⟩)
  | setUseSite type info =>
      exact .single (.setUseSite type info (fits type (by simp [mentioned])))
  | defineMethod containing signature =>
      refine .single (.defineMethod containing signature ?_)
      rw [signature.mentioned_declaredOn]
      exact fits
  | defineField containing name type =>
      exact .single
        (.defineField containing name type
          ⟨fits containing (by simp [mentioned]), fits type (by simp [mentioned])⟩)
  | arrayOf element => exact arrayOf_fits (fits element (by simp [mentioned]))
  | registerTask type => exact .single (.registerTask type (fits type (by simp [mentioned])))
  | definePlatformTasks => exact definePlatformTasks_fits there
  | taskOf result => exact taskOf_fits there (fits result (by simp [mentioned]))

end

/-- The types that a new table mentions are there, type by type. -/
theorem TypesThere.empty : TypeTable.empty.TypesThere := by
  refine ⟨fun type other mentioned => ?_, nofun, by decide⟩
  have inside
      : ∀ symbol ∈ initialTypes, ∀ other ∈ symbol.mentioned, TypeTable.empty.Has other := by
    decide
  cases found : initialTypes[type.index]? with
  | none =>
      simp [TypeTable.symbol, TypeTable.empty, found, TypeSymbol.mentioned,
        TypeKind.mentioned] at mentioned
  | some symbol =>
      refine inside symbol (List.mem_of_getElem? found) other ?_
      simpa [TypeTable.symbol, TypeTable.empty, found] using mentioned

/-- What a new table has and every fitting change keeps, every reached table has.
By induction over the operations that lead there, and within each of them over its changes.
-/
theorem Reached.keeps_fittingChanges {keeps : TypeTable → Prop} {table : TypeTable}
    (reached : Reached table) (start : keeps empty)
    (step : ∀ {earlier later}, FittingChange earlier later → keeps earlier → keeps later)
    : keeps table := by
  -- The changes of an operation fit only while all types that are mentioned are there.
  suffices kept : table.TypesThere ∧ keeps table from kept.2
  refine @Reached.keeps (fun table => table.TypesThere ∧ keeps table) table reached
    ⟨.empty, start⟩ ?_
  intro earlier operation kept fits
  have changes := operation.fittingChanges kept.1 fits
  refine ⟨kept.1.changes changes, ?_⟩
  generalize operation.apply earlier = later at changes
  induction changes with
  | refl => exact kept.2
  | tail _ change ih => exact step change ih

/-- In a reached table no id of a type leads nowhere. -/
theorem Reached.typesThere {table : TypeTable} (reached : Reached table) : table.TypesThere :=
  reached.keeps_fittingChanges .empty TypesThere.change

end TypeTable

end EntryPoints
