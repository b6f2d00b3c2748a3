import EntryPoints.Proofs.Synthesis.Prerequisites
import EntryPoints.Proofs.TypeTable.FittingChange
import EntryPoints.Proofs.TypeTable.Persistence

/-! Bodies of entry points over later tables. Besides what creation has resolved, a body reads the
constructors of the class, the methods that were found and whether the awaited result is void. No
operation changes any of that but one that declares another constructor.
-/

namespace EntryPoints

open TypeTable

namespace TypeTable

------------------------------------------------------------------------------------------
-- Members and methods of a kind after an operation

/-- The operation declares a method of the kind on the type. -/
def Operation.Declares (type : TypeId) (kind : MethodKind) : Operation → Prop
  | .defineMethod containing signature => containing = type ∧ signature.kind = kind
  | _ => False

/-- The members that the operation adds to the type. -/
def Operation.added (table : TypeTable) (type : TypeId) : Operation → List Member
  | .defineMethod containing _ =>
      if type = containing then [.method ⟨table.methods.size⟩] else []
  | .defineField containing name fieldType =>
      if type = containing then [.field name fieldType] else []
  | _ => []

/-- New members come behind those that were there.
By cases on the operation: most of them only gain types or change a symbol in another field, and the
two that declare a member append it to one type.
-/
theorem Operation.members_apply (table : TypeTable) (operation : Operation) {type : TypeId}
    (there : table.Has type)
    : ((operation.apply table).symbol type).members
      = (table.symbol type).members ++ operation.added table type := by
  have unchanged {symbol : TypeSymbol} (same : symbol.members = (table.symbol type).members)
      : symbol.members = (table.symbol type).members ++ [] := by
    rw [same, List.append_nil]
  have kept {later : TypeTable} (gains : table.OnlyGains later)
      : (later.symbol type).members = (table.symbol type).members ++ [] :=
    unchanged (congrArg TypeSymbol.members (gains.symbol there))
  cases operation with
  | defineType name kind base => exact kept (.addType table _)
  | setBase changed base =>
      refine unchanged ?_
      rw [Operation.apply, TypeTable.setBase, symbol_modifyType]
      unfold TypeSymbol.withBase
      split
      · split <;> rfl
      · rfl
  | setUseSite changed info =>
      refine unchanged ?_
      rw [Operation.apply, TypeTable.setUseSite, symbol_modifyType]
      split <;> rfl
  | defineMethod containing signature =>
      rw [Operation.apply, symbol_defineMethod, added]
      by_cases same : type = containing
      · subst same
        rw [if_pos ⟨rfl, there⟩, if_pos rfl]
        rfl
      · rw [if_neg (fun both => same both.1), if_neg same, List.append_nil]
  | defineField containing name fieldType =>
      rw [Operation.apply, TypeTable.defineField, symbol_modifyType, added]
      by_cases same : type = containing
      · subst same
        rw [if_pos ⟨rfl, there⟩, if_pos rfl]
        rfl
      · rw [if_neg (fun both => same both.1), if_neg same, List.append_nil]
  | registerTask future => exact unchanged rfl
  | arrayOf element => exact kept (.arrayOf table element)
  | definePlatformTasks => exact kept (.definePlatformTasks table)
  | taskOf result => exact kept (.taskOf table result)

/-- The methods of a kind stay the same unless another one is declared.
Members that were there keep their kind, and the only member that an operation adds is of another
kind or on another type.
-/
theorem Operation.methodsOfKind_apply {table : TypeTable} (contained : table.MembersContained)
    {operation : Operation} {type : TypeId} {kind : MethodKind} (there : table.Has type)
    (declaresNone : ¬ operation.Declares type kind)
    : (operation.apply table).methodsOfKind type kind = table.methodsOfKind type kind := by
  have persists := PersistsIn.apply table operation
  unfold methodsOfKind
  rw [operation.members_apply table there, List.filterMap_append]
  refine (congrArg₂ (· ++ ·) (List.filterMap_congr ?_) ?_).trans (List.append_nil _)
  · intro member listed
    cases member with
    | field name fieldType => rfl
    | method id => simp only [persists.appends.method (contained type id listed).1]
  · cases operation with
    | defineMethod containing signature =>
        by_cases same : type = containing
        · have otherKind : signature.kind ≠ kind :=
            fun ofKind => declaresNone ⟨same.symm, ofKind⟩
          simp [added, same, Operation.apply, method_defineMethod, MethodSignature.declaredOn,
            otherKind]
        · simp [added, same]
    | defineField containing name fieldType =>
        by_cases same : type = containing <;> simp [added, same]
    | _ => rfl

/-- As long as no other one is declared, the methods of a kind stay the same; by induction over the
operations.
-/
theorem methodsOfKind_performAll {table : TypeTable} (contained : table.MembersContained)
    {type : TypeId} {kind : MethodKind} (there : table.Has type) {operations : List Operation}
    (declareNone : ∀ operation ∈ operations, ¬ operation.Declares type kind)
    : (table.performAll operations).methodsOfKind type kind = table.methodsOfKind type kind := by
  induction operations generalizing table with
  | nil => rfl
  | cons operation rest ih =>
      have persists := PersistsIn.apply table operation
      have first :=
        Operation.methodsOfKind_apply contained there (declareNone operation List.mem_cons_self)
      have others :=
        ih (contained.apply operation) (persists.has there)
          (fun other listed => declareNone other (List.mem_cons_of_mem _ listed))
      exact others.trans first

end TypeTable

------------------------------------------------------------------------------------------
-- What a body reads

/-- The later table shows a body all that it reads as the earlier one does. -/
inductive EntryPointShape.ReadsSame (table later : TypeTable) : EntryPointShape → Prop where
  | forwarder {forwarder : Forwarder}
      (result
        : ∀ call,
            forwarder.getResultCall = some call
            → (later.symbol call.type).isVoid = (table.symbol call.type).isVoid)
    : ReadsSame table later (.forwarder forwarder)
  | script {main : ScriptMain}
      (constructor
        : ScriptMain.constructor? later main.scriptClass
          = ScriptMain.constructor? table main.scriptClass)
      (initializer : later.method main.initializer = table.method main.initializer)
    : ReadsSame table later (.script main)
  | submission {factory : SubmissionFactory}
      (constructor
        : SubmissionFactory.constructor? later factory.submissionClass
          = SubmissionFactory.constructor? table factory.submissionClass)
      (initializer : later.method factory.initializer = table.method factory.initializer)
      (returns : (table.method factory.initializer).returnType = factory.returnType)
    : ReadsSame table later (.submission factory)

/-- A body depends on nothing else, by cases on the shape: all that a body looks up in the table is
the same in the later one.
-/
theorem EntryPoint.body_eq_of_readsSame {table later : TypeTable} {entryPoint : EntryPoint}
    (same : entryPoint.shape.ReadsSame table later)
    : entryPoint.body later = entryPoint.body table := by
  obtain ⟨containing, accessibility, shape⟩ := entryPoint
  cases same with
  | @forwarder forwarder result =>
      change forwarder.body later = forwarder.body table
      unfold Forwarder.body
      cases call : forwarder.getResultCall with
      | none => rfl
      | some call' => simp only [result call' call]
  | @script main constructor initializer =>
      change main.body later = main.body table
      simp only [ScriptMain.body, constructor, initializer]
  | @submission factory constructor initializer returns =>
      change factory.body later = factory.body table
      simp only [SubmissionFactory.body, constructor, initializer, returns, ne_eq,
        not_true_eq_false, if_false]

/-- The class that a body constructs. -/
def EntryPointShape.constructedClass? : EntryPointShape → Option TypeId
  | .forwarder _ => none
  | .script main => some main.scriptClass
  | .submission factory => some factory.submissionClass

section
variable {table later : TypeTable} (reached : table.Reached) (persists : table.PersistsIn later)
include reached

/-- What a listed method returns is a type of the table, as everything is that a method mentions. -/
theorem TypeTable.Reached.has_returnType {type : TypeId} {id : MethodId}
    (listed : .method id ∈ (table.symbol type).members)
    : table.Has (table.method id).returnType :=
  reached.typesThere.methods id (reached.membersContained type id listed).1 _
    (by simp [MethodSymbol.mentioned])

/-- What is awaited in a reached table results in one of its types: what `GetResult` returns, which
some type lists.
-/
theorem TypeTable.Awaits.has_resultType {type : TypeId} {protocol : AwaitProtocol}
    (awaits : table.Awaits type protocol)
    : table.Has protocol.resultType := by
  obtain ⟨owner, listed⟩ := exists_mem_members_of_requiredMethod? awaits.getResult
  rw [awaits.resultType]
  exact reached.has_returnType listed

include persists

/-- The one method of a kind is kept in later tables, since a method that is listed was there. -/
theorem TypeTable.PersistsIn.method_of_single {type : TypeId} {kind : MethodKind} {id : MethodId}
    (single : table.singleMethodOfKind? type kind = some id)
    : later.method id = table.method id :=
  persists.appends.method
    (reached.membersContained type id (mem_members_of_singleMethodOfKind? single)).1

/-- The one constructor of a class takes what it took, unless there is another one.
So whatever it has to suit, it suits in the later table if it did before.
-/
theorem TypeTable.PersistsIn.filter_scriptConstructor? {type : TypeId}
    (constructors
      : later.methodsOfKind type .constructor = table.methodsOfKind type .constructor)
    (suits : MethodSymbol → Bool)
    : (later.scriptConstructor? type).filter (fun id => suits (later.method id))
      = (table.scriptConstructor? type).filter (fun id => suits (table.method id)) := by
  have same : later.scriptConstructor? type = table.scriptConstructor? type := by
    simp only [scriptConstructor?, singleMethodOfKind?, constructors]
  rw [same]
  cases single : table.scriptConstructor? type with
  | none => rfl
  | some constructor =>
      simp only [Option.filter_some, persists.method_of_single reached single]

/-- What a body reads stays the same after its entry point was created.
By cases on the shape: a forwarder asks whether its result is void, scripts and submissions ask for
their methods, all of which persist.
-/
theorem Created.readsSame {config : SynthesisConfig} {strategy : Strategy}
    {shape : EntryPointShape} (created : Created table config strategy shape)
    (constructors
      : ∀ type,
          shape.constructedClass? = some type
          → later.methodsOfKind type .constructor = table.methodsOfKind type .constructor)
    : shape.ReadsSame table later := by
  cases created with
  | @awaiting userMain protocol awaits =>
      refine .forwarder (fun call called => ?_)
      obtain rfl := Option.some.inj called
      exact (persists.appends.symbol (awaits.has_resultType reached)).isVoid
  | unresolved unresolved =>
      refine .forwarder (fun call called => ?_)
      cases unresolved.symm.trans called
  | script admits =>
      exact .script
        (persists.filter_scriptConstructor? reached (constructors _ rfl)
          (fun constructor => constructor.parameters.isEmpty))
        (persists.method_of_single reached admits.initializes)
  | submission admits =>
      exact .submission
        (persists.filter_scriptConstructor? reached (constructors _ rfl)
          (fun constructor => constructor.parameters.length == 1))
        (persists.method_of_single reached admits.initializes) rfl

end

/-- The class that a created entry point constructs is in the table, since it was found to be a
script or a submission class.
-/
theorem Created.has_constructedClass {table : TypeTable} {config : SynthesisConfig}
    {strategy : Strategy} {shape : EntryPointShape} (created : Created table config strategy shape)
    {type : TypeId} (constructed : shape.constructedClass? = some type)
    : table.Has type := by
  have named {kind : NamedKind} (isNamed : (table.symbol type).namedKind? = some kind)
      : table.Has type := by
    refine has_of_kind_ne_error (fun error => ?_)
    simp [TypeSymbol.namedKind?, error] at isNamed
  cases created with
  | awaiting | unresolved => cases constructed
  | script admits =>
      cases constructed
      exact named admits.isScript
  | submission admits =>
      cases constructed
      exact named admits.isSubmission

/-- The body of an entry point is the same, or fails in the same way, over every later table, as
long as its class has gained no constructor.
-/
theorem EntryPoint.body_performAll_eq {table : TypeTable} (reached : table.Reached)
    {strategy : Strategy} {config : SynthesisConfig} {entryPoint : EntryPoint}
    {bag later : DiagnosticBag}
    (created : EntryPoint.create table strategy config bag = (.ok entryPoint, later))
    {operations : List Operation}
    (noConstructor
      : ∀ type,
          entryPoint.shape.constructedClass? = some type
          → ∀ operation ∈ operations, ¬ operation.Declares type .constructor)
    : entryPoint.body (table.performAll operations) = entryPoint.body table := by
  have created' := EntryPoint.created created
  refine body_eq_of_readsSame
    (created'.readsSame reached (.performAll table operations) (fun type constructed => ?_))
  exact methodsOfKind_performAll reached.membersContained
    (created'.has_constructedClass constructed) (noConstructor type constructed)

/-- A script that is constructed and run. -/
def scriptToRun : TypeTable :=
  .performAll .empty
    [
      .definePlatformTasks,
      .defineType "Script" .scriptClass none,
      .defineMethod ⟨13⟩ (.constructor SpecialType.void.id),
      .defineMethod ⟨13⟩ (.initializer ⟨12⟩)
    ]

/-- Changes after which the script could not be created any more: it has another initializer, its
use is reported, and the future type is another one.
-/
def changesBehindScript : List Operation :=
  [
    .defineMethod ⟨13⟩ (.initializer SpecialType.void.id),
    .defineField ⟨12⟩ "GetAwaiter" SpecialType.int32.id,
    .setBase ⟨13⟩ ⟨13⟩,
    .setUseSite ⟨13⟩ { code := .bogusType, arguments := ["Script"] },
    .defineType "Job" .classType none,
    .defineMethod ⟨14⟩ (.constructor SpecialType.void.id),
    .registerTask ⟨14⟩
  ]

/-- The body of the script stays as it is all the same.
Witness: the only constructor among the changes is one of another class.
-/
theorem scriptToRun_body_kept
    : scriptToRun.Reached
      ∧ ∃ entryPoint later body,
          EntryPoint.create scriptToRun (.scriptInitializer ⟨13⟩) {} .empty
            = (.ok entryPoint, later)
          ∧ entryPoint.body scriptToRun = .ok body
          ∧ entryPoint.body (scriptToRun.performAll changesBehindScript) = .ok body := by
  have reached : scriptToRun.Reached := ⟨_, by decide, rfl⟩
  obtain ⟨entryPoint, later, body, created, built, constructed⟩
      : ∃ entryPoint later body,
          EntryPoint.create scriptToRun (.scriptInitializer ⟨13⟩) {} .empty
            = (.ok entryPoint, later)
          ∧ entryPoint.body scriptToRun = .ok body
          ∧ entryPoint.shape.constructedClass? = some ⟨13⟩ :=
    ⟨_, _, _, rfl, rfl, rfl⟩
  have noConstructor (type : TypeId)
      (constructed' : entryPoint.shape.constructedClass? = some type)
      : ∀ operation ∈ changesBehindScript, ¬ operation.Declares type .constructor := by
    obtain rfl := Option.some.inj (constructed.symm.trans constructed')
    simp [changesBehindScript, Operation.Declares, MethodSignature.initializer]
  refine ⟨reached, entryPoint, later, body, created, built, ?_⟩
  exact (entryPoint.body_performAll_eq reached created noConstructor).trans built

end EntryPoints
