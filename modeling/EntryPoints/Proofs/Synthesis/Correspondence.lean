import EntryPoints.Proofs.TypeTable.Correspondence
import EntryPoints.Synthesis.Output

/-! The three synthesizers over corresponding tables: they create what is alike, report the same and
build bodies with the same lines.
-/

namespace EntryPoints

open TypeTable

/-- Results that are the same error, or alike, after the same reports. -/
inductive ResultsAlike {α : Type} (alike : α → α → Prop)
    : Except EntryPointError α × DiagnosticBag → Except EntryPointError α × DiagnosticBag → Prop
    where
  | failed (error : EntryPointError) (bag : DiagnosticBag)
    : ResultsAlike alike (.error error, bag) (.error error, bag)
  | done {left right : α} (bag : DiagnosticBag) (same : alike left right)
    : ResultsAlike alike (.ok left, bag) (.ok right, bag)

section
variable (types : TypeId → TypeId → Prop) (table other : TypeTable)

/-- Expressions of matching types that are printed alike. -/
structure Expression.Alike (left right : Expression) : Prop where
  render : left.render table = right.render other
  type : types left.type right.type

/-- Protocols that are alike in their tables. -/
structure AwaitProtocol.Alike (left right : AwaitProtocol) : Prop where
  getAwaiter : MethodsAlike types table other left.getAwaiter right.getAwaiter
  getResult : MethodsAlike types table other left.getResult right.getResult
  awaiterType : types left.awaiterType right.awaiterType
  resultType : types left.resultType right.resultType

/-- Forwarders that are alike in their tables. -/
structure Forwarder.Alike (left right : Forwarder) : Prop where
  parameters : List.Forall₂ (Parameter.Alike types) left.parameters right.parameters
  getResultCall
    : Option.Rel (Expression.Alike types table other) left.getResultCall right.getResultCall
  returnType : types left.returnType right.returnType

/-- Mains of scripts that are alike in their tables. -/
structure ScriptMain.Alike (left right : ScriptMain) : Prop where
  scriptClass : types left.scriptClass right.scriptClass
  initializer : MethodsAlike types table other left.initializer right.initializer
  protocol : Option.Rel (AwaitProtocol.Alike types table other) left.protocol right.protocol
  returnType : types left.returnType right.returnType

/-- Submission factories that are alike in their tables. -/
structure SubmissionFactory.Alike (left right : SubmissionFactory) : Prop where
  submissionClass : types left.submissionClass right.submissionClass
  initializer : MethodsAlike types table other left.initializer right.initializer
  parameter : left.parameter.Alike types right.parameter
  returnType : types left.returnType right.returnType
  parameterTypeHasErrors : left.parameterTypeHasErrors = right.parameterTypeHasErrors

/-- Entry points of one shape that are alike in their tables. -/
inductive EntryPointShape.Alike : EntryPointShape → EntryPointShape → Prop where
  | forwarder {left right : Forwarder} (alike : left.Alike types table other right)
    : EntryPointShape.Alike (.forwarder left) (.forwarder right)
  | script {left right : ScriptMain} (alike : left.Alike types table other right)
    : EntryPointShape.Alike (.script left) (.script right)
  | submission {left right : SubmissionFactory} (alike : left.Alike types table other right)
    : EntryPointShape.Alike (.submission left) (.submission right)

/-- Entry points that are alike in their tables. -/
structure EntryPoint.Alike (left right : EntryPoint) : Prop where
  accessibility : left.accessibility = right.accessibility
  shape : left.shape.Alike types table other right.shape

/-- Bodies that end in the same error, or in blocks with the same lines. -/
inductive BodiesAlike
    : Except EntryPointError (Synthesized Block) → Except EntryPointError (Synthesized Block) → Prop
    where
  | failed (error : EntryPointError) : BodiesAlike (.error error) (.error error)
  | built {left right : Synthesized Block}
      (lines : left.node.lines table = right.node.lines other)
    : BodiesAlike (.ok left) (.ok right)

end

/-- A script class with exactly one initializer. Whether its main can be created is left to what
that returns.
-/
structure ScriptMain.Starts (table : TypeTable) (scriptClass : TypeId) (initializer : MethodId)
    : Prop where
  isScript : (table.symbol scriptClass).namedKind? = some .scriptClass
  initializes : table.scriptInitializer? scriptClass = some initializer

section
variable {types : TypeId → TypeId → Prop} {table other : TypeTable}

/-- Of methods that are alike, both have parameters or neither has. -/
theorem MethodSymbol.Alike.parameters_isEmpty_eq {left right : MethodSymbol}
    (alike : left.Alike types right)
    : left.parameters.isEmpty = right.parameters.isEmpty := by
  have parameters := alike.parameters
  generalize left.parameters = listed at parameters
  generalize right.parameters = listed' at parameters
  cases parameters <;> rfl

------------------------------------------------------------------------------------------
-- Expressions

/-- Calls without arguments are alike, if the receivers and the methods are and the types match. -/
theorem Expression.Alike.parameterlessCall {left right : Expression} {method method' : MethodId}
    {type type' : TypeId} (alike : left.Alike types table other right)
    (methods : MethodsAlike types table other method method') (same : types type type')
    : (left.parameterlessCall method type).Alike types table other
        (right.parameterlessCall method' type') where
  render := by
    simp only [Expression.parameterlessCall, Expression.render, Expression.renderAll, alike.render,
      methods.name]
  type := same

/-- Awaiting what is alike by protocols that are alike is alike, as two such calls one after the
other.
-/
theorem Expression.Alike.apply {left right : Expression} {protocol protocol' : AwaitProtocol}
    (alike : left.Alike types table other right)
    (protocols : protocol.Alike types table other protocol')
    : (protocol.apply left).Alike types table other (protocol'.apply right) :=
  (alike.parameterlessCall protocols.getAwaiter protocols.awaiterType).parameterlessCall
    protocols.getResult protocols.resultType

/-- Parameters that are alike are printed alike, since only their names are printed; by induction
over them.
-/
theorem renderAll_parameters (table other : TypeTable) {left right : List Parameter}
    (parameters : List.Forall₂ (Parameter.Alike types) left right)
    : Expression.renderAll table (left.map Expression.parameter)
      = Expression.renderAll other (right.map Expression.parameter) := by
  induction parameters with
  | nil => rfl
  | cons alike _ ih =>
      simp only [List.map_cons, Expression.renderAll, Expression.render, alike.name, ih]

end

namespace TypeTable.Corresponds

variable {types : TypeId → TypeId → Prop} {table other : TypeTable}
  (corresponds : Corresponds types table other) (ends : table.ChainsEnd)

------------------------------------------------------------------------------------------
-- The await protocol

section
variable {left right : TypeId} (same : types left right)
include corresponds same

include ends in
/-- Members that are required of matching types are found alike, where chains end.
The lookups go through matching types and find members that are alike; so it is the same for both
whether there is exactly one, which is a method and has no parameters.
-/
theorem requiredMethod?_rel (member : WellKnownMember)
    : Option.Rel (MethodsAlike types table other) (table.requiredMethod? left member)
        (other.requiredMethod? right member) := by
  have found := corresponds.lookupInHierarchy_rel same (ends left) member.spelling
  unfold requiredMethod?
  generalize table.lookupInHierarchy left member.spelling = lookup at found
  generalize other.lookupInHierarchy right member.spelling = lookup' at found
  cases found with
  | none => exact .none
  | @some pair pair' both =>
      obtain ⟨owner, members⟩ := pair
      obtain ⟨owner', members'⟩ := pair'
      obtain ⟨_, members⟩ := both
      dsimp only at members ⊢
      cases members with
      | nil => exact .none
      | cons first rest =>
          cases rest with
          | cons _ _ => cases first <;> exact .none
          | nil =>
              cases first with
              | field name _ => exact .none
              | method alike =>
                  dsimp only
                  rw [alike.parameters_isEmpty_eq]
                  split
                  · exact .some alike
                  · exact .none

/-- Using types that match is reported alike. -/
theorem reportUseSite_eq (interned : table.ArraysInterned) (interned' : other.ArraysInterned)
    (bag : DiagnosticBag)
    : table.reportUseSite left bag = other.reportUseSite right bag := by
  rw [reportUseSite, reportUseSite, corresponds.useSite?_eq same interned interned']

include ends in
/-- Requiring a member of types that match finds methods that are alike, with the same reports: the
name of a type is all that a report of a lacking member mentions.
-/
theorem requireMethod_rel (member : WellKnownMember) (location : Location) (bag : DiagnosticBag)
    : Option.Rel (MethodsAlike types table other)
          (table.requireMethod left member location bag).1
          (other.requireMethod right member location bag).1
      ∧ (table.requireMethod left member location bag).2
        = (other.requireMethod right member location bag).2 := by
  have found := corresponds.requiredMethod?_rel ends same member
  unfold requireMethod missingMember
  rw [corresponds.displayName_eq same]
  generalize table.requiredMethod? left member = required at found
  generalize other.requiredMethod? right member = required' at found
  cases found with
  | none => exact ⟨.none, rfl⟩
  | some alike => exact ⟨.some alike, rfl⟩

include ends in
/-- Protocols are resolved alike, with the same reports.
Both steps require a member of types that match: first the types themselves, and then what the two
`GetAwaiter` return.
-/
theorem resolveAwait_rel (bag : DiagnosticBag)
    : Option.Rel (AwaitProtocol.Alike types table other) (table.resolveAwait left bag).1
          (other.resolveAwait right bag).1
      ∧ (table.resolveAwait left bag).2 = (other.resolveAwait right bag).2 := by
  unfold resolveAwait
  rw [corresponds.isError_eq same]
  split
  · exact ⟨.none, rfl⟩
  · have first := corresponds.requireMethod_rel ends same .getAwaiter .nowhere bag
    generalize table.requireMethod left .getAwaiter .nowhere bag = required at first ⊢
    generalize other.requireMethod right .getAwaiter .nowhere bag = required' at first ⊢
    obtain ⟨getAwaiter, later⟩ := required
    obtain ⟨getAwaiter', later'⟩ := required'
    obtain ⟨found, rfl⟩ := first
    cases found with
    | none => exact ⟨.none, rfl⟩
    | @some getAwaiter getAwaiter' alike =>
        have second :=
          corresponds.requireMethod_rel ends alike.returnType .getResult .nowhere later
        dsimp only
        generalize
          table.requireMethod (table.method getAwaiter).returnType .getResult .nowhere later
          = required at second ⊢
        generalize
          other.requireMethod (other.method getAwaiter').returnType .getResult .nowhere later
          = required' at second ⊢
        obtain ⟨getResult, last⟩ := required
        obtain ⟨getResult', last'⟩ := required'
        obtain ⟨found', rfl⟩ := second
        cases found' with
        | none => exact ⟨.none, rfl⟩
        | some alike' =>
            exact ⟨.some ⟨alike, alike', alike.returnType, alike'.returnType⟩, rfl⟩

end

------------------------------------------------------------------------------------------
-- Forwarders

section
variable {main main' : MethodId} (mains : MethodsAlike types table other main main')
include corresponds mains

/-- Mains that are alike pass the check alike.
Of types the check only asks whether the one parameter is the array of strings, of which there is
one in each table, and these two match.
-/
theorem check_eq : Forwarder.check table main = Forwarder.check other main' := by
  have parameters := mains.parameters
  unfold Forwarder.check
  dsimp only
  rw [mains.isStatic]
  generalize (table.method main).parameters = listed at parameters
  generalize (other.method main').parameters = listed' at parameters
  cases parameters with
  | nil => rfl
  | @cons parameter parameter' _ _ alike rest =>
      cases rest with
      | cons _ rest => simp [rest.length_eq]
      | nil =>
          have array
              : table.arrayType? SpecialType.string.id = some parameter.type
                ↔ other.arrayType? SpecialType.string.id = some parameter'.type := by
            have arrays := corresponds.array .string (by decide)
            generalize table.arrayType? SpecialType.string.id = known at arrays
            generalize other.arrayType? SpecialType.string.id = known' at arrays
            cases arrays with
            | none => simp
            | some same =>
                simp only [Option.some.injEq]
                exact corresponds.eq_iff same alike.type
          simp only [ne_eq, array, alike.name, corresponds.displayName_eq alike.type]

/-- The calls of mains with their own parameters are alike. -/
theorem invocation_alike
    : Expression.Alike types table other
        (.staticCall main ((table.method main).parameters.map Expression.parameter)
          (table.method main).returnType)
        (.staticCall main' ((other.method main').parameters.map Expression.parameter)
          (other.method main').returnType) where
  render := by
    simp only [Expression.render, renderAll_parameters table other mains.parameters,
      mains.name,
      corresponds.displayName_eq mains.containingType]
  type := mains.returnType

include ends in
/-- Forwarders to mains that are alike are created alike: the check passes alike, the protocols are
resolved alike, and so the awaiting calls are alike.
-/
theorem forwarder_create_rel (bag : DiagnosticBag)
    : ResultsAlike (Forwarder.Alike types table other) (Forwarder.create table main bag)
        (Forwarder.create other main' bag) := by
  unfold Forwarder.create
  rw [corresponds.check_eq mains]
  cases Forwarder.check other main' with
  | error inconsistency => exact .failed _ bag
  | ok _ =>
      have resolved := corresponds.resolveAwait_rel ends mains.returnType bag
      have invocation := corresponds.invocation_alike mains
      dsimp only
      generalize table.resolveAwait (table.method main).returnType bag = result at resolved ⊢
      generalize other.resolveAwait (other.method main').returnType bag = result' at resolved ⊢
      obtain ⟨protocol, later⟩ := result
      obtain ⟨protocol', later'⟩ := result'
      obtain ⟨found, rfl⟩ := resolved
      cases found with
      | none => exact .done later ⟨mains.parameters, .none, corresponds.error⟩
      | some protocols =>
          have call := invocation.apply protocols
          exact .done later ⟨mains.parameters, .some call, call.type⟩

end

/-- Forwarders that are alike have bodies of the same lines, or none alike; the call is returned or
not, as its type is void in both tables or in none.
-/
theorem forwarder_body_rel (corresponds : Corresponds types table other) {left right : Forwarder}
    (alike : left.Alike types table other right)
    : BodiesAlike table other (left.body table) (right.body other) := by
  have call := alike.getResultCall
  unfold Forwarder.body
  generalize left.getResultCall = leftCall at call
  generalize right.getResultCall = rightCall at call
  cases call with
  | none => exact .failed _
  | some call =>
      dsimp only
      rw [corresponds.isVoid_eq call.type]
      split
      · exact .built (by simp [Block.lines, Statement.render, call.render])
      · exact .built (by simp [Block.lines, Statement.render, call.render])

------------------------------------------------------------------------------------------
-- Mains of scripts

/-- A class that starts a script is matched by one that does, with an initializer that is alike. -/
theorem exists_starts (corresponds : Corresponds types table other)
    {scriptClass scriptClass' : TypeId} (same : types scriptClass scriptClass')
    {initializer : MethodId} (starts : ScriptMain.Starts table scriptClass initializer)
    : ∃ initializer',
        ScriptMain.Starts other scriptClass' initializer'
        ∧ MethodsAlike types table other initializer initializer' := by
  have initializers := corresponds.singleMethodOfKind?_rel same .initializer
  have isScript := (corresponds.namedKind?_eq same).symm.trans starts.isScript
  have initializes : table.singleMethodOfKind? scriptClass .initializer = some initializer :=
    starts.initializes
  rw [initializes] at initializers
  generalize found : other.singleMethodOfKind? scriptClass' .initializer = initializer?
    at initializers
  cases initializers with
  | @some _ initializer' alike => exact ⟨initializer', ⟨isScript, found⟩, alike⟩

section
variable (interned : table.ArraysInterned) (interned' : other.ArraysInterned)
include corresponds ends interned interned'

/-- Mains of scripts are created alike, if the future types match that both look at.
The future types are looked at only after the class was found to start the script, so this is needed
in that case only.
-/
theorem script_create_rel {scriptClass scriptClass' : TypeId}
    (same : types scriptClass scriptClass')
    (tasks
      : ∀ {initializer},
          ScriptMain.Starts table scriptClass initializer
          → types table.wellKnownTask other.wellKnownTask)
    (bag : DiagnosticBag)
    : ResultsAlike (ScriptMain.Alike types table other) (ScriptMain.create table scriptClass bag)
        (ScriptMain.create other scriptClass' bag) := by
  have initializers := corresponds.singleMethodOfKind?_rel same .initializer
  unfold ScriptMain.create scriptInitializer?
  rw [corresponds.displayName_eq same, ← corresponds.namedKind?_eq same]
  split
  · exact .failed _ bag
  · next isScript =>
    generalize initializes : table.singleMethodOfKind? scriptClass .initializer = found
      at initializers
    generalize other.singleMethodOfKind? scriptClass' .initializer = found' at initializers
    cases initializers with
    | none => exact .failed _ bag
    | some initializers =>
        have tasks := tasks ⟨not_not.mp isScript, initializes⟩
        dsimp only
        rw [corresponds.isError_eq tasks,
          corresponds.isDerivedFrom_eq initializers.returnType (ends _) tasks,
          corresponds.displayName_eq initializers.returnType, corresponds.displayName_eq tasks,
          corresponds.reportUseSite_eq tasks interned interned']
        split
        · exact .failed _ bag
        · have resolved := corresponds.resolveAwait_rel ends tasks
            (other.reportUseSite other.wellKnownTask bag).2
          generalize table.resolveAwait table.wellKnownTask _ = result at resolved ⊢
          generalize other.resolveAwait other.wellKnownTask _ = result' at resolved ⊢
          obtain ⟨protocol, later⟩ := result
          obtain ⟨protocol', later'⟩ := result'
          obtain ⟨protocols, rfl⟩ := resolved
          exact .done later ⟨same, initializers, protocols, corresponds.special .void⟩

end

/-- The constructors that two matching scripts are created with are alike, or missing alike. -/
theorem scriptMain_constructor?_rel (corresponds : Corresponds types table other)
    {left right : TypeId} (same : types left right)
    : Option.Rel (MethodsAlike types table other) (ScriptMain.constructor? table left)
        (ScriptMain.constructor? other right) :=
  optionRel_filter (fun _ _ methods => methods.parameters_isEmpty_eq)
    (corresponds.singleMethodOfKind?_rel same .constructor)

/-- Mains of scripts that are alike have bodies of the same lines, or fail alike: protocols and
constructors are there alike, and initializers have parameters alike.
-/
theorem script_body_rel (corresponds : Corresponds types table other) {left right : ScriptMain}
    (alike : left.Alike types table other right)
    : BodiesAlike table other (left.body table) (right.body other) := by
  have protocols := alike.protocol
  have constructors := corresponds.scriptMain_constructor?_rel alike.scriptClass
  unfold ScriptMain.body
  generalize left.protocol = protocol at protocols
  generalize right.protocol = protocol' at protocols
  cases protocols with
  | none => exact .failed _
  | some protocols =>
      dsimp only
      generalize ScriptMain.constructor? table left.scriptClass = found at constructors
      generalize ScriptMain.constructor? other right.scriptClass = found' at constructors
      cases constructors with
      | none => exact .failed _
      | some constructors =>
          dsimp only
          rw [alike.initializer.parameters_isEmpty_eq]
          split
          · exact .failed _
          · have script
                : Expression.Alike types table other (.temporary ⟨0, left.scriptClass⟩)
                    (.temporary ⟨0, right.scriptClass⟩) :=
              ⟨rfl, alike.scriptClass⟩
            have run :=
              script.parameterlessCall alike.initializer alike.initializer.returnType
            have awaited := run.apply protocols
            refine .built ?_
            simp [Block.lines, Statement.render, Temporary.render, Expression.render,
              Expression.renderAll, awaited.render, corresponds.displayName_eq alike.scriptClass,
              Temporary.name]

------------------------------------------------------------------------------------------
-- Submission factories

/-- Factories of matching submissions are created alike, since every prerequisite is there alike:
the kind of the class, its initializer, and the array of objects with its diagnostics.
-/
theorem submission_create_rel (corresponds : Corresponds types table other)
    (interned : table.ArraysInterned) (interned' : other.ArraysInterned)
    {submissionClass submissionClass' : TypeId} (same : types submissionClass submissionClass')
    (config : SynthesisConfig) (bag : DiagnosticBag)
    : ResultsAlike (SubmissionFactory.Alike types table other)
        (SubmissionFactory.create table submissionClass config bag)
        (SubmissionFactory.create other submissionClass' config bag) := by
  have initializers := corresponds.singleMethodOfKind?_rel same .initializer
  have arrays := corresponds.array .object (by decide)
  unfold SubmissionFactory.create scriptInitializer?
  rw [corresponds.namedKind?_eq same, corresponds.displayName_eq same]
  split
  · exact .failed _ bag
  · generalize table.singleMethodOfKind? submissionClass .initializer = found at initializers
    generalize other.singleMethodOfKind? submissionClass' .initializer = found' at initializers
    cases initializers with
    | none => exact .failed _ bag
    | some initializers =>
        dsimp only
        rw [corresponds.isVoid_eq initializers.returnType]
        split
        · exact .failed _ bag
        · generalize table.arrayType? SpecialType.object.id = array at arrays
          generalize other.arrayType? SpecialType.object.id = array' at arrays
          cases arrays with
          | none => exact .failed _ bag
          | some sameArray =>
              dsimp only
              rw [corresponds.reportUseSite_eq sameArray interned interned']
              exact .done _
                ⟨same, initializers, ⟨rfl, sameArray, rfl⟩, initializers.returnType, rfl⟩

/-- The constructors that two matching submissions are created with are alike, or missing alike. -/
theorem submissionFactory_constructor?_rel (corresponds : Corresponds types table other)
    {left right : TypeId} (same : types left right)
    : Option.Rel (MethodsAlike types table other) (SubmissionFactory.constructor? table left)
        (SubmissionFactory.constructor? other right) :=
  optionRel_filter (fun _ _ methods => by simp only [methods.parameters.length_eq])
    (corresponds.singleMethodOfKind?_rel same .constructor)

/-- Factories that are alike have bodies of the same lines, or fail alike, with the same error.
The comparison of what the initializer returns with what the factory does has the same outcome,
since types match one to one.
-/
theorem submission_body_rel (corresponds : Corresponds types table other)
    {left right : SubmissionFactory} (alike : left.Alike types table other right)
    : BodiesAlike table other (left.body table) (right.body other) := by
  have constructors := corresponds.submissionFactory_constructor?_rel alike.submissionClass
  unfold SubmissionFactory.body
  rw [alike.parameterTypeHasErrors]
  split
  · exact .failed _
  · generalize SubmissionFactory.constructor? table left.submissionClass = found at constructors
    generalize SubmissionFactory.constructor? other right.submissionClass = found' at constructors
    cases constructors with
    | none => exact .failed _
    | some constructors =>
        dsimp only
        rw [alike.initializer.parameters_isEmpty_eq,
          corresponds.displayName_eq alike.initializer.returnType,
          corresponds.displayName_eq alike.returnType]
        simp only [ne_eq, corresponds.eq_iff alike.initializer.returnType alike.returnType]
        split
        · exact .failed _
        · split
          · exact .failed _
          · have submission
                : Expression.Alike types table other (.temporary ⟨0, left.submissionClass⟩)
                    (.temporary ⟨0, right.submissionClass⟩) :=
              ⟨rfl, alike.submissionClass⟩
            have run :=
              submission.parameterlessCall alike.initializer alike.initializer.returnType
            refine .built ?_
            simp [Block.lines, Statement.render, Temporary.render, Expression.render,
              Expression.renderAll, run.render, corresponds.displayName_eq alike.submissionClass,
              Temporary.name, alike.parameter.name]

end TypeTable.Corresponds

end EntryPoints
