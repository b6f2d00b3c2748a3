import EntryPoints.Proofs.Synthesis.Rendering

/-! What the user chose about an entry point shows in its text and has no influence on whether there
is one, on the error that synthesis ends with or on what it reports.
-/

namespace EntryPoints

------------------------------------------------------------------------------------------
-- Two configurations

/-- The factory whose parameter is called what the configuration says. -/
def SubmissionFactory.configured (config : SynthesisConfig) (factory : SubmissionFactory)
    : SubmissionFactory :=
  { factory with parameter := { factory.parameter with name := config.submissionParameter } }

/-- The entry point as another configuration would have it. -/
def EntryPoint.configured (config : SynthesisConfig) (entryPoint : EntryPoint) : EntryPoint where
  containingType := entryPoint.containingType
  accessibility := config.accessibility
  shape :=
    match entryPoint.shape with
    | .submission factory => .submission (factory.configured config)
    | shape => shape

section
variable (table : TypeTable) (config other : SynthesisConfig) (bag : DiagnosticBag)

/-- Creating a factory with another configuration reports the same and makes the same factory, apart
from the name of its parameter.
No check in the creation looks at the configuration.
-/
theorem SubmissionFactory.create_configured (submissionClass : TypeId)
    : create table submissionClass other bag
      = ((create table submissionClass config bag).1.map (configured other),
        (create table submissionClass config bag).2) := by
  unfold create
  split
  · rfl
  · split
    · rfl
    · dsimp only
      split
      · rfl
      · split <;> rfl

/-- Creating an entry point with another configuration reports the same and makes the same entry
point, apart from what is configured; by cases on the strategy.
-/
theorem EntryPoint.create_configured (strategy : Strategy)
    : create table strategy other bag
      = ((create table strategy config bag).1.map (configured other),
        (create table strategy config bag).2) := by
  cases strategy with
  | forwarder userMain =>
      rcases created : Forwarder.create table userMain bag with ⟨_ | _, later⟩ <;>
        simp [create, created, Except.map, configured]
  | scriptInitializer scriptClass =>
      rcases created : ScriptMain.create table scriptClass bag with ⟨_ | _, later⟩ <;>
        simp [create, created, Except.map, configured]
  | submissionFactory submissionClass =>
      have configured := SubmissionFactory.create_configured table config other bag submissionClass
      rcases created : SubmissionFactory.create table submissionClass config bag
        with ⟨_ | _, later⟩ <;>
        simp [create, configured, created, Except.map, EntryPoint.configured]

/-- Whether an entry point is viable does not depend on the configuration. -/
theorem EntryPoint.isViable_configured (entryPoint : EntryPoint)
    : (entryPoint.configured other).isViable = entryPoint.isViable := by
  obtain ⟨containing, accessibility, shape⟩ := entryPoint
  cases shape <;> rfl

/-- A body is built or not whatever the parameter of a factory is called, and fails with the same
error; by cases on the shape.
-/
theorem EntryPoint.body_configured (entryPoint : EntryPoint)
    : ((entryPoint.configured other).body table).map (fun _ => ())
      = (entryPoint.body table).map (fun _ => ()) := by
  obtain ⟨containing, accessibility, shape⟩ := entryPoint
  cases shape with
  | forwarder forwarder => rfl
  | script main => rfl
  | submission factory =>
      simp only [EntryPoint.body, configured, SubmissionFactory.configured,
        SubmissionFactory.body]
      split
      · rfl
      · split
        · rfl
        · split
          · rfl
          · split <;> rfl

/-- Synthesis with any two configurations ends in the same error, or with an output or none in both
cases, and has reported the same.
-/
theorem TypeTable.synthesize_configured (kind : CompilationKind) (candidate : Option MethodId)
    : (table.synthesize kind candidate other bag).1.map Option.isSome
        = (table.synthesize kind candidate config bag).1.map Option.isSome
      ∧ (table.synthesize kind candidate other bag).2
        = (table.synthesize kind candidate config bag).2 := by
  cases selected : table.selectStrategy kind candidate with
  | none => simp [synthesize, selected]
  | some strategy =>
      have created' := EntryPoint.create_configured table config other bag strategy
      rcases created : EntryPoint.create table strategy config bag with ⟨error | entryPoint, later⟩
      · rw [created] at created'
        rw [synthesize_of_create_error selected created,
          synthesize_of_create_error selected created']
        exact ⟨rfl, rfl⟩
      · rw [created] at created'
        cases viable : entryPoint.isViable with
        | false =>
            have viable' := (entryPoint.isViable_configured other).trans viable
            rw [synthesize_of_not_viable selected created viable,
              synthesize_of_not_viable selected created' viable']
            exact ⟨rfl, rfl⟩
        | true =>
            have viable' := (entryPoint.isViable_configured other).trans viable
            have built := entryPoint.body_configured table other
            rw [synthesize_of_viable selected created viable,
              synthesize_of_viable selected created' viable']
            refine ⟨?_, rfl⟩
            cases body : entryPoint.body table <;>
              cases body' : (entryPoint.configured other).body table <;>
              simp_all [Except.map]

end

------------------------------------------------------------------------------------------
-- Where the choices show

/-- The text of an entry point in pieces: the keyword of its accessibility comes first, and the name
of a factory's parameter wherever it is mentioned.
-/
def printedWith (config : SynthesisConfig) (pieces : List String) : String :=
  config.accessibility.keyword ++ config.submissionParameter.intercalate pieces

/-- Text in one piece has the accessibility in front and no name of a parameter in it. -/
theorem printedWith_singleton (config : SynthesisConfig) (rest : String)
    : printedWith config [rest] = config.accessibility.keyword ++ rest := by
  simp [printedWith]

/-- The accessibility is the first word of the text and shows nowhere else: the rest is made of the
signature behind it and of the body, which do not mention it.
-/
theorem EntryPointOutput.exists_rest (table : TypeTable) (output : EntryPointOutput)
    : ∃ rest : String,
        ∀ accessibility : Accessibility,
          EntryPointOutput.render table
              { output with entryPoint := { output.entryPoint with accessibility } }
            = accessibility.keyword ++ rest := by
  let entryPoint := output.entryPoint
  let parameters :=
    entryPoint.parameters.map
      (fun parameter => table.displayName parameter.type ++ " " ++ parameter.name)
  let rest :=
    " static " ++ table.displayName entryPoint.returnType ++ " " ++ entryPoint.name ++ "("
      ++ commaSeparated parameters ++ ")\n"
      ++ textOf
          ("\x7b" :: (output.body.node.lines table).map (BodyWriter.indentation ++ ·)
            ++ ["\x7d"])
  refine ⟨rest, fun accessibility => ?_⟩
  rw [EntryPointOutput.render_eq, EntryPoint.signature_view]
  simp [← String.toList_inj, textOf, rest, parameters, entryPoint, EntryPoint.returnType,
    EntryPoint.name, EntryPoint.parameters]

/-- The name of a factory's parameter is printed twice, in its signature and in the construction.
So the text falls into three pieces that are the same for every configuration.
-/
theorem SubmissionFactory.exists_pieces (table : TypeTable) (submissionClass array : TypeId)
    (initializer constructor : MethodId)
    : ∃ pieces : List String,
        ∀ config : SynthesisConfig,
          EntryPointOutput.render table
              {
                entryPoint := .constructing table config submissionClass initializer array,
                body :=
                  ⟨SubmissionFactory.block table
                    (SubmissionFactory.constructing table config submissionClass initializer
                      array false)
                    constructor⟩
              }
            = printedWith config pieces := by
  let submission := table.displayName submissionClass
  let signature :=
    " static " ++ table.displayName (table.method initializer).returnType ++ " <Factory>("
      ++ table.displayName array ++ " "
  let construction :=
    ")\n\x7b\n    " ++ submission ++ " temp0;\n    temp0 = new " ++ submission ++ "("
  let run := ");\n    return temp0." ++ (table.method initializer).name ++ "();\n\x7d\n"
  refine ⟨[signature, construction, run], fun config => ?_⟩
  rw [EntryPointOutput.render_eq, EntryPoint.signature_view]
  simp [← String.toList_inj, printedWith, textOf, signature, construction, run, submission,
    SubmissionFactory.block, Block.lines, Statement.render, Temporary.render,
    EntryPoint.constructing, EntryPoint.returnType, EntryPoint.name, EntryPoint.parameters,
    SubmissionFactory.constructing, Expression.render, Expression.renderAll,
    Expression.parameterlessCall, commaSeparated, BodyWriter.indentation,
    SyntheticName.spelling, SyntheticName.info]

/-- An output has one for each other configuration beside it, with the same pieces.
By cases on how the output is made. Forwarders and scripts are printed in one piece, as they do not
use the name of a submission's parameter.
-/
theorem Produces.exists_pieces {table : TypeTable} {config : SynthesisConfig}
    {kind : CompilationKind} {candidate : Option MethodId} {output : EntryPointOutput}
    (produces : Produces table config kind candidate output)
    : ∃ pieces : List String,
        ∀ other : SynthesisConfig,
          ∃ output : EntryPointOutput,
            Produces table other kind candidate output
            ∧ output.render table = printedWith other pieces := by
  obtain ⟨rest, text⟩ := output.exists_rest table
  cases produces with
  | forwarder async checked awaits =>
      refine ⟨[rest], fun other => ⟨_, .forwarder async checked awaits, ?_⟩⟩
      rw [printedWith_singleton]
      exact text other.accessibility
  | script admits awaits constructs bare parameterless =>
      refine ⟨[rest],
        fun other => ⟨_, .script admits awaits constructs bare parameterless, ?_⟩⟩
      rw [printedWith_singleton]
      exact text other.accessibility
  | submission admits usable constructs single parameterless =>
      obtain ⟨pieces, text⟩ := SubmissionFactory.exists_pieces table _ _ _ _
      exact ⟨pieces,
        fun other =>
          ⟨_, .submission admits usable constructs single parameterless, text other⟩⟩

end EntryPoints
