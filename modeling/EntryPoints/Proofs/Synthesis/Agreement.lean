import EntryPoints.Proofs.Synthesis.Correspondence
import EntryPoints.Synthesis.Report

/-! Compilations that correspond are reported alike: what synthesis says depends on what a table
holds and not on how its types are numbered.
-/

namespace EntryPoints

open TypeTable

section
variable (types : TypeId → TypeId → Prop) (table other : TypeTable)

/-- Strategies that are alike in their tables. -/
inductive Strategy.Alike : Strategy → Strategy → Prop where
  | forwarder {left right : MethodId} (mains : MethodsAlike types table other left right)
    : Strategy.Alike (.forwarder left) (.forwarder right)
  | script {left right : TypeId} (same : types left right)
    : Strategy.Alike (.scriptInitializer left) (.scriptInitializer right)
  | submission {left right : TypeId} (same : types left right)
    : Strategy.Alike (.submissionFactory left) (.submissionFactory right)

/-- Kinds of compilations over matching classes. -/
inductive CompilationKind.Alike : CompilationKind → CompilationKind → Prop where
  | regular : CompilationKind.Alike .regular .regular
  | script {left right : TypeId} (same : types left right)
    : CompilationKind.Alike (.script left) (.script right)
  | submission {left right : TypeId} (same : types left right)
    : CompilationKind.Alike (.submission left) (.submission right)

end

/-- Compilations over corresponding tables, in which every base chain ends, with matching future
types.
-/
structure LoadedCompilation.Alike (types : TypeId → TypeId → Prop) (left right : LoadedCompilation)
    : Prop where
  corresponds : Corresponds types left.table right.table
  ends : left.table.ChainsEnd
  interned : left.table.ArraysInterned
  interned' : right.table.ArraysInterned
  tasks : types left.table.wellKnownTask right.table.wellKnownTask
  kind : left.kind.Alike types right.kind
  candidate : Option.Rel (MethodsAlike types left.table right.table) left.candidate right.candidate

/-- What is made of results that are alike is alike, if what is made of alike outputs is. -/
theorem ResultsAlike.map {α β : Type} {alike : α → α → Prop} {alike' : β → β → Prop}
    {left right : Except EntryPointError α × DiagnosticBag} (h : ResultsAlike alike left right)
    {make make' : α → β}
    (makes : ∀ first second, alike first second → alike' (make first) (make' second))
    : ResultsAlike alike' (left.1.map make, left.2) (right.1.map make', right.2) := by
  cases h with
  | failed error bag => exact .failed error bag
  | done bag same => exact .done bag (makes _ _ same)

------------------------------------------------------------------------------------------
-- Entry points

namespace EntryPoint.Alike

variable {types : TypeId → TypeId → Prop} {table other : TypeTable} {left right : EntryPoint}
  (alike : left.Alike types table other right)
include alike

/-- Entry points that are alike are viable alike, as their prerequisites are there alike; by cases
on the shape they share.
-/
theorem isViable_eq : left.isViable = right.isViable := by
  have shapes := alike.shape
  unfold EntryPoint.isViable
  generalize left.shape = shape at shapes
  generalize right.shape = shape' at shapes
  cases shapes with
  | forwarder alike => exact optionRel_isSome alike.getResultCall
  | script alike => exact optionRel_isSome alike.protocol
  | submission alike =>
      dsimp only
      rw [SubmissionFactory.isViable, SubmissionFactory.isViable, alike.parameterTypeHasErrors]

/-- Their bodies are built alike, with the same lines or the same error; by cases on the shape they
share.
-/
theorem body_rel (corresponds : Corresponds types table other)
    : BodiesAlike table other (left.body table) (right.body other) := by
  have shapes := alike.shape
  unfold EntryPoint.body
  generalize left.shape = shape at shapes
  generalize right.shape = shape' at shapes
  cases shapes with
  | forwarder alike => exact corresponds.forwarder_body_rel alike
  | script alike => exact corresponds.script_body_rel alike
  | submission alike => exact corresponds.submission_body_rel alike

/-- They have the same name, which the shape alone decides. -/
theorem name_eq : left.name = right.name := by
  have shapes := alike.shape
  unfold EntryPoint.name
  generalize left.shape = shape at shapes
  generalize right.shape = shape' at shapes
  cases shapes <;> rfl

/-- Their parameters are alike: those of the mains for forwarders, none for scripts and one for
submissions.
-/
theorem parameters_rel : List.Forall₂ (Parameter.Alike types) left.parameters right.parameters := by
  have shapes := alike.shape
  unfold EntryPoint.parameters
  generalize left.shape = shape at shapes
  generalize right.shape = shape' at shapes
  cases shapes with
  | forwarder alike => exact alike.parameters
  | script => exact .nil
  | submission alike => exact .cons alike.parameter .nil

/-- What they return matches, whichever shape they share. -/
theorem returnType_rel : types left.returnType right.returnType := by
  have shapes := alike.shape
  unfold EntryPoint.returnType
  generalize left.shape = shape at shapes
  generalize right.shape = shape' at shapes
  cases shapes with
  | forwarder alike => exact alike.returnType
  | script alike => exact alike.returnType
  | submission alike => exact alike.returnType

/-- They are printed with the same signature.
Of types only the names are printed, and these are the same for types that match; so the texts of
the parameters are the same one by one.
-/
theorem signature_eq (corresponds : Corresponds types table other)
    : left.view.signature table = right.view.signature other := by
  have parameters
      : left.parameters.map
            (fun parameter => table.displayName parameter.type ++ " " ++ parameter.name)
        = right.parameters.map
            (fun parameter => other.displayName parameter.type ++ " " ++ parameter.name) := by
    have related := alike.parameters_rel
    generalize left.parameters = listed at related
    generalize right.parameters = listed' at related
    induction related with
    | nil => rfl
    | cons same _ ih =>
        rw [List.map_cons, List.map_cons, ih, same.name, corresponds.displayName_eq same.type]
  unfold MethodView.signature EntryPoint.view
  dsimp only
  rw [parameters, alike.name_eq, alike.accessibility,
    corresponds.displayName_eq alike.returnType_rel]

/-- Entry points that are alike are printed alike, with bodies of the same lines. -/
theorem render_eq (corresponds : Corresponds types table other) {body body' : Synthesized Block}
    (lines : body.node.lines table = body'.node.lines other)
    : EntryPointOutput.render table ⟨left, body⟩
      = EntryPointOutput.render other ⟨right, body'⟩ := by
  simp only [EntryPointOutput.render, Block.write, lines, alike.signature_eq corresponds]

end EntryPoint.Alike

------------------------------------------------------------------------------------------
-- Selection

/-- Compilations that are alike, with mains that are alike taken for async ones alike, select
strategies that are alike.
-/
theorem selectStrategy_rel {types : TypeId → TypeId → Prop} {table other : TypeTable}
    {kind kind' : CompilationKind} {candidate candidate' : Option MethodId}
    (kinds : kind.Alike types kind')
    (candidates : Option.Rel (MethodsAlike types table other) candidate candidate')
    (async
      : ∀ {main main'},
          MethodsAlike types table other main main'
          → table.isAsyncCandidate main = other.isAsyncCandidate main')
    : Option.Rel (Strategy.Alike types table other) (table.selectStrategy kind candidate)
        (other.selectStrategy kind' candidate') := by
  cases kinds with
  | script same => exact .some (.script same)
  | submission same => exact .some (.submission same)
  | regular =>
      have filtered := optionRel_filter (fun _ _ mains => async mains) candidates
      rw [selectStrategy, selectStrategy]
      generalize candidate.filter table.isAsyncCandidate = selected at filtered
      generalize candidate'.filter other.isAsyncCandidate = selected' at filtered
      cases filtered with
      | none => exact .none
      | some mains => exact .some (.forwarder mains)

/-- Compilations over corresponding tables that select strategies that are alike. The future types
match if a script is to be started, which is the only strategy to look at them.
-/
structure LoadedCompilation.SelectsAlike (types : TypeId → TypeId → Prop)
    (left right : LoadedCompilation)
    : Prop where
  corresponds : Corresponds types left.table right.table
  ends : left.table.ChainsEnd
  interned : left.table.ArraysInterned
  interned' : right.table.ArraysInterned
  strategies
    : Option.Rel (Strategy.Alike types left.table right.table)
        (left.table.selectStrategy left.kind left.candidate)
        (right.table.selectStrategy right.kind right.candidate)
  tasks
    : ∀ {scriptClass initializer},
        left.table.selectStrategy left.kind left.candidate = some (.scriptInitializer scriptClass)
        → ScriptMain.Starts left.table scriptClass initializer
        → types left.table.wellKnownTask right.table.wellKnownTask

------------------------------------------------------------------------------------------
-- Synthesis

namespace LoadedCompilation.SelectsAlike

variable {types : TypeId → TypeId → Prop} {left right : LoadedCompilation}
  (alike : left.SelectsAlike types right)
include alike

/-- Strategies that are alike create entry points that are alike, with the same reports, or fail
with the same error.
By cases on the strategy. Only for a script do the future types have to match, and they do where its
class starts it.
-/
theorem create_rel {strategy strategy' : Strategy}
    (selected : left.table.selectStrategy left.kind left.candidate = some strategy)
    (strategies : strategy.Alike types left.table right.table strategy') (config : SynthesisConfig)
    (bag : DiagnosticBag)
    : ResultsAlike (EntryPoint.Alike types left.table right.table)
        (EntryPoint.create left.table strategy config bag)
        (EntryPoint.create right.table strategy' config bag) := by
  cases strategies with
  | @forwarder main main' mains =>
      have created := alike.corresponds.forwarder_create_rel alike.ends mains bag
      unfold EntryPoint.create
      dsimp only
      generalize Forwarder.create left.table main bag = result at created ⊢
      generalize Forwarder.create right.table main' bag = result' at created ⊢
      exact created.map (fun _ _ shape => ⟨rfl, .forwarder shape⟩)
  | @script scriptClass scriptClass' same =>
      have created :=
        alike.corresponds.script_create_rel alike.ends alike.interned alike.interned' same
          (alike.tasks selected) bag
      unfold EntryPoint.create
      dsimp only
      generalize ScriptMain.create left.table scriptClass bag = result at created ⊢
      generalize ScriptMain.create right.table scriptClass' bag = result' at created ⊢
      exact created.map (fun _ _ shape => ⟨rfl, .script shape⟩)
  | @submission submissionClass submissionClass' same =>
      have created :=
        alike.corresponds.submission_create_rel alike.interned alike.interned' same config bag
      unfold EntryPoint.create
      dsimp only
      generalize SubmissionFactory.create left.table submissionClass config bag = result
        at created ⊢
      generalize SubmissionFactory.create right.table submissionClass' config bag = result'
        at created ⊢
      exact created.map (fun _ _ shape => ⟨rfl, .submission shape⟩)

/-- Outputs are there alike, and are printed alike; reports and errors are the same.
By cases on what is created: either both fail, or both are viable alike, and then so are their
bodies.
-/
theorem synthesize_rel (config : SynthesisConfig) (bag : DiagnosticBag)
    : ResultsAlike
        (fun output output' =>
          output.map (EntryPointOutput.render left.table)
          = output'.map (EntryPointOutput.render right.table))
        (left.table.synthesize left.kind left.candidate config bag)
        (right.table.synthesize right.kind right.candidate config bag) := by
  have strategies := alike.strategies
  unfold TypeTable.synthesize
  generalize selected : left.table.selectStrategy left.kind left.candidate = strategy?
    at strategies
  generalize right.table.selectStrategy right.kind right.candidate = strategy?' at strategies
  cases strategies with
  | none =>
      refine .done bag ?_
      rw [Option.map_none, Option.map_none]
  | some strategies =>
      have created := alike.create_rel selected strategies config bag
      dsimp only
      generalize EntryPoint.create left.table _ config bag = result at created ⊢
      generalize EntryPoint.create right.table _ config bag = result' at created ⊢
      cases created with
      | failed error later => exact .failed error later
      | @done entryPoint entryPoint' later entryPoints =>
          have bodies := entryPoints.body_rel alike.corresponds
          dsimp only
          rw [entryPoints.isViable_eq]
          split
          · generalize entryPoint.body left.table = body at bodies
            generalize entryPoint'.body right.table = body' at bodies
            cases bodies with
            | failed error => exact .failed error later
            | built lines =>
                refine .done later ?_
                rw [Option.map_some, Option.map_some, entryPoints.render_eq alike.corresponds lines]
          · refine .done later ?_
            rw [Option.map_none, Option.map_none]

/-- Compilations that select alike are reported alike, or fail alike.
All that a report shows of an entry point is whether there is one and how it is printed.
-/
theorem synthesize_eq (config : SynthesisConfig)
    : left.synthesize config = right.synthesize config := by
  have results := alike.synthesize_rel config .empty
  unfold LoadedCompilation.synthesize
  rw [optionRel_isSome alike.strategies]
  generalize left.table.synthesize left.kind left.candidate config .empty = result at results ⊢
  generalize right.table.synthesize right.kind right.candidate config .empty = result' at results ⊢
  cases results with
  | failed error bag => rfl
  | done bag same =>
      dsimp only
      rw [same]

end LoadedCompilation.SelectsAlike

namespace LoadedCompilation.Alike

variable {types : TypeId → TypeId → Prop} {left right : LoadedCompilation}
  (alike : left.Alike types right)
include alike

/-- Mains that are alike are taken for async ones alike: the modifier is the same, and whether what
they return derives from the future type is, where chains end.
-/
theorem isAsyncCandidate_eq {main main' : MethodId}
    (mains : MethodsAlike types left.table right.table main main')
    : left.table.isAsyncCandidate main = right.table.isAsyncCandidate main' := by
  rw [isAsyncCandidate, isAsyncCandidate, mains.isAsync, alike.corresponds.isError_eq alike.tasks,
    alike.corresponds.isDerivedFrom_eq mains.returnType (alike.ends _) alike.tasks]

/-- Compilations that are alike select alike. -/
theorem selectsAlike : left.SelectsAlike types right where
  corresponds := alike.corresponds
  ends := alike.ends
  interned := alike.interned
  interned' := alike.interned'
  strategies := selectStrategy_rel alike.kind alike.candidate alike.isAsyncCandidate_eq
  tasks _ _ := alike.tasks

/-- Compilations that are alike are synthesized alike, with outputs that are printed alike. -/
theorem synthesize_rel (config : SynthesisConfig) (bag : DiagnosticBag)
    : ResultsAlike
        (fun output output' =>
          output.map (EntryPointOutput.render left.table)
          = output'.map (EntryPointOutput.render right.table))
        (left.table.synthesize left.kind left.candidate config bag)
        (right.table.synthesize right.kind right.candidate config bag) :=
  alike.selectsAlike.synthesize_rel config bag

end LoadedCompilation.Alike

end EntryPoints
