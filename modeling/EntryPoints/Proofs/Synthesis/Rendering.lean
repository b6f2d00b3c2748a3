import EntryPoints.Proofs.Synthesis.Outcome
import EntryPoints.Proofs.TypeTable.Names

/-! The text of an entry point is one of three, one for each kind of compilation. The writer and the
printers of blocks, expressions and signatures have their part in it, and so do the lookups, which
find methods of the names that they look up.
-/

namespace EntryPoints

------------------------------------------------------------------------------------------
-- From the writer to lines

/-- Lines of text, each with its end. -/
def textOf (lines : List String) : String :=
  String.join (lines.map (· ++ "\n"))

namespace BodyWriter

/-- Writing lines keeps the level of indentation. -/
@[simp]
theorem level_lines (writer : BodyWriter) (lines : List String)
    : (writer.lines lines).level = writer.level := by
  induction lines generalizing writer with
  | nil => rfl
  | cons first rest ih => exact ih (writer.line first)

/-- Writing lines appends each of them at the level of the writer; by induction over the lines. -/
theorem text_lines (writer : BodyWriter) (lines : List String)
    : (writer.lines lines).text
      = writer.text ++ String.join (lines.map (indented writer.level)) := by
  induction lines generalizing writer with
  | nil => simp [BodyWriter.lines]
  | cons first rest ih =>
      have step : writer.lines (first :: rest) = (writer.line first).lines rest := rfl
      rw [step, ih]
      simp [BodyWriter.line, String.append_assoc]

end BodyWriter

/-- The text of an output is its signature, then the lines of its body between braces, one level in.
-/
theorem EntryPointOutput.render_eq (table : TypeTable) (output : EntryPointOutput)
    : output.render table
      = textOf
          ([output.entryPoint.view.signature table, "\x7b"]
            ++ (output.body.node.lines table).map (BodyWriter.indentation ++ ·) ++ ["\x7d"]) := by
  have inner
      : BodyWriter.indented 1 = fun line => BodyWriter.indentation ++ line ++ "\n" := by
    funext line
    simp [BodyWriter.indented]
  -- Literals that happen to be adjacent are to stay apart.
  simp [-String.reduceAppend, EntryPointOutput.render, Block.write, BodyWriter.braced,
    BodyWriter.line, BodyWriter.indent, BodyWriter.dedent, BodyWriter.text_lines, inner, textOf,
    BodyWriter.indented, Function.comp_def, String.append_assoc]

/-- An entry point has no other modifiers than its accessibility and that it is static. -/
theorem EntryPoint.signature_view (table : TypeTable) (entryPoint : EntryPoint)
    : entryPoint.view.signature table
      = entryPoint.accessibility.keyword ++ " static " ++ table.displayName entryPoint.returnType
          ++ " " ++ entryPoint.name ++ "("
          ++ commaSeparated
              (entryPoint.parameters.map
                (fun parameter => table.displayName parameter.type ++ " " ++ parameter.name))
          ++ ")" := by
  simp [MethodView.signature, EntryPoint.view, String.append_assoc]

/-- The first local of a body, and the only one that bodies of entry points have, is called `temp0`.
-/
@[simp]
theorem Temporary.name_first (type : TypeId) : Temporary.name ⟨0, type⟩ = "temp0" := by
  change "temp" ++ toString 0 = "temp0"
  decide

/-- The methods of a protocol are called what they were looked up by, so a call that waits is
printed with `GetAwaiter` and `GetResult` behind what is awaited.
-/
theorem AwaitProtocol.render_apply {table : TypeTable} {type : TypeId}
    {protocol : AwaitProtocol} (getAwaiter : table.Usable type "GetAwaiter" protocol.getAwaiter)
    (getResult : table.Usable protocol.awaiterType "GetResult" protocol.getResult)
    (awaited : Expression)
    : (protocol.apply awaited).render table
      = awaited.render table ++ ".GetAwaiter().GetResult()" := by
  simp [AwaitProtocol.apply, Expression.parameterlessCall, Expression.render,
    Expression.renderAll, commaSeparated, getAwaiter.name, getResult.name, String.append_assoc]

------------------------------------------------------------------------------------------
-- The three texts

/-- What a forwarder takes over from its main, as it is declared and as it is passed on. -/
inductive TakesOver : List Parameter → String → String → Prop where
  | nothing : TakesOver [] "" ""
  | strings (parameter : Parameter)
    : TakesOver [parameter] ("string[] " ++ parameter.name) parameter.name

/-- The forwarder to a main whose result is of that type. -/
def forwarderLines (table : TypeTable) (config : SynthesisConfig) (main : MethodSymbol)
    (result : TypeId) (declared passed : String)
    : List String :=
  let call :=
    table.displayName main.containingType ++ "." ++ main.name ++ "(" ++ passed
      ++ ").GetAwaiter().GetResult();"
  [
    config.accessibility.keyword ++ " static " ++ table.displayName result ++ " <Main>("
      ++ declared ++ ")",
    "\x7b"
  ]
    ++ (if (table.symbol result).isVoid then ["    " ++ call, "    return;"]
        else ["    return " ++ call])
    ++ ["\x7d"]

/-- The main of a script with that initializer. -/
def scriptLines (table : TypeTable) (config : SynthesisConfig) (scriptClass : TypeId)
    (initializer : MethodSymbol)
    : List String :=
  let script := table.displayName scriptClass
  [
    config.accessibility.keyword ++ " static void <Main>()",
    "\x7b",
    "    " ++ script ++ " temp0;",
    "    temp0 = new " ++ script ++ "();",
    "    temp0." ++ initializer.name ++ "().GetAwaiter().GetResult();",
    "    return;",
    "\x7d"
  ]

/-- The factory of a submission with that initializer. -/
def factoryLines (table : TypeTable) (config : SynthesisConfig) (submissionClass : TypeId)
    (initializer : MethodSymbol)
    : List String :=
  let submission := table.displayName submissionClass
  [
    config.accessibility.keyword ++ " static " ++ table.displayName initializer.returnType
      ++ " <Factory>(object[] " ++ config.submissionParameter ++ ")",
    "\x7b",
    "    " ++ submission ++ " temp0;",
    "    temp0 = new " ++ submission ++ "(" ++ config.submissionParameter ++ ");",
    "    return temp0." ++ initializer.name ++ "();",
    "\x7d"
  ]

/-- What an entry point looks like for each kind of compilation. -/
inductive EntryPointLines (table : TypeTable) (config : SynthesisConfig)
    : CompilationKind → Option MethodId → List String → Prop where
  | forwarder {userMain getAwaiter getResult : MethodId} {declared passed : String}
      (getsAwaiter
        : table.Usable (table.method userMain).returnType "GetAwaiter" getAwaiter)
      (getsResult : table.Usable (table.method getAwaiter).returnType "GetResult" getResult)
      (takesOver : TakesOver (table.method userMain).parameters declared passed)
      : EntryPointLines table config .regular (some userMain)
          (forwarderLines table config (table.method userMain)
            (table.method getResult).returnType declared passed)
  | script {scriptClass : TypeId} {candidate : Option MethodId} {initializer : MethodId}
      (initializes : table.methodsOfKind scriptClass .initializer = [initializer])
      : EntryPointLines table config (.script scriptClass) candidate
          (scriptLines table config scriptClass (table.method initializer))
  | submission {submissionClass : TypeId} {candidate : Option MethodId}
      {initializer : MethodId}
      (initializes : table.methodsOfKind submissionClass .initializer = [initializer])
      : EntryPointLines table config (.submission submissionClass) candidate
          (factoryLines table config submissionClass (table.method initializer))

/-- Parameters are taken over in one way only, by cases on both. -/
theorem TakesOver.unique {parameters : List Parameter} {declared passed declared' passed' : String}
    (h : TakesOver parameters declared passed) (h' : TakesOver parameters declared' passed')
    : declared = declared' ∧ passed = passed' := by
  cases h <;> cases h' <;> exact ⟨rfl, rfl⟩

/-- An entry point looks one way only, since all that its text mentions is looked up: the methods of
the protocol and the initializer are the only ones of their name or kind.
-/
theorem EntryPointLines.unique {table : TypeTable} {config : SynthesisConfig}
    {kind : CompilationKind} {candidate : Option MethodId} {lines other : List String}
    (h : EntryPointLines table config kind candidate lines)
    (h' : EntryPointLines table config kind candidate other)
    : lines = other := by
  cases h with
  | forwarder getsAwaiter getsResult takesOver =>
      cases h' with
      | forwarder getsAwaiter' getsResult' takesOver' =>
          obtain rfl := getsAwaiter.unique getsAwaiter'
          obtain rfl := getsResult.unique getsResult'
          obtain ⟨rfl, rfl⟩ := takesOver.unique takesOver'
          rfl
  | script initializes =>
      cases h' with
      | script initializes' =>
          obtain rfl := List.singleton_inj.mp (initializes.symm.trans initializes')
          rfl
  | submission initializes =>
      cases h' with
      | submission initializes' =>
          obtain rfl := List.singleton_inj.mp (initializes.symm.trans initializes')
          rfl

------------------------------------------------------------------------------------------
-- The text of each output

section
variable {table : TypeTable} {config : SynthesisConfig}

/-- A checked main takes nothing or one `string[]`, which the forwarder declares and passes on.
The array of strings is called so in every reached table, since arrays are named after their
elements.
-/
theorem Forwarder.takesOver (reached : table.Reached) {userMain : MethodId}
    (checked : Forwarder.check table userMain = .ok ())
    : TakesOver (table.method userMain).parameters
        (commaSeparated
          ((table.method userMain).parameters.map
            (fun parameter => table.displayName parameter.type ++ " " ++ parameter.name)))
        (commaSeparated
          (Expression.renderAll table
            ((table.method userMain).parameters.map Expression.parameter))) := by
  rcases (Forwarder.check_eq_ok_iff.mp checked).2 with none | ⟨parameter, one, strings⟩
  · rw [none]
    exact .nothing
  · have named : table.displayName parameter.type = "string[]" :=
      reached.displayName_arrayType strings
    have declared
        : table.displayName parameter.type ++ " " ++ parameter.name
          = "string[] " ++ parameter.name := by
      simp [named]
    rw [one]
    simpa [Expression.renderAll, Expression.render, commaSeparated, declared]
      using TakesOver.strings parameter

/-- The protocol that synthesis resolves consists of methods that can be used by their names, where
base chains end.
-/
theorem TypeTable.Awaits.usable (ends : table.ChainsEnd) {type : TypeId}
    {protocol : AwaitProtocol} (awaits : table.Awaits type protocol)
    : table.Usable type "GetAwaiter" protocol.getAwaiter
      ∧ table.Usable protocol.awaiterType "GetResult" protocol.getResult :=
  ⟨(ends _).requiredMethod?_eq_some_iff.mp awaits.getAwaiter,
    (ends _).requiredMethod?_eq_some_iff.mp awaits.getResult⟩

/-- A forwarder is printed with the lines that are described for it.
The signature and the call are put together of the texts of their parts; the two forms of the body
are told apart by whether the result is void.
-/
theorem forwarder_lines (reached : table.Reached) (ends : table.ChainsEnd)
    {userMain : MethodId} {protocol : AwaitProtocol}
    (checked : Forwarder.check table userMain = .ok ())
    (awaits : table.Awaits (table.method userMain).returnType protocol)
    : ∃ lines,
        EntryPointLines table config .regular (some userMain) lines
        ∧ EntryPointOutput.render table
            {
              entryPoint := .forwarding table config userMain protocol,
              body :=
                ⟨Forwarder.block table
                  (protocol.apply (Forwarder.awaiting table userMain protocol).invocation)⟩
            }
          = textOf lines := by
  obtain ⟨getsAwaiter, getsResult⟩ := awaits.usable ends
  refine ⟨_, .forwarder getsAwaiter (awaits.awaiterType ▸ getsResult)
    (Forwarder.takesOver reached checked), ?_⟩
  have called := AwaitProtocol.render_apply getsAwaiter getsResult
    (Forwarder.awaiting table userMain protocol).invocation
  have type
      : (protocol.apply (Forwarder.awaiting table userMain protocol).invocation).type
        = (table.method protocol.getResult).returnType :=
    awaits.resultType
  generalize protocol.apply (Forwarder.awaiting table userMain protocol).invocation = call
    at called type ⊢
  rw [EntryPointOutput.render_eq, EntryPoint.signature_view]
  refine congrArg textOf ?_
  unfold forwarderLines Forwarder.block
  rw [type]
  split <;>
    simp [← String.toList_inj, Block.lines, Statement.render, called, EntryPoint.forwarding,
      EntryPoint.returnType, EntryPoint.name, EntryPoint.parameters, Forwarder.awaiting,
      Expression.render, awaits.resultType, BodyWriter.indentation, SyntheticName.spelling,
      SyntheticName.info]

/-- The main of a script is printed with the lines that are described for it: the construction, and
the call that waits for the initializer.
-/
theorem script_lines (reached : table.Reached) (ends : table.ChainsEnd) {scriptClass : TypeId}
    {candidate : Option MethodId} {constructor initializer : MethodId}
    {protocol : AwaitProtocol} (admits : ScriptMain.Admits table scriptClass initializer)
    (awaits : table.Awaits table.wellKnownTask protocol)
    : ∃ lines,
        EntryPointLines table config (.script scriptClass) candidate lines
        ∧ EntryPointOutput.render table
            {
              entryPoint := .running config scriptClass initializer protocol,
              body := ⟨ScriptMain.block table scriptClass constructor initializer protocol⟩
            }
          = textOf lines := by
  obtain ⟨getsAwaiter, getsResult⟩ := awaits.usable ends
  refine ⟨_,
    .script (TypeTable.singleMethodOfKind?_eq_some_iff.mp admits.initializes), ?_⟩
  have called := AwaitProtocol.render_apply getsAwaiter getsResult
    ((Expression.temporary ⟨0, scriptClass⟩).parameterlessCall initializer
      (table.method initializer).returnType)
  have void : table.displayName SpecialType.void.id = "void" := reached.namesKept.special .void
  rw [EntryPointOutput.render_eq, EntryPoint.signature_view]
  refine congrArg textOf ?_
  unfold scriptLines ScriptMain.block
  simp only [Block.lines, List.map_cons, List.map_nil, Statement.render, called]
  simp [← String.toList_inj, Temporary.render, EntryPoint.running, EntryPoint.returnType,
    EntryPoint.name, EntryPoint.parameters, ScriptMain.running, Expression.render,
    Expression.renderAll, Expression.parameterlessCall, commaSeparated, void,
    BodyWriter.indentation, SyntheticName.spelling, SyntheticName.info]

/-- A factory is printed with the lines that are described for it: the construction with its
parameter, and the initializer's result as its own.
-/
theorem factory_lines (reached : table.Reached) {submissionClass array : TypeId}
    {candidate : Option MethodId} {constructor initializer : MethodId}
    (admits : SubmissionFactory.Admits table submissionClass initializer array)
    : ∃ lines,
        EntryPointLines table config (.submission submissionClass) candidate lines
        ∧ EntryPointOutput.render table
            {
              entryPoint := .constructing table config submissionClass initializer array,
              body :=
                ⟨SubmissionFactory.block table
                  (SubmissionFactory.constructing table config submissionClass initializer array
                    false)
                  constructor⟩
            }
          = textOf lines := by
  refine ⟨_,
    .submission (TypeTable.singleMethodOfKind?_eq_some_iff.mp admits.initializes), ?_⟩
  have objects : table.displayName array = "object[]" :=
    reached.displayName_arrayType admits.arrayType
  rw [EntryPointOutput.render_eq, EntryPoint.signature_view]
  refine congrArg textOf ?_
  simp [← String.toList_inj, factoryLines, SubmissionFactory.block, Block.lines,
    Statement.render, Temporary.render, EntryPoint.constructing, EntryPoint.returnType,
    EntryPoint.name, EntryPoint.parameters, SubmissionFactory.constructing, Expression.render,
    Expression.renderAll, Expression.parameterlessCall, commaSeparated, objects,
    BodyWriter.indentation, SyntheticName.spelling, SyntheticName.info]

end

/-- Every output of synthesis has the one text that its kind of compilation gives it, by cases on
how it is produced.
-/
theorem TypeTable.synthesize_rendered {table : TypeTable} (reached : table.Reached)
    (ends : table.ChainsEnd) {kind : CompilationKind} {candidate : Option MethodId}
    {config : SynthesisConfig} {bag : DiagnosticBag} {output : EntryPointOutput}
    (synthesized : (table.synthesize kind candidate config bag).1 = .ok (some output))
    : ∃ lines,
        (∀ other, EntryPointLines table config kind candidate other ↔ other = lines)
        ∧ output.render table = textOf lines := by
  obtain ⟨lines, looks, text⟩
      : ∃ lines,
          EntryPointLines table config kind candidate lines
          ∧ output.render table = textOf lines := by
    cases synthesize_eq_some_iff_produces.mp synthesized with
    | forwarder async checked awaits => exact forwarder_lines reached ends checked awaits
    | script admits awaits => exact script_lines reached ends admits awaits
    | submission admits => exact factory_lines reached admits
  refine ⟨lines, fun other => ⟨fun looks' => looks'.unique looks, ?_⟩, text⟩
  rintro rfl
  exact looks

/-- A program whose main takes strings and returns a task of an `int`. -/
def programOfTask : TypeTable :=
  .performAll .empty
    [
      .taskOf SpecialType.int32.id,
      .defineType "Program" .classType none,
      .defineMethod ⟨15⟩
        { MethodSignature.ordinary "Main" ⟨14⟩ with
          parameters := [("args", ⟨8⟩)], isStatic := true, isAsync := true }
    ]

/-- That program is forwarded to, in the one way that there is.
Its synthesis is run once to see that there is an output, and what the text is follows in general.
-/
theorem programOfTask_rendered
    : programOfTask.Reached
      ∧ programOfTask.ChainsEnd
      ∧ ∃ output,
          (programOfTask.synthesize .regular (some ⟨4⟩) {} .empty).1 = .ok (some output)
          ∧ ∃ lines,
              (∀ other, EntryPointLines programOfTask {} .regular (some ⟨4⟩) other
                ↔ other = lines)
              ∧ output.render programOfTask = textOf lines := by
  have reached : programOfTask.Reached := ⟨_, by decide, rfl⟩
  have ends : programOfTask.ChainsEnd := TypeTable.chainsEnd_of_bases_before (by decide)
  obtain ⟨output, synthesized⟩
      : ∃ output,
          (programOfTask.synthesize .regular (some ⟨4⟩) {} .empty).1 = .ok (some output) :=
    ⟨_, rfl⟩
  exact
    ⟨reached, ends, output, synthesized,
      TypeTable.synthesize_rendered reached ends synthesized⟩

end EntryPoints
