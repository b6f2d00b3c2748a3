import EntryPoints.Proofs.Manifest.Endings

/-! What the platform's futures unwrap to in the table of a manifest. Whatever it declares, under
whatever names, each generic task keeps the one awaiter that was made with it.
-/

namespace EntryPoints

namespace TypeTable

/-- A future of the platform can be awaited for its result, and a main that returns it can be
forwarded to. None of that leaves anything to report.
-/
structure Unwraps (table : TypeTable) (future result : TypeId) (awaiterName : String)
    : Prop where
  platform : ∃ task, table.task = some task ∧ table.isDerivedFrom future task
  awaited
    : ∃ protocol : AwaitProtocol,
        protocol.resultType = result
        ∧ table.displayName protocol.awaiterType = awaiterName
        ∧ ∀ bag, table.resolveAwait future bag = (some protocol, bag)
  forwarded
    : ∀ {main : MethodId},
        (table.method main).isStatic
        → (table.method main).parameters = []
        → (table.method main).returnType = future
        → ∀ config bag,
            ∃ output,
              table.synthesize .regular (some main) config bag = (.ok (some output), bag)
              ∧ output.entryPoint.returnType = result

/-- A forwarder to a main with a protocol is put out with its body, which applies the protocol to
the call of the main; diagnostics stay as they are.
The main passes the check, so the forwarder is created, and its body never fails.
-/
theorem synthesize_of_awaits {table : TypeTable} {main : MethodId} {protocol : AwaitProtocol}
    (async : table.isAsyncCandidate main) (checked : Forwarder.check table main = .ok ())
    (awaits : table.Awaits (table.method main).returnType protocol) (config : SynthesisConfig)
    (bag : DiagnosticBag)
    : ∃ output,
        table.synthesize .regular (some main) config bag = (.ok (some output), bag)
        ∧ output.entryPoint = .forwarding table config main protocol := by
  have selected : table.selectStrategy .regular (some main) = some (.forwarder main) := by
    simp [selectStrategy, async]
  have created
      : EntryPoint.create table (.forwarder main) config bag
        = (.ok (.forwarding table config main protocol), bag) :=
    EntryPoint.create_of_forwarder config (Forwarder.create_of_awaits checked awaits bag)
  let call := protocol.apply (Forwarder.awaiting table main protocol).invocation
  have body
      : (EntryPoint.forwarding table config main protocol).body table
        = .ok ⟨Forwarder.block table call⟩ :=
    Forwarder.body_awaiting table main protocol
  rw [synthesize_of_viable selected created rfl, body]
  exact ⟨_, rfl, rfl⟩

/-- A pair that is in the table unwraps to the result that it was made for, if the future derives
from the platform's.
-/
theorem HoldsFuture.unwraps {table : TypeTable} {shape : FutureShape}
    {future awaiter task : TypeId} {getAwaiter getResult : MethodId}
    (holds : table.HoldsFuture shape future awaiter getAwaiter getResult)
    (ends : table.ChainEnds future) (registered : table.task = some task)
    (proper : (table.symbol task).isError = false) (derived : table.isDerivedFrom future task)
    : table.Unwraps future shape.result shape.awaiterName := by
  have awaits := holds.awaits ends
  have known : table.wellKnownTask = task := by
    rw [wellKnownTask, registered]
    rfl
  refine ⟨⟨task, registered, derived⟩, ⟨_, rfl, ?_, awaits.resolveAwait⟩, ?_⟩
  · rw [displayName, holds.awaiterSymbol]
    rfl
  · rintro main static parameterless rfl config bag
    have async : table.isAsyncCandidate main := by
      simp [isAsyncCandidate, known, proper, derived]
    have checked := Forwarder.check_eq_ok_iff.mpr ⟨static, .inl parameterless⟩
    obtain ⟨output, ended, entryPoint⟩ := synthesize_of_awaits async checked awaits config bag
    exact ⟨output, ended, by rw [entryPoint]; rfl⟩

end TypeTable

open TypeTable

/-- In the table of a manifest with platform futures every generic task unwraps to its result, and
the plain one to nothing.
-/
theorem Manifest.tasks_unwrap {manifest : Manifest} {loaded : LoadedCompilation}
    (built : manifest.build = .ok loaded) (platformTasks : manifest.platformTasks = true)
    : (∀ {result task},
        loaded.table.genericTasks.lookup result = some task
        → loaded.table.displayName task = taskName (loaded.table.displayName result)
          ∧ loaded.table.Unwraps task result
              (taskAwaiterName (loaded.table.displayName result)))
      ∧ ∃ task,
          loaded.table.task = some task
          ∧ loaded.table.Unwraps task SpecialType.void.id "TaskAwaiter" := by
  have ends := chainsEnd_of_build built
  obtain ⟨scope, completes, _, _⟩ := build_eq_ok_iff.mp built
  have contents := completes.contents
  have furnished := contents.furnished
  obtain ⟨plainTask, awaiter, _, _, platform⟩ :=
    furnished.platform (contents.platformTasks.trans platformTasks)
  have proper : (loaded.table.symbol plainTask).isError = false := by
    rw [platform.holds.futureSymbol]
    rfl
  refine ⟨fun {result task} known => ?_, plainTask, platform.registered, ?_⟩
  · obtain ⟨_, base, _, _, _, registered, holds⟩ := furnished.generic known
    have link : loaded.table.base? task = some base := by
      rw [TypeTable.base?, holds.futureSymbol]
      rfl
    obtain rfl : plainTask = base := Option.some.inj (platform.registered.symm.trans registered)
    have derived : loaded.table.isDerivedFrom task plainTask :=
      (isDerivedFrom_iff ends).mpr (.single link)
    refine ⟨?_, holds.unwraps (ends task) registered proper derived⟩
    rw [displayName, holds.futureSymbol]
    rfl
  · exact platform.holds.unwraps (ends plainTask) platform.registered proper
      (isDerivedFrom_self loaded.table plainTask)

/-- A manifest that takes names of the platform's futures for types of its own, and derives from
generic tasks.
-/
def tasksBesideDeclared : Manifest where
  platformTasks := true
  types :=
    [
      {
        name := "TaskAwaiter<Job[]>",
        members := [.method { name := some "GetResult" }, .method { name := some "GetResult" }]
      },
      {
        name := "Job",
        base := some "Task<Job[]>",
        members := [.field { name := "GetAwaiter", type := "Task<Task<void>>" }]
      },
      {
        name := "Program",
        members :=
          [.method { name := some "Main", returns := some "Task<Job[]>", isStatic := true }]
      }
    ]
  compilation := .regular (some "Program.Main")

/-- Its task of jobs unwraps to an array of jobs, whatever is declared under the name of the
awaiter.
Witness: a class that derives from a task of an array of itself.
-/
theorem tasksBesideDeclared_unwraps
    : ∃ loaded result task,
        tasksBesideDeclared.build = .ok loaded
        ∧ tasksBesideDeclared.platformTasks = true
        ∧ loaded.table.genericTasks.lookup result = some task
        ∧ loaded.table.displayName task = "Task<Job[]>"
        ∧ loaded.table.Unwraps task result "TaskAwaiter<Job[]>" := by
  have found
      : tasksBesideDeclared.build.map
            (fun loaded =>
              (loaded.table.genericTasks.lookup ⟨16⟩, loaded.table.displayName ⟨16⟩))
          = .ok (some ⟨18⟩, "Job[]") := by
    decide +kernel
  obtain ⟨loaded, built, found⟩ := exists_of_map_eq_ok found
  obtain ⟨known, result⟩ := Prod.mk.inj found
  obtain ⟨named, unwraps⟩ := (Manifest.tasks_unwrap built rfl).1 known
  rw [result] at named unwraps
  exact ⟨loaded, ⟨16⟩, ⟨18⟩, built, rfl, known, named, unwraps⟩

end EntryPoints
