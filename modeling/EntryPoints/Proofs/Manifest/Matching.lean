import EntryPoints.Proofs.Manifest.Identity
import EntryPoints.Proofs.Manifest.SameDeclarations

/-! Manifests with the same declarations in another order. Their tables number the types
differently, but what an expression denotes in one of them is alike to what it denotes in the other.
-/

namespace EntryPoints

open TypeTable

------------------------------------------------------------------------------------------
-- Types that are made twice

section
variable {types : TypeId → TypeId → Prop} {table other : TypeTable}

/-- Shapes that differ at most in how the types are numbered that they mention. -/
structure FutureShape.Alike (types : TypeId → TypeId → Prop) (left right : FutureShape) : Prop where
  name : left.name = right.name
  awaiterName : left.awaiterName = right.awaiterName
  base : Option.Rel types left.base right.base
  typeArguments : List.Forall₂ types left.typeArguments right.typeArguments
  result : types left.result right.result

/-- Methods that are declared alike on matching types are alike, if their results match and they
have no parameters.
-/
theorem MethodSignature.alike_of_ordinary {result result' owner owner' : TypeId} (name : String)
    (results : types result result') (owners : types owner owner')
    : ((MethodSignature.ordinary name result).declaredOn owner).Alike types
        ((MethodSignature.ordinary name result').declaredOn owner') where
  name := rfl
  containingType := owners
  kind := rfl
  parameters := .nil
  returnType := results
  accessibility := rfl
  isStatic := rfl
  isAsync := rfl
  isVirtual := rfl
  locations := rfl

/-- Pairs of a future and its awaiter are alike in two tables, if their shapes are alike and the
types match.
The methods are compared first, since each type of a pair has one of them as its only member.
-/
theorem TypeTable.HoldsFuture.alike {shape shape' : FutureShape}
    {future future' awaiter awaiter' : TypeId}
    {getAwaiter getAwaiter' getResult getResult' : MethodId}
    (holds : table.HoldsFuture shape future awaiter getAwaiter getResult)
    (holds' : other.HoldsFuture shape' future' awaiter' getAwaiter' getResult')
    (shapes : shape.Alike types shape') (futures : types future future')
    (awaiters : types awaiter awaiter')
    : TypesAlike types table other future future'
      ∧ TypesAlike types table other awaiter awaiter' := by
  have member : MethodsAlike types table other getAwaiter getAwaiter' := by
    rw [MethodsAlike, holds.getAwaiterMethod, holds'.getAwaiterMethod]
    exact MethodSignature.alike_of_ordinary _ awaiters futures
  have member' : MethodsAlike types table other getResult getResult' := by
    rw [MethodsAlike, holds.getResultMethod, holds'.getResultMethod]
    exact MethodSignature.alike_of_ordinary _ shapes.result awaiters
  constructor
  · exact .of_symbols holds.futureSymbol holds'.futureSymbol shapes.name
      (.named _ shapes.base shapes.typeArguments) (.cons (.method member) .nil) rfl
  · exact .of_symbols holds.awaiterSymbol holds'.awaiterSymbol shapes.awaiterName
      (.named _ .none shapes.typeArguments) (.cons (.method member') .nil) rfl

end

------------------------------------------------------------------------------------------
-- Matching

section
variable (scope : Scope) (table : TypeTable) (scope' : Scope) (table' : TypeTable)

/-- Types that one expression denotes, each in its table. -/
def Matches (left right : TypeId) : Prop :=
  ∃ expression, Denotes scope table expression left ∧ Denotes scope' table' expression right

end

section
variable {scope scope' : Scope} {table table' : TypeTable} (known : scope.known = scope'.known)
include known

/-- What one expression denotes in two tables has one name, because the name can be told from the
expression and from whether there are platform futures.
-/
theorem Matches.displayName_eq (furnished : Furnished scope table)
    (furnished' : Furnished scope' table') {left right : TypeId}
    (same : Matches scope table scope' table' left right)
    : table.displayName left = table'.displayName right := by
  have tasks : scope.platformTasks = scope'.platformTasks :=
    congrArg KnownNames.platformTasks known
  obtain ⟨expression, denotes, denotes'⟩ := same
  rw [furnished.displayName_eq denotes, furnished'.displayName_eq denotes', tasks]

/-- What one spelling stands for in two tables matches, if the scopes know the same names: then the
spelling is read as the same expression.
-/
theorem Spells.matches {spelling : String} {left right : TypeId}
    (spells : Spells scope table spelling left) (spells' : Spells scope' table' spelling right)
    : Matches scope table scope' table' left right := by
  obtain ⟨expression, reading, denotes⟩ := spells
  obtain ⟨expression', reading', denotes'⟩ := spells'
  rw [← known, reading] at reading'
  obtain rfl := Except.ok.inj reading'
  exact ⟨expression, denotes, denotes'⟩

end

section
variable {scope scope' : Scope} {table table' : TypeTable}

/-- The plain tasks of two tables are alike, and so are their awaiters.
Both pairs have one shape, and in both tables the same two expressions denote their types.
-/
theorem PlatformThere.alike {task awaiter task' awaiter' : TypeId}
    {getAwaiter getResult getAwaiter' getResult' : MethodId}
    (platform : PlatformThere scope table task awaiter getAwaiter getResult)
    (platform' : PlatformThere scope' table' task' awaiter' getAwaiter' getResult')
    : TypesAlike (Matches scope table scope' table') table table' task task'
      ∧ TypesAlike (Matches scope table scope' table') table table' awaiter awaiter' := by
  have futures : Matches scope table scope' table' task task' :=
    ⟨.task, .plainTask platform.registered, .plainTask platform'.registered⟩
  have awaiters : Matches scope table scope' table' awaiter awaiter' := by
    rw [← platform.holds.awaiterOf, ← platform'.holds.awaiterOf]
    exact ⟨.taskAwaiter, .taskAwaiter platform.registered, .taskAwaiter platform'.registered⟩
  have shapes : FutureShape.plain.Alike (Matches scope table scope' table') .plain := {
    name := rfl
    awaiterName := rfl
    base := .none
    typeArguments := .nil
    result := ⟨.special .void, .special .void, .special .void⟩
  }
  exact platform.holds.alike platform'.holds shapes futures awaiters

/-- Generic tasks with matching results are alike, and so are their awaiters.
Both pairs have the shape of their result, and their bases are the plain tasks, which match.
-/
theorem Furnished.generic_alike (furnished : Furnished scope table)
    (furnished' : Furnished scope' table') {expression : TypeExpression}
    {result task result' task' : TypeId} (inner : Denotes scope table expression result)
    (made : table.genericTasks.lookup result = some task)
    (inner' : Denotes scope' table' expression result')
    (made' : table'.genericTasks.lookup result' = some task')
    (named : table.displayName result = table'.displayName result')
    : TypesAlike (Matches scope table scope' table') table table' task task'
      ∧ TypesAlike (Matches scope table scope' table') table table' (table.awaiterOf task)
          (table'.awaiterOf task') := by
  obtain ⟨_, plainTask, awaiter, _, _, registered, holds⟩ := furnished.generic made
  obtain ⟨_, plainTask', awaiter', _, _, registered', holds'⟩ := furnished'.generic made'
  have results : Matches scope table scope' table' result result' := ⟨expression, inner, inner'⟩
  have awaiters
      : Matches scope table scope' table' (table.awaiterOf task) (table'.awaiterOf task') :=
    ⟨.taskAwaiterOf expression, .taskAwaiterOf inner made, .taskAwaiterOf inner' made'⟩
  have shapes
      : (FutureShape.generic table plainTask result).Alike (Matches scope table scope' table')
          (.generic table' plainTask' result') := {
    name := congrArg taskName named
    awaiterName := congrArg taskAwaiterName named
    base := .some ⟨.task, .plainTask registered, .plainTask registered'⟩
    typeArguments := .cons results .nil
    result := results
  }
  rw [holds.awaiterOf, holds'.awaiterOf] at awaiters ⊢
  have futures : Matches scope table scope' table' task task' :=
    ⟨.taskOf expression, .taskOf inner made, .taskOf inner' made'⟩
  exact holds.alike holds' shapes futures awaiters

end

------------------------------------------------------------------------------------------
-- Reordered manifests

namespace Manifest

/-- The manifests differ at most in the order in which they declare their types. -/
structure Reorders (manifest other : Manifest) : Prop where
  platformTasks : manifest.platformTasks = other.platformTasks
  types : manifest.types.Perm other.types
  compilation : manifest.compilation = other.compilation

namespace Reorders

variable {manifest other : Manifest} (reorders : manifest.Reorders other)
include reorders

/-- Reordering can be undone. -/
theorem symm : other.Reorders manifest where
  platformTasks := reorders.platformTasks.symm
  types := reorders.types.symm
  compilation := reorders.compilation.symm

/-- Reordered manifests have the same declarations. -/
theorem sameDeclarations : manifest.SameDeclarations other :=
  ⟨reorders.types, reorders.compilation⟩

/-- Reordered manifests declare the same names, in another order. -/
theorem names_perm : manifest.names.Perm other.names :=
  reorders.types.map TypeDecl.name

/-- Reordered manifests know the same names, since a scope only asks which names are declared. -/
theorem known_eq : manifest.known = other.known := by
  simp only [known, reorders.platformTasks, reorders.names_perm.mem_iff]

/-- Manifests pass the first phases of a build in any order of their types, since neither that names
are distinct nor that declarations have no problem depends on the order.
-/
theorem exists_completes (completes : ∃ scope table, manifest.Completes scope table)
    : ∃ scope table, other.Completes scope table := by
  obtain ⟨distinct, fine⟩ := manifest.exists_completes_iff.mp completes
  refine other.exists_completes_iff.mpr ⟨reorders.names_perm.nodup_iff.mp distinct, ?_⟩
  intro declaration listed
  rw [← reorders.known_eq]
  exact fine declaration (reorders.types.mem_iff.mpr listed)

section
variable {scope scope' : Scope} {table table' : TypeTable}
  (contents : manifest.Contents scope table) (contents' : other.Contents scope' table')
include contents contents'

/-- The scopes of reordered manifests know the same names. -/
theorem scopes_eq : scope.known = scope'.known := by
  rw [contents.known, contents'.known, reorders.known_eq]

/-- What one expression denotes in the tables of reordered manifests is alike.
By cases on the expression, and for each on how it denotes in both tables: special types, declared
types, arrays and the pairs of futures are each alike by a lemma of their own.
-/
theorem typesAlike {left right : TypeId} (same : Matches scope table scope' table' left right)
    : TypesAlike (Matches scope table scope' table') table table' left right := by
  have furnished := contents.furnished
  have furnished' := contents'.furnished
  have known := reorders.scopes_eq contents contents'
  have tasks : scope.platformTasks = scope'.platformTasks :=
    congrArg KnownNames.platformTasks known
  obtain ⟨expression, denotes, denotes'⟩ := same
  cases expression with
  | error =>
      cases denotes
      cases denotes'
      exact furnished.error_alike furnished'
  | special special =>
      cases denotes
      cases denotes'
      exact furnished.special_alike furnished' special
  | declared name =>
      cases denotes with
      | declared found =>
          cases denotes' with
          | declared found' =>
              obtain ⟨declaration, describes, describes'⟩ :=
                reorders.sameDeclarations.described contents contents' found found'
              exact describes.alike (Spells.matches known) describes'
                ⟨.declared name, .declared found, .declared found'⟩
  | array inner =>
      cases denotes with
      | array element made =>
          cases denotes' with
          | array element' made' =>
              have elements : Matches scope table scope' table' _ _ := ⟨inner, element, element'⟩
              have named := elements.displayName_eq known furnished furnished'
              exact furnished.array_alike furnished' made made' elements named
  | task =>
      cases denotes
      cases denotes'
      cases flag : scope.platformTasks with
      | false =>
          have absent := furnished.absent flag
          have absent' := furnished'.absent (tasks.symm.trans flag)
          rw [wellKnownTask, wellKnownTask, absent, absent']
          exact .of_symbols furnished.missing furnished'.missing rfl .error .nil rfl
      | true =>
          obtain ⟨_, _, _, _, platform⟩ := furnished.platform flag
          obtain ⟨_, _, _, _, platform'⟩ := furnished'.platform (tasks.symm.trans flag)
          rw [wellKnownTask, wellKnownTask, platform.registered, platform'.registered]
          exact (platform.alike platform').1
  | taskAwaiter =>
      cases denotes with
      | taskAwaiter registered =>
          cases denotes' with
          | taskAwaiter registered' =>
              obtain ⟨_, _, _, platform⟩ := furnished.platform_of_registered registered
              obtain ⟨_, _, _, platform'⟩ := furnished'.platform_of_registered registered'
              rw [platform.holds.awaiterOf, platform'.holds.awaiterOf]
              exact (platform.alike platform').2
  | taskOf inner =>
      cases denotes with
      | taskOf result made =>
          cases denotes' with
          | taskOf result' made' =>
              have results : Matches scope table scope' table' _ _ := ⟨inner, result, result'⟩
              have named := results.displayName_eq known furnished furnished'
              exact (furnished.generic_alike furnished' result made result' made' named).1
  | taskAwaiterOf inner =>
      cases denotes with
      | taskAwaiterOf result made =>
          cases denotes' with
          | taskAwaiterOf result' made' =>
              have results : Matches scope table scope' table' _ _ := ⟨inner, result, result'⟩
              have named := results.displayName_eq known furnished furnished'
              exact (furnished.generic_alike furnished' result made result' made' named).2

/-- Tables of the same declarations correspond: every type is matched by what its expression
denotes.
-/
theorem corresponds : Corresponds (Matches scope table scope' table') table table' where
  functional := by
    rintro left right right' ⟨expression, denotes, same⟩ ⟨other, denotes', same'⟩
    obtain rfl := contents.furnished.expression_unique denotes denotes'
    exact same.unique same'
  injective := by
    rintro left left' right ⟨expression, same, denotes⟩ ⟨other, same', denotes'⟩
    obtain rfl := contents'.furnished.expression_unique denotes denotes'
    exact same.unique same'
  alike := reorders.typesAlike contents contents'
  error := ⟨.error, .error, .error⟩
  special special := ⟨.special special, .special special, .special special⟩
  array _ listed :=
    contents.furnished.specialArrays_rel contents'.furnished
      (fun {special _ _} made made' =>
        ⟨.array (.special special), .array (.special special) made,
          .array (.special special) made'⟩)
      listed

/-- The contents of reordered manifests match, by the correspondence of their tables. -/
theorem contentsMatch
    : ContentsMatch (Matches scope table scope' table') manifest other scope table scope' table' where
  same := reorders.sameDeclarations
  contents := contents
  contents' := contents'
  corresponds := reorders.corresponds contents contents'
  declared {name _ _} found found' := ⟨.declared name, .declared found, .declared found'⟩

end

end Reorders

end Manifest

end EntryPoints
