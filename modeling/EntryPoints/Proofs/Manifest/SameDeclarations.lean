import EntryPoints.Proofs.Manifest.Cycles
import EntryPoints.Proofs.Synthesis.Agreement

/-! Manifests of the same declarations. If the types of their tables are matched in such a way that
every spelling stands for matching types, what one declaration describes in both is alike. Where the
tables correspond, both manifests build or none does.
-/

namespace EntryPoints

open TypeTable

------------------------------------------------------------------------------------------
-- What every table holds

section
variable {types : TypeId → TypeId → Prop} {table other : TypeTable}

/-- Types are alike if their symbols are, in name, kind, members and diagnostic. -/
theorem TypeTable.TypesAlike.of_symbols {left right : TypeId} {symbol symbol' : TypeSymbol}
    (made : table.symbol left = symbol) (made' : other.symbol right = symbol')
    (name : symbol.name = symbol'.name) (kind : symbol.kind.Alike types symbol'.kind)
    (members : List.Forall₂ (MembersAlike types table other) symbol.members symbol'.members)
    (useSite : symbol.useSite = symbol'.useSite)
    : TypesAlike types table other left right where
  name := by rw [displayName, displayName, made, made', name]
  kind := by rwa [made, made']
  members := by rwa [made, made']
  useSite := by rw [made, made', useSite]

variable {scope scope' : Scope} (furnished : Furnished scope table)
  (furnished' : Furnished scope' other)
include furnished furnished'

/-- The error types of two tables are alike, since both tables start with the same one. -/
theorem Furnished.error_alike : TypesAlike types table other errorType errorType :=
  .of_symbols furnished.error furnished'.error rfl .error .nil rfl

/-- Special types are alike in two tables, since every table starts with the same ones. -/
theorem Furnished.special_alike (special : SpecialType)
    : TypesAlike types table other special.id special.id :=
  .of_symbols (furnished.special special) (furnished'.special special) rfl (.special special) .nil
    rfl

/-- Arrays of matching elements are alike, if the elements are named alike as well. -/
theorem Furnished.array_alike {element array element' array' : TypeId}
    (made : table.arrayType? element = some array)
    (made' : other.arrayType? element' = some array') (same : types element element')
    (named : table.displayName element = other.displayName element')
    : TypesAlike types table other array array' :=
  .of_symbols (furnished.array made) (furnished'.array made') (congrArg arrayName named)
    (.array same) .nil rfl

/-- The arrays of special types are there in both tables, and match if arrays of a special type
always do.
-/
theorem Furnished.specialArrays_rel
    (matched
      : ∀ {special array array'},
          table.arrayType? (SpecialType.id special) = some array
          → other.arrayType? (SpecialType.id special) = some array'
          → types array array')
    {special : SpecialType} (listed : special ∈ arrayElements)
    : Option.Rel types (table.arrayType? special.id) (other.arrayType? special.id) := by
  have known := furnished.reached.arraysInterned.special special listed
  have known' := furnished'.reached.arraysInterned.special special listed
  obtain ⟨array, made⟩ := Option.isSome_iff_exists.mp known
  obtain ⟨array', made'⟩ := Option.isSome_iff_exists.mp known'
  rw [made, made']
  exact .some (matched made made')

end

------------------------------------------------------------------------------------------
-- What one declaration describes

section
variable {types : TypeId → TypeId → Prop} {scope scope' : Scope} {table table' : TypeTable}
  (spelled
    : ∀ {spelling left right},
        Spells scope table spelling left → Spells scope' table' spelling right → types left right)
include spelled

/-- Methods that one declaration describes in two tables are alike, if what one spelling stands for
matches; part by part, as the declaration says.
-/
theorem MethodDecl.Describes.alike {declaration : MethodDecl} {owner owner' : TypeId}
    {method method' : MethodSymbol} (describes : declaration.Describes scope table owner method)
    (describes' : declaration.Describes scope' table' owner' method')
    (owners : types owner owner')
    : method.Alike types method' where
  name := Option.some.inj (describes.name.symm.trans describes'.name)
  containingType := by rwa [describes.containingType, describes'.containingType]
  kind := describes.kind.trans describes'.kind.symm
  parameters :=
    forall₂_of_common
      (fun _ _ _ parameter parameter' =>
        ⟨parameter.name.trans parameter'.name.symm, spelled parameter.type parameter'.type,
          parameter.ordinal.trans parameter'.ordinal.symm⟩)
      describes.parameters describes'.parameters
  returnType := spelled describes.returnType describes'.returnType
  accessibility := describes.accessibility.trans describes'.accessibility.symm
  isStatic := describes.isStatic.trans describes'.isStatic.symm
  isAsync := describes.isAsync.trans describes'.isAsync.symm
  isVirtual := describes.isVirtual.trans describes'.isVirtual.symm
  locations := describes.locations.trans describes'.locations.symm

/-- Members that one declaration describes in two tables are alike; by cases on the declaration. -/
theorem MemberDecl.Describes.alike {declaration : MemberDecl} {owner owner' : TypeId}
    {member member' : Member} (describes : declaration.Describes scope table owner member)
    (describes' : declaration.Describes scope' table' owner' member')
    (owners : types owner owner')
    : MembersAlike types table table' member member' := by
  cases describes with
  | method _ describes =>
      cases describes' with
      | method _ describes' => exact .method (describes.alike spelled describes' owners)
  | field spells =>
      cases describes' with
      | field spells' => exact .field _ (spelled spells spells')

/-- Types that one declaration describes in two tables are alike: base and members are spelled in
the declaration, and everything else is read off it.
-/
theorem TypeDecl.Describes.alike {declaration : TypeDecl} {left right : TypeId}
    (describes : declaration.Describes scope table left)
    (describes' : declaration.Describes scope' table' right) (same : types left right)
    : TypesAlike types table table' left right where
  name := describes.name.trans describes'.name.symm
  kind := by
    rw [describes.kind, describes'.kind]
    refine .named _ (optionRel_of_common ?_ describes.base describes'.base) .nil
    exact fun _ _ _ => spelled
  members :=
    forall₂_of_common (fun _ _ _ member member' => member.alike spelled member' same)
      describes.members describes'.members
  useSite := describes.useSite.trans describes'.useSite.symm

end

------------------------------------------------------------------------------------------
-- Manifests

namespace Manifest

/-- The manifests declare the same types, in whatever order, and describe the same compilation. -/
structure SameDeclarations (manifest other : Manifest) : Prop where
  types : manifest.types.Perm other.types
  compilation : manifest.compilation = other.compilation

section
variable {manifest other : Manifest} (same : manifest.SameDeclarations other)
  {scope scope' : Scope} {table table' : TypeTable} (contents : manifest.Contents scope table)
  (contents' : other.Contents scope' table') {name : String} {left : TypeId}
  (found : scope.find? name = some left)
include same contents contents' found

/-- One declaration describes both types that a name stands for.
Each manifest has a declaration of that name, and both are among the same declarations, whose names
are distinct.
-/
theorem SameDeclarations.described {right : TypeId} (found' : scope'.find? name = some right)
    : ∃ declaration : TypeDecl,
        declaration.Describes scope table left ∧ declaration.Describes scope' table' right := by
  obtain ⟨declaration, listed, named, describes⟩ := contents.declaration_of_find? found
  obtain ⟨declaration', listed', named', describes'⟩ := contents'.declaration_of_find? found'
  have listed'' := same.types.mem_iff.mpr listed'
  have same : declaration = declaration' :=
    List.inj_on_of_nodup_map contents.distinct listed listed'' (named.trans named'.symm)
  subst same
  exact ⟨declaration, describes, describes'⟩

/-- A name that one manifest declares is declared by the other, since the declarations are the same.
-/
theorem SameDeclarations.exists_find? : ∃ right, scope'.find? name = some right := by
  obtain ⟨declaration, listed, rfl, _⟩ := contents.declaration_of_find? found
  obtain ⟨right, found', _⟩ := contents'.describes declaration (same.types.mem_iff.mp listed)
  exact ⟨right, found'⟩

end

/-- The manifests have the same declarations, in tables that correspond. A declared type is matched
by the one of its name.
-/
structure ContentsMatch (types : TypeId → TypeId → Prop) (manifest other : Manifest)
    (scope : Scope) (table : TypeTable) (scope' : Scope) (table' : TypeTable)
    : Prop where
  same : manifest.SameDeclarations other
  contents : manifest.Contents scope table
  contents' : other.Contents scope' table'
  corresponds : Corresponds types table table'
  declared
    : ∀ {name left right},
        scope.find? name = some left → scope'.find? name = some right → types left right

namespace ContentsMatch

variable {types : TypeId → TypeId → Prop} {manifest other : Manifest} {scope scope' : Scope}
  {table table' : TypeTable}
  (matching : ContentsMatch types manifest other scope table scope' table')
include matching

/-- A type that a name stands for is matched by the one that the name stands for in the other table.
-/
theorem exists_declared {name : String} {left : TypeId} (found : scope.find? name = some left)
    : ∃ right, scope'.find? name = some right ∧ types left right := by
  obtain ⟨right, found'⟩ := matching.same.exists_find? matching.contents matching.contents' found
  exact ⟨right, found', matching.declared found found'⟩

/-- Declared types that are not endless in one table are not endless in the other: their chains
match step by step.
-/
theorem acyclic (acyclic : firstCyclic? scope table manifest.types = none)
    : firstCyclic? scope' table' other.types = none := by
  rw [matching.contents.firstCyclic?_eq_none_iff] at acyclic
  rw [matching.contents'.firstCyclic?_eq_none_iff]
  intro declaration listed endless
  have listed' := matching.same.types.mem_iff.mpr listed
  obtain ⟨type, found, _⟩ := matching.contents.describes declaration listed'
  obtain ⟨type', found', same⟩ := matching.exists_declared found
  have ends : table.ChainEnds type := by
    have ends := not_not.mp (acyclic declaration listed')
    rwa [Scope.typeOf, found] at ends
  obtain ⟨steps, after⟩ := ends.endsAfter
  have after' := matching.corresponds.endsAfter after same
  refine endless ?_
  rw [Scope.typeOf, found']
  exact after'.chainEnds

/-- The main that a path names in one table is alike to the one that it names in the other.
The path's class is declared in both tables, with matching types, and these have the same methods of
a name.
-/
theorem main_alike {path : String} {main : MethodId} (found : findMain scope table path = .ok main)
    : ∃ main',
        findMain scope' table' path = .ok main' ∧ MethodsAlike types table table' main main' := by
  obtain ⟨typeName, methodName, owner, parts, declared, named, ordinary⟩ :=
    findMain_eq_ok_iff.mp found
  obtain ⟨owner', declared', same⟩ := matching.exists_declared declared
  have methods := matching.corresponds.methodByName?_rel same methodName
  rw [named] at methods
  generalize found' : table'.methodByName? owner' methodName = named' at methods
  cases methods with
  | @some _ main' alike =>
      exact ⟨main',
        findMain_eq_ok_iff.mpr
          ⟨typeName, methodName, owner', parts, declared', found', alike.kind.symm.trans ordinary⟩,
        alike⟩

/-- The compilation that is found in one table is alike to the one that is found in the other, by
cases on its description.
-/
theorem compilation_alike {kind : CompilationKind} {candidate : Option MethodId}
    (found : findCompilation scope table manifest.compilation = .ok (kind, candidate))
    : ∃ kind' candidate',
        findCompilation scope' table' other.compilation = .ok (kind', candidate')
        ∧ kind.Alike types kind'
        ∧ Option.Rel (MethodsAlike types table table') candidate candidate' := by
  rw [← matching.same.compilation]
  rw [findCompilation_eq_ok_iff] at found
  simp only [findCompilation_eq_ok_iff]
  cases description : manifest.compilation with
  | regular path =>
      rw [description] at found
      cases path with
      | none =>
          obtain ⟨rfl, rfl⟩ := found
          exact ⟨.regular, none, ⟨rfl, rfl⟩, .regular, .none⟩
      | some path =>
          obtain ⟨rfl, main, rfl, named⟩ := found
          obtain ⟨main', named', alike⟩ := matching.main_alike named
          exact ⟨.regular, some main', ⟨rfl, main', rfl, named'⟩, .regular, .some alike⟩
  | script className =>
      rw [description] at found
      obtain ⟨rfl, type, rfl, declared⟩ := found
      obtain ⟨type', declared', same⟩ := matching.exists_declared declared
      exact ⟨.script type', none, ⟨rfl, type', rfl, declared'⟩, .script same, .none⟩
  | submission className =>
      rw [description] at found
      obtain ⟨rfl, type, rfl, declared⟩ := found
      obtain ⟨type', declared', same⟩ := matching.exists_declared declared
      exact ⟨.submission type', none, ⟨rfl, type', rfl, declared'⟩, .submission same, .none⟩

end ContentsMatch

/-- If one manifest builds, so does the other one, with a compilation that is alike.
Both pass the first phases by assumption, the check for cycles because their types match, and the
compilation is found because it is alike.
-/
theorem ContentsMatch.exists_build {types : TypeId → TypeId → Prop} {manifest other : Manifest}
    {scope scope' : Scope} {table' : TypeTable} {loaded : LoadedCompilation}
    (matching : ContentsMatch types manifest other scope loaded.table scope' table')
    (built : manifest.build = .ok loaded) (completes : manifest.Completes scope loaded.table)
    (completes' : other.Completes scope' table')
    : ∃ loaded',
        loaded'.table = table'
        ∧ other.build = .ok loaded'
        ∧ loaded.kind.Alike types loaded'.kind
        ∧ Option.Rel (MethodsAlike types loaded.table loaded'.table) loaded.candidate
            loaded'.candidate := by
  obtain ⟨scope'', completes'', acyclic, found⟩ := build_eq_ok_iff.mp built
  obtain ⟨rfl, _⟩ := completes.unique completes''
  obtain ⟨kind', candidate', found', kinds, candidates⟩ := matching.compilation_alike found
  exact ⟨⟨table', kind', candidate'⟩, rfl,
    build_eq_ok_iff.mpr ⟨scope', completes', matching.acyclic acyclic, found'⟩, kinds, candidates⟩

end Manifest

end EntryPoints
