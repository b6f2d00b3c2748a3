import EntryPoints.Proofs.Related
import EntryPoints.Proofs.TypeTable.Arrays
import EntryPoints.Proofs.TypeTable.Walk

/-! Tables that correspond hold the same types and methods, up to their numbering. Every lookup
finds in one of them what it finds in the other.
-/

namespace EntryPoints

------------------------------------------------------------------------------------------
-- Alike apart from the numbering

section
variable (types : TypeId → TypeId → Prop)

/-- Parameters that differ at most in how their type is numbered. -/
structure Parameter.Alike (left right : Parameter) : Prop where
  name : left.name = right.name
  type : types left.type right.type
  ordinal : left.ordinal = right.ordinal

/-- Methods that differ at most in how the types are numbered that they mention. -/
structure MethodSymbol.Alike (left right : MethodSymbol) : Prop where
  name : left.name = right.name
  containingType : types left.containingType right.containingType
  kind : left.kind = right.kind
  parameters : List.Forall₂ (Parameter.Alike types) left.parameters right.parameters
  returnType : types left.returnType right.returnType
  accessibility : left.accessibility = right.accessibility
  isStatic : left.isStatic = right.isStatic
  isAsync : left.isAsync = right.isAsync
  isVirtual : left.isVirtual = right.isVirtual
  locations : left.locations = right.locations

/-- Kinds that differ at most in how the types are numbered that they mention. -/
inductive TypeKind.Alike : TypeKind → TypeKind → Prop where
  | special (special : SpecialType) : TypeKind.Alike (.special special) (.special special)
  | array {left right : TypeId} (element : types left right)
    : TypeKind.Alike (.array left) (.array right)
  | named (kind : NamedKind) {left right : Option TypeId}
      {leftArguments rightArguments : List TypeId} (base : Option.Rel types left right)
      (arguments : List.Forall₂ types leftArguments rightArguments)
    : TypeKind.Alike (.named kind left leftArguments) (.named kind right rightArguments)
  | error : TypeKind.Alike .error .error

end

namespace TypeKind.Alike

variable {types : TypeId → TypeId → Prop} {left right : TypeSymbol}
  (kind : left.kind.Alike types right.kind)
include kind

/-- Types of like kinds are error types or not alike, by cases on the kind. -/
theorem isError_eq : left.isError = right.isError := by
  cases left
  cases right
  cases kind <;> rfl

/-- They are the type of nothing alike. -/
theorem isVoid_eq : left.isVoid = right.isVoid := by
  cases left
  cases right
  cases kind <;> rfl

/-- They are the same sort of named type, or none alike. -/
theorem namedKind?_eq : left.namedKind? = right.namedKind? := by
  cases left
  cases right
  cases kind <;> rfl

/-- Their bases are matched, where they have one. -/
theorem base?_rel : Option.Rel types left.base? right.base? := by
  cases left
  cases right
  cases kind with
  | named _ base _ => exact base
  | special special => exact .none
  | array element => exact .none
  | error => exact .none

/-- So are their elements. -/
theorem element?_rel : Option.Rel types left.element? right.element? := by
  cases left
  cases right
  cases kind with
  | array element => exact .some element
  | special special => exact .none
  | named _ _ _ => exact .none
  | error => exact .none

end TypeKind.Alike

namespace TypeTable

section
variable (types : TypeId → TypeId → Prop) (table other : TypeTable)

/-- Methods that are alike in their tables. -/
def MethodsAlike (left right : MethodId) : Prop :=
  (table.method left).Alike types (other.method right)

/-- Members that are alike in their tables. -/
inductive MembersAlike : Member → Member → Prop where
  | method {left right : MethodId} (alike : MethodsAlike types table other left right)
    : MembersAlike (.method left) (.method right)
  | field (name : String) {left right : TypeId} (alike : types left right)
    : MembersAlike (.field name left) (.field name right)

/-- Types that are alike in their tables. -/
structure TypesAlike (left right : TypeId) : Prop where
  name : table.displayName left = other.displayName right
  kind : (table.symbol left).kind.Alike types (other.symbol right).kind
  members
    : List.Forall₂ (MembersAlike types table other) (table.symbol left).members
        (other.symbol right).members
  useSite : (table.symbol left).useSite = (other.symbol right).useSite

/-- A matching of types, each with one at most, that are alike; it matches the error type, special
types and their arrays with themselves.
-/
structure Corresponds : Prop where
  functional : ∀ {left right right'}, types left right → types left right' → right = right'
  injective : ∀ {left left' right}, types left right → types left' right → left = left'
  alike : ∀ {left right}, types left right → TypesAlike types table other left right
  error : types errorType errorType
  special : ∀ special : SpecialType, types special.id special.id
  array
    : ∀ special ∈ arrayElements,
        Option.Rel types (table.arrayType? special.id) (other.arrayType? special.id)

end

namespace Corresponds

variable {types : TypeId → TypeId → Prop} {table other : TypeTable}
  (corresponds : Corresponds types table other) {left right : TypeId} (same : types left right)

section
include corresponds same

------------------------------------------------------------------------------------------
-- Types

/-- Matched types are called the same. -/
theorem displayName_eq : table.displayName left = other.displayName right :=
  (corresponds.alike same).name

/-- They are error types alike. -/
theorem isError_eq : (table.symbol left).isError = (other.symbol right).isError :=
  (corresponds.alike same).kind.isError_eq

/-- They are the type of nothing alike. -/
theorem isVoid_eq : (table.symbol left).isVoid = (other.symbol right).isVoid :=
  (corresponds.alike same).kind.isVoid_eq

/-- They are the same sort of named type. -/
theorem namedKind?_eq : (table.symbol left).namedKind? = (other.symbol right).namedKind? :=
  (corresponds.alike same).kind.namedKind?_eq

/-- Their bases are matched. -/
theorem base?_rel : Option.Rel types (table.base? left) (other.base? right) :=
  (corresponds.alike same).kind.base?_rel

/-- Their elements are matched. -/
theorem element?_rel : Option.Rel types (table.element? left) (other.element? right) :=
  (corresponds.alike same).kind.element?_rel

end

/-- Matched types are the same ones on one side exactly if they are on the other, since no type is
matched with two.
-/
theorem eq_iff (corresponds : Corresponds types table other) {left' right' : TypeId}
    (same : types left right) (same' : types left' right')
    : left = left' ↔ right = right' := by
  constructor
  · rintro rfl
    exact corresponds.functional same same'
  · rintro rfl
    exact corresponds.injective same same'

------------------------------------------------------------------------------------------
-- Base chains

/-- Walks of the same length meet matching types.
By induction on the length: if one of them can go on from where it is, the other one can as well, to
a type that matches.
-/
theorem follow_rel {next next' : TypeId → Option TypeId}
    (step : ∀ {left right}, types left right → Option.Rel types (next left) (next' right))
    (same : types left right) (limit : Nat)
    : List.Forall₂ types (follow next limit left) (follow next' limit right) := by
  induction limit generalizing left right with
  | zero => exact .cons same .nil
  | succ limit ih =>
      have following := step same
      unfold follow
      generalize next left = leftNext at following
      generalize next' right = rightNext at following
      cases following with
      | none => exact .cons same .nil
      | some same' => exact .cons same (ih same')

/-- A chain has as many steps as the one that corresponds to it.
By induction along the chain, since a matching type has a matching base, or none as well.
-/
theorem endsAfter (corresponds : Corresponds types table other) {steps : Nat}
    (ends : table.EndsAfter steps left) (same : types left right)
    : other.EndsAfter steps right := by
  induction ends generalizing right with
  | @root left base =>
      have bases := corresponds.base?_rel same
      rw [base] at bases
      generalize link : other.base? right = rightBase at bases
      cases bases
      exact .root link
  | @derived steps left leftBase link _ ih =>
      have bases := corresponds.base?_rel same
      rw [link] at bases
      generalize link' : other.base? right = rightBase at bases
      cases bases with
      | some same' => exact .derived link' (ih same')

end Corresponds

/-- A walk that may take more steps than its chain has meets nothing more, by induction along the
chain.
-/
theorem EndsAfter.follow_eq {table : TypeTable} {type : TypeId} {steps limit : Nat}
    (ends : table.EndsAfter steps type) (enough : steps ≤ limit)
    : follow table.base? limit type = follow table.base? steps type := by
  induction ends generalizing limit with
  | root base => cases limit <;> simp [follow, base]
  | @derived steps type base link _ ih =>
      obtain ⟨limit, rfl⟩ : ∃ smaller, limit = smaller + 1 :=
        Nat.exists_eq_succ_of_ne_zero (by omega)
      rw [follow, follow, link]
      simp only [ih (Nat.le_of_succ_le_succ enough)]

namespace Corresponds

variable {types : TypeId → TypeId → Prop} {table other : TypeTable}
  (corresponds : Corresponds types table other) {left right : TypeId} (same : types left right)
include corresponds same

/-- Base chains that end meet matching types.
Both tables may bound their walks differently, so both walks are compared with one of as many steps
as the chain has.
-/
theorem baseChain_rel (ends : table.ChainEnds left)
    : List.Forall₂ types (table.baseChain left) (other.baseChain right) := by
  obtain ⟨steps, after⟩ := ends.endsAfter
  have after' := corresponds.endsAfter after same
  rw [baseChain, baseChain, after.follow_eq after.le_typeCount,
    after'.follow_eq after'.le_typeCount]
  exact follow_rel (fun same => corresponds.base?_rel same) same steps

/-- Matching types are derived from matching types alike, by induction on the two base chains. -/
theorem isDerivedFrom_eq (ends : table.ChainEnds left) {base base' : TypeId}
    (sameBase : types base base')
    : table.isDerivedFrom left base = other.isDerivedFrom right base' := by
  have chains := corresponds.baseChain_rel same ends
  unfold isDerivedFrom
  generalize table.baseChain left = chain at chains
  generalize other.baseChain right = chain' at chains
  induction chains with
  | nil => rfl
  | @cons first first' _ _ sameFirst _ ih =>
      have equal : (base == first) = (base' == first') := by
        rw [Bool.eq_iff_iff, beq_iff_eq, beq_iff_eq]
        exact corresponds.eq_iff sameBase sameFirst
      rw [List.contains_cons, List.contains_cons, equal, ih]

------------------------------------------------------------------------------------------
-- Members

omit corresponds same in
/-- Matching members have the same name, by cases on what they are. -/
theorem MembersAlike.memberName_eq {member member' : Member}
    (alike : MembersAlike types table other member member')
    : table.memberName member = other.memberName member' := by
  cases alike with
  | method alike => exact alike.name
  | field => rfl

/-- Lookups of one name in matching types find matching members, in the same order. -/
theorem lookup_rel (name : String)
    : List.Forall₂ (MembersAlike types table other) (table.lookup left name)
        (other.lookup right name) := by
  refine List.rel_filter ?_ (corresponds.alike same).members
  intro member member' alike
  simp only [MembersAlike.memberName_eq alike]

/-- Lookups along the base chains find matching members of matching types.
By induction on the two chains: the name is declared by both of the first types, or by neither.
-/
theorem lookupInHierarchy_rel (ends : table.ChainEnds left) (name : String)
    : Option.Rel
        (fun found found' =>
          types found.1 found'.1
          ∧ List.Forall₂ (MembersAlike types table other) found.2 found'.2)
        (table.lookupInHierarchy left name) (other.lookupInHierarchy right name) := by
  have chains := corresponds.baseChain_rel same ends
  unfold lookupInHierarchy
  generalize table.baseChain left = chain at chains
  generalize other.baseChain right = chain' at chains
  induction chains with
  | nil => exact .none
  | @cons owner owner' _ _ sameOwner _ ih =>
      have found := corresponds.lookup_rel sameOwner name
      have empty : (table.lookup owner name).isEmpty = (other.lookup owner' name).isEmpty := by
        generalize table.lookup owner name = members at found
        generalize other.lookup owner' name = members' at found
        cases found <;> rfl
      rw [List.find?_cons, List.find?_cons, empty]
      cases (other.lookup owner' name).isEmpty with
      | true => exact ih
      | false => exact .some ⟨sameOwner, found⟩

/-- Matching types have matching methods of each kind, in the same order. -/
theorem methodsOfKind_rel (kind : MethodKind)
    : List.Forall₂ (MethodsAlike types table other) (table.methodsOfKind left kind)
        (other.methodsOfKind right kind) := by
  refine List.rel_filterMap ?_ (corresponds.alike same).members
  intro member member' alike
  cases alike with
  | @method id id' alike =>
      dsimp only
      rw [← alike.kind]
      split
      · exact .some alike
      · exact .none
  | field => exact .none

/-- The single ones of them match, if there is just one on each side. -/
theorem singleMethodOfKind?_rel (kind : MethodKind)
    : Option.Rel (MethodsAlike types table other) (table.singleMethodOfKind? left kind)
        (other.singleMethodOfKind? right kind) := by
  have methods := corresponds.methodsOfKind_rel same kind
  unfold singleMethodOfKind?
  generalize table.methodsOfKind left kind = ids at methods
  generalize other.methodsOfKind right kind = ids' at methods
  cases methods with
  | nil => exact .none
  | cons alike rest =>
      cases rest with
      | nil => exact .some alike
      | cons _ _ => exact .none

/-- The first methods of a name match, as the members before them are called something else on both
sides.
-/
theorem methodByName?_rel (name : String)
    : Option.Rel (MethodsAlike types table other) (table.methodByName? left name)
        (other.methodByName? right name) := by
  refine forall₂_findSome? (fun alike => ?_) (corresponds.alike same).members
  cases alike with
  | method alike =>
      dsimp only
      rw [alike.name]
      split
      · exact .some alike
      · exact .none
  | field => exact .none

------------------------------------------------------------------------------------------
-- Use-site diagnostics

/-- Matching types are reported alike, by induction on the number of one of them: an element is
older than its array.
-/
theorem useSite?_eq (interned : table.ArraysInterned) (interned' : other.ArraysInterned)
    : table.useSite? left = other.useSite? right := by
  obtain ⟨index⟩ := left
  induction index using Nat.strong_induction_on generalizing right with
  | _ index ih =>
      rw [interned.useSite?_eq, interned'.useSite?_eq, (corresponds.alike same).useSite]
      have elements := corresponds.element?_rel same
      generalize link : table.element? ⟨index⟩ = element at elements
      generalize other.element? right = element' at elements
      cases elements with
      | none => rfl
      | @some element element' same' =>
          have older := interned.element?_lt link
          rw [Option.bind_some, Option.bind_some, ih element.index older same']

end Corresponds

end TypeTable

end EntryPoints
