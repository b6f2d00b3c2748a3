import EntryPoints.Proofs.Manifest.Description

/-! The second phase of a build: every declared type gets its base and its members. It ends with the
first thing that cannot be resolved or has no name, or in a table that the declarations describe.
-/

namespace EntryPoints

open TypeTable

------------------------------------------------------------------------------------------
-- Problems of declarations

/-- Why a spelling stands for no type, if it stands for none. -/
def spellingProblem? (known : KnownNames) (spelling : String) : Option BuildError :=
  match TypeExpression.read known spelling.toList with
  | .error error => some error
  | .ok _ => none

/-- The first problem of a method: what it returns, its missing name, then its parameters. -/
def MethodDecl.problem? (known : KnownNames) (owner : String) (declaration : MethodDecl)
    : Option BuildError :=
  (spellingProblem? known declaration.result).or
    ((if declaration.memberName?.isNone then some (.unnamedMethod owner) else none).or
      (declaration.parameters.findSome? (fun parameter => spellingProblem? known parameter.type)))

/-- The first problem of a member; a field has only the one of its type. -/
def MemberDecl.problem? (known : KnownNames) (owner : String) : MemberDecl → Option BuildError
  | .method declaration => declaration.problem? known owner
  | .field declaration => spellingProblem? known declaration.type

/-- The first problem of a type: its base, then its members in order. -/
def TypeDecl.problem? (known : KnownNames) (declaration : TypeDecl) : Option BuildError :=
  (declaration.base.bind (spellingProblem? known)).or
    (declaration.members.findSome? (MemberDecl.problem? known declaration.name))

/-- A step of a build ends with the problem, if there is one, or else in a value with the
property.
-/
def EndsIn {α : Type} (problem : Option BuildError) (good : α → Prop)
    (result : Except BuildError α)
    : Prop :=
  (∃ error, problem = some error ∧ result = .error error)
  ∨ ∃ value, problem = none ∧ result = .ok value ∧ good value

------------------------------------------------------------------------------------------
-- Spellings and signatures

/-- A spelling has been resolved in a table that only gained types by it. -/
structure Resolves (scope : Scope) (table : TypeTable) (spelling : String)
    (result : TypeId × TypeTable)
    : Prop where
  furnished : Furnished scope result.2
  grows : Extends table result.2
  spells : Spells scope result.2 spelling result.1

/-- The parameters of a method have been resolved, in a table that only gained types by it. -/
structure ResolvesAll (scope : Scope) (table : TypeTable) (declarations : List ParameterDecl)
    (result : List (String × TypeId) × TypeTable)
    : Prop where
  furnished : Furnished scope result.2
  grows : Extends table result.2
  spells
    : List.Forall₂
        (fun declaration (parameter : String × TypeId) =>
          parameter.1 = declaration.name.getD SyntheticName.argsParameter.spelling
          ∧ Spells scope result.2 declaration.type parameter.2)
        declarations result.1

/-- The signature of a method has been resolved, in a table that only gained types by it. -/
structure ResolvesMethod (scope : Scope) (table : TypeTable) (declaration : MethodDecl)
    (result : MethodSignature × TypeTable)
    : Prop where
  furnished : Furnished scope result.2
  grows : Extends table result.2
  describes
    : ∀ owner, declaration.Describes scope result.2 owner (result.1.declaredOn owner)
  there : ∀ type ∈ result.1.returnType :: result.1.parameters.map Prod.snd, result.2.Has type

namespace Manifest

variable {scope : Scope} {table : TypeTable}

/-- Resolving a spelling ends in its problem, or in a table that only gained types and in which it
stands for the result.
Resolving follows the reading, which is where the problem comes from.
-/
theorem resolved_endsIn (furnished : Furnished scope table) (spelling : String)
    : EndsIn (spellingProblem? scope.known spelling) (Resolves scope table spelling)
        (resolved scope spelling table) := by
  have resolution := resolve_resolution furnished spelling.toList
  unfold resolved spellingProblem?
  generalize reading : TypeExpression.read scope.known spelling.toList = expression at resolution
  generalize scope.resolve spelling.toList table = result at resolution
  cases resolution with
  | failed error => exact .inl ⟨error, rfl, rfl⟩
  | found furnished grows denotes =>
      exact .inr ⟨_, rfl, rfl, furnished, grows, _, reading, denotes⟩

/-- Resolving parameters ends in the first problem among their types, or with all of them resolved
in order.
By induction on the parameters: what the first one stands for it still stands for in the table that
the others leave.
-/
theorem resolveParameters_endsIn (furnished : Furnished scope table)
    (declarations : List ParameterDecl)
    : EndsIn
        (declarations.findSome? (fun declaration => spellingProblem? scope.known declaration.type))
        (ResolvesAll scope table declarations)
        (resolveParameters scope table declarations) := by
  induction declarations generalizing table with
  | nil => exact .inr ⟨_, rfl, rfl, furnished, .refl _ table, .nil⟩
  | cons declaration rest ih =>
      rcases resolved_endsIn furnished declaration.type with
        ⟨error, problem, failed⟩ | ⟨⟨type, middle⟩, fine, done, first⟩
      · exact .inl ⟨error, by simp [problem], by simp [resolveParameters, failed]⟩
      · rcases ih first.furnished with
          ⟨error, problem, failed⟩ | ⟨⟨parameters, later⟩, fine', done', others⟩
        · exact .inl ⟨error, by simp [fine, problem], by simp [resolveParameters, done, failed]⟩
        · refine .inr ⟨_, by simp [fine, fine'], by simp [resolveParameters, done, done']; rfl, ?_⟩
          exact {
            furnished := others.furnished
            grows := first.grows.trans others.grows
            spells :=
              .cons ⟨rfl, first.spells.grow first.furnished others.grows nofun⟩ others.spells
          }

/-- A method has a name if it is given one or is a constructor or an initializer; by cases on its
kind.
-/
theorem baseSignature_eq (owner : String) (declaration : MethodDecl) (returns : TypeId)
    : baseSignature owner declaration returns
      = match declaration.memberName? with
        | some name => .ok { name, kind := declaration.kind, returnType := returns }
        | none => .error (.unnamedMethod owner) := by
  unfold baseSignature MethodDecl.memberName?
  cases declaration.kind with
  | ordinary => cases declaration.name <;> rfl
  | constructor => cases declaration.name <;> rfl
  | initializer => cases declaration.name <;> rfl

/-- Resolving a signature ends in the first problem of the method, or with a signature that declares
what it says, whichever type comes to own the method.
The three steps of the resolver are the return type, the name and the parameters, and each of them
may end in a problem. If none does, the return type is still spelled in the table that the
parameters leave, and these are numbered there in the order of their declarations.
-/
theorem signature_endsIn (furnished : Furnished scope table) (owner : String)
    (declaration : MethodDecl)
    : EndsIn (declaration.problem? scope.known owner) (ResolvesMethod scope table declaration)
        (signature scope owner declaration table) := by
  unfold MethodDecl.problem?
  rcases resolved_endsIn furnished declaration.result with
    ⟨error, problem, failed⟩ | ⟨⟨returns, middle⟩, fine, done, result⟩
  · rw [MethodDecl.result] at failed
    exact .inl ⟨error, by simp [problem], by simp [signature, failed]⟩
  · have done' := done
    rw [MethodDecl.result] at done'
    cases name : declaration.memberName? with
    | none =>
        exact .inl ⟨.unnamedMethod owner, by simp [fine],
          by simp [signature, done', baseSignature_eq, name]⟩
    | some name =>
        rcases resolveParameters_endsIn result.furnished declaration.parameters with
          ⟨error, problem, failed⟩ | ⟨⟨parameters, later⟩, fine', done'', others⟩
        · exact .inl ⟨error, by simp [fine, problem],
            by simp [signature, done', baseSignature_eq, name, failed]⟩
        · refine .inr ⟨_, by simp [fine, fine'],
            by simp [signature, done', baseSignature_eq, name, done'']; rfl, ?_⟩
          exact {
            furnished := others.furnished
            grows := result.grows.trans others.grows
            describes := fun owner => {
              name := name
              containingType := rfl
              kind := rfl
              parameters := by
                refine List.forall₂_map_right_iff.mpr ?_
                refine (forall₂_zipIdx others.spells 0).imp (fun _ _ ⟨pair, position⟩ => ?_)
                exact ⟨pair.1, pair.2, position⟩
              returnType := result.spells.grow result.furnished others.grows nofun
              accessibility := rfl
              isStatic := rfl
              isAsync := rfl
              isVirtual := rfl
              locations := rfl
            }
            there := by
              intro type mentioned
              rcases List.mem_cons.mp mentioned with rfl | mentioned
              · have kept := result.spells.grow result.furnished others.grows nofun
                exact kept.has others.furnished
              · obtain ⟨parameter, listed, rfl⟩ := List.mem_map.mp mentioned
                obtain ⟨declaration, _, pair⟩ := exists_of_mem_right others.spells listed
                exact pair.2.has others.furnished
          }

end Manifest

------------------------------------------------------------------------------------------
-- Changes of one declared type

/-- A table in which a declared type has been changed stays furnished.
The type is still a named one without type arguments, and the names and the symbols of all others
stay, so whatever denoted a type still does.
-/
theorem Furnished.change {scope : Scope} {table later : TypeTable} {owner : TypeId} {name : String}
    (furnished : Furnished scope table) (found : scope.find? name = some owner)
    (grows : Grows (· = owner) table later) (reached : later.Reached)
    (kind : ∃ kind base, (later.symbol owner).kind = .named kind base [])
    (count : later.typeCount = table.typeCount) (arrays : later.arrays = table.arrays)
    (genericTasks : later.genericTasks = table.genericTasks)
    : Furnished scope later := by
  refine furnished.grow grows reached rfl id (fun touch => ⟨name, touch ▸ found⟩)
    (fun found _ => ⟨_, found⟩) ?_ ?_ ?_ ?_
  · intro other type found'
    obtain ⟨named, isNamed⟩ := furnished.declared found'
    refine ⟨(grows.name (furnished.declaredThere found')).trans named, ?_⟩
    by_cases same : type = owner
    · exact same ▸ kind
    · rw [grows.symbol (furnished.declaredThere found') same]
      exact isNamed
  · intro element array known
    rw [arrayType?, arrays] at known
    exact .inl known
  · intro result task known
    rw [genericTasks] at known
    exact .inl known
  · intro type there
    rw [Has, count] at there
    exact .inl there

section
variable {scope : Scope} {table : TypeTable} {owner : TypeId} {name : String}
  (furnished : Furnished scope table) (found : scope.find? name = some owner)
include furnished found

/-- A method may be declared on a declared type if the types of its signature are there. -/
theorem Furnished.defineMethod {signature : MethodSignature}
    (there : ∀ type ∈ signature.returnType :: signature.parameters.map Prod.snd, table.Has type)
    : Furnished scope (table.defineMethod owner signature).2 := by
  have ownerThere := furnished.declaredThere found
  obtain ⟨_, kind, base, named⟩ := furnished.declared found
  have fits : Operation.Fits table (.defineMethod owner signature) := by
    intro type mentioned
    rcases List.mem_cons.mp mentioned with rfl | mentioned
    · exact ownerThere
    · exact there type mentioned
  refine furnished.change found (.defineMethod table owner signature)
    (furnished.reached.apply fits) ?_ ?_ rfl rfl
  · rw [symbol_defineMethod, if_pos ⟨rfl, ownerThere⟩]
    exact ⟨kind, base, named⟩
  · simp [TypeTable.defineMethod, modifyType, typeCount]

/-- So may a field if its type is there. -/
theorem Furnished.defineField {type : TypeId} (there : table.Has type) (field : String)
    : Furnished scope (table.defineField owner field type) := by
  have ownerThere := furnished.declaredThere found
  obtain ⟨_, kind, base, named⟩ := furnished.declared found
  have fits : Operation.Fits table (.defineField owner field type) := by
    intro mentioned listed
    rcases List.mem_pair.mp listed with rfl | rfl
    · exact ownerThere
    · exact there
  refine furnished.change found (.defineField table owner field type)
    (furnished.reached.apply fits) ?_ ?_ rfl rfl
  · rw [TypeTable.defineField, symbol_modifyType, if_pos ⟨rfl, ownerThere⟩]
    exact ⟨kind, base, named⟩
  · simp [TypeTable.defineField, modifyType, typeCount]

/-- A declared type may get any base that is there, and stays a named type by that. -/
theorem Furnished.setBase {base : TypeId} (there : table.Has base)
    : Furnished scope (table.setBase owner base) := by
  have ownerThere := furnished.declaredThere found
  obtain ⟨_, kind, earlier, named⟩ := furnished.declared found
  have fits : Operation.Fits table (.setBase owner base) := by
    intro mentioned listed
    rcases List.mem_pair.mp listed with rfl | rfl
    · exact ownerThere
    · exact there
  refine furnished.change found (.setBase table owner base) (furnished.reached.apply fits) ?_ ?_
    rfl rfl
  · rw [TypeTable.setBase, symbol_modifyType, if_pos ⟨rfl, ownerThere⟩]
    exact ⟨kind, some base, by rw [TypeSymbol.withBase, named]⟩
  · simp [TypeTable.setBase, modifyType, typeCount]

end

/-- The build has gone on with one declared type, which is described in the later table. -/
structure Advances (scope : Scope) (table : TypeTable) (declaration : TypeDecl) (owner : TypeId)
    (later : TypeTable)
    : Prop where
  furnished : Furnished scope later
  grows : Grows (· = owner) table later
  describes : declaration.Describes scope later owner

section
variable {scope : Scope} {table : TypeTable} {declaration : TypeDecl} {owner : TypeId}
  (furnished : Furnished scope table) (found : scope.find? declaration.name = some owner)
  (describes : declaration.Describes scope table owner)
include furnished found describes

/-- One more declared member describes the type if what it adds does.
All that was declared of the type before still holds, as no spelling comes to stand for another
type.
-/
theorem TypeDecl.Describes.addMember {later : TypeTable} {member : Member} {added : MemberDecl}
    (grows : Grows (· = owner) table later)
    (symbol : later.symbol owner = (table.symbol owner).addMember member)
    (last : MemberDecl.Describes scope later owner added member)
    : { declaration with members := declaration.members ++ [added] }.Describes scope later
        owner := by
  have only {type : TypeId} (touch : type = owner) : ∃ name, scope.find? name = some type :=
    ⟨_, touch ▸ found⟩
  have base : later.base? owner = table.base? owner := by
    rw [TypeTable.base?, symbol]
    rfl
  exact {
    name := by rw [symbol]; exact describes.name
    kind := by rw [symbol, base]; exact describes.kind
    base := by
      rw [base]
      exact optionRel_imp (fun _ _ spells => spells.grow furnished grows only) describes.base
    members := by
      rw [symbol]
      refine List.rel_append ?_ (.cons last .nil)
      exact describes.members.imp (fun _ _ member => member.grow furnished grows only)
    useSite := by rw [symbol]; exact describes.useSite
  }

/-- A resolved method is declared as the next member of its type, where its signature is the one
that was resolved.
-/
theorem Advances.addMethod {earlier : TypeTable} {method : MethodDecl}
    {signature : MethodSignature}
    (resolved : ResolvesMethod scope earlier method (signature, table))
    : Advances scope table
        { declaration with members := declaration.members ++ [.method method] } owner
        (table.defineMethod owner signature).2 := by
  have there := furnished.declaredThere found
  have grows := Grows.defineMethod table owner signature
  have symbol
      : (table.defineMethod owner signature).2.symbol owner
        = (table.symbol owner).addMember (.method ⟨table.methods.size⟩) := by
    rw [symbol_defineMethod, if_pos ⟨rfl, there⟩]
  refine ⟨furnished.defineMethod found resolved.there, grows,
    describes.addMember furnished found grows symbol (.method ?_ ?_)⟩
  · simp [TypeTable.defineMethod, modifyType]
  · rw [method_defineMethod, if_pos rfl]
    exact (resolved.describes owner).grow furnished grows (fun touch => ⟨_, touch ▸ found⟩)

/-- A resolved field is declared as the next member of its type. -/
theorem Advances.addField {field : FieldDecl} {type : TypeId}
    (spells : Spells scope table field.type type)
    : Advances scope table
        { declaration with members := declaration.members ++ [.field field] } owner
        (table.defineField owner field.name type) := by
  have there := furnished.declaredThere found
  have grows := Grows.defineField table owner field.name type
  have symbol
      : (table.defineField owner field.name type).symbol owner
        = (table.symbol owner).addMember (.field field.name type) := by
    rw [defineField, symbol_modifyType, if_pos ⟨rfl, there⟩]
  refine ⟨furnished.defineField found (spells.has furnished) field.name, grows,
    describes.addMember furnished found grows symbol (.field ?_)⟩
  exact spells.grow furnished grows (fun touch => ⟨_, touch ▸ found⟩)

/-- A resolved base is set on its type.
That is done before there are members, so that nothing else changes in the type.
-/
theorem Advances.setBase {spelling : String} {base : TypeId} (noMembers : declaration.members = [])
    (spells : Spells scope table spelling base)
    : Advances scope table { declaration with base := some spelling } owner
        (table.setBase owner base) := by
  have there := furnished.declaredThere found
  have grows := Grows.setBase table owner base
  have symbol
      : (table.setBase owner base).symbol owner = (table.symbol owner).withBase base := by
    rw [TypeTable.setBase, symbol_modifyType, if_pos ⟨rfl, there⟩]
  have based
      : (table.symbol owner).withBase base
        = { table.symbol owner with kind := .named declaration.kind (some base) [] } := by
    simp [TypeSymbol.withBase, describes.kind]
  have link : (table.setBase owner base).base? owner = some base := by
    rw [TypeTable.base?, symbol, based]
    rfl
  have bare : (table.symbol owner).members = [] := by
    have members := describes.members
    rw [noMembers] at members
    exact List.forall₂_nil_left_iff.mp members
  refine ⟨furnished.setBase found (spells.has furnished), grows, ?_⟩
  exact {
    name := by rw [symbol, based]; exact describes.name
    kind := by rw [link, symbol, based]
    base := by
      rw [link]
      exact .some (spells.grow furnished grows (fun touch => ⟨_, touch ▸ found⟩))
    members := by
      rw [symbol, based, noMembers]
      simp [bare]
    useSite := by rw [symbol, based]; exact describes.useSite
  }

end

------------------------------------------------------------------------------------------
-- Members and bases

/-- One change of a type after another leads to what the second one declares. -/
theorem Advances.trans {scope : Scope} {table middle later : TypeTable}
    {declaration further : TypeDecl} {owner : TypeId}
    (h : Advances scope table declaration owner middle)
    (h' : Advances scope middle further owner later)
    : Advances scope table further owner later :=
  ⟨h'.furnished, h.grows.trans h'.grows, h'.describes⟩

/-- What is resolved before a type is changed touches no type, so the change may be seen as made in
the table before that.
-/
theorem Advances.after {scope : Scope} {table middle later : TypeTable}
    {declaration : TypeDecl} {owner : TypeId} (grows : Extends table middle)
    (h : Advances scope middle declaration owner later)
    : Advances scope table declaration owner later := by
  have resolved : Grows (· = owner) table middle := grows.mono (fun _ _ touch => touch.elim)
  exact ⟨h.furnished, resolved.trans h.grows, h.describes⟩

/-- What describes a type goes on describing it when other types are resolved, as none is touched by
that.
-/
theorem TypeDecl.Describes.extend {scope : Scope} {table later : TypeTable}
    {declaration : TypeDecl} {owner : TypeId}
    (describes : declaration.Describes scope table owner) (furnished : Furnished scope table)
    (found : scope.find? declaration.name = some owner) (grows : Extends table later)
    : declaration.Describes scope later owner :=
  describes.grow_of_symbol furnished grows nofun (grows.symbol (furnished.declaredThere found) id)

namespace Manifest

variable {scope : Scope} {table : TypeTable} {owner : TypeId}

/-- Declaring a member ends in its problem, or with the type that has it as its last member.
By cases on the member: what it mentions is resolved first, which touches no type, and then the
member is added.
-/
theorem declareMember_endsIn {declaration : TypeDecl} (furnished : Furnished scope table)
    (found : scope.find? declaration.name = some owner)
    (describes : declaration.Describes scope table owner) (member : MemberDecl)
    : EndsIn (member.problem? scope.known declaration.name)
        (Advances scope table { declaration with members := declaration.members ++ [member] }
          owner)
        (declareMember scope declaration.name owner table member) := by
  cases member with
  | method method =>
      rcases signature_endsIn furnished declaration.name method with
        ⟨error, problem, failed⟩ | ⟨⟨signature, middle⟩, fine, done, resolved⟩
      · exact .inl ⟨error, problem, by simp [declareMember, failed]⟩
      · have describes' := describes.extend furnished found resolved.grows
        have added := Advances.addMethod resolved.furnished found describes' resolved
        exact .inr ⟨_, fine, by simp [declareMember, done], added.after resolved.grows⟩
  | field field =>
      rcases resolved_endsIn furnished field.type with
        ⟨error, problem, failed⟩ | ⟨⟨type, middle⟩, fine, done, resolved⟩
      · exact .inl ⟨error, problem, by simp [declareMember, failed]⟩
      · have describes' := describes.extend furnished found resolved.grows
        have added := Advances.addField resolved.furnished found describes' resolved.spells
        exact .inr ⟨_, fine, by simp [declareMember, done], added.after resolved.grows⟩

/-- Declaring members ends in the first problem among them, or with the type that has all of them in
order.
By induction on those that are left, with a declaration that has grown by those before.
-/
theorem declareMembers_endsIn (declaration : TypeDecl) (furnished : Furnished scope table)
    (found : scope.find? declaration.name = some owner)
    (describes : declaration.Describes scope table owner) (rest : List MemberDecl)
    : EndsIn (rest.findSome? (MemberDecl.problem? scope.known declaration.name))
        (Advances scope table { declaration with members := declaration.members ++ rest } owner)
        (declareMembers scope declaration.name owner table rest) := by
  induction rest generalizing declaration table with
  | nil =>
      refine .inr ⟨_, rfl, rfl, furnished, .refl _ table, ?_⟩
      simpa using describes
  | cons member rest ih =>
      rcases declareMember_endsIn furnished found describes member with
        ⟨error, problem, failed⟩ | ⟨middle, fine, done, first⟩
      · exact .inl ⟨error, by simp [problem], by simp [declareMembers, failed]⟩
      · let extended : TypeDecl :=
          { declaration with members := declaration.members ++ [member] }
        have describes' : extended.Describes scope middle owner := first.describes
        rcases ih extended first.furnished found describes' with
          ⟨error, problem, failed⟩ | ⟨later, fine', done', others⟩
        · exact .inl ⟨error, by simpa [fine] using problem,
            by simpa [declareMembers, done] using failed⟩
        · refine .inr ⟨later, by simpa [fine] using fine',
            by simpa [declareMembers, done] using done', ?_⟩
          have both := first.trans others
          simpa only [extended, List.append_assoc, List.singleton_append] using both

/-- Declaring a base ends in the problem of its spelling, or with the type that has the base;
without one nothing happens.
-/
theorem declareBase_endsIn (declaration : TypeDecl) (furnished : Furnished scope table)
    (found : scope.find? declaration.name = some owner) (noMembers : declaration.members = [])
    (noBase : declaration.base = none)
    (describes : declaration.Describes scope table owner) (base : Option String)
    : EndsIn (base.bind (spellingProblem? scope.known))
        (Advances scope table { declaration with base } owner)
        (declareBase scope owner table base) := by
  cases base with
  | none =>
      refine .inr ⟨table, rfl, rfl, furnished, .refl _ table, ?_⟩
      rw [← noBase]
      exact describes
  | some spelling =>
      rcases resolved_endsIn furnished spelling with
        ⟨error, problem, failed⟩ | ⟨⟨base, middle⟩, fine, done, resolved⟩
      · exact .inl ⟨error, problem, by simp [declareBase, failed]⟩
      · have describes' := describes.extend furnished found resolved.grows
        have based :=
          Advances.setBase resolved.furnished found describes' noMembers resolved.spells
        exact .inr ⟨_, fine, by simp [declareBase, done], based.after resolved.grows⟩

/-- The step of a build that completes one type: its base, then its members. -/
def completeType (scope : Scope) (owner : TypeId) (table : TypeTable) (declaration : TypeDecl)
    : Except BuildError TypeTable :=
  match declareBase scope owner table declaration.base with
  | .error error => .error error
  | .ok table => declareMembers scope declaration.name owner table declaration.members

/-- A declared type is completed before those that are left. -/
theorem completeTypes_cons {declaration : TypeDecl}
    (found : scope.find? declaration.name = some owner) (rest : List TypeDecl)
    : completeTypes scope table (declaration :: rest)
      = match completeType scope owner table declaration with
        | .error error => .error error
        | .ok table => completeTypes scope table rest := by
  rw [completeTypes, found, completeType]
  dsimp only [Option.getD_some]
  cases declareBase scope owner table declaration.base <;> rfl

/-- Completing a type that has only been declared ends in its first problem, or in all that its
declaration says.
Its base comes before its members, as it does among the problems, and the type is described step by
step: bare, with its base, with its members.
-/
theorem completeType_endsIn {declaration : TypeDecl} (furnished : Furnished scope table)
    (found : scope.find? declaration.name = some owner)
    (bare : table.symbol owner = declaration.bareSymbol)
    : EndsIn (declaration.problem? scope.known) (Advances scope table declaration owner)
        (completeType scope owner table declaration) := by
  let start : TypeDecl := { declaration with base := none, members := [] }
  have describes : start.Describes scope table owner := TypeDecl.describes_of_bare bare
  rcases declareBase_endsIn start furnished found rfl rfl describes declaration.base with
    ⟨error, problem, failed⟩ | ⟨middle, fine, done, based⟩
  · exact .inl ⟨error, by simp [TypeDecl.problem?, problem],
      by simp [completeType, failed]⟩
  · let memberless : TypeDecl := { declaration with members := [] }
    have describes' : memberless.Describes scope middle owner := based.describes
    rcases declareMembers_endsIn memberless based.furnished found describes'
        declaration.members with
      ⟨error, problem, failed⟩ | ⟨later, fine', done', completed⟩
    · refine .inl ⟨error, ?_, ?_⟩
      · simpa [TypeDecl.problem?, fine] using problem
      · simpa [completeType, done] using failed
    · refine .inr ⟨later, ?_, ?_, ?_⟩
      · simpa [TypeDecl.problem?, fine] using fine'
      · simpa [completeType, done] using done'
      · simpa [memberless] using based.trans completed

end Manifest

end EntryPoints
