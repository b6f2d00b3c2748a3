import EntryPoints.Symbol.Method

/-! Typed expressions of synthesized bodies. -/

namespace EntryPoints

/-- A nameless local that a body declares; its slot is its position among the block's locals. -/
structure Temporary where
  slot : Nat
  type : TypeId
  deriving DecidableEq, Repr, Inhabited

inductive Expression where
  | parameter (parameter : Parameter)
  | temporary (temporary : Temporary)
  /-- A call without a receiver, typed with what the method returns. -/
  | staticCall (method : MethodId) (arguments : List Expression) (type : TypeId)
  /-- A call on a receiver, typed with what the method returns. -/
  | instanceCall (receiver : Expression) (method : MethodId) (arguments : List Expression)
      (type : TypeId)
  /-- The construction of an object of a type. -/
  | creation (constructor : MethodId) (arguments : List Expression) (type : TypeId)
  | assignment (target value : Expression)
  deriving Repr, Inhabited

namespace Expression

/-- Every expression has a type; an assignment has that of its target. -/
def type : Expression → TypeId
  | .parameter referenced => referenced.type
  | .temporary referenced => referenced.type
  | .staticCall _ _ type => type
  | .instanceCall _ _ _ type => type
  | .creation _ _ type => type
  | .assignment target _ => target.type

/-- The call of a method without arguments on a receiver. -/
def parameterlessCall (receiver : Expression) (method : MethodId) (type : TypeId) : Expression :=
  .instanceCall receiver method [] type

end Expression

end EntryPoints
