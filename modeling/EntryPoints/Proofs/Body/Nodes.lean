import EntryPoints.Synthesis.Await
import EntryPoints.Body.Block

/-! All the expressions in a body. What is said of every node of a body is said of the members of
one list.
-/

namespace EntryPoints

mutual
/-- An expression and all the expressions in it, from the outside in. -/
def Expression.nodes : Expression → List Expression
  | .parameter referenced => [.parameter referenced]
  | .temporary referenced => [.temporary referenced]
  | .staticCall method arguments type =>
      .staticCall method arguments type :: Expression.nodesOfAll arguments
  | .instanceCall receiver method arguments type =>
      .instanceCall receiver method arguments type
        :: (receiver.nodes ++ Expression.nodesOfAll arguments)
  | .creation constructor arguments type =>
      .creation constructor arguments type :: Expression.nodesOfAll arguments
  | .assignment target value => .assignment target value :: (target.nodes ++ value.nodes)

/-- The expressions in a list of arguments, from left to right. -/
def Expression.nodesOfAll : List Expression → List Expression
  | [] => []
  | expression :: rest => expression.nodes ++ Expression.nodesOfAll rest
end

/-- The expressions in a statement; a return without a value has none. -/
def Statement.nodes : Statement → List Expression
  | .evaluate expression => expression.nodes
  | .giveBack none => []
  | .giveBack (some value) => value.nodes

/-- The expressions in a block, in the order of its statements. -/
def Block.nodes (block : Block) : List Expression :=
  block.statements.flatMap Statement.nodes

/-- Parameters passed on are the only nodes of an argument list, by list induction. -/
@[simp]
theorem nodesOfAll_map_parameter (parameters : List Parameter)
    : Expression.nodesOfAll (parameters.map Expression.parameter)
      = parameters.map Expression.parameter := by
  induction parameters with
  | nil => rfl
  | cons parameter rest ih => simp [Expression.nodesOfAll, Expression.nodes, ih]

------------------------------------------------------------------------------------------
-- What holds of all nodes

section
variable {holds : Expression → Prop}

/-- A call without arguments is one node more than its receiver has. -/
theorem forall_nodes_parameterlessCall_iff {receiver : Expression} {method : MethodId}
    {type : TypeId}
    : (∀ node ∈ (receiver.parameterlessCall method type).nodes, holds node)
      ↔ holds (receiver.parameterlessCall method type) ∧ ∀ node ∈ receiver.nodes, holds node := by
  simp [Expression.parameterlessCall, Expression.nodes, Expression.nodesOfAll]

/-- Waiting for an expression puts two calls around it: one for its awaiter, and one for the result.
-/
theorem forall_nodes_apply_iff {protocol : AwaitProtocol} {awaited : Expression}
    : (∀ node ∈ (protocol.apply awaited).nodes, holds node)
      ↔ holds (protocol.apply awaited)
        ∧ holds (awaited.parameterlessCall protocol.getAwaiter protocol.awaiterType)
        ∧ ∀ node ∈ awaited.nodes, holds node := by
  simp only [AwaitProtocol.apply, forall_nodes_parameterlessCall_iff]

/-- Running an initializer on a local is one call, whose receiver is the local. -/
theorem forall_nodes_run_iff {temporary : Temporary} {initializer : MethodId} {type : TypeId}
    : (∀ node ∈ ((Expression.temporary temporary).parameterlessCall initializer type).nodes,
        holds node)
      ↔ holds ((Expression.temporary temporary).parameterlessCall initializer type)
        ∧ holds (.temporary temporary) := by
  simp [forall_nodes_parameterlessCall_iff, Expression.nodes]

/-- Storing a new object in a local is one assignment and one construction, with the nodes of the
arguments within it.
-/
theorem forall_nodes_construct_iff {temporary : Temporary} {constructor : MethodId}
    {arguments : List Expression} {type : TypeId}
    : (∀ node
        ∈ (Expression.assignment (.temporary temporary)
            (.creation constructor arguments type)).nodes,
        holds node)
      ↔ holds (.assignment (.temporary temporary) (.creation constructor arguments type))
        ∧ holds (.temporary temporary)
        ∧ holds (.creation constructor arguments type)
        ∧ ∀ node ∈ Expression.nodesOfAll arguments, holds node := by
  simp [Expression.nodes]

end

end EntryPoints
