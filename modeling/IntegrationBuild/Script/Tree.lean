import IntegrationBuild.Script.Fault

/-!
The tree of a script.  Every node has a kind, the stretch of text it covers and
its children in the order of the text.  Comments and punctuation leave no node.
-/

namespace IntegrationBuild.Script

/-- A name that an import brings in, and the name it is given. -/
structure ImportedName where
  name : String
  rename : Option String
deriving DecidableEq, Repr, Inhabited

/-- How a parameter takes its arguments. -/
inductive ParameterSort where
  | single
  | variadic
  | keywords
deriving DecidableEq, Repr, Inhabited

/-- What a node of the tree is.  The comments say what its children are. -/
inductive Kind where
  /-- Statements. -/
  | module
  /-- Statements. -/
  | block
  /-- One expression. -/
  | expressionStatement
  /-- The targets, then the value. -/
  | assignment
  /-- The target and the value. -/
  | augmentedAssignment
  /-- The target, its annotation, and the value if there is one. -/
  | annotatedAssignment
  /-- The targets. -/
  | deletion
  | passStatement
  | breakStatement
  | continueStatement
  /-- The value, if there is one. -/
  | returnStatement
  /-- The raised value and its cause, if there are any. -/
  | raiseStatement
  | globalStatement (names : List String)
  | nonlocalStatement (names : List String)
  | importStatement (names : List ImportedName)
  | importFrom (level : Nat) (source : String) (names : List ImportedName)
  /-- The condition, and the message if there is one. -/
  | assertStatement
  /-- The arguments of a call written without brackets. -/
  | bareCall
  /-- The condition, the block, then the other branches. -/
  | ifStatement
  /-- The condition and the block. -/
  | elifClause
  /-- The block. -/
  | elseClause
  /-- The condition, the block, and the other branch if there is one. -/
  | whileStatement
  /-- The target, the values, the block, and the other branch if there is one. -/
  | forStatement (isAsync : Bool)
  /-- The block, then the clauses. -/
  | tryStatement
  /-- The caught class if there is one, then the block. -/
  | exceptClause (group : Bool) (bound : Option String)
  /-- The block. -/
  | finallyClause
  /-- The items, then the block. -/
  | withStatement (isAsync : Bool)
  /-- The value, and its target if there is one. -/
  | withItem
  /-- The parameters, the annotation of the result if there is one, the block. -/
  | functionDefinition (isAsync : Bool) (name : String)
  /-- The arguments if there are any, then the block. -/
  | classDefinition (name : String)
  /-- The decorators, then the definition. -/
  | decoratedDefinition
  /-- One expression. -/
  | decorator
  /-- The subject, then the cases. -/
  | matchStatement
  /-- The pattern, the guard if there is one, the block. -/
  | caseClause
  /-- One expression. -/
  | guard
  | identifier (name : String)
  | none
  | constant
  | number
  /-- The fields.  The literal stands for `value`, if it is one plain text. -/
  | string (value : Option String)
  /-- The value, then the fields of its format. -/
  | field
  /-- The object. -/
  | attribute (name : String)
  /-- The callee and the arguments. -/
  | call
  /-- The arguments. -/
  | arguments
  /-- The value. -/
  | keywordArgument (name : String)
  /-- One expression. -/
  | splat
  /-- One expression. -/
  | mappingSplat
  /-- The object, then the indices. -/
  | subscript
  /-- The bounds that are given. -/
  | slice
  /-- The operand. -/
  | unary
  /-- The operand. -/
  | negation
  /-- Both operands. -/
  | binary
  /-- Both operands. -/
  | boolean
  /-- The operands. -/
  | comparison
  /-- The value if the condition holds, the condition, the other value. -/
  | conditional
  /-- The parameters and the body. -/
  | lambda
  /-- One expression. -/
  | await
  /-- The value, if there is one. -/
  | yieldExpression
  /-- One expression. -/
  | yieldFrom
  /-- The target and the value. -/
  | namedExpression
  /-- The items. -/
  | tuple
  /-- The items. -/
  | list
  /-- The items. -/
  | set
  /-- Pairs and unpacked mappings. -/
  | dictionary
  /-- The key and the value. -/
  | pair
  /-- One expression. -/
  | parenthesized
  /-- The element, then the clauses. -/
  | listComprehension
  /-- The element, then the clauses. -/
  | setComprehension
  /-- The pair, then the clauses. -/
  | dictionaryComprehension
  /-- The element, then the clauses. -/
  | generator
  /-- The target and the values. -/
  | forClause (isAsync : Bool)
  /-- The condition. -/
  | ifClause
  /-- The parameters and the marks between them. -/
  | parameters
  /-- The annotation and the default value, if there are any. -/
  | parameter (name : String) (sort : ParameterSort)
  /-- One expression. -/
  | declaredType
  /-- One expression. -/
  | defaultValue
  /-- The mark after the parameters that take no keyword. -/
  | positionalMark
  /-- The mark before the parameters that take keywords only. -/
  | keywordMark
  | capturePattern (name : String)
  /-- An expression. -/
  | valuePattern
  /-- A pattern. -/
  | groupPattern
  /-- Patterns. -/
  | sequencePattern
  | starPattern (name : String)
  /-- Entries. -/
  | mappingPattern
  /-- The key, an expression, and the pattern. -/
  | mappingEntry
  | mappingRest (name : String)
  /-- The class, an expression, then the patterns. -/
  | classPattern
  /-- A pattern. -/
  | keywordPattern (name : String)
  /-- Patterns. -/
  | orPattern
  /-- A pattern. -/
  | asPattern (name : String)
  /-- Something that the language refuses. -/
  | fault (cause : Cause)
deriving DecidableEq, Repr, Inhabited

/-- The tree of a script or of a part of it. -/
inductive Tree where
  | node (kind : Kind) (span : Span) (children : List Tree)
deriving Repr, Inhabited

namespace Tree

/-- What the root of the tree is. -/
def kind : Tree → Kind
  | node k _ _ => k

/-- The stretch of text that the tree covers. -/
def span : Tree → Span
  | node _ s _ => s

/-- The trees right below the root. -/
def children : Tree → List Tree
  | node _ _ cs => cs

/-- Where the tree begins. -/
def start (t : Tree) : Position := t.span.start

mutual

/-- The nodes of a tree, each before those below it. -/
def preorder : Tree → List Tree
  | node k s cs => node k s cs :: preorderAll cs

/-- The nodes of some trees, one tree after the other. -/
def preorderAll : List Tree → List Tree
  | [] => []
  | t :: rest => preorder t ++ preorderAll rest

end

mutual

/-- The number of nodes. -/
def size : Tree → Nat
  | node _ _ cs => sizeAll cs + 1

/-- The number of nodes of some trees. -/
def sizeAll : List Tree → Nat
  | [] => 0
  | t :: rest => size t + sizeAll rest

end

mutual

/-- The number of levels. -/
def depth : Tree → Nat
  | node _ _ cs => depthAll cs + 1

/-- The greatest number of levels. -/
def depthAll : List Tree → Nat
  | [] => 0
  | t :: rest => max (depth t) (depthAll rest)

end

/-- The nodes of some trees level by level, down to a depth. -/
def levels : Nat → List Tree → List Tree
  | 0, _ => []
  | _ + 1, [] => []
  | n + 1, trees => trees ++ levels n (trees.flatMap children)

/-- The nodes of a tree, level by level. -/
def breadthFirst (t : Tree) : List Tree :=
  levels t.depth [t]

/-- The faults noted in a tree. -/
def faults (t : Tree) : List Fault :=
  t.preorder.filterMap fun u =>
    match u.kind with
    | .fault cause => some ⟨cause, u.span⟩
    | _ => Option.none

end Tree

end IntegrationBuild.Script
