import CodeChunks.Grammar.Basic
import CodeChunks.Taxonomy.Importance

/-!
# Classes of code

The twenty-one members of `CoreClass` say what a piece of code is for. They fall into five ranks,
the first being the most important. Languages may add classes of their own, known by a 16-bit
handle; a `CodeClass` is of one sort or the other.
-/

namespace CodeChunks

/-- How important a class is, most important first. -/
inductive Rank where
  | primaryDefinitions
  | behavioralContracts
  | controlFlowLogic
  | operationsExpressions
  | syntaxReferences
  deriving DecidableEq, Repr

namespace Rank

def all : List Rank :=
  [.primaryDefinitions, .behavioralContracts, .controlFlowLogic, .operationsExpressions,
   .syntaxReferences]

/-- The ranks count from one. -/
def tier : Rank → Nat
  | .primaryDefinitions => 1
  | .behavioralContracts => 2
  | .controlFlowLogic => 3
  | .operationsExpressions => 4
  | .syntaxReferences => 5

def name : Rank → String
  | .primaryDefinitions => "primary_definitions"
  | .behavioralContracts => "behavioral_contracts"
  | .controlFlowLogic => "control_flow_logic"
  | .operationsExpressions => "operations_expressions"
  | .syntaxReferences => "syntax_references"

/-- The rank of a token by its significance alone. -/
def ofSignificance : Significance → Rank
  | .comment => .behavioralContracts
  | .structural => .operationsExpressions
  | .identifier | .literal | .trivial => .syntaxReferences

def ofTier? (n : Nat) : Option Rank := all.find? (·.tier == n)

def toJson (r : Rank) : Json := .str r.name

def ofJson? (j : Json) : Option Rank := j.asName?.bind fun n => all.find? (·.name == n)

theorem tier_inj {a b : Rank} (h : a.tier = b.tier) : a = b := by
  revert h
  cases a <;> cases b <;> decide

theorem one_le_tier (r : Rank) : 1 ≤ r.tier := by cases r <;> decide

theorem tier_le_five (r : Rank) : r.tier ≤ 5 := by cases r <;> decide

end Rank

/-- The core classes, in the order of their ranks. -/
inductive CoreClass where
  | definitionCallable
  | definitionType
  | definitionData
  | definitionTest
  | boundaryModule
  | boundaryError
  | boundaryResource
  | documentationStructured
  | flowBranching
  | flowIteration
  | flowControl
  | flowAsync
  | operationInvocation
  | operationData
  | operationOperator
  | expressionAnonymous
  | syntaxKeyword
  | syntaxIdentifier
  | syntaxLiteral
  | syntaxMarker
  | syntaxPunctuation
  deriving DecidableEq, Repr, Inhabited

namespace CoreClass

def all : List CoreClass :=
  [.definitionCallable, .definitionType, .definitionData, .definitionTest, .boundaryModule,
   .boundaryError, .boundaryResource, .documentationStructured, .flowBranching, .flowIteration,
   .flowControl, .flowAsync, .operationInvocation, .operationData, .operationOperator,
   .expressionAnonymous, .syntaxKeyword, .syntaxIdentifier, .syntaxLiteral, .syntaxMarker,
   .syntaxPunctuation]

/-- The position in `all`, counted from one. -/
def ordinal : CoreClass → Nat
  | .definitionCallable => 1
  | .definitionType => 2
  | .definitionData => 3
  | .definitionTest => 4
  | .boundaryModule => 5
  | .boundaryError => 6
  | .boundaryResource => 7
  | .documentationStructured => 8
  | .flowBranching => 9
  | .flowIteration => 10
  | .flowControl => 11
  | .flowAsync => 12
  | .operationInvocation => 13
  | .operationData => 14
  | .operationOperator => 15
  | .expressionAnonymous => 16
  | .syntaxKeyword => 17
  | .syntaxIdentifier => 18
  | .syntaxLiteral => 19
  | .syntaxMarker => 20
  | .syntaxPunctuation => 21

def name : CoreClass → String
  | .definitionCallable => "definition_callable"
  | .definitionType => "definition_type"
  | .definitionData => "definition_data"
  | .definitionTest => "definition_test"
  | .boundaryModule => "boundary_module"
  | .boundaryError => "boundary_error"
  | .boundaryResource => "boundary_resource"
  | .documentationStructured => "documentation_structured"
  | .flowBranching => "flow_branching"
  | .flowIteration => "flow_iteration"
  | .flowControl => "flow_control"
  | .flowAsync => "flow_async"
  | .operationInvocation => "operation_invocation"
  | .operationData => "operation_data"
  | .operationOperator => "operation_computation"
  | .expressionAnonymous => "expression_anonymous"
  | .syntaxKeyword => "syntax_keyword"
  | .syntaxIdentifier => "syntax_identifier"
  | .syntaxLiteral => "syntax_literal"
  | .syntaxMarker => "syntax_annotation"
  | .syntaxPunctuation => "syntax_punctuation"

def rank : CoreClass → Rank
  | .definitionCallable | .definitionType | .definitionData | .definitionTest =>
    .primaryDefinitions
  | .boundaryModule | .boundaryError | .boundaryResource | .documentationStructured =>
    .behavioralContracts
  | .flowBranching | .flowIteration | .flowControl | .flowAsync => .controlFlowLogic
  | .operationInvocation | .operationData | .operationOperator | .expressionAnonymous =>
    .operationsExpressions
  | .syntaxKeyword | .syntaxIdentifier | .syntaxLiteral | .syntaxMarker
  | .syntaxPunctuation => .syntaxReferences

def importance : CoreClass → Importance
  | .definitionCallable => ⟨0.95, 0.92, 0.85, 0.85, 0.92⟩
  | .definitionType => ⟨0.95, 0.92, 0.90, 0.80, 0.92⟩
  | .definitionData => ⟨0.85, 0.88, 0.80, 0.65, 0.90⟩
  | .definitionTest => ⟨0.88, 0.90, 0.70, 0.90, 0.85⟩
  | .boundaryModule => ⟨0.85, 0.80, 0.85, 0.60, 0.75⟩
  | .boundaryError => ⟨0.70, 0.85, 0.75, 0.95, 0.70⟩
  | .boundaryResource => ⟨0.65, 0.80, 0.80, 0.90, 0.65⟩
  | .documentationStructured => ⟨0.55, 0.75, 0.50, 0.40, 0.95⟩
  | .flowBranching => ⟨0.60, 0.75, 0.65, 0.90, 0.50⟩
  | .flowIteration => ⟨0.50, 0.70, 0.65, 0.80, 0.45⟩
  | .flowControl => ⟨0.45, 0.65, 0.55, 0.90, 0.35⟩
  | .flowAsync => ⟨0.65, 0.80, 0.75, 0.85, 0.60⟩
  | .operationInvocation => ⟨0.45, 0.65, 0.45, 0.75, 0.25⟩
  | .operationData => ⟨0.35, 0.55, 0.50, 0.70, 0.25⟩
  | .operationOperator => ⟨0.25, 0.45, 0.35, 0.60, 0.25⟩
  | .expressionAnonymous => ⟨0.40, 0.65, 0.50, 0.60, 0.45⟩
  | .syntaxKeyword => ⟨0.05, 0.10, 0.10, 0.15, 0.05⟩
  | .syntaxIdentifier => ⟨0.25, 0.40, 0.25, 0.45, 0.20⟩
  | .syntaxLiteral => ⟨0.15, 0.20, 0.15, 0.40, 0.20⟩
  | .syntaxMarker => ⟨0.35, 0.45, 0.60, 0.40, 0.40⟩
  | .syntaxPunctuation => ⟨0.01, 0.02, 0.15, 0.20, 0.05⟩

def ofName? (n : String) : Option CoreClass := all.find? (·.name == n)

theorem ordinal_inj {a b : CoreClass} (h : a.ordinal = b.ordinal) : a = b := by
  revert h
  cases a <;> cases b <;> decide

theorem one_le_ordinal (c : CoreClass) : 1 ≤ c.ordinal := by cases c <;> decide

theorem ordinal_le (c : CoreClass) : c.ordinal ≤ 21 := by cases c <;> decide

end CoreClass

/-- A class of the taxonomy. -/
inductive CodeClass where
  | core (c : CoreClass)
  /-- A class of a language, by its handle. -/
  | added (handle : UInt16)
  deriving DecidableEq, Repr, Inhabited

namespace CodeClass

def isCore : CodeClass → Bool
  | .core _ => true
  | .added _ => false

/-- A number that tells classes apart and orders them. -/
def index : CodeClass → Nat
  | .core c => c.ordinal
  | .added handle => 22 + handle.toNat

theorem index_inj {a b : CodeClass} (h : a.index = b.index) : a = b := by
  cases a with
  | core a =>
    cases b with
    | core b => exact congrArg core (CoreClass.ordinal_inj h)
    | added b =>
      have := a.ordinal_le
      simp only [index] at h
      omega
  | added a =>
    cases b with
    | core b =>
      have := b.ordinal_le
      simp only [index] at h
      omega
    | added b =>
      simp only [index] at h
      exact congrArg added (UInt16.toNat_inj.1 (by omega))

end CodeClass

end CodeChunks
