import EntityStore.RequestId

/-! # Failures

What can go wrong, with the context that callers attach on the way up:

* `FailureKind` — the kinds and their stable codes.
* `Failure` — a kind, the context known so far, a message and perhaps the failure behind it.
* `Failure.text` — the one-line wording.
-/

namespace EntityStore

/-- The kinds of failure: first those of declarations, then those of a running store. -/
inductive FailureKind where
  | nonPrivateField
  | emptyEntity
  | missingPrimaryKey
  | multiplePrimaryKeys
  | invalidPrimaryKeyType
  | primaryKeyTypeMismatch
  | missingDefaultConstructor
  | missingAccessor
  | missingMutator
  | accessorTypeMismatch
  | duplicateField
  | duplicateColumn
  | unresolvedLinkField
  | invalidLinkFieldType
  | unresolvedRelationTarget
  | duplicateEntity
  | duplicateTable
  /-- Another writer holds the database. -/
  | lockContention
  /-- A read outside a transaction failed; its caller sees an empty result. -/
  | transientQuery
  /-- A statement ran against a connection that is no longer open. -/
  | statementState
  | persistence
  /-- A stored value does not fit the declared type. -/
  | decode
  | config
  | io
  | unknownContext
  | unknownMapper
  | internal
  deriving DecidableEq

namespace FailureKind

def name : FailureKind → String
  | nonPrivateField => "NonPrivateField"
  | emptyEntity => "EmptyEntity"
  | missingPrimaryKey => "MissingPrimaryKey"
  | multiplePrimaryKeys => "MultiplePrimaryKeys"
  | invalidPrimaryKeyType => "InvalidPrimaryKeyType"
  | primaryKeyTypeMismatch => "PrimaryKeyTypeMismatch"
  | missingDefaultConstructor => "MissingDefaultConstructor"
  | missingAccessor => "MissingAccessor"
  | missingMutator => "MissingMutator"
  | accessorTypeMismatch => "AccessorTypeMismatch"
  | duplicateField => "DuplicateField"
  | duplicateColumn => "DuplicateColumn"
  | unresolvedLinkField => "UnresolvedLinkField"
  | invalidLinkFieldType => "InvalidLinkFieldType"
  | unresolvedRelationTarget => "UnresolvedRelationTarget"
  | duplicateEntity => "DuplicateEntity"
  | duplicateTable => "DuplicateTable"
  | lockContention => "LockContention"
  | transientQuery => "TransientQuery"
  | statementState => "StatementState"
  | persistence => "Persistence"
  | decode => "Decode"
  | config => "Config"
  | io => "Io"
  | unknownContext => "UnknownContext"
  | unknownMapper => "UnknownMapper"
  | internal => "Internal"

def isSchema : FailureKind → Bool
  | nonPrivateField | emptyEntity | missingPrimaryKey | multiplePrimaryKeys
  | invalidPrimaryKeyType | primaryKeyTypeMismatch | missingDefaultConstructor
  | missingAccessor | missingMutator | accessorTypeMismatch | duplicateField
  | duplicateColumn | unresolvedLinkField | invalidLinkFieldType | unresolvedRelationTarget
  | duplicateEntity | duplicateTable => true
  | lockContention | transientQuery | statementState | persistence | decode | config | io
  | unknownContext | unknownMapper | internal => false

def all : List FailureKind := [
  nonPrivateField, emptyEntity, missingPrimaryKey, multiplePrimaryKeys, invalidPrimaryKeyType,
  primaryKeyTypeMismatch, missingDefaultConstructor, missingAccessor, missingMutator,
  accessorTypeMismatch, duplicateField, duplicateColumn, unresolvedLinkField,
  invalidLinkFieldType, unresolvedRelationTarget, duplicateEntity, duplicateTable,
  lockContention, transientQuery, statementState, persistence, decode, config, io,
  unknownContext, unknownMapper, internal]

def ofName? (name : String) : Option FailureKind := all.find? (·.name = name)

/-- The words of a name in capitals: a capital letter starts a new word. -/
def capitalWords : List Char → List Char
  | [] => []
  | c :: rest => (if c.isUpper then ['_', c] else [c.toUpper]) ++ capitalWords rest

/-- The stable code of a kind: its name in capitals, marked where it belongs to declarations. -/
def code (kind : FailureKind) : String :=
  (if kind.isSchema then "ERR_SCHEMA" else "ERR") ++ String.ofList (capitalWords kind.name.toList)

end FailureKind

/-- A failure and the context attached to it. -/
structure Failure where
  kind : FailureKind
  op : Option String := none
  entity : Option String := none
  table : Option String := none
  tag : Option String := none
  field : Option String := none
  requestId : Option RequestId := none
  message : String := ""
  cause : Option Failure := none

namespace Failure

/-- Whether one more attempt may succeed, because another writer held the database. -/
def isLockContention (failure : Failure) : Bool := failure.kind = .lockContention

def note (label : String) : Option String → String
  | none => ""
  | some value => " (" ++ label ++ ": " ++ value ++ ")"

/-- The one-line wording: code, operation, message and context. -/
def text (failure : Failure) : String :=
  "[" ++ failure.kind.code ++ "]"
    ++ (match failure.op with
        | none => ""
        | some op => " in operation '" ++ op ++ "'")
    ++ (if failure.message.isEmpty then "" else ": " ++ failure.message)
    ++ note "entity" failure.entity
    ++ note "table" failure.table
    ++ note "db" failure.tag
    ++ note "field" failure.field

end Failure

end EntityStore
