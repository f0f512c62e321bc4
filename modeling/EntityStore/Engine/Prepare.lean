import EntityStore.Engine.Definition
import EntityStore.Sql.StatementReader

/-! # Prepared statements

* `Database.prepare` — any statement but those about transactions as a program.
* `Refusal.ofFault` — a fault in the words that show the text of the statement.
* `Prepared`, `prepareText` — the first statement of a text, and the text after it.
-/

namespace EntityStore

open EntityStore.Sql (Statement Lexeme Parsed lexemes)
open EntityStore.Engine (Database Program Fault)

/-! ## Programs -/

def Engine.Query.program (q : Engine.Query) : Program :=
  { writes := false, width := q.plan.outputs.length
    run := fun parameters db => do
      return { database := db, rows := ← Engine.stopOn (q.run parameters db) } }

/-- The program of a statement; those about transactions have none. -/
def Engine.Database.prepare (db : Database) (s : Statement) : Except Fault (Option Program) :=
  match s with
  | .select q => (db.query q).map fun q => some q.program
  | .insert change => (Engine.prepareInsert db change).map some
  | .update change => (Engine.prepareUpdate db change).map some
  | .delete change => (Engine.prepareDelete db change).map some
  | .createTable d => (Engine.createTable db d).map some
  | .createIndex d => (Engine.createIndex db d).map some
  | .createView d => (Engine.createView db d).map some
  | .createTrigger d => (Engine.createTrigger db d).map some
  | .drop kind ifPresent name => (Engine.prepareDrop db kind ifPresent name).map some
  | .alter table (.renameTo name) => (Engine.prepareRename db table name).map some
  | .alter table (.addColumn column) => (Engine.prepareColumn db table column).map some
  | .readVersion => .ok (some {
      writes := false, width := 1
      run := fun _ db =>
        .ok { database := db, rows := [[.integer (Int64.ofInt db.version.toInt)]] } })
  | .writeVersion version => .ok (some (.define fun db => { db with version := version }))
  | .setting => .ok (some .nothing)
  | .begin _ | .commit | .rollback | .savepoint _ | .release _ | .rollbackTo _ => .ok none

/-! ## Texts -/

def lexemeAt? (all : List Lexeme) (place : Nat) : Option Lexeme := all[all.length - place]?

def Sql.Lexeme.written (l : Lexeme) : String :=
  String.ofList (l.source.take (l.source.length - l.after.length))

/-- How many bytes of a text stand before a lexeme. -/
def Sql.Lexeme.offset (l : Lexeme) (text : String) : Nat :=
  text.utf8ByteSize - (String.ofList l.source).utf8ByteSize

def locatedText (message statement : String) (offset : Nat) : String :=
  message ++ " in " ++ statement ++ " at offset " ++ toString offset

def Refusal.ofFault (statement : String) (all : List Lexeme) (fault : Fault) : Refusal :=
  match fault.place.bind (lexemeAt? all) with
  | none => ⟨fault.code, fault.text, false⟩
  | some l => ⟨fault.code, locatedText fault.text statement (l.offset statement), true⟩

/-- A text that is no statement because of the token in a place; without one it ends too early. -/
def Refusal.unreadable (statement : String) (all : List Lexeme) (place : Nat) : Refusal :=
  match lexemeAt? all place with
  | none => .statement "incomplete input"
  | some l =>
    match l.token with
    | .illegal =>
      ⟨Refusal.statementCode, locatedText ("unrecognized token: \"" ++ l.written ++ "\"") statement
        (l.offset statement), true⟩
    | _ =>
      ⟨Refusal.statementCode, locatedText ("near \"" ++ l.written ++ "\": syntax error") statement
        (l.offset statement), true⟩

/-- The first statement of a text. -/
structure Prepared where
  statement : Statement
  /-- The program that it runs, unless it is about transactions. -/
  program : Option Program
  /-- How many parameters it has. -/
  parameters : Nat
  /-- The text after it. -/
  rest : String

def textAfter (all : List Lexeme) (unread : Nat) : String :=
  match all[all.length - unread - 1]? with
  -- A text that ends without a semicolon has nothing after it.
  | some l => if l.token = .symbol ";" then String.ofList l.after else ""
  | none => ""

/-- Reads and prepares the first statement of a text, if there is one.  A refusal does not point to
    the text if it has been prepared before. -/
def prepareText (db : Database) (text : String) (again : Bool) :
    Except Refusal (Option Prepared) :=
  let all := lexemes text.toList
  match Sql.parse (all.map (·.token)) with
  | .error place => .error (.unreadable text all place)
  | .ok none => .ok none
  | .ok (some parsed) =>
    match db.prepare parsed.statement with
    | .error fault => .error (.ofFault text all (if again then fault.elsewhere else fault))
    | .ok program => .ok (some {
        statement := parsed.statement, program := program, parameters := parsed.parameters
        rest := textAfter all parsed.rest.length })

end EntityStore
