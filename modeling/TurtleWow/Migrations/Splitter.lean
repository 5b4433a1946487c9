import Mathlib.Data.Char
import Mathlib.Data.List.Lex
import Mathlib.Data.List.Nodup
import Mathlib.Data.Prod.Lex
import TurtleWow.Lib.Run

namespace TurtleWow.Migrations

-- ExecuteUpdate's reading of a migration file: its queries, and whether the
-- text ends within a string. A character stands for a byte.

abbrev Text := List Char

def isBlank (c : Char) : Bool := c = '\t' || c = '\r' || c = '\n' || c = ' '

inductive StringStatus
  | none | singleQuotes | doubleQuotes
  deriving DecidableEq, Repr

inductive CommentScope
  | none | singleline | multiline
  deriving DecidableEq, Repr

structure Splitter where
  queries : List Text
  stringScope : StringStatus
  commentScope : CommentScope
  query : Text
  deriving DecidableEq, Repr

namespace Splitter

def start : Splitter := ⟨[], .none, .none, []⟩

def append (s : Splitter) (c : Char) : Splitter := { s with query := s.query ++ [c] }

-- The scope after a quote of one kind: it opens a string, or closes one of
-- its own kind unless a backslash stands before it.
def afterQuote (own scope : StringStatus) (prev : Option Char) : StringStatus :=
  if scope = .none then own
  else if scope = own then if prev ≠ some '\\' then .none else scope
  else scope

def quote (s : Splitter) (prev : Option Char) (c : Char) : Splitter :=
  let scope := if c = '\'' then afterQuote .singleQuotes s.stringScope prev else s.stringScope
  let scope := if c = '"' then afterQuote .doubleQuotes scope prev else scope
  { s with stringScope := scope }

-- Only finished outside a string
def finish (s : Splitter) (c : Char) : Splitter :=
  if c = ';' ∧ s.stringScope = .none then { s with queries := s.queries ++ [s.query], query := [] } else s

-- A line ends a comment of its kind wherever it ends.
def lineEnd (s : Splitter) (c : Char) : Splitter :=
  let s := if c = '\n' then s.append ' ' else s
  if s.commentScope = .singleline then { s with commentScope := .none } else s

-- One turn of the loop, with the characters before and after
def step (s : Splitter) (prev : Option Char) (c : Char) (next : Option Char) : Splitter :=
  if c = '\r' ∨ c = '\n' then s.lineEnd c
  else if c = '/' ∧ s.commentScope = .multiline ∧ prev = some '*' then { s with commentScope := .none }
  else if c = '/' ∧ s.stringScope = .none ∧ next = some '*' then { s with commentScope := .multiline }
  else if s.commentScope ≠ .none then s
  else if c = '-' ∧ s.stringScope = .none ∧ next = some '-' then { s with commentScope := .singleline }
  else ((s.quote prev c).append c).finish c

def scan (s : Splitter) (prev : Option Char) : Text → Splitter
  | [] => s
  | c :: rest => (s.step prev c rest.head?).scan (some c) rest

-- find_first_not_of("\t\r\n ")
def isBlankQuery (query : Text) : Bool := query.all isBlank

-- The query in the buffer counts unless it is empty.
def allQueries (s : Splitter) : List Text := if isBlankQuery s.query then s.queries else s.queries ++ [s.query]

end Splitter

def split (sql : Text) : Splitter := Splitter.start.scan none sql

def endsInString (sql : Text) : Bool := (split sql).stringScope ≠ .none

-- `query.c_str()`
def cString (text : Text) : Text := text.takeWhile fun c => c ≠ '\x00'

def queries (sql : Text) : List Text := (split sql).allQueries.map cString

-- The updater of the databases. `σ` is what a database holds.

variable {σ : Type}

-- One transaction on the server: what each statement does at its place, and
-- whether the commit succeeds.
structure Server (σ : Type) where
  execute : Nat → Text → σ → Option σ
  commit : Bool

-- The loop of SqlTransaction::Execute
def Server.executeQueue (server : Server σ) : Nat → List Text → σ → Option σ
  | _, [], contents => some contents
  | i, sql :: rest, contents =>
    match server.execute i sql contents with
    | none => none
    | some contents => server.executeQueue (i + 1) rest contents

-- SqlTransaction::Execute. All statements of a transaction take effect or
-- none does.
def Server.executeTransaction (server : Server σ) (queue : List Text) (contents : σ) : Bool × σ :=
  if queue = [] then (true, contents)
  else
    match server.executeQueue 0 queue contents with
    | none => (false, contents)
    | some after => if server.commit then (true, after) else (false, contents)

-- `transaction` is the one in the storage of the calling thread.
structure Database (σ : Type) where
  contents : σ
  asyncConn : Bool
  transaction : Option (List Text)

namespace Database

def beginTransaction (d : Database σ) : Bool × Database σ :=
  if !d.asyncConn then (false, d)
  else if d.transaction.isSome then (false, d)
  else (true, { d with transaction := some [] })

-- Within a transaction a statement waits for the commit.
def execute (d : Database σ) (sql : Text) : Database σ :=
  { d with transaction := d.transaction.map fun queue => queue ++ [sql] }

def commitTransactionDirect (d : Database σ) (server : Server σ) : Bool × Database σ :=
  if !d.asyncConn then (false, d)
  else
    match d.transaction with
    | none => (false, d)
    | some queue =>
      let (res, contents) := server.executeTransaction queue d.contents
      (res, { d with contents := contents, transaction := none })

end Database

structure Migration where
  hash : Text
  name : Text
  module : Text
  deriving DecidableEq, Repr

structure FileMigration extends Migration where
  fileData : Text
  modifiedAt : Int
  deriving DecidableEq, Repr

def getMigrationKey (module hash : Text) : Text := module ++ ":".toList ++ hash

def Migration.key (m : Migration) : Text := getMigrationKey m.module m.hash

-- The quotes of the format stand between its parts.
def insertRecord (m : Migration) : Text :=
  ['\''].intercalate
    ["INSERT INTO `migrations` (`Name`, `Module`, `Hash`, `AppliedAt`) VALUES (".toList, m.name, ", ".toList, m.module,
      ", ".toList, m.hash, ", NOW());".toList]

def executeUpdate (d : Database σ) (server : Server σ) (m : FileMigration) : Bool × Database σ :=
  let (begun, d) := d.beginTransaction
  if !begun then (false, d)
  -- mid-string query at the end of SQL
  else if endsInString m.fileData then (false, d)
  else (((queries m.fileData).foldl Database.execute d).execute (insertRecord m.toMigration)).commitTransactionDirect server

-- An entry of a directory; `content` is none where it cannot be opened.
structure DirectoryEntry where
  regular : Bool
  stem : Text
  extension : Text
  content : Option Text
  modifiedAt : Int

-- One call of ProcessTargetUpdates. `selected` says whether the query of the
-- table succeeds.
structure Start (σ : Type) where
  module : Text
  directory : List DirectoryEntry
  sortByName : Bool
  selected : Bool
  server : Nat → Server σ

structure Turn (σ : Type) where
  migration : FileMigration
  server : Server σ
  before : Database σ
  succeeded : Bool
  after : Database σ

section

-- The hex digits of a file's SHA-1 hash, and the rows of the migrations table
variable (sha1Hex : Text → Text) (rows : σ → List Migration)

def fileMigration (module : Text) (entry : DirectoryEntry) : Option FileMigration :=
  if entry.regular && entry.extension = ".sql".toList then
    entry.content.map fun data =>
      { hash := sha1Hex data, name := entry.stem, module := module, fileData := data, modifiedAt := entry.modifiedAt }
  else none

-- A map by keys, which keeps the first of two files that have one key
def insertNew (migrations : List FileMigration) (m : FileMigration) : List FileMigration :=
  if migrations.any fun other => other.key = m.key then migrations else migrations ++ [m]

def loadFileMigrations (start : Start σ) : List FileMigration :=
  (start.directory.filterMap (fileMigration sha1Hex start.module)).foldl insertNew []

-- Without a result the table counts as empty.
def loadDatabaseMigrations (d : Database σ) (start : Start σ) : List Text :=
  if start.selected then (rows d.contents).map Migration.key else []

def isBefore (sortByName : Bool) (e1 e2 : FileMigration) : Bool :=
  if sortByName then
    if e1.name ≠ e2.name then e1.name < e2.name else e1.modifiedAt < e2.modifiedAt
  else if e1.modifiedAt ≠ e2.modifiedAt then e1.modifiedAt < e2.modifiedAt
  else e1.name < e2.name

def pendingUpdates (d : Database σ) (start : Start σ) : List FileMigration :=
  ((loadFileMigrations sha1Hex start).filter fun m => m.key ∉ loadDatabaseMigrations rows d start).mergeSort
    fun e1 e2 => !isBefore start.sortByName e2 e1

-- The loop of ProcessTargetUpdates, as the calls it makes
def runUpdates (server : Nat → Server σ) : Nat → List FileMigration → Database σ → List (Turn σ)
  | _, [], _ => []
  | i, m :: rest, d =>
    let (succeeded, after) := executeUpdate d (server i) m
    ⟨m, server i, d, succeeded, after⟩ ::
      if succeeded then runUpdates server (i + 1) rest after else []

def lastDatabase (d : Database σ) (turns : List (Turn σ)) : Database σ :=
  match turns.getLast? with
  | none => d
  | some turn => turn.after

def processTargetUpdates (d : Database σ) (start : Start σ) : List (Turn σ) :=
  runUpdates start.server 0 (pendingUpdates sha1Hex rows d start) d

structure World (σ : Type) where
  database : Database σ
  turns : List (Turn σ)

inductive Input (σ : Type)
  | process (start : Start σ)
  -- The server starts again, without what its threads had in store.
  | restart

def World.step (w : World σ) : Input σ → World σ
  | .process start =>
    let turns := processTargetUpdates sha1Hex rows w.database start
    { database := lastDatabase w.database turns, turns := w.turns ++ turns }
  | .restart => { w with database := { w.database with transaction := none } }

end

end TurtleWow.Migrations
