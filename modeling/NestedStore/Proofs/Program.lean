import NestedStore.Proofs.Session

/-! # Programs

A program works on any number of databases at once. It keeps values and snapshots under names,
whichever database they are of, and on each database a batch may be open. A call is made on a
database, or on the database of the map that it is made on, as in a session with that database
(`perform`). A mutation may also be made through the batch of any database (`Request.through`). -/
namespace NestedStore

/-- What a program may ask for. -/
inductive Request where
  /-- A call on a database, or on a map. -/
  | on (database : DatabaseId) (call : Call)
  /-- A mutation of a database, or of a map, through the batch that is open on some database. -/
  | through (batch database : DatabaseId) (mutation : Mutation)

namespace Request

/-- The call that is made. -/
def call : Request → Call
  | on _ call => call
  | through _ _ mutation => .mutate true mutation

/-- The database that is named. -/
def database : Request → DatabaseId
  | on database _ => database
  | through _ database _ => database

end Request

/-- A program at work on the databases of a store. -/
structure Program where
  store : Store
  registers : Register → Option Value
  snapshots : Nat → Option Snapshot
  /-- The batch that is open on a database. -/
  batch? : DatabaseId → Option Batch

namespace Program

/-- A program that has nothing in hand yet. -/
def start (store : Store) : Program := ⟨store, fun _ => none, fun _ => none, fun _ => none⟩

/-- The map that is kept under a name. -/
def map? (program : Program) (register : Register) : Option MapHandle :=
  (program.registers register).bind Value.asMap?

/-- The database that a request is for: that of the map, or the one that is named. -/
def site (program : Program) (request : Request) : DatabaseId :=
  match request.call.onMap?.bind program.map? with
  | some map => map.owner
  | none => request.database

/-- The database whose batch is at hand for a request. -/
def desk (program : Program) : Request → DatabaseId
  | .through batch _ _ => batch
  | request => program.site request

/-- The program as a session with a database, with a batch at hand. -/
def session (program : Program) (desk site : DatabaseId) : Session :=
  ⟨program.store, site, program.registers, program.snapshots, program.batch? desk⟩

/-- The program after a session. -/
def resume (program : Program) (desk : DatabaseId) (session : Session) : Program :=
  ⟨session.store, session.registers, session.snapshots,
    fun other => if other = desk then session.batch? else program.batch? other⟩

/-- Does what is asked for, where there is such a database. -/
def perform (program : Program) (request : Request) : Answer × Program :=
  if program.site request < program.store.databases.size then
    let (answer, session) :=
      (program.session (program.desk request) (program.site request)).perform request.call
    (answer, program.resume (program.desk request) session)
  else (.refused, program)

/-- The program after requests. -/
def after (program : Program) (requests : List Request) : Program :=
  requests.foldl (fun program request => (program.perform request).2) program

end Program

end NestedStore
