import FibrePool.Json.Printer
import FibrePool.Json.Reader
import FibrePool.Store.FileSystem
import FibrePool.Store.Transaction
import FibrePool.Wire.Tables

/-!
# Stores

A store holds the tables and runs transactions on them.  It may be backed by a snapshot file: then
the tables of every successful transaction are saved before anybody can see them, and a transaction
that cannot be saved fails and leaves the store as it was.
-/

namespace FibrePool

set_option autoImplicit false

/-- The tables, and the file that they are saved to. -/
structure Store where
  tables : Tables := ∅
  snapshot : Option FilePath := none
  deriving DecidableEq, Inhabited

namespace Store

/-- The text of a snapshot file. -/
def snapshotText (tables : Tables) : String := Json.pretty tables.toJson

/-- The tables that a snapshot file holds. -/
def tablesOf (text : String) : Outcome Tables :=
  match (Json.ofText? text).map Tables.ofJson with
  | some (.ok tables) => .ok tables
  | _ => .error .unreadableJson

/-- The store of a snapshot file, empty when there is no such file yet. -/
def ofSnapshot (files : FileSystem) (path : FilePath) : Outcome Store :=
  if files.isThere path then
    match files.read path with
    | .ok text => do
      let tables ← tablesOf text
      return { tables, snapshot := some path }
    | .error code => .error (.system code)
  else .ok { tables := ∅, snapshot := some path }

/-- Runs a transaction, where saving may have a fault. -/
def transact {α : Type} (store : Store) (files : FileSystem) (fault : Option SaveFault)
    (change : Transaction α) : Outcome α × Store × FileSystem :=
  match change store.tables with
  | .error failure => (.error failure, store, files)
  | .ok (result, tables) =>
    match store.snapshot with
    | none => (.ok result, { store with tables }, files)
    | some path =>
      match files.save fault path (snapshotText tables) with
      | (.ok _, files) => (.ok result, { store with tables }, files)
      | (.error failure, files) => (.error failure, store, files)

end Store

end FibrePool
