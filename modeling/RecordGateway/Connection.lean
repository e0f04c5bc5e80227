import RecordGateway.Binds
import RecordGateway.Dialect
import RecordGateway.Record
/-!
# Connections

A connection has a state, renders statements in one dialect, prepares them into
handles and runs handles with binds. Each of these steps may fail; failing or
not, it gives the state that comes after it.
-/
namespace RecordGateway

structure Connection (σ η : Type) where
  dialect : Dialect
  prepare : Statement → σ → Except Failure η × σ
  sql : η → String
  /-- Run a statement without rows; the answer is the number of rows it changed. -/
  execute : η → Binds → σ → Except Failure Nat × σ
  fetch : η → Binds → σ → Except Failure (List Record) × σ
  lastInsertId : σ → Int64

namespace Connection

def query {σ η : Type} (c : Connection σ η) (s : Statement) (state : σ) :
    Except Failure (List Record) × σ :=
  match c.prepare s state with
  | (.error e, after) => (.error e, after)
  | (.ok handle, after) => c.fetch handle .empty after

inductive Event where
  | prepared (compiled : Compiled)
  | executed (sql : String) (binds : Binds)
  | fetched (sql : String) (binds : Binds)
deriving DecidableEq

/-- The same connection with a list of the calls made on it. A statement that does not compile
never reaches the driver and is not listed. -/
def recorded {σ η : Type} (c : Connection σ η) : Connection (σ × List Event) η where
  dialect := c.dialect
  prepare s state :=
    let (result, after) := c.prepare s state.1
    match s.compile c.dialect with
    | .ok compiled => (result, after, state.2 ++ [.prepared compiled])
    | .error _ => (result, after, state.2)
  sql := c.sql
  execute handle binds state :=
    let (result, after) := c.execute handle binds state.1
    (result, after, state.2 ++ [.executed (c.sql handle) binds])
  fetch handle binds state :=
    let (result, after) := c.fetch handle binds state.1
    (result, after, state.2 ++ [.fetched (c.sql handle) binds])
  lastInsertId state := c.lastInsertId state.1

end Connection
end RecordGateway
