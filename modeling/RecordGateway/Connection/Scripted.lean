import RecordGateway.Connection
/-!
# Scripted connections

A connection that answers from a list prepared beforehand, one answer for each
statement that compiles, and with an empty answer once the list is used up.
-/
namespace RecordGateway.Scripted

/-- The answer to one statement. A refusal comes when the statement is prepared, a fault when
it is run. -/
structure Answer where
  refusal : Option String := none
  fault : Option String := none
  lastId : Option Int64 := none
  affected : Nat := 0
  rows : List Record := []

structure State where
  answers : List Answer
  lastId : Int64

structure Handle where
  sql : String
  answer : Answer

def start (answers : List Answer) : State := ⟨answers, 0⟩

def prepare (d : Dialect) (s : Statement) (state : State) : Except Failure Handle × State :=
  match s.compile d with
  | .error e => (.error e, state)
  | .ok compiled =>
    let answer := state.answers.headD {}
    let after := { state with answers := state.answers.tail }
    match answer.refusal with
    | some cause => (.error (s.refused d cause), after)
    | none => (.ok ⟨compiled.sql, answer⟩, after)

def execute (handle : Handle) (binds : Binds) (state : State) : Except Failure Nat × State :=
  match handle.answer.fault with
  | some cause => (.error (.execution handle.sql binds.display cause), state)
  | none =>
    (.ok handle.answer.affected, { state with lastId := handle.answer.lastId.getD state.lastId })

def fetch (handle : Handle) (binds : Binds) (state : State) :
    Except Failure (List Record) × State :=
  match handle.answer.fault with
  | some cause => (.error (.execution handle.sql binds.display cause), state)
  | none => (.ok handle.answer.rows, state)

def connection (d : Dialect) : Connection State Handle where
  dialect := d
  prepare := prepare d
  sql := Handle.sql
  execute := execute
  fetch := fetch
  lastInsertId := State.lastId

end RecordGateway.Scripted
