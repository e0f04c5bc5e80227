import RecordGateway.Connection
import RecordGateway.Gateway.Mapping
import RecordGateway.Gateway.Request
/-!
# Gateways

Reading and writing the models of one table. Every model that a gateway reads
is given a fresh token, under which the gateway keeps the model as it was read.
An update writes the current model to the row that the kept one describes, so it
finds the row even when its key was changed. Gateways over one connection draw
their tokens from a common counter.
-/
namespace RecordGateway

abbrev Token := Nat

/-- A model with the token of its before-image, if a gateway has read it. -/
structure Tracked (M : Type) where
  token : Option Token
  model : M

def Tracked.detached {M : Type} (model : M) : Tracked M := ⟨none, model⟩

structure Gateway (M : Type) where
  table : String
  snapshots : List (Token × M)

structure Shared (σ : Type) where
  connection : σ
  nextToken : Token

namespace Gateway

def overTable {M : Type} (table : String) : Gateway M := ⟨table, []⟩

def snapshotCount {M : Type} (g : Gateway M) : Nat := g.snapshots.length

def before? {M : Type} (g : Gateway M) (object : Tracked M) : Option M :=
  object.token.bind fun token => g.snapshots.lookup token

def track {M : Type} (models : List M) (first : Token) : List (Token × M) :=
  (models.zipIdx first).map fun p => (p.2, p.1)

def attached {M : Type} (entry : Token × M) : Tracked M := ⟨some entry.1, entry.2⟩

/-- A driver's refusal becomes a failed execution with the binds it was going to run with. -/
def withBinds (binds : Binds) : Failure → Failure
  | .driver cause sql => .execution sql binds.display cause
  | e => e

section
variable {σ η M : Type} (c : Connection σ η) (m : Mapping M)

def prepare (r : Request) (state : σ) : Except Failure η × σ :=
  match c.prepare r.statement state with
  | (.error e, after) => (.error (withBinds r.binds e), after)
  | (.ok handle, after) => (.ok handle, after)

def fetchAll (r : Request) (state : σ) : Except Failure (List Record) × σ :=
  match prepare c r state with
  | (.error e, after) => (.error e, after)
  | (.ok handle, after) => c.fetch handle r.binds after

def execute (r : Request) (state : σ) : Except Failure Nat × σ :=
  match prepare c r state with
  | (.error e, after) => (.error e, after)
  | (.ok handle, after) => c.execute handle r.binds after

/-- Every row on which all filters hold, as objects. All rows are read before any is kept. -/
def findAll (g : Gateway M) (filters : List Filter) (order : List Ordered) (s : Shared σ) :
    Except Failure (List (Tracked M)) × Gateway M × Shared σ :=
  match fetchAll c (selection g.table filters order) s.connection with
  | (.error e, after) => (.error (.gateway .findAll e), g, { s with connection := after })
  | (.ok records, after) =>
    match records.mapM m.read with
    | .error e => (.error (.gateway .findAll e), g, { s with connection := after })
    | .ok models =>
      let kept := track models s.nextToken
      (.ok (kept.map attached), { g with snapshots := g.snapshots ++ kept },
        ⟨after, s.nextToken + models.length⟩)

/-- The first row on which all filters hold, if there is one. Only that row is read. -/
def findOne (g : Gateway M) (filters : List Filter) (order : List Ordered) (s : Shared σ) :
    Except Failure (Option (Tracked M)) × Gateway M × Shared σ :=
  match fetchAll c (selection g.table filters order) s.connection with
  | (.error e, after) => (.error (.gateway .findOne e), g, { s with connection := after })
  | (.ok [], after) => (.ok none, g, { s with connection := after })
  | (.ok (record :: _), after) =>
    match m.read record with
    | .error e => (.error (.gateway .findOne e), g, { s with connection := after })
    | .ok model =>
      (.ok (some ⟨some s.nextToken, model⟩),
        { g with snapshots := g.snapshots ++ [(s.nextToken, model)] },
        ⟨after, s.nextToken + 1⟩)

def create (g : Gateway M) (model : M) (state : σ) : Except Failure Int64 × σ :=
  match execute c (insertion g.table (m.write model)) state with
  | (.error e, after) => (.error (.gateway .create e), after)
  | (.ok _, after) => (.ok (c.lastInsertId after), after)

/-- Write an object's current model to the row it was read from. An object without a
before-image in this gateway is not written, and the answer is `false`. The before-image stays
as it was read. -/
def update (g : Gateway M) (object : Tracked M) (state : σ) : Except Failure Bool × σ :=
  match g.before? object with
  | none => (.ok false, state)
  | some before =>
    match execute c (replacement g.table (m.write before) (m.write object.model)) state with
    | (.error e, after) => (.error (.gateway .update e), after)
    | (.ok _, after) => (.ok true, after)

def delete (g : Gateway M) (model : M) (state : σ) : Except Failure Nat × σ :=
  match execute c (removal g.table (m.write model)) state with
  | (.error e, after) => (.error (.gateway .delete e), after)
  | (.ok count, after) => (.ok count, after)

def findCustom (statement : Statement) (state : σ) : Except Failure (List M) × σ :=
  match c.query statement state with
  | (.error e, after) => (.error (.gateway .findCustom e), after)
  | (.ok records, after) =>
    match records.mapM m.read with
    | .error e => (.error (.gateway .findCustom e), after)
    | .ok models => (.ok models, after)

end

def forget {M : Type} (g : Gateway M) (object : Tracked M) : Bool × Gateway M :=
  match object.token with
  | none => (false, g)
  | some token =>
    ((g.snapshots.lookup token).isSome,
      { g with snapshots := g.snapshots.filter fun entry => entry.1 != token })

end Gateway
end RecordGateway
