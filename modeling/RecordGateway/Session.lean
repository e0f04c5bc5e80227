import RecordGateway.Gateway
/-!
# Sessions

Any number of gateways over one connection, together with the objects they have
handed out and copies of these. Each gateway reads and writes models in its own
way. Where they have models of different types, `M` is the sum of these. A
session is driven by commands, of which each gives a reply. A command that fails
leaves all before-images and the token counter as they were.
-/
namespace RecordGateway

structure Session (σ M : Type) where
  shared : Shared σ
  gateways : List (Gateway M)
  /-- The position of the gateway that commands go to. -/
  current : Nat
  objects : List (Tracked M)

/-- A model that is named by an object of the session or given as it is. -/
inductive Subject (M : Type) where
  | kept (object : Nat)
  | given (model : M)

inductive Command (M : Type) where
  | choose (gateway : Nat)
  | findAll (filters : List Filter) (order : List Ordered)
  | findOne (filters : List Filter) (order : List Ordered)
  | findCustom (statement : Statement)
  | create (subject : Subject M)
  | delete (subject : Subject M)
  | update (object : Nat)
  | forget (object : Nat)
  | revise (object : Nat) (change : M → M)
  | clone (object : Nat)
  | detach (subject : Subject M)
  | query (statement : Statement)
  | execute (statement : Statement) (binds : Binds)

inductive Reply (M : Type) where
  | table (name : String)
  | objects (first : Nat) (found : List (Tracked M))
  | object (found : Option (Nat × Tracked M))
  | models (found : List M)
  | records (found : List Record)
  | rowId (id : Int64)
  | count (rows : Nat)
  | done (yes : Bool)
  | model (current : M)
  | ran (sql : String) (affected : Nat) (lastInsertId : Int64)
  | failed (e : Failure)
  /-- No object or gateway has the given number. -/
  | absent

namespace Session

def start {σ M : Type} (connection : σ) (tables : List String) : Session σ M :=
  ⟨⟨connection, 1⟩, tables.map Gateway.overTable, 0, []⟩

section
variable {σ η M : Type}

def gateway? (s : Session σ M) : Option (Gateway M) := s.gateways[s.current]?

def subject? (s : Session σ M) : Subject M → Option M
  | .kept n => (s.objects[n]?).map Tracked.model
  | .given model => some model

def withConnection (s : Session σ M) (connection : σ) : Session σ M :=
  { s with shared := { s.shared with connection := connection } }

def withGateway (s : Session σ M) (g : Gateway M) : Session σ M :=
  { s with gateways := s.gateways.set s.current g }

def keep (s : Session σ M) (found : List (Tracked M)) : Session σ M :=
  { s with objects := s.objects ++ found }

def answer {α : Type} (s : Session σ M) (reply : α → Reply M) :
    Except Failure α × σ → Session σ M × Reply M
  | (.ok x, after) => (s.withConnection after, reply x)
  | (.error e, after) => (s.withConnection after, .failed e)

variable (c : Connection σ η) (m : Mapping M)

def run (statement : Statement) (binds : Binds) (state : σ) :
    Except Failure (String × Nat × Int64) × σ :=
  match c.prepare statement state with
  | (.error e, after) => (.error e, after)
  | (.ok handle, after) =>
    match c.execute handle binds after with
    | (.error e, last) => (.error e, last)
    | (.ok affected, last) => (.ok (c.sql handle, affected, c.lastInsertId last), last)

def stepWith (s : Session σ M) (g : Gateway M) : Command M → Session σ M × Reply M
  | .choose n =>
    match s.gateways[n]? with
    | some chosen => ({ s with current := n }, .table chosen.table)
    | none => (s, .absent)
  | .findAll filters order =>
    let (result, g', shared) := g.findAll c m filters order s.shared
    let s' := { s with shared := shared }.withGateway g'
    match result with
    | .ok found => (s'.keep found, .objects s.objects.length found)
    | .error e => (s', .failed e)
  | .findOne filters order =>
    let (result, g', shared) := g.findOne c m filters order s.shared
    let s' := { s with shared := shared }.withGateway g'
    match result with
    | .ok (some found) => (s'.keep [found], .object (some (s.objects.length, found)))
    | .ok none => (s', .object none)
    | .error e => (s', .failed e)
  | .findCustom statement =>
    s.answer .models (Gateway.findCustom c m statement s.shared.connection)
  | .create subject =>
    match s.subject? subject with
    | some model => s.answer .rowId (g.create c m model s.shared.connection)
    | none => (s, .absent)
  | .delete subject =>
    match s.subject? subject with
    | some model => s.answer .count (g.delete c m model s.shared.connection)
    | none => (s, .absent)
  | .update n =>
    match s.objects[n]? with
    | some object => s.answer .done (g.update c m object s.shared.connection)
    | none => (s, .absent)
  | .forget n =>
    match s.objects[n]? with
    | some object =>
      let (had, g') := g.forget object
      (s.withGateway g', .done had)
    | none => (s, .absent)
  | .revise n change =>
    match s.objects[n]? with
    | some object =>
      let revised := { object with model := change object.model }
      ({ s with objects := s.objects.set n revised }, .model revised.model)
    | none => (s, .absent)
  | .clone n =>
    match s.objects[n]? with
    | some object => (s.keep [object], .object (some (s.objects.length, object)))
    | none => (s, .absent)
  | .detach subject =>
    match s.subject? subject with
    | some model =>
      let object := Tracked.detached model
      (s.keep [object], .object (some (s.objects.length, object)))
    | none => (s, .absent)
  | .query statement => s.answer .records (c.query statement s.shared.connection)
  | .execute statement binds =>
    s.answer (fun (sql, affected, id) => .ran sql affected id)
      (run c statement binds s.shared.connection)

/-- Every gateway has its mapping. -/
def step (mappings : Nat → Mapping M) (s : Session σ M) (command : Command M) :
    Session σ M × Reply M :=
  match s.gateway? with
  | some g => s.stepWith c (mappings s.current) g command
  | none => (s, .absent)

def runAll (mappings : Nat → Mapping M) (s : Session σ M) (commands : List (Command M)) :
    Session σ M :=
  commands.foldl (fun s command => (s.step c mappings command).1) s

end
end Session
end RecordGateway
