import RecordGateway.Connection.Scripted
import RecordGateway.Proofs.Connection.Calls
import RecordGateway.Proofs.Request.Naming
import RecordGateway.Proofs.Session.Deeds
import RecordGateway.Proofs.Statement.Masking
/-!
# Requests with their values masked

The name of a bind depends on the names bound before it and on nothing else.
-/
namespace RecordGateway

private theorem putEntry_map {α β : Type} (f : α → β) (key : String) (value : α)
    (entries : List (String × α)) :
    (putEntry key value entries).map (fun e => (e.1, f e.2)) =
      putEntry key (f value) (entries.map fun e => (e.1, f e.2)) := by
  induction entries with
  | nil => rfl
  | cons entry rest ih =>
    by_cases h : entry.1 = key
    · simp [putEntry, h]
    · simp [putEntry, h, ih]

namespace Binds

def masked (binds : Binds) : Binds := ⟨binds.values.mapValues fun _ => .null⟩

private theorem masked_bind (binds : Binds) (name : String) (value : Value) :
    (binds.bind name value).masked = binds.masked.bind name .null := by
  have hentries := putEntry_map (fun _ => Value.null)
    (parameterName name) value binds.values.entries
  simp only [masked, bind, Keyed.mapValues, Keyed.insert, hentries]

private theorem bind_alike {binds binds' : Binds} (h : binds.masked = binds'.masked) (name : String)
    (value value' : Value) : (binds.bind name value).masked = (binds'.bind name value').masked := by
  rw [masked_bind, masked_bind, h]

private theorem masked_names (binds : Binds) :
    binds.masked.entries.map Prod.fst = binds.entries.map Prod.fst := by
  simp [masked, entries, Keyed.mapValues, Function.comp_def]

end Binds

private theorem isBound_masked (binds : Binds) (name : String) :
    isBound binds.masked name = isBound binds name := by
  rw [Bool.eq_iff_iff, isBound_iff, isBound_iff, binds.masked_names]

private theorem freeSuffix_masked (base : String) (binds : Binds) (tries k : Nat) :
    freeSuffix base binds.masked tries k = freeSuffix base binds tries k := by
  induction tries generalizing k with
  | zero => rfl
  | succ tries ih => simp only [freeSuffix, isBound_masked, ih]

private theorem bindName_masked (lead field : String) (binds : Binds) :
    bindName lead field binds.masked = bindName lead field binds := by
  have hsize : binds.masked.size = binds.size := List.length_map _
  simp only [bindName, isBound_masked, freeSuffix_masked, hsize]

private theorem bindName_alike {binds binds' : Binds} (h : binds.masked = binds'.masked)
    (lead field : String) : bindName lead field binds = bindName lead field binds' := by
  rw [← bindName_masked lead field binds, h, bindName_masked]

def Filter.place (f : Filter) : String × String := (f.field, f.relation)

/-- The columns of a row in their order, each with whether it is null. -/
def Record.nullness (record : Record) : List (String × Bool) :=
  record.entries.map fun e => (e.1, e.2.isNull)

private theorem filterConditions_alike {filters filters' : List Filter} {binds binds' : Binds}
    (h : filters.map Filter.place = filters'.map Filter.place) (hb : binds.masked = binds'.masked) :
    (filterConditions filters binds).1 = (filterConditions filters' binds').1 ∧
      (filterConditions filters binds).2.masked = (filterConditions filters' binds').2.masked := by
  induction filters generalizing filters' binds binds' with
  | nil =>
    obtain rfl := List.map_eq_nil_iff.mp h.symm
    exact ⟨rfl, hb⟩
  | cons f filters ih =>
    cases filters' with
    | nil => cases h
    | cons f' filters' =>
      obtain ⟨hplace, hrest⟩ := List.cons.inj h
      obtain ⟨hfield, hrelation⟩ := Prod.mk.inj hplace
      have hname := bindName_alike hb "" f.field
      have hbound := Binds.bind_alike hb (bindName "" f.field binds) f.value f'.value
      obtain ⟨hconditions, hbinds⟩ := ih hrest hbound
      simp only [filterConditions, ← hfield, ← hrelation, ← hname]
      exact ⟨congrArg _ hconditions, hbinds⟩

private theorem boundOperands_alike (lead : String) {items items' : List (String × Value)}
    {binds binds' : Binds} (h : items.map Prod.fst = items'.map Prod.fst)
    (hb : binds.masked = binds'.masked) :
    (boundOperands lead items binds).1 = (boundOperands lead items' binds').1 ∧
      (boundOperands lead items binds).2.masked = (boundOperands lead items' binds').2.masked := by
  induction items generalizing items' binds binds' with
  | nil =>
    obtain rfl := List.map_eq_nil_iff.mp h.symm
    exact ⟨rfl, hb⟩
  | cons item items ih =>
    obtain ⟨field, value⟩ := item
    cases items' with
    | nil => cases h
    | cons item' items' =>
      obtain ⟨field', value'⟩ := item'
      obtain ⟨rfl, hrest⟩ := List.cons.inj h
      have hname := bindName_alike hb lead field
      have hbound := Binds.bind_alike hb (bindName lead field binds) value value'
      obtain ⟨hoperands, hbinds⟩ := ih hrest hbound
      simp only [boundOperands, ← hname]
      exact ⟨congrArg _ hoperands, hbinds⟩

private theorem matchConditions_alike {items items' : List (String × Value)} {binds binds' : Binds}
    (h : items.map (fun e => (e.1, e.2.isNull)) = items'.map fun e => (e.1, e.2.isNull))
    (hb : binds.masked = binds'.masked) :
    (matchConditions items binds).1 = (matchConditions items' binds').1 ∧
      (matchConditions items binds).2.masked = (matchConditions items' binds').2.masked := by
  induction items generalizing items' binds binds' with
  | nil =>
    obtain rfl := List.map_eq_nil_iff.mp h.symm
    exact ⟨rfl, hb⟩
  | cons item items ih =>
    obtain ⟨field, value⟩ := item
    cases items' with
    | nil => cases h
    | cons item' items' =>
      obtain ⟨field', value'⟩ := item'
      obtain ⟨hhead, hrest⟩ := List.cons.inj h
      obtain ⟨hfield, hnull⟩ := Prod.mk.inj hhead
      dsimp only at hfield hnull
      subst hfield
      cases hv : value.isNull with
      | true =>
        obtain ⟨hconditions, hbinds⟩ := ih hrest hb
        simp only [matchConditions, ← hnull, hv, if_true]
        exact ⟨congrArg _ hconditions, hbinds⟩
      | false =>
        have hname := bindName_alike hb "o_" field
        have hbound := Binds.bind_alike hb (bindName "o_" field binds) value value'
        obtain ⟨hconditions, hbinds⟩ := ih hrest hbound
        simp only [matchConditions, ← hnull, hv, Bool.false_eq_true, if_false, ← hname]
        exact ⟨congrArg _ hconditions, hbinds⟩

namespace Request

/-- Requests with one statement and the same bind names. -/
structure Alike (r r' : Request) : Prop where
  statement : r.statement = r'.statement
  binds : r.binds.masked = r'.binds.masked

end Request

open Request

private theorem selection_alike (table : String) {filters filters' : List Filter}
    (order : List Ordered)
    (h : filters.map Filter.place = filters'.map Filter.place) :
    Alike (selection table filters order) (selection table filters' order) := by
  obtain ⟨hconditions, hbinds⟩ := filterConditions_alike h (rfl : Binds.empty.masked = _)
  have hempty : filters.isEmpty = filters'.isEmpty := by
    rw [← List.isEmpty_map (f := Filter.place), h, List.isEmpty_map]
  refine ⟨?_, hbinds⟩
  simp only [selection, hconditions, hempty]

private theorem insertion_alike (table : String) {record record' : Record}
    (h : record.keys = record'.keys) :
    Alike (insertion table record) (insertion table record') := by
  obtain ⟨hoperands, hbinds⟩ := boundOperands_alike "" h (rfl : Binds.empty.masked = _)
  refine ⟨?_, hbinds⟩
  simp only [insertion, hoperands]

private theorem replacement_alike (table : String) {previous previous' current current' : Record}
    (hp : previous.nullness = previous'.nullness) (hc : current.keys = current'.keys) :
    Alike (replacement table previous current) (replacement table previous' current') := by
  obtain ⟨hoperands, hbound⟩ := boundOperands_alike "n_" hc (rfl : Binds.empty.masked = _)
  obtain ⟨hconditions, hbinds⟩ := matchConditions_alike hp hbound
  refine ⟨?_, hbinds⟩
  simp only [replacement, hoperands, hconditions]

private theorem removal_alike (table : String) {record record' : Record}
    (h : record.nullness = record'.nullness) :
    Alike (removal table record) (removal table record') := by
  obtain ⟨hconditions, hbinds⟩ := matchConditions_alike h (rfl : Binds.empty.masked = _)
  refine ⟨?_, hbinds⟩
  simp only [removal, hconditions]

namespace Connection

/-- What a call sends, without its values. -/
def Event.masked : Event → Event
  | .prepared compiled => .prepared compiled.masked
  | .executed sql binds => .executed sql binds.masked
  | .fetched sql binds => .fetched sql binds.masked

/-- The calls that a recorded connection has listed, without their values. -/
def sent {σ : Type} (state : σ × List Event) : List Event := state.2.map Event.masked

end Connection

open Connection (Event sent)

namespace Gateway

variable {σ η M : Type} (c : Connection σ η) (m : Mapping M)

private theorem execute_sent {r r' : Request} (h : Alike r r') (start : σ × List Event) :
    sent (execute c.recorded r start).2 = sent (execute c.recorded r' start).2 := by
  unfold execute prepare
  rw [h.statement]
  cases c.recorded.prepare r'.statement start with
  | mk result after =>
    cases result with
    | error e => rfl
    | ok handle => simp [Connection.recorded, sent, Event.masked, h.binds]

private theorem fetchAll_sent {r r' : Request} (h : Alike r r') (start : σ × List Event) :
    sent (fetchAll c.recorded r start).2 = sent (fetchAll c.recorded r' start).2 := by
  unfold fetchAll prepare
  rw [h.statement]
  cases c.recorded.prepare r'.statement start with
  | mk result after =>
    cases result with
    | error e => rfl
    | ok handle => simp [Connection.recorded, sent, Event.masked, h.binds]

theorem create_state (g : Gateway M) (model : M) (state : σ) :
    (g.create c m model state).2 = (execute c (insertion g.table (m.write model)) state).2 := by
  unfold create
  cases execute c (insertion g.table (m.write model)) state with
  | mk result after => cases result <;> rfl

theorem delete_state (g : Gateway M) (model : M) (state : σ) :
    (g.delete c m model state).2 = (execute c (removal g.table (m.write model)) state).2 := by
  unfold delete
  cases execute c (removal g.table (m.write model)) state with
  | mk result after => cases result <;> rfl

theorem findAll_state (g : Gateway M) (filters : List Filter) (order : List Ordered)
    (s : Shared σ) : (g.findAll c m filters order s).2.2.connection =
      (fetchAll c (selection g.table filters order) s.connection).2 := by
  rw [findAll_eq]
  split <;> rfl

theorem findOne_state (g : Gateway M) (filters : List Filter) (order : List Ordered)
    (s : Shared σ) : (g.findOne c m filters order s).2.2.connection =
      (fetchAll c (selection g.table filters order) s.connection).2 := by
  rw [findOne_eq]
  split <;> rfl

variable {g g' : Gateway M} (htable : g.table = g'.table) (start : σ × List Event)
include htable

private theorem create_sent {model model' : M} (h : (m.write model).keys = (m.write model').keys) :
    sent (g.create c.recorded m model start).2 = sent (g'.create c.recorded m model' start).2 := by
  rw [create_state, create_state, ← htable]
  exact execute_sent c (insertion_alike g.table h) start

private theorem delete_sent {model model' : M}
    (h : (m.write model).nullness = (m.write model').nullness) :
    sent (g.delete c.recorded m model start).2 = sent (g'.delete c.recorded m model' start).2 := by
  rw [delete_state, delete_state, ← htable]
  exact execute_sent c (removal_alike g.table h) start

private theorem update_sent {object object' : Tracked M}
    (hbefore : (g.before? object).map (fun x => (m.write x).nullness) =
      (g'.before? object').map fun x => (m.write x).nullness)
    (hedited : (m.write object.model).keys = (m.write object'.model).keys) :
    sent (g.update c.recorded m object start).2 =
      sent (g'.update c.recorded m object' start).2 := by
  cases hx : g.before? object with
  | none =>
    have hx' : g'.before? object' = none := by
      rw [hx] at hbefore
      exact Option.map_eq_none_iff.mp hbefore.symm
    rw [update_unknown _ _ _ _ _ hx, update_unknown _ _ _ _ _ hx']
  | some before =>
    rw [hx] at hbefore
    obtain ⟨before', hx', hnull⟩ := Option.map_eq_some_iff.mp hbefore.symm
    rw [update_known _ _ _ _ _ hx, update_known _ _ _ _ _ hx', ← htable]
    exact execute_sent c (replacement_alike g.table hnull.symm hedited) start

private theorem find_sent {filters filters' : List Filter} (order : List Ordered)
    (h : filters.map Filter.place = filters'.map Filter.place) (token token' : Token) :
    sent (g.findAll c.recorded m filters order ⟨start, token⟩).2.2.connection =
        sent (g'.findAll c.recorded m filters' order ⟨start, token'⟩).2.2.connection ∧
      sent (g.findOne c.recorded m filters order ⟨start, token⟩).2.2.connection =
        sent (g'.findOne c.recorded m filters' order ⟨start, token'⟩).2.2.connection := by
  have hfetch := fetchAll_sent c (selection_alike g.table order h) start
  rw [findAll_state, findAll_state, findOne_state, findOne_state, ← htable]
  exact ⟨hfetch, hfetch⟩

end Gateway

/-- No value reaches the text that is sent. Statements that differ in their values compile to one
text with the same parameter names, and whatever a gateway does with models of the same columns,
or with filters on the same fields, it sends the same texts with the same bind names. -/
theorem values_never_sent_as_text {σ η M : Type} (c : Connection σ η) (m : Mapping M) :
    (∀ (d : Dialect) (s s' : Statement), s.masked d = s'.masked d →
      (s.compile d).map Compiled.masked = (s'.compile d).map Compiled.masked) ∧
    ∀ (g g' : Gateway M) (start : σ × List Event), g.table = g'.table →
      (∀ model model', (m.write model).keys = (m.write model').keys →
        sent (g.create c.recorded m model start).2 =
          sent (g'.create c.recorded m model' start).2) ∧
      (∀ object object',
        (g.before? object).map (fun x => (m.write x).nullness) =
          (g'.before? object').map (fun x => (m.write x).nullness) →
        (m.write object.model).keys = (m.write object'.model).keys →
        sent (g.update c.recorded m object start).2 =
          sent (g'.update c.recorded m object' start).2) ∧
      (∀ model model', (m.write model).nullness = (m.write model').nullness →
        sent (g.delete c.recorded m model start).2 =
          sent (g'.delete c.recorded m model' start).2) ∧
      ∀ filters filters' order token token',
        filters.map Filter.place = filters'.map Filter.place →
        sent (g.findAll c.recorded m filters order ⟨start, token⟩).2.2.connection =
            sent (g'.findAll c.recorded m filters' order ⟨start, token'⟩).2.2.connection ∧
          sent (g.findOne c.recorded m filters order ⟨start, token⟩).2.2.connection =
            sent (g'.findOne c.recorded m filters' order ⟨start, token'⟩).2.2.connection := by
  refine ⟨fun _ _ _ => Statement.compile_of_masked_eq, fun g g' start htable => ⟨?_, ?_, ?_, ?_⟩⟩
  · exact fun _ _ => Gateway.create_sent c m htable start
  · exact fun _ _ => Gateway.update_sent c m htable start
  · exact fun _ _ => Gateway.delete_sent c m htable start
  · exact fun _ _ order token token' h => Gateway.find_sent c m htable start order h token token'

theorem values_never_sent_as_text_row :
    ∃ (s s' : Statement) (g g' : Gateway Record) (object object' : Tracked Record)
      (filters filters' : List Filter) (start : Scripted.State × List Event),
      let c := (Scripted.connection .sqlite).recorded
      (s.masked .sqlite = s'.masked .sqlite ∧ g.table = g'.table ∧
        object.model.keys = object'.model.keys ∧ object.model.nullness = object'.model.nullness ∧
        (g.before? object).map Record.nullness = (g'.before? object').map Record.nullness ∧
        filters.map Filter.place = filters'.map Filter.place ∧ object.model ≠ object'.model) ∧
      (s.compile .sqlite).map Compiled.masked = (s'.compile .sqlite).map Compiled.masked ∧
      sent (g.create c .identity object.model start).2 =
        sent (g'.create c .identity object'.model start).2 ∧
      sent (g.update c .identity object start).2 = sent (g'.update c .identity object' start).2 ∧
      sent (g.delete c .identity object.model start).2 =
        sent (g'.delete c .identity object'.model start).2 ∧
      sent (g.findAll c .identity filters [] ⟨start, 2⟩).2.2.connection =
        sent (g'.findAll c .identity filters' [] ⟨start, 8⟩).2.2.connection := by
  let statement (v : Value) : Statement :=
    { onTable .source "user" with filter := some (.condition (.quoted "name" "=" v)) }
  let row (name : String) : Record := ⟨[("name", .text name), ("note", .null)], by simp⟩
  have h := values_never_sent_as_text (Scripted.connection .sqlite) Mapping.identity
  obtain ⟨hcreate, hupdate, hdelete, hfind⟩ := h.2 ⟨"user", [(1, row "ann")]⟩
    ⟨"user", [(7, row "' OR 1")]⟩ (Scripted.start [], []) rfl
  refine ⟨statement (.text "ann"), statement (.text "' OR 1"), ⟨"user", [(1, row "ann")]⟩,
    ⟨"user", [(7, row "' OR 1")]⟩, ⟨some 1, row "bob"⟩, ⟨some 7, row "'; --"⟩,
    [.eq "name" (.text "ann")], [.eq "name" (.integer 7)], _,
    ⟨rfl, rfl, rfl, rfl, rfl, rfl, by decide⟩, h.1 _ _ _ rfl, hcreate (row "bob") (row "'; --") rfl,
    hupdate ⟨some 1, row "bob"⟩ ⟨some 7, row "'; --"⟩ rfl rfl,
    hdelete (row "bob") (row "'; --") rfl, (hfind _ _ [] 2 8 rfl).1⟩

end RecordGateway
