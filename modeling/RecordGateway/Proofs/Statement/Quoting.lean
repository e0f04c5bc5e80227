import RecordGateway.Proofs.Reading.Quotation
import RecordGateway.Proofs.Request.Naming
import RecordGateway.Proofs.Statement.Rendering
/-!
# Quotations of a statement

A statement with its literals written into the text, where the text that is taken as it stands has
no quotes in it: what a scan finds quoted are the quoted values from left to right, whatever is in
them, and names in backticks.
-/
namespace RecordGateway

namespace Template

def Carries (before after : Stance) (t : Template) : Prop :=
  RecordGateway.Carries before after t.inline.toList t.literals

namespace Carries

private theorem append {a b c : Stance} {t u : Template} (h : Carries a b t) (h' : Carries b c u) :
    Carries a c (t ++ u) := by
  have hboth := RecordGateway.Carries.append h h'
  unfold Carries
  rwa [inline_append, String.toList_append, literals_append]

private theorem nil (a : Stance) : Carries a a [] := RecordGateway.Carries.nil a

private theorem text {a b : Stance} {s : String} (h : RecordGateway.Carries a b s.toList []) :
    Carries a b [.text s] := by
  unfold Carries
  have hinline : inline [.text s] = s := String.append_empty
  rwa [hinline]

private theorem term {a b : Stance} {s : String} (h : RecordGateway.Carries a b s.toList []) :
    Carries a b [.term s] := by
  unfold Carries
  have hinline : inline [.term s] = s := String.append_empty
  rwa [hinline]

private theorem literal (v : Value) : Carries .parted .resting [.literal v] := by
  unfold Carries
  have hinline : inline [.literal v] = v.quotedLiteral := String.append_empty
  rw [hinline]
  exact quotedLiteral_carries v

theorem intercalate {a : Stance} {separator : String} (hsep : Carries .resting a [.text separator])
    {ts : List Template} (h : ∀ t ∈ ts, Carries a .resting t) :
    Carries a .resting (List.intercalate [.text separator] ts) := by
  induction ts with
  | nil => exact RecordGateway.Carries.rests (.nil a)
  | cons t ts ih =>
    obtain ⟨ht, hts⟩ := List.forall_mem_cons.mp h
    cases ts with
    | nil => simpa [List.intercalate] using ht
    | cons u ts =>
      have hrest := ht.append (hsep.append (ih hts))
      simpa [List.intercalate] using hrest

private theorem flatMap {α : Type} (items : List α) {f : α → Template}
    (h : ∀ x ∈ items, Carries .resting .resting (f x)) :
    Carries .resting .resting (items.flatMap f) := by
  induction items with
  | nil => exact .nil _
  | cons x items ih =>
    obtain ⟨hx, hitems⟩ := List.forall_mem_cons.mp h
    exact hx.append (ih hitems)

end Carries
end Template

private theorem Unquoted.append {s t : String} (hs : Unquoted s) (ht : Unquoted t) :
    Unquoted (s ++ t) := by
  intro c hc
  rw [String.toList_append] at hc
  exact (List.mem_append.mp hc).elim (hs c) (ht c)

theorem Unquoted.parts {s : String} (h : Unquoted s) {c : Char} (hlast : s.toList.getLast? = some c)
    (hname : Term.isNameChar c = false) : Carries .resting .parted s.toList [] := by
  obtain ⟨cs, hcs⟩ := List.getLast?_eq_some_iff.mp hlast
  have hall : ∀ d ∈ cs ++ [c], isQuote d = false := hcs ▸ h
  obtain ⟨hbefore, hc⟩ := List.forall_mem_append.mp hall
  rw [hcs]
  exact separator_carries hbefore (hc c List.mem_cons_self) hname

private theorem getLast?_append {s t : String} {c : Char} (h : t.toList.getLast? = some c) :
    (s ++ t).toList.getLast? = some c := by
  rw [String.toList_append, List.getLast?_append, h]
  rfl

private theorem IsWordText.unquoted {s : String} (h : IsWordText s) : Unquoted s :=
  fun c hc => isQuote_of_isWordChar (h c hc)

def AllUnquoted (parts : List String) : Prop := ∀ part ∈ parts, Unquoted part

private theorem AllUnquoted.append_iff {ps qs : List String} :
    AllUnquoted (ps ++ qs) ↔ AllUnquoted ps ∧ AllUnquoted qs := List.forall_mem_append

private theorem AllUnquoted.of_mem_flatMap {α : Type} {items : List α} {f : α → List String}
    (h : AllUnquoted (items.flatMap f)) {x : α} (hx : x ∈ items) : AllUnquoted (f x) :=
  fun _ hp => h _ (List.mem_flatMap.mpr ⟨x, hx, hp⟩)

private theorem Unquoted.intercalate (separator : String) (hsep : Unquoted separator)
    {parts : List String} (h : AllUnquoted parts) :
    Unquoted (String.intercalate separator parts) := by
  induction parts with
  | nil => simp [Unquoted]
  | cons part parts ih =>
    obtain ⟨hpart, hparts⟩ := List.forall_mem_cons.mp h
    cases parts with
    | nil => simpa using hpart
    | cons other parts =>
      rw [String.intercalate_cons_cons]
      exact (hpart.append hsep).append (ih hparts)

/-! ## The parts that are taken as they stand -/

namespace Operand

def rawParts (o : Operand) : List String := if o.quoted then [] else [o.value.display]

end Operand

def Condition.rawParts (c : Condition) : List String := c.field :: c.relation :: c.operand.rawParts

def Predicate.rawParts (p : Predicate) : List String := p.conditions.flatMap Condition.rawParts

namespace Statement

def rootParts : Option Predicate → List String
  | none => []
  | some p => p.rawParts

def constraintParts : JoinConstraint → List String
  | .onPredicate p => p.rawParts
  | .usingColumns columns => columns
  | .unconstrained => []

/-- The texts that a data statement takes as they stand: table, select list, joins, fields,
relations, operands that are not quoted, and what it orders and groups by. -/
def rawParts (s : Statement) : List String :=
  s.table.toList ++
    match s.kind with
    | some .select =>
      (s.fields.entries.flatMap fun e => [e.1, e.2]) ++
        (s.joins.flatMap fun j => j.table :: constraintParts j.constraint) ++
        rootParts s.filter ++ s.groupBy ++ rootParts s.having ++ s.order.map Ordered.field
    | some .insert => s.columns.flatMap fun c => c.2.rawParts
    | some .update => (s.sets.entries.flatMap fun e => e.2.rawParts) ++ rootParts s.filter
    | some .delete => rootParts s.filter
    | _ => []

end Statement

/-! ## Scanning the clauses -/

private theorem Operand.template_carries {o : Operand} (h : AllUnquoted o.rawParts) :
    o.template.Carries .parted .resting := by
  unfold template
  unfold rawParts at h
  split
  · exact .literal o.value
  · next hq =>
    rw [if_neg hq] at h
    exact .term (h _ List.mem_cons_self).carries.anywhere

private theorem Condition.template_carries {c : Condition} (h : AllUnquoted c.rawParts) :
    c.template.Carries .resting .resting := by
  obtain ⟨hfield, hrest⟩ := List.forall_mem_cons.mp h
  obtain ⟨hrelation, hoperand⟩ := List.forall_mem_cons.mp hrest
  have hblank : Unquoted " " := by decide
  have hbefore := ((hblank.append hrelation).append hblank).parts (getLast?_append rfl) (by decide)
  have hhead := (Template.Carries.term hfield.carries).append (.text hbefore)
  exact hhead.append (Operand.template_carries hoperand)

namespace Predicate

private theorem asPart_carries (part : Predicate) {body : Template}
    (h : body.Carries .resting .resting) :
    ∀ t ∈ part.asPart body, t.Carries .resting .resting := by
  cases part with
  | condition c => simpa [asPart] using h
  | group operator parts =>
    simp only [asPart]
    split
    · simp
    · have hopen : Unquoted "(" := by decide
      have hclose : Unquoted ")" := by decide
      have hgroup := (Template.Carries.text hopen.carries).append (h.append (.text hclose.carries))
      simpa using hgroup

mutual
private theorem template_carries : ∀ p : Predicate, AllUnquoted p.rawParts →
    p.template.Carries .resting .resting
  | condition c, h => Condition.template_carries (by simpa [rawParts, conditions] using h)
  | group operator parts, h => by
    have hword : Unquoted (" " ++ operator.text ++ " ") := by cases operator <;> decide
    exact .intercalate (.text hword.carries) (partTemplates_carry parts h)

theorem partTemplates_carry : ∀ parts : List Predicate,
    AllUnquoted ((partConditions parts).flatMap Condition.rawParts) →
    ∀ t ∈ partTemplates parts, t.Carries .resting .resting
  | [], _ => by simp [partTemplates]
  | part :: rest, h => by
    rw [partConditions, List.flatMap_append, AllUnquoted.append_iff] at h
    rw [partTemplates, List.forall_mem_append]
    exact ⟨asPart_carries part (template_carries part h.1), partTemplates_carry rest h.2⟩
end

end Predicate

namespace Statement

private theorem clause_carries (keyword : String) (hkeyword : Unquoted keyword)
    {root : Option Predicate}
    (h : AllUnquoted (rootParts root)) : (clause keyword root).Carries .resting .resting := by
  cases root with
  | none => exact .nil _
  | some p =>
    simp only [clause]
    split
    · exact .nil _
    · have hblank : Unquoted " " := by decide
      have hhead := ((hblank.append hkeyword).append hblank).carries
      exact (Template.Carries.text hhead).append (p.template_carries h)

private theorem constraintTemplate_carries {c : JoinConstraint}
    (h : AllUnquoted (constraintParts c)) :
    (constraintTemplate c).Carries .resting .resting := by
  cases c with
  | onPredicate p =>
    have hon : Unquoted " ON " := by decide
    exact (Template.Carries.text hon.carries).append (p.template_carries h)
  | usingColumns columns =>
    have hopen : Unquoted " USING (" := by decide
    have hclose : Unquoted ")" := by decide
    have hcolumns := Unquoted.intercalate ", " (by decide) h
    exact .text ((hopen.append hcolumns).append hclose).carries
  | unconstrained => exact .nil _

private theorem fieldTemplate_carries {s : Statement}
    (h : AllUnquoted (s.fields.entries.flatMap fun e => [e.1, e.2])) :
    s.fieldTemplate.Carries .resting .resting := by
  unfold fieldTemplate
  split
  · have hstar : Unquoted "*" := by decide
    exact .text hstar.carries
  · have hcomma : Unquoted ", " := by decide
    refine .intercalate (.text hcomma.carries) fun t ht => ?_
    obtain ⟨⟨label, expression⟩, he, rfl⟩ := List.mem_map.mp ht
    have hparts := h.of_mem_flatMap he
    have hlabel : Unquoted label := hparts _ List.mem_cons_self
    have hexpression : Unquoted expression := hparts _ (by simp)
    dsimp only
    split
    · exact .term hexpression.carries
    · have has : Unquoted " AS " := by decide
      exact (Template.Carries.term hexpression.carries).append (.text (has.append hlabel).carries)

private theorem joinTemplate_carries {s : Statement}
    (h : AllUnquoted (s.joins.flatMap fun j => j.table :: constraintParts j.constraint)) :
    s.joinTemplate.Carries .resting .resting := by
  refine .flatMap _ fun j hj => ?_
  obtain ⟨htable, hconstraint⟩ := List.forall_mem_cons.mp (h.of_mem_flatMap hj)
  have hkind : Unquoted (" " ++ j.kind.text ++ " JOIN ") := by cases j.kind <;> decide
  exact (Template.Carries.text (hkind.append htable).carries).append
    (constraintTemplate_carries hconstraint)

private theorem filterTemplate_carries {s : Statement} (h : AllUnquoted (rootParts s.filter)) :
    s.filterTemplate.Carries .resting .resting := clause_carries "WHERE" (by decide) h

private theorem groupTemplate_carries {s : Statement} (h : AllUnquoted s.groupBy) :
    s.groupTemplate.Carries .resting .resting := by
  unfold groupTemplate
  split
  · exact .nil _
  · have hby : Unquoted " GROUP BY " := by decide
    exact .text (hby.append (.intercalate "," (by decide) h)).carries

private theorem orderTemplate_carries {s : Statement}
    (h : AllUnquoted (s.order.map Ordered.field)) :
    s.orderTemplate.Carries .resting .resting := by
  unfold orderTemplate
  split
  · exact .nil _
  · have hby : Unquoted " ORDER BY " := by decide
    have hcomma : Unquoted ", " := by decide
    refine (Template.Carries.text hby.carries).append
      (.intercalate (.text hcomma.carries) fun t ht => ?_)
    obtain ⟨o, ho, rfl⟩ := List.mem_map.mp ht
    have hfield : Unquoted o.field := h _ (List.mem_map.mpr ⟨o, ho, rfl⟩)
    have hdirection : Unquoted (" " ++ o.direction.text) := by cases o.direction <;> decide
    exact (Template.Carries.term hfield.carries).append (.text hdirection.carries)

private theorem limitTemplate_carries (s : Statement) :
    s.limitTemplate.Carries .resting .resting := by
  unfold limitTemplate
  split
  · exact .nil _
  · next limit _ =>
    have hlimit : Unquoted " LIMIT " := by decide
    have hcomma : Unquoted "," := by decide
    have hoffset := (repr_isWordText limit.offset.toNat).unquoted
    have hlength := (repr_isWordText limit.length.toNat).unquoted
    exact .text (((hlimit.append hoffset).append hcomma).append hlength).carries

private theorem selectTemplate_carries {s : Statement} {t : Template}
    (hkind : s.kind = some .select)
    (hplain : AllUnquoted s.rawParts) (h : s.selectTemplate = .ok t) :
    t.Carries .resting .resting := by
  obtain ⟨table, ht, h⟩ := withTable h
  cases h
  simp only [rawParts, hkind, ht, AllUnquoted.append_iff] at hplain
  obtain ⟨htable, ⟨⟨⟨⟨hfields, hjoins⟩, hfilter⟩, hgroup⟩, hhaving⟩, horder⟩ := hplain
  have hselect : Unquoted "SELECT " := by decide
  have hfrom : Unquoted (" FROM " ++ table) :=
    Unquoted.append (by decide) (htable _ (by simp))
  have hhead := (Template.Carries.text hselect.carries).append (fieldTemplate_carries hfields)
  have hsource := (Template.Carries.text hfrom.carries).append (joinTemplate_carries hjoins)
  have hwhere := (filterTemplate_carries hfilter).append (groupTemplate_carries hgroup)
  have htail := (orderTemplate_carries horder).append s.limitTemplate_carries
  have hhaving := (clause_carries "HAVING" (by decide) hhaving).append htail
  simpa using hhead.append (hsource.append (hwhere.append hhaving))

private theorem columnNames_carry (names : List String) :
    Carries .parted .resting (String.intercalate "," (names.map quoteIdentifier)).toList [] := by
  induction names with
  | nil => exact (Carries.nil .parted).rests
  | cons name names ih =>
    have hname := quoteIdentifier_carries name
    cases names with
    | nil => simpa using hname
    | cons other names =>
      have hcomma : Unquoted "," := by decide
      have hrest := (hname.append (hcomma.parts rfl (by decide))).append ih
      simpa [String.intercalate_cons_cons, String.toList_append] using hrest

private theorem insertTemplate_carries {s : Statement} {t : Template}
    (hkind : s.kind = some .insert)
    (hplain : AllUnquoted s.rawParts) (h : s.insertTemplate = .ok t) :
    t.Carries .resting .resting := by
  obtain ⟨table, ht, h⟩ := withTable h
  split at h
  · cases h
  · cases h
    simp only [rawParts, hkind, ht, AllUnquoted.append_iff] at hplain
    obtain ⟨htable, hcolumns⟩ := hplain
    have hinto : Unquoted ("INSERT INTO " ++ table ++ " (") :=
      (Unquoted.append (by decide) (htable _ (by simp))).append (by decide)
    have hvalues : Unquoted ") VALUES (" := by decide
    have hcomma : Unquoted "," := by decide
    have hclose : Unquoted ")" := by decide
    have hnames := columnNames_carry (s.columns.map Prod.fst)
    have hhead := ((hinto.parts (getLast?_append rfl) (by decide)).append hnames).append
      (hvalues.parts rfl (by decide))
    rw [← String.toList_append, ← String.toList_append, List.map_map] at hhead
    have hlist : Template.Carries .parted .resting
        (List.intercalate [.text ","] (s.columns.map fun c => c.2.template)) := by
      refine .intercalate (.text (hcomma.parts rfl (by decide))) fun t ht => ?_
      obtain ⟨c, hc, rfl⟩ := List.mem_map.mp ht
      exact Operand.template_carries (hcolumns.of_mem_flatMap hc)
    exact ((Template.Carries.text hhead).append hlist).append (.text hclose.carries)

private theorem updateTemplate_carries {s : Statement} {t : Template}
    (hkind : s.kind = some .update)
    (hplain : AllUnquoted s.rawParts) (h : s.updateTemplate = .ok t) :
    t.Carries .resting .resting := by
  obtain ⟨table, ht, h⟩ := withTable h
  split at h
  · cases h
  · cases h
    simp only [rawParts, hkind, ht, AllUnquoted.append_iff] at hplain
    obtain ⟨htable, hsets, hfilter⟩ := hplain
    have hupdate : Unquoted ("UPDATE " ++ table ++ " SET ") :=
      (Unquoted.append (by decide) (htable _ (by simp))).append (by decide)
    have hcomma : Unquoted ", " := by decide
    have hequals : Unquoted " = " := by decide
    have hhead := hupdate.parts (getLast?_append rfl) (by decide)
    have hlist : Template.Carries .parted .resting
        (List.intercalate [.text ", "] (s.sets.entries.map fun e =>
          .text (quoteIdentifier e.1 ++ " = ") :: e.2.template)) := by
      refine .intercalate (.text (hcomma.parts rfl (by decide))) fun t ht => ?_
      obtain ⟨e, he, rfl⟩ := List.mem_map.mp ht
      have hname := (quoteIdentifier_carries e.1).append (hequals.parts rfl (by decide))
      rw [← String.toList_append] at hname
      exact (Template.Carries.text hname).append
        (Operand.template_carries (hsets.of_mem_flatMap he))
    exact ((Template.Carries.text hhead).append hlist).append (filterTemplate_carries hfilter)

private theorem deleteTemplate_carries {s : Statement} {t : Template}
    (hkind : s.kind = some .delete)
    (hplain : AllUnquoted s.rawParts) (h : s.deleteTemplate = .ok t) :
    t.Carries .resting .resting := by
  obtain ⟨table, ht, h⟩ := withTable h
  cases h
  simp only [rawParts, hkind, ht, AllUnquoted.append_iff] at hplain
  obtain ⟨htable, hfilter⟩ := hplain
  have hfrom : Unquoted ("DELETE FROM " ++ table) :=
      Unquoted.append (by decide) (htable _ (by simp))
  exact (Template.Carries.text hfrom.carries).append (filterTemplate_carries hfilter)

/-- A rendered data statement whose raw parts are without quotes ends outside of quotes, and the
texts and blobs in it stand for the quoted values from left to right, nulls left out. -/
theorem evaluate_quotations {d : Dialect} {s : Statement} {sql : String}
    (hkind : s.kind ∈ [some .select, some .insert, some .update, some .delete])
    (hplain : ∀ part ∈ s.rawParts, Unquoted part) (h : s.evaluate d = .ok sql) :
    ∃ found, quotations sql.toList = some found ∧
      List.Forall₂ Quotation.StandsFor (found.filter Quotation.isData)
        ((s.quotedValues d).filter fun v => !v.isNull) := by
  cases ht : s.template d with
  | error e => simp [evaluate, ht, Except.map] at h
  | ok t =>
    obtain rfl : t.inline = sql := by simpa [evaluate, ht, Except.map] using h
    have hvalues : t.literals = s.quotedValues d := (template_spells ht).literals
    have hcarries : t.Carries .resting .resting := by
      simp only [List.mem_cons, List.not_mem_nil, or_false] at hkind
      rcases hkind with hk | hk | hk | hk <;> simp only [template, hk] at ht
      · exact selectTemplate_carries hk hplain ht
      · exact insertTemplate_carries hk hplain ht
      · exact updateTemplate_carries hk hplain ht
      · exact deleteTemplate_carries hk hplain ht
    obtain ⟨found, hfound, hdata⟩ := hcarries .start [] rfl
    refine ⟨found, hfound, ?_⟩
    rw [hdata, hvalues]
    exact Quotation.flatMap_standsFor _

theorem evaluate_quotations_insert : ∃ (s : Statement) (sql : String),
    s.kind ∈ [some .select, some .insert, some .update, some .delete] ∧
      (∀ part ∈ s.rawParts, Unquoted part) ∧ s.evaluate .sqlite = .ok sql ∧
      sql = "INSERT INTO t (`a``'b`,c,d) VALUES ('it''s ''',X'27',now())" ∧
      ∃ found, quotations sql.toList = some found ∧
        List.Forall₂ Quotation.StandsFor (found.filter Quotation.isData)
          [.text "it's '", .blob [0x27]] := by
  let s : Statement :=
    { onTable .insertInto "t" with columns := [("a`'b", ⟨.text "it's '", true⟩),
        ("c", ⟨.blob [0x27], true⟩), ("d", ⟨.text "now()", false⟩)] }
  have hkind : s.kind ∈ [some .select, some .insert, some .update, some .delete] := by decide
  have hplain : ∀ part ∈ s.rawParts, Unquoted part := by decide
  have hsql : s.evaluate .sqlite =
      .ok "INSERT INTO t (`a``'b`,c,d) VALUES ('it''s ''',X'27',now())" := by rfl
  exact ⟨s, _, hkind, hplain, hsql, rfl, evaluate_quotations hkind hplain hsql⟩

end Statement
end RecordGateway
