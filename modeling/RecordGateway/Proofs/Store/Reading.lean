import RecordGateway.Proofs.Store.Words
import RecordGateway.Store.Reader
/-! # Words that are read -/
namespace RecordGateway.Reader

variable {α β ι : Type}

/-- In front of a word that may follow, the reader takes the words exactly if they are fine, and
gives `x` for them. -/
def Tells (follow : String → Prop) (r : Reader α) (words : List String) (fine : Prop) (x : α) :
    Prop :=
  ∀ found left : List Word, found.map Word.text = words → (∀ w ∈ left.head?, follow w.text) →
    ∀ result, r (found ++ left) = .ok result ↔ fine ∧ result = (x, left)

def heads (words : List String) (follow : String → Prop) (w : String) : Prop :=
  match words with
  | [] => follow w
  | first :: _ => w = first

theorem bind_eq_ok {r : Reader α} {f : α → Reader β} {words : List Word} {result : β × List Word} :
    (r >>= f) words = .ok result ↔ ∃ x left, r words = .ok (x, left) ∧ f x left = .ok result := by
  have hbind : (r >>= f) words = (r words).bind fun y => f y.1 y.2 := rfl
  rw [hbind]
  cases hr : r words with
  | error left => simp [Except.bind]
  | ok y =>
    obtain ⟨x, left⟩ := y
    simp [Except.bind]

namespace Tells

variable {follow : String → Prop} {r : Reader α} {words : List String} {fine : Prop} {x : α}

private theorem mono {wide : String → Prop} (h : Tells wide r words fine x)
    (hwide : ∀ w, follow w → wide w) : Tells follow r words fine x :=
  fun found left hfound hleft => h found left hfound fun w hw => hwide _ (hleft w hw)

theorem of_iff {other : Prop} (h : Tells follow r words fine x) (hiff : fine ↔ other) :
    Tells follow r words other x := fun found left hfound hleft result => by
  rw [h found left hfound hleft result, hiff]

private theorem pure (x : α) : Tells follow (pure x : Reader α) [] True x := by
  intro found left hfound _ result
  obtain rfl := List.map_eq_nil_iff.mp hfound
  rw [List.nil_append, true_and]
  constructor
  · rintro ⟨⟩
    rfl
  · rintro rfl
    rfl

private theorem bind {f : α → Reader β} {more : List String} {fine' : Prop} {y : β}
    (hr : Tells (heads more follow) r words fine x) (hf : Tells follow (f x) more fine' y) :
    Tells follow (r >>= f) (words ++ more) (fine ∧ fine') y := by
  intro found left hfound hleft result
  obtain ⟨first, second, rfl, hfirst, hsecond⟩ := List.map_eq_append_iff.mp hfound
  have hheads : ∀ w ∈ (second ++ left).head?, heads more follow w.text := by
    cases second with
    | nil =>
      obtain rfl := hsecond
      exact hleft
    | cons v second =>
      obtain rfl := hsecond
      rintro w ⟨⟩
      rfl
  have hone := hr first (second ++ left) hfirst hheads
  rw [List.append_assoc, bind_eq_ok, and_assoc, ← hf second left hsecond hleft result]
  constructor
  · rintro ⟨x', left', hx, hresult⟩
    obtain ⟨hfine, heq⟩ := (hone _).mp hx
    obtain ⟨rfl, rfl⟩ := Prod.mk.inj heq
    exact ⟨hfine, hresult⟩
  · rintro ⟨hfine, hresult⟩
    exact ⟨x, _, (hone _).mpr ⟨hfine, rfl⟩, hresult⟩

private theorem next {take : String → Option α} {text : String}
    (h : ∀ y, take text = some y ↔ fine ∧ y = x) : Tells follow (next take) [text] fine x := by
  intro found left hfound _ result
  obtain ⟨w, rest, rfl, rfl, hrest⟩ := List.map_eq_cons_iff.mp hfound
  obtain rfl := List.map_eq_nil_iff.mp hrest
  rw [List.singleton_append, Reader.next]
  cases htake : take w.text with
  | none =>
    have hnot : ¬fine := fun hfine => by
      have hsome := (h x).mpr ⟨hfine, rfl⟩
      rw [htake] at hsome
      cases hsome
    simp [hnot]
  | some y =>
    obtain ⟨hfine, rfl⟩ := (h y).mp htake
    simp only [hfine, true_and, Except.ok.injEq]
    exact eq_comm

private theorem word {expected text : String} (h : isWord expected text = true) :
    Tells follow (word expected) [text] True () :=
  .next fun y => by simp [h]

private theorem takes_word {expected text : String} (h : isWord expected text = true) :
    Tells follow (takes expected) [text] True true := by
  intro found left hfound _ result
  obtain ⟨w, rest, rfl, rfl, hrest⟩ := List.map_eq_cons_iff.mp hfound
  obtain rfl := List.map_eq_nil_iff.mp hrest
  rw [List.singleton_append, takes, if_pos h, true_and, Except.ok.injEq]
  exact eq_comm

private theorem takes_nothing {expected : String} (h : ∀ w, follow w → isWord expected w = false) :
    Tells follow (takes expected) [] True false := by
  intro found left hfound hleft result
  obtain rfl := List.map_eq_nil_iff.mp hfound
  rw [List.nil_append, true_and]
  cases left with
  | nil =>
    rw [takes, Except.ok.injEq]
    exact eq_comm
  | cons w left =>
    have hw : ¬isWord expected w.text = true := by rw [h _ (hleft w rfl)]; decide
    rw [takes, if_neg hw, Except.ok.injEq]
    exact eq_comm

theorem of_bind {f : α → Reader β} {found left : List Word} {result : β × List Word}
    (h : Tells follow r words fine x) (hfound : found.map Word.text = words)
    (hleft : ∀ w ∈ left.head?, follow w.text) (hread : (r >>= f) (found ++ left) = .ok result) :
    f x left = .ok result := by
  obtain ⟨y, rest, hy, hresult⟩ := bind_eq_ok.mp hread
  obtain ⟨rfl, rfl⟩ := Prod.mk.inj ((h found left hfound hleft _).mp hy).2
  exact hresult

theorem seq {f : α → Reader β} {y : β} (more : List String)
    (hr : Tells (heads more follow) r words True x) (hf : Tells follow (f x) more fine y) :
    Tells follow (r >>= f) (words ++ more) fine y :=
  (hr.bind hf).of_iff (iff_of_eq (true_and fine))

theorem finish {f : α → Reader β} {y : β} (more : List String)
    (hr : Tells (heads more follow) r words fine x) (hf : Tells follow (f x) more True y) :
    Tells follow (r >>= f) (words ++ more) fine y :=
  (hr.bind hf).of_iff (iff_of_eq (and_true fine))

private theorem map (f : α → β) (h : Tells follow r words fine x) :
    Tells follow (r >>= fun x => Pure.pure (f x)) words fine (f x) := by
  have hread : Tells (heads [] follow) r words fine x := h
  have hpure : Tells follow (Pure.pure (f x) : Reader β) [] True (f x) := .pure (f x)
  have hmap := hread.bind (f := fun x => Pure.pure (f x)) hpure
  rw [List.append_nil] at hmap
  exact hmap.of_iff (iff_of_eq (and_true fine))

private theorem optional_some {lead text : String} (hlead : isWord lead text = true)
    (h : Tells follow r words fine x) :
    Tells follow (optional lead r) (text :: words) fine (some x) :=
  .seq words (.takes_word hlead) (h.map some)

private theorem optional_none {lead : String} (h : ∀ w, follow w → isWord lead w = false) :
    Tells follow (optional lead r) [] True none :=
  .seq [] (.takes_nothing h) (.pure none)

/-! ## Lists -/

section
variable {separator mark : String} {item : Reader α} {text : ι → List String} {good : ι → Prop}
  {value : ι → α}

private theorem separated_tells (hmark : isWord separator mark = true)
    (hend : ∀ w, follow w → isWord separator w = false) {entries : List ι}
    (hitem : ∀ i ∈ entries, Tells (fun w => follow w ∨ w = mark) item (text i) (good i) (value i))
    (hne : entries ≠ []) {fuel : Nat} (hfuel : entries.length ≤ fuel) :
    Tells follow (separated separator item fuel) (List.intercalate [mark] (entries.map text))
      (∀ i ∈ entries, good i) (entries.map value) := by
  induction entries generalizing fuel with
  | nil => exact absurd rfl hne
  | cons i entries ih =>
    obtain ⟨hfirst, hrest⟩ := List.forall_mem_cons.mp hitem
    obtain ⟨more, rfl⟩ := Nat.exists_eq_succ_of_ne_zero
      (Nat.ne_of_gt (Nat.lt_of_lt_of_le (Nat.succ_pos _) hfuel))
    cases entries with
    | nil =>
      have hone : Tells (heads [] follow) item (text i) (good i) (value i) :=
        hfirst.mono fun _ => .inl
      have hstop : Tells follow (continued separator (separated separator item more) (value i)) []
          True [value i] := .seq [] (.takes_nothing hend) (.pure _)
      have hall := hone.bind hstop
      rw [List.append_nil] at hall
      rw [List.map_singleton, List.map_singleton, List.intercalate_singleton]
      exact hall.of_iff (by simp)
    | cons j entries =>
      have hone : Tells (heads (mark :: List.intercalate [mark] ((j :: entries).map text)) follow)
          item (text i) (good i) (value i) := hfirst.mono fun _ => .inr
      have hlater := ih hrest (by simp) (Nat.le_of_succ_le_succ hfuel)
      have hgo : Tells follow (continued separator (separated separator item more) (value i))
          (mark :: List.intercalate [mark] ((j :: entries).map text)) (∀ k ∈ j :: entries, good k)
          (value i :: (j :: entries).map value) :=
        .seq _ (.takes_word hmark) (hlater.map (value i :: ·))
      rw [List.map_cons, List.map_cons, List.intercalate_cons_cons, List.append_assoc]
      exact (hone.bind hgo).of_iff List.forall_mem_cons.symm

private theorem length_intercalate {parts : List (List String)} (h : ∀ part ∈ parts, part ≠ []) :
    parts.length ≤ (List.intercalate [mark] parts).length := by
  induction parts with
  | nil => exact Nat.zero_le _
  | cons part parts ih =>
    obtain ⟨hpart, hrest⟩ := List.forall_mem_cons.mp h
    have hpos := List.length_pos_of_ne_nil hpart
    cases parts with
    | nil => rwa [List.intercalate_singleton]
    | cons next parts =>
      have hlater := ih hrest
      rw [List.intercalate_cons_cons, List.length_append, List.length_append, List.length_cons]
      omega

theorem list (hmark : isWord separator mark = true)
    (hend : ∀ w, follow w → isWord separator w = false) {entries : List ι}
    (hitem : ∀ i ∈ entries, Tells (fun w => follow w ∨ w = mark) item (text i) (good i) (value i))
    (hne : entries ≠ []) (htext : ∀ i ∈ entries, text i ≠ []) :
    Tells follow (list separator item) (List.intercalate [mark] (entries.map text))
      (∀ i ∈ entries, good i) (entries.map value) := by
  intro found left hfound hleft
  have hparts : ∀ part ∈ entries.map text, part ≠ [] := by simpa using htext
  have hlength : entries.length ≤ (found ++ left).length := by
    have hleast : (entries.map text).length ≤
        (List.intercalate [mark] (entries.map text)).length := length_intercalate hparts
    rw [← hfound, List.length_map, List.length_map] at hleast
    rw [List.length_append]
    omega
  exact separated_tells hmark hend hitem hne hlength found left hfound hleft

theorem list_one {words : List String} {fine : Prop} {x : α} (hmark : isWord separator mark = true)
    (hend : ∀ w, follow w → isWord separator w = false)
    (hitem : Tells (fun w => follow w ∨ w = mark) item words fine x) (hne : words ≠ []) :
    Tells follow (Reader.list separator item) words fine [x] := by
  have hlist : Tells follow (Reader.list separator item)
      (List.intercalate [mark] ([()].map fun _ => words)) (∀ i ∈ [()], fine)
      ([()].map fun _ => x) :=
    list hmark hend (fun _ _ => hitem) (by simp) fun _ _ => hne
  rw [List.map_singleton, List.intercalate_singleton] at hlist
  exact hlist.of_iff (by simp)

/-- The words behind a list with commas. -/
def listEnds : List String := [")", "FROM", "LIMIT", "WHERE"]

private theorem isWord_comma : isWord "," "," = true := by decide

private theorem listEnds_not_comma : ∀ w ∈ listEnds, isWord "," w = false := by decide

theorem commas {entries : List ι} (hend : ∀ w, follow w → w ∈ listEnds)
    (hitem : ∀ i ∈ entries, Tells (fun w => follow w ∨ w = ",") item (text i) (good i) (value i))
    (hne : entries ≠ []) (htext : ∀ i ∈ entries, text i ≠ []) :
    Tells follow (Reader.list "," item) (List.intercalate [","] (entries.map text))
      (∀ i ∈ entries, good i) (entries.map value) :=
  list isWord_comma (fun w hw => listEnds_not_comma w (hend w hw)) hitem hne htext

theorem commas_one {words : List String} {fine : Prop} {x : α}
    (hend : ∀ w, follow w → w ∈ listEnds)
    (hitem : Tells (fun w => follow w ∨ w = ",") item words fine x) (hne : words ≠ []) :
    Tells follow (Reader.list "," item) words fine [x] :=
  list_one isWord_comma (fun w hw => listEnds_not_comma w (hend w hw)) hitem hne

end

end Tells

/-! ## Terms -/

/-- A word that stands for itself where a term is expected: no number, mark or sign starts it. -/
structure IsAtom (text : String) : Prop where
  word : Word.IsWord text.toList
  starts : ∃ c rest, text.toList = c :: rest ∧ StartsWord c
  ends : ∀ c, text.toList.getLast? = some c → Text.isAsciiBlank c = false

private theorem toUpper_eq {c d : Char} (h : c.toUpper = d) (hd : d.toNat < 65) : c = d := by
  unfold Char.toUpper at h
  split at h
  · next hrange =>
    have hlow : 97 ≤ c.val.toNat := hrange.1
    have hhigh : c.val.toNat ≤ 122 := hrange.2
    have hshift : ('A'.val - 'a'.val).toNat = 4294967264 := by decide
    subst h
    change (c.val + ('A'.val - 'a'.val)).toNat < 65 at hd
    rw [UInt32.toNat_add, hshift] at hd
    omega
  · exact h

namespace IsAtom

variable {text : String} (h : IsAtom text)
include h

theorem isWord_eq_false {expected : String} {c : Char} (hexpected : expected.toList = [c])
    (hc : c ∈ ['*', '(', '+', '-']) : isWord expected text = false := by
  obtain ⟨first, rest, htext, hstarts⟩ := h.starts
  have hne : first ≠ c := by
    have hstar := hstarts.notStar
    have hopening := hstarts.notOpening
    have hplus := hstarts.notPlus
    have hminus := hstarts.notMinus
    simp only [List.mem_cons, List.not_mem_nil, or_false] at hc
    rcases hc with rfl | rfl | rfl | rfl <;> assumption
  have hall : ['*', '(', '+', '-'].all (·.toNat < 65) = true := by decide
  have hsmall := of_decide_eq_true (List.all_eq_true.mp hall c hc)
  rw [isWord, beq_eq_false_iff_ne]
  rw [← String.ofList_toList (s := text), htext]
  refine Term.upper_ne (by rw [hexpected]; rfl) fun heq => hne (toUpper_eq heq hsmall)

private theorem read_eq : Term.read text = Term.readUnsigned text.toList := by
  obtain ⟨c, rest, htext, hstarts⟩ := h.starts
  rw [htext, Term.read_word htext hstarts h.ends]

end IsAtom

/-- The text is read as a term, of a known column if it is one of a column. -/
def Known (known : String → Bool) (text : String) : Prop :=
  ∃ term, Term.read text = some term ∧ term.columnName?.all known = true

private theorem isSign_eq_false {w : Word} (h : IsAtom w.text) : w.isSign = false := by
  rw [Word.isSign, Bool.or_eq_false_iff, beq_eq_false_iff_ne, beq_eq_false_iff_ne]
  have hplus : Reader.isWord "+" w.text = false := h.isWord_eq_false rfl (c := '+') (by decide)
  have hminus : Reader.isWord "-" w.text = false := h.isWord_eq_false rfl (c := '-') (by decide)
  constructor <;> intro heq
  · rw [heq] at hplus
    exact absurd hplus (by decide)
  · rw [heq] at hminus
    exact absurd hminus (by decide)

private theorem upTo_self (w : Word) : w.upTo w = w.text := by
  rw [Word.upTo]
  simp

private theorem qualified_own {own : Word} {left : List Word} (h : ∀ w ∈ left.head?, w.text ≠ ".") :
    qualified own left = (own, left) := by
  unfold qualified
  split
  · next point last rest =>
    rw [if_neg]
    exact fun hpoint => h point rfl hpoint.1
  · rfl

def comparisonWords : List String := ["=", "!=", "<", "<=", ">", ">=", "IS"]

namespace Tells

variable {follow : String → Prop} {known : String → Bool}

private theorem term {text : String} (h : IsAtom text) (hfollow : ∀ w, follow w → w ≠ ".") :
    Tells follow (term known) [text] (Known known text) text := by
  intro found left hfound hleft result
  obtain ⟨w, rest, rfl, rfl, hrest⟩ := List.map_eq_cons_iff.mp hfound
  obtain rfl := List.map_eq_nil_iff.mp hrest
  have hwords : (w :: left).dropWhile Word.isSign = w :: left := by
    rw [List.dropWhile_cons, isSign_eq_false h]
    rfl
  have hqualified : qualified w left = (w, left) :=
    qualified_own fun v hv => hfollow _ (hleft v hv)
  rw [List.singleton_append, Reader.term, hwords, Known, h.read_eq]
  simp only [hqualified, List.headD_cons, upTo_self, h.read_eq]
  cases hread : Term.readUnsigned w.text.toList with
  | none => simp
  | some term =>
    by_cases hknown : term.columnName?.all known = true
    · simp only [Option.isNone_some, Bool.false_eq_true, if_false, hknown, if_true, Except.ok.injEq]
      constructor
      · rintro rfl
        exact ⟨⟨term, rfl, hknown⟩, rfl⟩
      · rintro ⟨-, rfl⟩
        rfl
    · simp [hknown]

private theorem relation {text : String} (htext : text ∈ comparisonWords)
    (hfollow : ∀ w, follow w → isWord "NOT" w = false ∧ isWord "DISTINCT" w = false) :
    Tells follow relation [text] True text := by
  have hknown : ∀ text ∈ comparisonWords, relationWords.contains (Text.upper text) = true ∧
      Text.upper text = text := by decide
  obtain ⟨hcontains, hupper⟩ := hknown text htext
  have hfirst : Tells (heads [] follow) (Reader.next fun text =>
      if relationWords.contains (Text.upper text) then some text else none) [text] True text :=
    .next fun y => by
      rw [if_pos hcontains, true_and, Option.some_inj]
      exact eq_comm
  refine .seq [] hfirst ?_
  rw [hupper]
  simp only [comparisonWords, List.mem_cons, List.not_mem_nil, or_false] at htext
  rcases htext with rfl | rfl | rfl | rfl | rfl | rfl | rfl
  case inr.inr.inr.inr.inr.inr =>
    refine .seq [] (.takes_nothing fun w hw => (hfollow w hw).1) ?_
    exact .seq [] (.takes_nothing fun w hw => (hfollow w hw).2) (.pure _)
  all_goals exact .pure _

end Tells

/-- The words of a comparison, its terms and its relation being words of their own. -/
structure Comparison where
  field : String
  relation : String
  operand : String

namespace Comparison

def words (c : Comparison) : List String := [c.field, c.relation, c.operand]

def predicate (c : Comparison) : Predicate := .condition (.verbatim c.field c.relation c.operand)

/-- The sides are atoms, of which the right one does not make another relation of IS. -/
structure Plain (c : Comparison) : Prop where
  field : IsAtom c.field
  relation : c.relation ∈ comparisonWords
  operand : IsAtom c.operand
  plainly : isWord "NOT" c.operand = false ∧ isWord "DISTINCT" c.operand = false

/-- The terms of both sides are read. -/
def Known (known : String → Bool) (c : Comparison) : Prop :=
  Reader.Known known c.field ∧ Reader.Known known c.operand

end Comparison

namespace Tells

variable {follow : String → Prop} {known : String → Bool}

private theorem condition {c : Comparison} (h : c.Plain) (hfollow : ∀ w, follow w → w ≠ ".") :
    Tells follow (condition known) c.words (c.Known known) c.predicate := by
  have hright : Tells follow
      (do return Predicate.condition (.verbatim c.field c.relation (← Reader.term known)))
      [c.operand] (Reader.Known known c.operand) c.predicate :=
    (Tells.term h.operand hfollow).map fun right =>
      Predicate.condition (.verbatim c.field c.relation right)
  have hrelation : Tells (heads [c.operand] follow) Reader.relation [c.relation] True c.relation :=
    .relation h.relation fun w hw => by
      obtain rfl := hw
      exact h.plainly
  have hleft : Tells (heads [c.relation, c.operand] follow) (Reader.term known) [c.field]
      (Reader.Known known c.field) c.field :=
    .term h.field fun w hw => by
      obtain rfl := hw
      have hpoint : ∀ w ∈ comparisonWords, w ≠ "." := by decide
      exact hpoint _ h.relation
  exact hleft.bind (.seq [c.operand] hrelation hright)

/-- Comparisons between ANDs are read as their conjunction. -/
theorem formula {comparisons : List Comparison} (hplain : ∀ c ∈ comparisons, c.Plain)
    (hne : comparisons ≠ [])
    (hfollow : ∀ w, follow w → w ≠ "." ∧ isWord "AND" w = false ∧ isWord "OR" w = false)
    (depth : Nat) :
    Tells follow (formula known (depth + 1))
      (List.intercalate ["AND"] (comparisons.map Comparison.words))
      (∀ c ∈ comparisons, c.Known known) (.all (comparisons.map Comparison.predicate)) := by
  have hfactor : ∀ c ∈ comparisons, Tells (fun w => (follow w ∨ w = "OR") ∨ w = "AND")
      (factor known (Reader.formula known depth)) c.words (c.Known known) c.predicate := by
    intro c hc
    have hopening : ∀ w, heads c.words (fun w => (follow w ∨ w = "OR") ∨ w = "AND") w →
        isWord "(" w = false := by
      rintro w rfl
      exact (hplain c hc).field.isWord_eq_false rfl (c := '(') (by decide)
    refine .seq c.words (.takes_nothing hopening) (.condition (hplain c hc) ?_)
    rintro w ((hw | rfl) | rfl)
    · exact (hfollow w hw).1
    · decide
    · decide
  have hconjunction : Tells (fun w => follow w ∨ w = "OR")
      (conjunction (factor known (Reader.formula known depth)))
      (List.intercalate ["AND"] (comparisons.map Comparison.words))
      (∀ c ∈ comparisons, c.Known known)
      (.all (comparisons.map Comparison.predicate)) := by
    refine .map (Predicate.group .and)
      (.list (by decide) ?_ hfactor hne fun c _ => by simp [Comparison.words])
    rintro w (hw | rfl)
    · exact (hfollow w hw).2.1
    · decide
  have hwords : List.intercalate ["AND"] (comparisons.map Comparison.words) ≠ [] := by
    obtain ⟨c, rest, rfl⟩ := List.exists_cons_of_ne_nil hne
    cases rest <;> simp [List.intercalate, Comparison.words]
  exact (Tells.list_one (by decide) (fun w hw => (hfollow w hw).2.2) hconjunction hwords).map anyOf

end Tells

/-! ## Clauses -/

def whereWords : List Comparison → List String
  | [] => []
  | comparisons => "WHERE" :: List.intercalate ["AND"] (comparisons.map Comparison.words)

def whereFilter : List Predicate → Option Predicate
  | [] => none
  | parts => some (.all parts)

def orderWords : List Ordered → List String
  | [] => []
  | order => "ORDER" :: "BY" ::
      List.intercalate [","] (order.map fun o => [o.field, o.direction.text])

namespace Tells

variable {follow : String → Prop} {known : String → Bool}

private theorem filter {comparisons : List Comparison} (hplain : ∀ c ∈ comparisons, c.Plain)
    (hfollow : ∀ w, follow w → w = "ORDER") :
    Tells follow (filter known) (whereWords comparisons) (∀ c ∈ comparisons, c.Known known)
      (whereFilter (comparisons.map Comparison.predicate)) := by
  cases comparisons with
  | nil =>
    refine (optional_none fun w hw => ?_).of_iff (by simp)
    rw [hfollow w hw]
    decide
  | cons c rest =>
    refine optional_some (by decide) fun found left hfound hleft result => ?_
    obtain ⟨w, more, rfl⟩ : ∃ w more, found = w :: more := by
      refine List.exists_cons_of_ne_nil fun hnil => ?_
      rw [hnil] at hfound
      cases rest <;> simp [List.intercalate, Comparison.words] at hfound
    refine formula hplain (by simp) (fun w hw => ?_) _ _ _ hfound hleft result
    rw [hfollow w hw]
    decide

private theorem ordered {o : Ordered} (h : IsAtom o.field) :
    Tells follow (ordered known) [o.field, o.direction.text] (Reader.Known known o.field) o := by
  obtain ⟨field, direction⟩ := o
  have hfield (more : List String) (hpoint : ∀ w, heads more follow w → w ≠ ".") :
      Tells (heads more follow) (Reader.term known) [field] (Reader.Known known field) field :=
    .term h hpoint
  cases direction with
  | ascending =>
    refine .finish ["ASC"] (hfield ["ASC"] (by rintro w rfl; decide)) ?_
    refine .seq ["ASC"] (.takes_nothing (by rintro w rfl; decide)) ?_
    exact .seq [] (.takes_word (by decide)) (.pure _)
  | descending =>
    refine .finish ["DESC"] (hfield ["DESC"] (by rintro w rfl; decide)) ?_
    exact .seq [] (.takes_word (by decide)) (.pure _)

private theorem order {order : List Ordered} (h : ∀ o ∈ order, IsAtom o.field)
    (hfollow : ∀ w, follow w → w = "LIMIT") :
    Tells follow (Reader.order known) (orderWords order) (∀ o ∈ order, Reader.Known known o.field)
      order := by
  cases order with
  | nil =>
    have hnone : Tells follow (optional "ORDER" (ordering known)) [] True none :=
      optional_none fun w hw => by
        rw [hfollow w hw]
        decide
    have hread : Tells follow (Reader.order known) [] True [] :=
      hnone.map fun found : Option (List Ordered) => found.getD []
    exact hread.of_iff (by simp)
  | cons o order =>
    have hend : ∀ w, follow w → w ∈ listEnds := fun w hw => hfollow w hw ▸ (by decide)
    have hitem : ∀ i ∈ o :: order, Tells (fun w => follow w ∨ w = ",") (Reader.ordered known)
        [i.field, i.direction.text] (Reader.Known known i.field) i := fun i hi => .ordered (h i hi)
    have hlist : Tells follow (Reader.list "," (Reader.ordered known))
        (List.intercalate [","] ((o :: order).map fun o => [o.field, o.direction.text]))
        (∀ i ∈ o :: order, Reader.Known known i.field) ((o :: order).map fun i => i) :=
      commas hend hitem (by simp) fun _ _ => by simp
    rw [List.map_id'] at hlist
    have hordering : Tells follow (ordering known)
        ("BY" :: List.intercalate [","] ((o :: order).map fun o => [o.field, o.direction.text]))
        (∀ i ∈ o :: order, Reader.Known known i.field) (o :: order) :=
      .seq _ (.word (by decide)) hlist
    have hlead : isWord "ORDER" "ORDER" = true := by decide
    exact (optional_some hlead hordering).map fun found : Option (List Ordered) => found.getD []

private theorem name {text read : String} {fine : Prop}
    (h : ∀ y, Term.readName text = some y ↔ fine ∧ y = read) :
    Tells follow name [text] fine read := .next h

private theorem assignment {field operand read : String} {fine : Prop}
    (hfield : ∀ y, Term.readName field = some y ↔ fine ∧ y = read) (hoperand : IsAtom operand)
    (hfollow : ∀ w, follow w → w ≠ ".") :
    Tells follow (assignment known) [field, "=", operand] (fine ∧ Reader.Known known operand)
      (read, operand) := by
  have hvalue : Tells follow (do return (read, ← Reader.term known)) [operand]
      (Reader.Known known operand) (read, operand) := (Tells.term hoperand hfollow).map (read, ·)
  exact Tells.bind (.name hfield) (.seq [operand] (.word (by decide)) hvalue)

theorem item_star : Tells follow (item known) ["*"] True ⟨"*", none⟩ :=
  .seq [] (.takes_word (by decide)) (.pure _)

theorem item_bare {text : String} (h : IsAtom text)
    (hfollow : ∀ w, follow w → w ≠ "." ∧ isWord "AS" w = false) :
    Tells follow (item known) [text] (Reader.Known known text) ⟨text, none⟩ := by
  have hstar : ∀ w, heads [text] follow w → isWord "*" w = false := by
    rintro w rfl
    exact h.isWord_eq_false rfl (c := '*') (by decide)
  have hnone : Tells follow (optional "AS" Reader.name) [] True none :=
    optional_none fun w hw => (hfollow w hw).2
  have hterm : Tells (heads [] follow) (Reader.term known) [text] (Reader.Known known text) text :=
    .term h fun w hw => (hfollow w hw).1
  refine .seq [text] (.takes_nothing hstar) ?_
  exact .finish [] hterm (hnone.map fun given => (⟨text, given⟩ : Item))

theorem item_named {text label read : String} {fine : Prop} (h : IsAtom text)
    (hlabel : ∀ y, Term.readName label = some y ↔ fine ∧ y = read) :
    Tells follow (item known) [text, "AS", label] (Reader.Known known text ∧ fine)
      ⟨text, some read⟩ := by
  have hstar : ∀ w, heads [text, "AS", label] follow w → isWord "*" w = false := by
    rintro w rfl
    exact h.isWord_eq_false rfl (c := '*') (by decide)
  have hsome : Tells follow (optional "AS" Reader.name) ["AS", label] fine (some read) :=
    optional_some (by decide) (.name hlabel)
  have hterm : Tells (heads ["AS", label] follow) (Reader.term known) [text]
      (Reader.Known known text) text := .term h (by rintro w rfl; decide)
  refine .seq _ (.takes_nothing hstar) ?_
  exact hterm.bind (hsome.map fun given => (⟨text, given⟩ : Item))

/-! ## Statements -/

private theorem renamed (hfollow : ∀ w, follow w → isWord "AS" w = false ∧ Term.readName w = none) :
    Tells follow renamed [] True none := by
  refine .seq [] (.takes_nothing fun w hw => (hfollow w hw).1)
    fun found left hfound hleft result => ?_
  obtain rfl := List.map_eq_nil_iff.mp hfound
  rw [List.nil_append, true_and]
  cases left with
  | nil => exact ⟨fun h => (Except.ok.inj h).symm, fun h => congrArg Except.ok h.symm⟩
  | cons w left =>
    have hnone := (hfollow _ (hleft w rfl)).2
    simp only [Bool.false_eq_true, if_false, hnone, Except.ok.injEq]
    exact eq_comm

private theorem readName_iff {text read : String} (h : Term.readName text = some read)
    (y : String) :
    Term.readName text = some y ↔ True ∧ y = read := by
  rw [h, true_and, Option.some_inj]
  exact eq_comm

variable {table name : String} {words : List String} {items : List Item} {fine : Prop}

theorem source (hitems : Tells (· = "FROM") (Reader.list "," (Reader.item known)) words fine items)
    (htable : Term.readName table = some name)
    (hfollow : ∀ w, follow w → isWord "AS" w = false ∧ Term.readName w = none) :
    Tells follow (source known) (words ++ ["FROM", table]) fine (items, name, none) := by
  have hend : Tells follow (do return (items, name, ← Reader.renamed)) [] True
    (items, name, none) :=
    (Tells.renamed hfollow).map (items, name, ·)
  have hfrom : isWord "FROM" "FROM" = true := by decide
  have htail : Tells follow (do
      Reader.word "FROM"
      return (items, ← Reader.name, ← Reader.renamed)) ["FROM", table] True (items, name, none) :=
    .seq [table] (.word hfrom) (.seq [] (.name (readName_iff htable)) hend)
  have hlead : Tells (heads ["FROM", table] follow) (Reader.list "," (Reader.item known)) words fine
      items := hitems
  exact .finish _ hlead htail

private theorem window (hfollow : ∀ w, follow w → isWord "LIMIT" w = false) :
    Tells follow window [] True none := optional_none hfollow

private theorem heads_order {order : List Ordered} {w : String}
    (h : heads (orderWords order) (fun _ => False) w) :
    w = "ORDER" := by
  cases order with
  | nil => exact absurd h id
  | cons => exact h

private theorem heads_where {comparisons : List Comparison} {order : List Ordered} {w : String}
    (h : heads (whereWords comparisons ++ orderWords order) (fun _ => False) w) :
    w = "WHERE" ∨ w = "ORDER" := by
  cases comparisons with
  | nil => exact .inr (heads_order h)
  | cons => exact .inl h

theorem selection {scope : Scope}
    (hitems : Tells (· = "FROM") (Reader.list "," (Reader.item scope.listed)) words fine items)
    (htable : Term.readName table = some name) {comparisons : List Comparison}
    (hplain : ∀ c ∈ comparisons, c.Plain) {order : List Ordered}
    (horder : ∀ o ∈ order, IsAtom o.field) :
    Tells (fun _ => False) (Reader.selection scope)
      (words ++ ["FROM", table] ++ (whereWords comparisons ++ orderWords order))
      (fine ∧ (∀ c ∈ comparisons, c.Known scope.known) ∧
        ∀ o ∈ order, Reader.Known scope.known o.field)
      (.select name none ⟨items, whereFilter (comparisons.map Comparison.predicate),
        order, none⟩) := by
  let filter := whereFilter (comparisons.map Comparison.predicate)
  have hend : ∀ w, w = "WHERE" ∨ w = "ORDER" → isWord "AS" w = false ∧ Term.readName w = none := by
    rintro w (rfl | rfl) <;> decide
  have hsource : Tells (heads (whereWords comparisons ++ orderWords order) fun _ => False)
      (Reader.source scope.listed) (words ++ ["FROM", table]) fine (items, name, none) :=
    (Tells.source hitems htable hend).mono fun _ => heads_where
  have hfilter : Tells (heads (orderWords order) fun _ => False) (Reader.filter scope.known)
      (whereWords comparisons) (∀ c ∈ comparisons, c.Known scope.known) filter :=
    .filter hplain fun _ => heads_order
  have horder : Tells (heads [] fun _ => False) (Reader.order scope.known) (orderWords order)
      (∀ o ∈ order, Reader.Known scope.known o.field) order := .order horder nofun
  have hnone : Tells (fun _ => False) Reader.window [] True none := .window nofun
  have hwindow : Tells (fun _ => False) (do
      return Query.select name none ⟨items, filter, order, ← Reader.window⟩) [] True
      (.select name none ⟨items, filter, order, none⟩) :=
    hnone.map fun window => Query.select name none ⟨items, filter, order, window⟩
  have hlast := horder.bind (f := fun order => do
    return Query.select name none ⟨items, filter, order, ← Reader.window⟩) hwindow
  rw [List.append_nil] at hlast
  exact (hsource.bind (hfilter.bind hlast)).of_iff (by simp)

theorem names {texts : List ι} {text read : ι → String} {good : ι → Prop}
    (h : ∀ i ∈ texts, ∀ y, Term.readName (text i) = some y ↔ good i ∧ y = read i)
    (hne : texts ≠ []) :
    Tells (· = ")") (Reader.list "," Reader.name)
      (List.intercalate [","] (texts.map fun i => [text i])) (∀ i ∈ texts, good i)
      (texts.map read) := by
  have hend : ∀ w, w = ")" → w ∈ listEnds := fun w hw => hw ▸ (by decide)
  exact commas hend (fun i hi => .name (h i hi)) hne fun _ _ => by simp

private theorem terms {texts : List String} (h : ∀ text ∈ texts, IsAtom text) (hne : texts ≠ []) :
    Tells (· = ")") (Reader.list "," (Reader.term known))
      (List.intercalate [","] (texts.map fun text => [text]))
      (∀ text ∈ texts, Reader.Known known text)
      texts := by
  have hend : ∀ w, w = ")" → w ∈ listEnds := fun w hw => hw ▸ (by decide)
  have hitem : ∀ text ∈ texts, Tells (fun w => w = ")" ∨ w = ",") (Reader.term known) [text]
      (Reader.Known known text) text := fun text htext =>
    .term (h text htext) (by rintro w (rfl | rfl) <;> decide)
  have hlist := commas hend hitem hne fun _ _ => by simp
  rwa [List.map_id'] at hlist

theorem insertion {columns : List ι} {text read : ι → String} {good : ι → Prop}
    (htable : Term.readName table = some name)
    (hcolumns : ∀ i ∈ columns, ∀ y, Term.readName (text i) = some y ↔ good i ∧ y = read i)
    {values : List String} (hvalues : ∀ text ∈ values, IsAtom text) (hsome : columns ≠ [])
    (hnone : values ≠ []) :
    Tells (fun _ => False) (Reader.insertion known)
      ("INTO" :: table :: "(" :: (List.intercalate [","] (columns.map fun i => [text i]) ++
        ")" :: "VALUES" :: "(" ::
          (List.intercalate [","] (values.map fun text => [text]) ++ [")"])))
      ((∀ i ∈ columns, good i) ∧ ∀ text ∈ values, Reader.Known known text)
      (.insert name (columns.map read) values) := by
  have hopening : isWord "(" "(" = true := by decide
  have hclosing : isWord ")" ")" = true := by decide
  have hcolumnList : Tells (heads (")" :: "VALUES" :: "(" ::
      (List.intercalate [","] (values.map fun text => [text]) ++ [")"])) fun _ => False)
      (Reader.list "," Reader.name) (List.intercalate [","] (columns.map fun i => [text i]))
      (∀ i ∈ columns, good i) (columns.map read) := .names hcolumns hsome
  have hvalueList : Tells (heads [")"] fun _ => False) (Reader.list "," (Reader.term known))
      (List.intercalate [","] (values.map fun text => [text]))
      (∀ text ∈ values, Reader.Known known text) values := .terms hvalues hnone
  have hinto : isWord "INTO" "INTO" = true := by decide
  have hnew : isWord "VALUES" "VALUES" = true := by decide
  refine .seq _ (.word hinto) (.seq _ (.name (readName_iff htable)) (.seq _ (.word hopening) ?_))
  refine hcolumnList.bind (.seq _ (.word hclosing)
    (.seq _ (.word hnew) (.seq _ (.word hopening) ?_)))
  have hend : Tells (fun _ => False) (do
      Reader.word ")"
      return Query.insert name (columns.map read) values) [")"] True
      (.insert name (columns.map read) values) := .seq [] (.word hclosing) (.pure _)
  exact .finish _ hvalueList hend

private theorem assignments {sets : List ι} {field operand read : ι → String} {good : ι → Prop}
    (hfield : ∀ i ∈ sets, ∀ y, Term.readName (field i) = some y ↔ good i ∧ y = read i)
    (hoperand : ∀ i ∈ sets, IsAtom (operand i)) (hne : sets ≠ []) :
    Tells (· = "WHERE") (Reader.list "," (Reader.assignment known))
      (List.intercalate [","] (sets.map fun i => [field i, "=", operand i]))
      (∀ i ∈ sets, good i ∧ Reader.Known known (operand i))
      (sets.map fun i => (read i, operand i)) := by
  have hend : ∀ w, w = "WHERE" → w ∈ listEnds := fun w hw => hw ▸ (by decide)
  refine commas hend (fun i hi => ?_) hne fun _ _ => by simp
  exact .assignment (hfield i hi) (hoperand i hi) (by rintro w (rfl | rfl) <;> decide)

theorem replacement {sets : List ι} {field operand read : ι → String} {good : ι → Prop}
    {comparisons : List Comparison} (htable : Term.readName table = some name)
    (hfield : ∀ i ∈ sets, ∀ y, Term.readName (field i) = some y ↔ good i ∧ y = read i)
    (hoperand : ∀ i ∈ sets, IsAtom (operand i)) (hne : sets ≠ [])
    (hplain : ∀ c ∈ comparisons, c.Plain) :
    Tells (fun _ => False) (Reader.replacement known)
      (table :: "SET" :: (List.intercalate [","] (sets.map fun i => [field i, "=", operand i]) ++
        whereWords comparisons))
      ((∀ i ∈ sets, good i ∧ Reader.Known known (operand i)) ∧ ∀ c ∈ comparisons, c.Known known)
      (.update name (sets.map fun i => (read i, operand i))
        (whereFilter (comparisons.map Comparison.predicate))) := by
  let filter := whereFilter (comparisons.map Comparison.predicate)
  have hset : isWord "SET" "SET" = true := by decide
  have hassignments : Tells (heads (whereWords comparisons) fun _ => False)
      (Reader.list "," (Reader.assignment known))
      (List.intercalate [","] (sets.map fun i => [field i, "=", operand i]))
      (∀ i ∈ sets, good i ∧ Reader.Known known (operand i))
      (sets.map fun i => (read i, operand i)) := by
    refine (Tells.assignments hfield hoperand hne).mono fun w hw => ?_
    cases comparisons with
    | nil => exact absurd hw id
    | cons => exact hw
  have hfilter : Tells (fun _ => False) (do
      return Query.update name (sets.map fun i => (read i, operand i)) (← Reader.filter known))
      (whereWords comparisons) (∀ c ∈ comparisons, c.Known known)
      (.update name (sets.map fun i => (read i, operand i)) filter) :=
    (Tells.filter hplain nofun).map (Query.update name (sets.map fun i => (read i, operand i)))
  exact .seq _ (.name (readName_iff htable)) (.seq _ (.word hset) (hassignments.bind hfilter))

theorem removal {comparisons : List Comparison} (htable : Term.readName table = some name)
    (hplain : ∀ c ∈ comparisons, c.Plain) :
    Tells (fun _ => False) (Reader.removal known) ("FROM" :: table :: whereWords comparisons)
      (∀ c ∈ comparisons, c.Known known)
      (.delete name (whereFilter (comparisons.map Comparison.predicate))) := by
  have hfrom : isWord "FROM" "FROM" = true := by decide
  have hfilter : Tells (fun _ => False) (do return Query.delete name (← Reader.filter known))
      (whereWords comparisons) (∀ c ∈ comparisons, c.Known known)
      (.delete name (whereFilter (comparisons.map Comparison.predicate))) :=
    (Tells.filter hplain nofun).map (Query.delete name)
  exact .seq _ (.word hfrom) (.seq _ (.name (readName_iff htable)) hfilter)

end Tells

/-! ## Whole texts -/

theorem verb_tells {follow : String → Prop} {text : String}
    (h : text ∈ ["SELECT", "INSERT", "UPDATE", "DELETE"]) : Tells follow verb [text] True text := by
  have hupper : ∀ text ∈ ["SELECT", "INSERT", "UPDATE", "DELETE"],
      Text.upper text = text := by decide
  refine .next fun y => ?_
  simp only [hupper text h]
  rw [if_pos (by simpa using h), true_and, Option.some_inj]
  exact eq_comm

section
variable {follow : String → Prop} {scope : Scope} {words : List String} {fine : Prop}
  {query : Query}

theorem select_tells (h : Tells follow (selection scope) words fine query) :
    Tells follow (statement scope) ("SELECT" :: words) fine query := by
  have hverb : "SELECT" ∈ ["SELECT", "INSERT", "UPDATE", "DELETE"] := by decide
  exact .seq words (verb_tells hverb) h

theorem insert_tells (h : Tells follow (insertion scope.known) words fine query) :
    Tells follow (statement scope) ("INSERT" :: words) fine query := by
  have hverb : "INSERT" ∈ ["SELECT", "INSERT", "UPDATE", "DELETE"] := by decide
  exact .seq words (verb_tells hverb) h

theorem update_tells (h : Tells follow (replacement scope.known) words fine query) :
    Tells follow (statement scope) ("UPDATE" :: words) fine query := by
  have hverb : "UPDATE" ∈ ["SELECT", "INSERT", "UPDATE", "DELETE"] := by decide
  exact .seq words (verb_tells hverb) h

theorem delete_tells (h : Tells follow (removal scope.known) words fine query) :
    Tells follow (statement scope) ("DELETE" :: words) fine query := by
  have hverb : "DELETE" ∈ ["SELECT", "INSERT", "UPDATE", "DELETE"] := by decide
  exact .seq words (verb_tells hverb) h

end

private theorem forM_isPrefix {expected : List Word} {words : List Word} {result : Unit × List Word}
    (h : (expected.forM fun expected =>
      next fun text => if text = expected.text then some () else none) words = .ok result) :
    expected.map Word.text <+: words.map Word.text := by
  induction expected generalizing words with
  | nil => exact List.nil_prefix
  | cons first expected ih =>
    obtain ⟨x, left, hfirst, hrest⟩ := bind_eq_ok.mp h
    cases words with
    | nil => cases hfirst
    | cons w words =>
      unfold next at hfirst
      by_cases hw : w.text = first.text
      · simp only [hw, if_true] at hfirst
        cases hfirst
        rw [List.map_cons, List.map_cons, hw, List.cons_prefix_cons]
        exact ⟨rfl, ih hrest⟩
      · simp only [hw, if_false] at hfirst
        cases hfirst

def leadWords (lead : String) : List String := (Word.scan 0 lead.toList).map Word.text

/-- No query of the catalog starts like these words. -/
def Foreign (words : List String) : Prop :=
  ∀ scope, ∀ q ∈ catalog scope, ¬leadWords q.1 <+: words

private theorem choose_foreign {other : Reader α} {queries : List (String × Reader α)}
    {words : List Word}
    (h : ∀ q ∈ queries, ¬leadWords q.1 <+: words.map Word.text) :
    choose other queries words = other words := by
  induction queries with
  | nil => rfl
  | cons q queries ih =>
    obtain ⟨hlead, hrest⟩ := List.forall_mem_cons.mp h
    unfold choose
    split
    · next hphrase => exact absurd (forM_isPrefix hphrase) hlead
    · exact ih hrest

private theorem catalog_leads (scope : Scope) : ∀ q ∈ catalog scope,
    (leadWords q.1).head? = some "SELECT" ∧ "(" ∈ leadWords q.1 ∧
      (leadWords q.1).take 4 ∈
        [["SELECT", "name", "AS", "Tables_in_main"], ["SELECT", "*", "FROM", "("]] := by
  simp only [catalog, List.forall_mem_cons]
  refine ⟨?_, ?_, ?_, by simp⟩ <;> decide +kernel

theorem foreign_of_head {words : List String} (h : words.head? ≠ some "SELECT") :
    Foreign words := by
  rintro scope q hq ⟨more, rfl⟩
  have hselect := (catalog_leads scope q hq).1
  rw [List.head?_append, hselect] at h
  exact h rfl

theorem foreign_of_opening {words : List String} (h : "(" ∉ words) : Foreign words := by
  rintro scope q hq ⟨more, rfl⟩
  exact h (List.mem_append_left _ (catalog_leads scope q hq).2.1)

theorem foreign_of_source {table : String} (h : table ≠ "(") (words : List String) :
    Foreign ("SELECT" :: "*" :: "FROM" :: table :: words) := by
  intro scope q hq hprefix
  have htake := (catalog_leads scope q hq).2.2
  have hfirst := (List.take_prefix 4 (leadWords q.1)).trans hprefix
  rcases List.mem_pair.mp htake with htake | htake <;> rw [htake] at hfirst
  · simp [List.cons_prefix_cons] at hfirst
  · simp only [List.cons_prefix_cons] at hfirst
    exact h hfirst.2.2.2.1.symm

private theorem whole_eq_ok {reader : Reader α} {words : List Word} {x : α} :
    whole reader words = .ok x ↔ reader words = .ok (x, []) := by
  unfold whole
  split
  · next y hy => simp [hy]
  · next y left hnil hy =>
    rw [hy]
    refine iff_of_false nofun fun h => hnil ?_
    exact (Prod.mk.inj (Except.ok.inj h)).2
  · next left hleft => simp [hleft]

theorem read_eq_ok {scope : Scope} {sql : String}
    (hforeign : Foreign ((Word.scan 0 sql.toList).map Word.text)) {q : Query} :
    Query.read scope sql = .ok q ↔ statement scope (Word.scan 0 sql.toList) = .ok (q, []) := by
  rw [← whole_eq_ok, Query.read]
  cases hstatement : whole (statement scope) (Word.scan 0 sql.toList) with
  | ok q => rfl
  | error left =>
    have hother : choose (fun _ => .error left) (catalog scope) (Word.scan 0 sql.toList) =
        .error left := choose_foreign (hforeign scope)
    simp only [whole, hother]

/-- A text of words that a reader of a statement tells is read exactly if they are fine. -/
theorem read_iff {scope : Scope} {sql : String} {words : List String} {fine : Prop} {query : Query}
    (hscans : Word.Scans sql words) (hforeign : Foreign words)
    (h : Tells (fun _ => False) (statement scope) words fine query) (q : Query) :
    Query.read scope sql = .ok q ↔ fine ∧ q = query := by
  have hwords := hscans.whole
  have hall := h (Word.scan 0 sql.toList) [] hwords (by simp) (q, [])
  rw [List.append_nil] at hall
  rw [read_eq_ok (by rwa [hwords]), hall, Prod.mk.injEq, eq_self, and_true]

end RecordGateway.Reader
