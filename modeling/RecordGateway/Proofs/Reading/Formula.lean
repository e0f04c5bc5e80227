import Mathlib.Data.List.Forall2
import RecordGateway.Proofs.Reading.Lexeme
import RecordGateway.Store.Truth
/-!
# Formulas

The grammar of conditions joined by AND and OR: parentheses come first, AND binds tighter than OR,
and both associate to the left.
-/
namespace RecordGateway

/-- A formula over conditions, which are lists of lexemes. -/
inductive Formula where
  | condition (lexemes : List Lexeme)
  | join (operator : Connective) (left right : Formula)

/-- The parts of the grammar, from the tightest to the loosest. -/
inductive Level where
  | factor
  | conjunction
  | disjunction

inductive Reads : Level → List Lexeme → Formula → Prop where
  | condition {ls : List Lexeme} (filled : ls ≠ []) (plain : ∀ l ∈ ls, l.role = .plain) :
      Reads .factor ls (.condition ls)
  | parentheses {opening closing : Lexeme} {ls : List Lexeme} {f : Formula}
      (opens : opening.role = .opening) (inner : Reads .disjunction ls f)
      (closes : closing.role = .closing) : Reads .factor (opening :: (ls ++ [closing])) f
  | factor {ls : List Lexeme} {f : Formula} (read : Reads .factor ls f) : Reads .conjunction ls f
  | and {ls ms : List Lexeme} {word : Lexeme} {f g : Formula} (left : Reads .conjunction ls f)
      (joins : word.role = .connective .and) (right : Reads .factor ms g) :
      Reads .conjunction (ls ++ word :: ms) (.join .and f g)
  | conjunction {ls : List Lexeme} {f : Formula} (read : Reads .conjunction ls f) :
      Reads .disjunction ls f
  | or {ls ms : List Lexeme} {word : Lexeme} {f g : Formula} (left : Reads .disjunction ls f)
      (joins : word.role = .connective .or) (right : Reads .conjunction ms g) :
      Reads .disjunction (ls ++ word :: ms) (.join .or f g)

namespace Formula

/-- A formula behind what stands before a connective. -/
def after (operator : Connective) : Option Formula → Formula → Formula
  | none, f => f
  | some g, f => join operator g f

end Formula

/-- What has been read since a parenthesis was opened: the disjuncts and the conjuncts before the
last connective, and the factor behind it. -/
structure Pending where
  disjuncts : Option Formula
  conjuncts : Option Formula
  factor : Option Formula

namespace Pending

def none : Pending := ⟨.none, .none, .none⟩

def formula? (p : Pending) : Option Formula :=
  p.factor.map fun f => .after .or p.disjuncts (.after .and p.conjuncts f)

/-- Take one more lexeme; what is pending outside of the open parentheses waits in a list. -/
def take : Pending × List Pending → Lexeme → Option (Pending × List Pending)
  | (p, outer), l =>
    match l.role with
    | .plain =>
      match p.factor with
      | .none => some ({ p with factor := some (.condition [l]) }, outer)
      | some (.condition ls) => some ({ p with factor := some (.condition (ls ++ [l])) }, outer)
      | some (.join _ _ _) => .none
    | .connective .and =>
      p.factor.map fun f => (⟨p.disjuncts, some (.after .and p.conjuncts f), .none⟩, outer)
    | .connective .or => p.formula?.map fun f => (⟨some f, .none, .none⟩, outer)
    | .opening => some (none, p :: outer)
    | .closing =>
      match p.formula?, outer with
      | some f, q :: rest => some ({ q with factor := some f }, rest)
      | _, _ => .none

end Pending

/-- Reading the lexemes from left to right arrives at the formula. -/
def Arrives : Level → List Lexeme → Formula → Prop
  | .factor, ls, f => ∀ p outer, p.factor = none →
    ls.foldlM Pending.take (p, outer) = some ({ p with factor := some f }, outer)
  | .conjunction, ls, f => ∀ disjuncts outer, ∃ conjuncts factor,
    Formula.after .and conjuncts factor = f ∧
      ls.foldlM Pending.take (⟨disjuncts, none, none⟩, outer) =
        some (⟨disjuncts, conjuncts, some factor⟩, outer)
  | .disjunction, ls, f => ∀ outer, ∃ p : Pending, p.formula? = some f ∧
    ls.foldlM Pending.take (.none, outer) = some (p, outer)

private theorem foldlM_plain {ls : List Lexeme} (h : ∀ l ∈ ls, l.role = .plain) (p : Pending)
    (outer : List Pending) (ms : List Lexeme) :
    ls.foldlM Pending.take ({ p with factor := some (.condition ms) }, outer) =
      some ({ p with factor := some (.condition (ms ++ ls)) }, outer) := by
  induction ls generalizing ms with
  | nil => simp
  | cons l ls ih =>
    obtain ⟨hl, hls⟩ := List.forall_mem_cons.mp h
    have hstep : Pending.take ({ p with factor := some (.condition ms) }, outer) l =
        some ({ p with factor := some (.condition (ms ++ [l])) }, outer) := by
      simp [Pending.take, hl]
    rw [List.foldlM_cons, hstep]
    have hrest := ih hls (ms ++ [l])
    rw [List.append_assoc] at hrest
    exact hrest

private theorem Reads.arrives {level : Level} {ls : List Lexeme} {f : Formula}
    (h : Reads level ls f) :
    Arrives level ls f := by
  induction h with
  | @condition ls filled plain =>
    intro p outer hp
    obtain ⟨l, ls, rfl⟩ := List.exists_cons_of_ne_nil filled
    obtain ⟨hl, hls⟩ := List.forall_mem_cons.mp plain
    have hstep : Pending.take (p, outer) l =
        some ({ p with factor := some (.condition [l]) }, outer) := by
      simp [Pending.take, hl, hp]
    rw [List.foldlM_cons, hstep]
    exact foldlM_plain hls p outer [l]
  | @parentheses opening closing ls f opens inner closes ih =>
    intro p outer hp
    obtain ⟨q, hq, hrun⟩ := ih (p :: outer)
    have hopen : Pending.take (p, outer) opening = some (.none, p :: outer) := by
      simp [Pending.take, opens]
    have hclose : Pending.take (q, p :: outer) closing =
        some ({ p with factor := some f }, outer) := by
      simp [Pending.take, closes, hq]
    rw [List.foldlM_cons, hopen]
    change List.foldlM Pending.take (.none, p :: outer) (ls ++ [closing]) = _
    rw [List.foldlM_append, hrun]
    simp [hclose]
  | @factor ls f read ih =>
    intro disjuncts outer
    exact ⟨none, f, rfl, ih ⟨disjuncts, none, none⟩ outer rfl⟩
  | @and ls ms word f g left joins right ihl ihr =>
    intro disjuncts outer
    obtain ⟨conjuncts, factor, hf, hrun⟩ := ihl disjuncts outer
    have hword : Pending.take (⟨disjuncts, conjuncts, some factor⟩, outer) word =
        some (⟨disjuncts, some f, none⟩, outer) := by
      simp [Pending.take, joins, hf]
    refine ⟨some f, g, rfl, ?_⟩
    rw [List.foldlM_append, hrun]
    simp only [Option.bind_eq_bind, Option.bind_some, List.foldlM_cons, hword]
    exact ihr ⟨disjuncts, some f, none⟩ outer rfl
  | @conjunction ls f read ih =>
    intro outer
    obtain ⟨conjuncts, factor, hf, hrun⟩ := ih none outer
    have hp : Pending.formula? ⟨none, conjuncts, some factor⟩ = some f := by
      rw [Pending.formula?, Option.map_some, hf]
      rfl
    exact ⟨_, hp, hrun⟩
  | @or ls ms word f g left joins right ihl ihr =>
    intro outer
    obtain ⟨p, hp, hrun⟩ := ihl outer
    obtain ⟨conjuncts, factor, hg, hrest⟩ := ihr (some f) outer
    have hword : Pending.take (p, outer) word = some (⟨some f, none, none⟩, outer) := by
      simp [Pending.take, joins, hp]
    have hjoined : Pending.formula? ⟨some f, conjuncts, some factor⟩ = some (.join .or f g) := by
      rw [Pending.formula?, Option.map_some, hg]
      rfl
    refine ⟨_, hjoined, ?_⟩
    rw [List.foldlM_append, hrun]
    simp only [Option.bind_eq_bind, Option.bind_some, List.foldlM_cons, hword]
    exact hrest

/-- A list of lexemes is read as one formula at most. -/
theorem Reads.unique {ls : List Lexeme} {f g : Formula} (hf : Reads .disjunction ls f)
    (hg : Reads .disjunction ls g) : g = f := by
  obtain ⟨p, hp, hrun⟩ := hf.arrives []
  obtain ⟨q, hq, hrun'⟩ := hg.arrives []
  have hpq : p = q := by simpa [hrun] using hrun'
  rw [hpq, hq] at hp
  exact Option.some.inj hp

/-! ## Chains -/

def Connective.truth : Connective → Truth → Truth → Truth
  | .and => Truth.and
  | .or => Truth.or

private theorem Truth.combine_cons (operator : Connective) (t : Truth) (ts : List Truth) :
    combine operator (t :: ts) = operator.truth t (combine operator ts) := by
  cases operator <;> rfl

private theorem Truth.combine_single (operator : Connective) (t : Truth) :
    combine operator [t] = t := by
  cases operator <;> cases t <;> rfl

private theorem Connective.truth_assoc (operator : Connective) (a b c : Truth) :
    operator.truth (operator.truth a b) c = operator.truth a (operator.truth b c) := by
  cases operator <;> cases a <;> cases b <;> cases c <;> rfl

namespace Formula

def conditions : Formula → List (List Lexeme)
  | condition ls => [ls]
  | join _ f g => f.conditions ++ g.conditions

/-- The truth of a formula, given that of its conditions by their numbers from the given one on. -/
def truth (holds : Nat → Truth) (n : Nat) : Formula → Truth
  | condition _ => holds n
  | join operator f g =>
    operator.truth (f.truth holds n) (g.truth holds (n + f.conditions.length))

def chain (operator : Connective) : List Formula → Option Formula
  | [] => none
  | f :: fs => some (fs.foldl (join operator) f)

def truths (holds : Nat → Truth) : Nat → List Formula → List Truth
  | _, [] => []
  | n, f :: fs => f.truth holds n :: truths holds (n + f.conditions.length) fs

private theorem foldl_conditions (operator : Connective) (f : Formula) (fs : List Formula) :
    (fs.foldl (join operator) f).conditions = f.conditions ++ fs.flatMap conditions := by
  induction fs generalizing f with
  | nil => simp
  | cons g fs ih => simp [ih, conditions, List.append_assoc]

theorem chain_conditions (operator : Connective) (fs : List Formula) :
    (chain operator fs).toList.flatMap conditions = fs.flatMap conditions := by
  cases fs with
  | nil => rfl
  | cons f fs => simp [chain, foldl_conditions]

theorem chain_eq_none {operator : Connective} {fs : List Formula} :
    chain operator fs = none ↔ fs = [] := by
  cases fs <;> simp [chain]

theorem truths_append (holds : Nat → Truth) (n : Nat) (fs gs : List Formula) :
    truths holds n (fs ++ gs) =
      truths holds n fs ++ truths holds (n + (fs.flatMap conditions).length) gs := by
  induction fs generalizing n with
  | nil => rfl
  | cons f fs ih => simp [truths, ih, Nat.add_assoc]

private theorem foldl_truth (operator : Connective) (holds : Nat → Truth) (n : Nat) (f : Formula)
    (fs : List Formula) : (fs.foldl (join operator) f).truth holds n =
      Truth.combine operator (truths holds n (f :: fs)) := by
  induction fs generalizing f with
  | nil => simp [truths, Truth.combine_single]
  | cons g fs ih =>
    rw [List.foldl_cons, ih]
    simp only [truths, truth, conditions, List.length_append, Truth.combine_cons, Nat.add_assoc]
    exact operator.truth_assoc _ _ _

theorem chain_truth (operator : Connective) (fs : List Formula) (holds : Nat → Truth) (n : Nat) :
    (chain operator fs).map (truth holds n) =
      if fs = [] then none else some (Truth.combine operator (truths holds n fs)) := by
  cases fs with
  | nil => rfl
  | cons f fs => simp [chain, foldl_truth]

end Formula

theorem Reads.foldl {operator : Connective} {word : Lexeme}
    (hword : word.role = .connective operator) {lss : List (List Lexeme)} {fs : List Formula}
    (h : List.Forall₂ (Reads .factor) lss fs) {ls : List Lexeme} {f : Formula}
    (hf : Reads .factor ls f) :
    Reads .disjunction (ls ++ lss.flatMap (word :: ·)) (fs.foldl (.join operator) f) := by
  cases operator with
  | and =>
    have hconj {ls : List Lexeme} {f : Formula} (hf : Reads .conjunction ls f) :
        Reads .conjunction (ls ++ lss.flatMap (word :: ·)) (fs.foldl (.join .and) f) := by
      induction h generalizing ls f with
      | nil => simpa using hf
      | @cons ms g lss fs hg hrest ih =>
        have hstep := ih (.and hf hword hg)
        simpa using hstep
    exact .conjunction (hconj (.factor hf))
  | or =>
    have hdisj {ls : List Lexeme} {f : Formula} (hf : Reads .disjunction ls f) :
        Reads .disjunction (ls ++ lss.flatMap (word :: ·)) (fs.foldl (.join .or) f) := by
      induction h generalizing ls f with
      | nil => simpa using hf
      | @cons ms g lss fs hg hrest ih =>
        have hstep := ih (.or hf hword (.factor hg))
        simpa using hstep
    exact hdisj (.conjunction (.factor hf))

end RecordGateway
