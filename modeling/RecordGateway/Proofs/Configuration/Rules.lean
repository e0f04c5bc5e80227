import RecordGateway.Configuration.Environment
import RecordGateway.Proofs.Lists
import RecordGateway.Proofs.Number.Integer
/-!
# Rules of configurations

What the library that loads configurations is documented to do: how a later source is laid over an
earlier one, which environment variables count and as what, and how a value becomes a text.
-/
namespace RecordGateway.Configuration

/-! ## Layers -/

/-- Sources are laid one after the other, each entry at its path. What does not stand on that path
stays as it is. -/
structure LayerRules (merge : Configuration → List (String × Configuration) → Configuration)
    (put : Configuration → List Step → Configuration → Configuration) : Prop where
  unchanged (c : Configuration) : merge c [] = c
  later (c : Configuration) (source : List (String × Configuration))
    (entry : String × Configuration) :
    merge c (source ++ [entry]) = put entry.2 (path entry.1) (merge c source)
  value (v : Value) (c : Configuration) : put (.value v) [] c = .value v
  under (added : Configuration) (known name : String) (rest : List Step) (c : Configuration) :
    (put added (.key known :: rest) c).get? name =
      if Text.lower known = name then some (put added rest ((c.get? name).getD empty))
      else c.get? name
  table (added : Configuration) (name : String) (rest : List Step) (c : Configuration) :
    ∃ entries, put added (.key name :: rest) c = .table entries
  list (added : Configuration) (index : Int) (rest : List Step) (c : Configuration) :
    ∃ items, put added (.place index :: rest) c = .list items

theorem layerRules : LayerRules merge put where
  unchanged _ := rfl
  later c source entry := by rw [merge, List.foldl_append, merge, List.foldl_cons, List.foldl_nil]
  value _ _ := rfl
  under added known name rest c := by
    show entryAt name (putEntry (Text.lower known)
      (put added rest ((entryAt (Text.lower known) c.entries).getD empty)) c.entries) = _
    rw [entryAt_putEntry]
    split
    · next hname =>
      rw [hname]
      rfl
    · rfl
  table _ _ _ _ := ⟨_, rfl⟩
  list _ _ rest _ := by cases rest <;> exact ⟨_, rfl⟩

/-! ## Variables -/

/-- A word of a variable's name between two separators. -/
def IsLevel : List Char → Prop
  | [] => True
  | '_' :: rest => rest ≠ [] ∧ rest.head? ≠ some '_' ∧ IsLevel rest
  | _ :: rest => IsLevel rest

/-- A variable counts by its prefix. Two underscores stand between the levels of its name, and its
text is a truth value, an integer, a number or else itself. -/
structure VariableRules (place? : String → Option (List Step)) (read : String → Value) : Prop where
  foreign {name : String} : ¬environmentPrefix.toList <+: (Text.lower name).toList →
    place? name = none
  levels {name : String} {words : List String} : words ≠ [] →
    (∀ w ∈ words, w ≠ "" ∧ w.toList.all isKeyChar = true ∧ IsLevel w.toList) →
      Text.lower name = environmentPrefix ++ String.intercalate "__" words →
        place? name = some (words.map .key)
  truth {s : String} (b : Bool) : Text.lower s = toString b → read s = .boolean b
  integer {s : String} {i : Int64} : (∀ b : Bool, Text.lower s ≠ toString b) →
    Numeral s.toList i.toInt → read s = .integer i
  real {s : String} {x : Binary64} : (∀ b : Bool, Text.lower s ≠ toString b) →
    (∀ i : Int64, ¬Numeral s.toList i.toInt) → readBinary64 s.toList = some x → read s = .real x
  text {s : String} : (∀ b : Bool, Text.lower s ≠ toString b) →
    (∀ i : Int64, ¬Numeral s.toList i.toInt) → readBinary64 s.toList = none → read s = .text s

private theorem dotted_append {cs : List Char} (h : IsLevel cs) (rest : List Char) :
    dotted (cs ++ rest) = cs ++ dotted rest := by
  fun_induction IsLevel cs with
  | case1 => rfl
  | case2 more ih =>
    cases more with
    | nil => exact absurd rfl h.1
    | cons c more =>
      have hc : c ≠ '_' := fun heq => h.2.1 (congrArg some heq)
      have hnot : ∀ later, '_' = '_' → c :: more ++ rest = '_' :: later → False :=
        fun _ _ heq => hc (List.cons.inj heq).1
      rw [List.cons_append, dotted.eq_2 _ _ hnot, ih h.2.2]
      rfl
  | case3 c more hc ih =>
    rw [List.cons_append, dotted.eq_2 _ _ fun _ heq _ => hc heq, ih h, List.cons_append]

private theorem dotted_intercalate {words : List String} (h : ∀ w ∈ words, IsLevel w.toList) :
    dotted (String.intercalate "__" words).toList = (String.intercalate "." words).toList := by
  induction words with
  | nil => rfl
  | cons w words ih =>
    obtain ⟨hw, hrest⟩ := List.forall_mem_cons.mp h
    cases words with
    | nil =>
      have hlevel := dotted_append hw []
      rwa [List.append_nil, dotted, List.append_nil] at hlevel
    | cons next words =>
      rw [String.intercalate_cons_cons, String.intercalate_cons_cons]
      simp only [String.toList_append, List.append_assoc]
      rw [dotted_append hw, ← ih hrest]
      rfl

private theorem partsAt_append {separator : Char} {cs : List Char} (h : separator ∉ cs)
    (rest : List Char) :
    Text.partsAt separator (cs ++ separator :: rest) = cs :: Text.partsAt separator rest := by
  induction cs with
  | nil => exact if_pos rfl
  | cons c cs ih =>
    rw [List.mem_cons, not_or] at h
    rw [List.cons_append, Text.partsAt, if_neg (Ne.symm h.1), ih h.2]

private theorem partsAt_single {separator : Char} {cs : List Char} (h : separator ∉ cs) :
    Text.partsAt separator cs = [cs] := by
  induction cs with
  | nil => rfl
  | cons c cs ih =>
    rw [List.mem_cons, not_or] at h
    rw [Text.partsAt, if_neg (Ne.symm h.1), ih h.2]

private theorem partsAt_intercalate {words : List String} (hne : words ≠ [])
    (h : ∀ w ∈ words, '.' ∉ w.toList) :
    Text.partsAt '.' (String.intercalate "." words).toList = words.map String.toList := by
  induction words with
  | nil => exact absurd rfl hne
  | cons w words ih =>
    obtain ⟨hw, hrest⟩ := List.forall_mem_cons.mp h
    cases words with
    | nil => exact partsAt_single hw
    | cons next words =>
      rw [String.intercalate_cons_cons, String.toList_append, String.toList_append,
        List.append_assoc,
        List.map_cons, ← ih (List.cons_ne_nil _ _) hrest]
      exact partsAt_append hw _

private theorem readSteps_key {w : String} (hne : w ≠ "") (h : w.toList.all isKeyChar = true) :
    readSteps w.toList = some [.key w] := by
  have hall := List.all_eq_true.mp h
  have htake : w.toList.takeWhile isKeyChar = w.toList := by
    rw [← List.append_nil w.toList, List.takeWhile_append_of_pos hall]
    simp
  have hdrop : w.toList.dropWhile isKeyChar = [] := by
    rw [← List.append_nil w.toList, List.dropWhile_append_of_pos hall]
    rfl
  rw [readSteps, htake, hdrop, String.ofList_toList]
  cases hcs : w.toList with
  | nil => exact absurd (String.toList_eq_nil_iff.mp hcs) hne
  | cons c cs => rfl

private theorem path_levels {words : List String} (hne : words ≠ [])
    (h : ∀ w ∈ words, w ≠ "" ∧ w.toList.all isKeyChar = true) :
    path (String.intercalate "." words) = words.map .key := by
  have hpoint : ∀ w ∈ words, '.' ∉ w.toList := fun w hw hmem =>
    absurd (List.all_eq_true.mp (h w hw).2 '.' hmem) (by decide)
  have hsteps : (words.map String.toList).mapM readSteps = some (words.map fun w => [.key w]) := by
    clear hne hpoint
    induction words with
    | nil => rfl
    | cons w words ih =>
      obtain ⟨⟨hw, hchars⟩, hrest⟩ := List.forall_mem_cons.mp h
      rw [List.map_cons, List.mapM_cons, readSteps_key hw hchars, ih hrest]
      rfl
  rw [path, partsAt_intercalate hne hpoint, hsteps]
  exact List.map_eq_flatMap.symm

private theorem variableValue_eq {s : String} (hword : ∀ b : Bool, Text.lower s ≠ toString b) :
    variableValue s = match readInt64 s.toList with
      | some i => .integer i
      | none =>
        match readBinary64 s.toList with
        | some x => .real x
        | none => .text s :=
  (if_neg (hword true)).trans (if_neg (hword false))

theorem variableRules :
    VariableRules (fun name => (variableKey? name).map path) variableValue where
  foreign {name} h := by
    rw [variableKey?, if_neg fun hprefix => h (List.isPrefixOf_iff_prefix.mp hprefix)]
    rfl
  levels {name words} hne h hname := by
    have hlist : (Text.lower name).toList =
        environmentPrefix.toList ++ (String.intercalate "__" words).toList := by
      rw [hname, String.toList_append]
    have hkey : variableKey? name = some (String.intercalate "." words) := by
      rw [variableKey?, hlist, if_pos (List.isPrefixOf_iff_prefix.mpr (List.prefix_append ..))]
      have hdrop : environmentPrefix.length = environmentPrefix.toList.length := rfl
      rw [hdrop, List.drop_left, dotted_intercalate fun w hw => (h w hw).2.2, String.ofList_toList]
    rw [hkey, Option.map_some, path_levels hne fun w hw => ⟨(h w hw).1, (h w hw).2.1⟩]
  truth {s} b h := by
    cases b with
    | true => exact if_pos h
    | false =>
      have hother : ¬Text.lower s = "true" := by rw [h]; decide
      exact (if_neg hother).trans (if_pos h)
  integer hword h := by
    rw [variableValue_eq hword, readInt64_eq_some.mpr h]
  real hword hnone hreal := by
    rw [variableValue_eq hword, readInt64_eq_none.mpr hnone, hreal]
  text hword hnone hreal := by
    rw [variableValue_eq hword, readInt64_eq_none.mpr hnone, hreal]

/-! ## Texts -/

/-- A value that is asked for as a text is printed. A null, a list and a table have no text. -/
structure TextRules (text? : Configuration → Option String) : Prop where
  text (s : String) : text? (.value (.text s)) = some s
  truth (b : Bool) : text? (.value (.boolean b)) = some (toString b)
  integer (i : Int64) : text? (.value (.integer i)) = some i.toInt.repr
  real (x : Binary64) : text? (.value (.real x)) = some x.text
  null : text? (.value .null) = none
  list (items : List Configuration) : text? (.list items) = none
  table (entries : List (String × Configuration)) : text? (.table entries) = none

theorem textRules : TextRules text? where
  text _ := rfl
  truth b := by cases b <;> rfl
  integer _ := rfl
  real _ := rfl
  null := rfl
  list _ := rfl
  table _ := rfl

end RecordGateway.Configuration
