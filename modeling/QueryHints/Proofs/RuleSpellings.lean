import QueryHints.Proofs.RegroupedEntries

namespace QueryHints

namespace Schema

open Json (Fields)

def inputsNamed (text : Text) : List Text :=
  Rule.inputSet (Text.words text)

def spelledOut (table : Fields) : List Json :=
  table.map fun field => .object (Index.entryOf (Text.words field.1) field.2)

def named (table : Fields) (inputs : List Text) : List Tree :=
  (table.filter fun field => inputsNamed field.1 = inputs).map fun field => .ofJson field.2

def outputsAt? (rules : List Rule) (inputs : List Text) : Option Tree :=
  (rules.find? fun rule => rule.inputs = inputs).map Rule.outputs

def readFields (limits : Limits) : Fields → Except IndexFault (List Rule)
  | [] => .ok []
  | (text, v) :: rest =>
    match readRule limits (Text.words text) v with
    | .error fault => .error fault
    | .ok rule => (readFields limits rest).map (rule :: ·)

def addAll (combine : Rule → Rule → Rule) (new rules : List Rule) : List Rule :=
  new.foldl (fun rules rule => addRule combine rule rules) rules

section Reading

variable (limits : Limits)

/-- Whatever reads field by field, and adds the rule of each, adds all the rules of the fields. -/
theorem read_eq_addAll (combine : Rule → Rule → Rule)
    (read : List Rule → Fields → Except IndexFault (List Rule)) (hnil : ∀ rules, read rules [] = .ok rules)
    (hcons : ∀ rules text v rest, read rules ((text, v) :: rest) =
      match readRule limits (Text.words text) v with
      | .error fault => .error fault
      | .ok rule => read (addRule combine rule rules) rest)
    (table : Fields) (rules : List Rule) :
    read rules table = (readFields limits table).map fun new => addAll combine new rules := by
  induction table generalizing rules with
  | nil => exact hnil rules
  | cons field rest ih =>
    obtain ⟨text, v⟩ := field
    rw [hcons, readFields]
    cases readRule limits (Text.words text) v with
    | error fault => rfl
    | ok rule =>
      dsimp only
      rw [ih]
      cases readFields limits rest <;> rfl

/-- A table keeps the later of two outputs for the same inputs. -/
theorem readTable_eq_addAll (table : Fields) (rules : List Rule) :
    readTable limits rules table =
      (readFields limits table).map fun new => addAll (fun _ later => later) new rules :=
  read_eq_addAll limits _ (readTable limits) (fun _ => rfl) (fun _ _ _ _ => rfl) table rules

theorem readInputs_texts (inputs : List Text) :
    readInputs limits (.list (inputs.map .text)) = .ok inputs := by
  have hshown : (inputs.map Json.text).map Json.shown = inputs := by
    rw [List.map_map]
    exact List.map_id inputs
  have hread : Json.showAll? limits.inputs (inputs.map .text) = .ok inputs := by
    rw [Json.showAll?_of_showable _ _ (by simp [Json.Showable, Json.kind]), hshown]
  cases inputs with
  | nil => rfl
  | cons first rest =>
    rw [readInputs, if_neg (by simp [Json.isVoid])]
    simp only [hread]
    rfl

/-- The list of the same fields joins them. -/
theorem readEntries_eq_addAll (table : Fields) (rules : List Rule) :
    readEntries limits rules (spelledOut table) =
      (readFields limits table).map fun new => addAll Rule.joinedWith new rules := by
  apply read_eq_addAll limits Rule.joinedWith (fun rules table => readEntries limits rules (spelledOut table))
  · intro rules
    rfl
  · intro rules text v rest
    have hinputs : Fields.get (Index.entryOf (Text.words text) v) "inputs" =
        .list ((Text.words text).map .text) := rfl
    have houtputs : Fields.get (Index.entryOf (Text.words text) v) "outputs" = v := rfl
    have hentry : spelledOut ((text, v) :: rest) =
        .object (Index.entryOf (Text.words text) v) :: spelledOut rest := rfl
    cases hrule : readRule limits (Text.words text) v with
    | error fault => simp only [hentry, readEntries, hinputs, readInputs_texts, houtputs, hrule]
    | ok rule => simp only [hentry, readEntries, hinputs, readInputs_texts, houtputs, hrule]

theorem readFields_eq (table : Fields) (new : List Rule) (h : readFields limits table = .ok new) :
    new.map Rule.inputs = table.map (fun field => inputsNamed field.1) ∧
      ∀ inputs, (new.filter fun rule => rule.inputs = inputs).map Rule.outputs = named table inputs := by
  induction table generalizing new with
  | nil =>
    cases h
    exact ⟨rfl, fun _ => rfl⟩
  | cons field rest ih =>
    obtain ⟨text, v⟩ := field
    rw [readFields] at h
    cases hrule : readRule limits (Text.words text) v with
    | error fault => simp [hrule] at h
    | ok rule =>
      cases hrest : readFields limits rest with
      | error fault => simp [hrule, hrest, Except.map] at h
      | ok further =>
        simp only [hrule, hrest, Except.map, Except.ok.injEq] at h
        subst h
        obtain ⟨hinputs, houtputs⟩ := readRule_eq limits _ v rule hrule
        obtain ⟨hall, hnamed⟩ := ih further hrest
        refine ⟨?_, ?_⟩
        · rw [List.map_cons, List.map_cons, hall, hinputs]
          rfl
        · -- the rule and its field pass the two filters together
          intro inputs
          have hset : inputsNamed text = rule.inputs := hinputs.symm
          have hfurther := hnamed inputs
          unfold named at hfurther ⊢
          by_cases hi : rule.inputs = inputs
          · simp [hset, hi, houtputs, hfurther]
          · simp [hset, hi, hfurther]

end Reading

section Adding

variable (combine : Rule → Rule → Rule)

theorem addRule_of_new (new : Rule) (rules : List Rule) (h : new.inputs ∉ rules.map Rule.inputs) :
    addRule combine new rules = rules ++ [new] := by
  induction rules with
  | nil => rfl
  | cons rule rest ih =>
    rw [List.map_cons, List.mem_cons, not_or] at h
    rw [addRule, if_neg (Ne.symm h.1), ih h.2]
    rfl

/-- Rules that have different inputs are kept as they are, however equal inputs are treated. -/
theorem addAll_of_separate (new rules : List Rule) (h : Separate (rules ++ new)) :
    addAll combine new rules = rules ++ new := by
  induction new generalizing rules with
  | nil => exact (List.append_nil rules).symm
  | cons rule rest ih =>
    have happend : rules ++ rule :: rest = (rules ++ [rule]) ++ rest := by simp
    have hnew : rule.inputs ∉ rules.map Rule.inputs := by
      rw [Separate, List.map_append, List.map_cons] at h
      intro hmem
      exact (List.nodup_append.mp h).2.2 _ hmem _ List.mem_cons_self rfl
    have hstep : addAll combine (rule :: rest) rules = addAll combine rest (addRule combine rule rules) := rfl
    rw [happend] at h ⊢
    rw [hstep, addRule_of_new combine rule rules hnew, ih _ h]

theorem separate_addAll (new rules : List Rule) (h : Separate rules)
    (hinputs : ∀ rule new, rule.inputs = new.inputs → (combine rule new).inputs = new.inputs) :
    Separate (addAll combine new rules) := by
  induction new generalizing rules with
  | nil => exact h
  | cons rule rest ih =>
    apply ih
    exact separate_addRule rule rules combine (fun known => hinputs known rule) h

variable (joined : Tree → Tree → Tree)
variable (hcombine : ∀ rule new, rule.inputs = new.inputs →
  (combine rule new).inputs = new.inputs ∧ (combine rule new).outputs = joined rule.outputs new.outputs)

include hcombine

theorem outputsAt?_addRule (new : Rule) (rules : List Rule) (inputs : List Text) :
    outputsAt? (addRule combine new rules) inputs =
      if new.inputs = inputs then
        some ((outputsAt? rules inputs).elim new.outputs fun known => joined known new.outputs)
      else outputsAt? rules inputs := by
  induction rules with
  | nil =>
    by_cases hi : new.inputs = inputs <;> simp [addRule, outputsAt?, hi]
  | cons rule rest ih =>
    unfold outputsAt? at ih ⊢
    by_cases hsame : rule.inputs = new.inputs
    · -- the rule is replaced where it stands
      obtain ⟨hinputs, houtputs⟩ := hcombine rule new hsame
      rw [addRule, if_pos hsame]
      by_cases hi : new.inputs = inputs <;> simp [hinputs, houtputs, hsame, hi]
    · rw [addRule, if_neg hsame]
      by_cases hr : rule.inputs = inputs
      · -- this rule is the one asked for, so the new one is not
        have hi : new.inputs ≠ inputs := fun h => hsame (hr.trans h.symm)
        simp [hr, hi]
      · simpa [hr] using ih

/-- The outputs for a set of inputs after adding rules: those of the rules with these inputs, joined one after
the other. -/
theorem outputsAt?_addAll (new rules : List Rule) (inputs : List Text) :
    outputsAt? (addAll combine new rules) inputs =
      ((new.filter fun rule => rule.inputs = inputs).map Rule.outputs).foldl
        (fun known outputs => some (known.elim outputs fun tree => joined tree outputs))
        (outputsAt? rules inputs) := by
  induction new generalizing rules with
  | nil => rfl
  | cons rule rest ih =>
    have hstep : addAll combine (rule :: rest) rules = addAll combine rest (addRule combine rule rules) := rfl
    rw [hstep, ih, outputsAt?_addRule combine joined hcombine]
    by_cases hi : rule.inputs = inputs <;> simp [hi]

end Adding

def mergedAll? : List Tree → Option Tree
  | [] => none
  | first :: rest => some (rest.foldl Tree.merge first)

section Outputs

variable (limits : Limits) (table : Fields) (new : List Rule) (h : readFields limits table = .ok new)
variable (inputs : List Text)

include h

/-- In a table the last text that names the inputs decides. -/
theorem outputsAt?_tabled :
    outputsAt? (addAll (fun _ later => later) new []) inputs = (named table inputs).getLast? := by
  have hlater (trees : List Tree) (start : Option Tree) :
      trees.foldl (fun known outputs => some (known.elim outputs fun _ => outputs)) start =
        trees.getLast?.or start := by
    induction trees generalizing start with
    | nil => rfl
    | cons tree rest ih =>
      rw [List.foldl_cons, ih, List.getLast?_cons]
      cases start <;> cases rest.getLast? <;> rfl
  rw [outputsAt?_addAll (fun _ later => later) (fun _ outputs => outputs) (fun _ _ _ => ⟨rfl, rfl⟩),
    (readFields_eq limits table new h).2, hlater]
  exact Option.or_none

/-- In a list all texts that name the inputs count. -/
theorem outputsAt?_listed :
    outputsAt? (addAll Rule.joinedWith new []) inputs = mergedAll? (named table inputs) := by
  have hmerge (trees : List Tree) (start : Tree) :
      trees.foldl (fun known outputs => some (known.elim outputs fun tree => tree.merge outputs))
        (some start) = some (trees.foldl Tree.merge start) := by
    induction trees generalizing start with
    | nil => rfl
    | cons tree rest ih => exact ih (start.merge tree)
  rw [outputsAt?_addAll Rule.joinedWith Tree.merge (fun _ _ hi => ⟨hi, rfl⟩), (readFields_eq limits table new h).2]
  cases named table inputs with
  | nil => rfl
  | cons first rest => exact hmerge rest first

end Outputs

theorem distinct_named (table : Fields) (inputs : List Text) : ∀ tree ∈ named table inputs, tree.Distinct := by
  intro tree ht
  obtain ⟨field, -, rfl⟩ := List.mem_map.mp ht
  exact Tree.distinct_ofJson field.2

/-- Merging loses nothing: every tree is contained in the whole. -/
theorem le_mergedAll? (trees : List Tree) (hd : ∀ tree ∈ trees, tree.Distinct) (tree : Tree)
    (ht : tree ∈ trees) : ∃ whole, mergedAll? trees = some whole ∧ tree ≤ whole := by
  cases trees with
  | nil => cases ht
  | cons first rest =>
    refine ⟨_, rfl, ?_⟩
    intro path hp
    rw [hasPath_foldl_merge rest fun other ho => hd other (List.mem_cons_of_mem first ho)]
    rcases List.mem_cons.mp ht with rfl | hrest
    · exact Or.inl hp
    · exact Or.inr ⟨tree, hrest, hp⟩

end Schema

namespace Index

open Json (Fields)

def withRules (rules : Json) (others : Fields) : Json :=
  .object (("index-io", rules) :: others)

def readParts (limits : Limits) (table others : Fields) :
    Except IndexFault (List Rule × Names × Names) := do
  let new ← Schema.readFields limits table
  let idents ← Schema.readNames (Fields.get others "idents")
  let ignored ← Schema.readNames (ignoredField others)
  return (new, idents, ignored)

section Parts

variable (limits : Limits) (table others : Fields)

theorem readFields_of_readParts (new : List Rule) (idents ignored : Names)
    (h : readParts limits table others = .ok (new, idents, ignored)) : Schema.readFields limits table = .ok new := by
  unfold readParts at h
  cases hread : Schema.readFields limits table with
  | error fault => rw [hread] at h; cases h
  | ok rules =>
    cases hidents : Schema.readNames (Fields.get others "idents") with
    | error fault => rw [hread, hidents] at h; cases h
    | ok names =>
      cases hignored : Schema.readNames (ignoredField others) with
      | error fault => rw [hread, hidents, hignored] at h; cases h
      | ok left =>
        rw [hread, hidents, hignored] at h
        cases h
        rfl

/-- A spelling differs from another in how it adds the rules that were read, and in nothing else. -/
theorem ofJson_withRules (combine : Rule → Rule → Rule) (rules : Json)
    (h : Schema.readRules limits rules =
      (Schema.readFields limits table).map fun new => .table (Schema.addAll combine new [])) :
    ofJson limits (withRules rules others) = (readParts limits table others).map fun parts =>
      ⟨.table (Schema.addAll combine parts.1 []), parts.2.1, parts.2.2⟩ := by
  have hfields : ofJson limits (withRules rules others) =
      Schema.readRules limits rules >>= fun rules =>
        Schema.readNames (Fields.get others "idents") >>= fun idents =>
          Schema.readNames (ignoredField others) >>= fun ignored =>
            pure (⟨rules, idents, ignored⟩ : Index) := rfl
  rw [hfields, h, readParts]
  cases Schema.readFields limits table with
  | error fault => rfl
  | ok new =>
    cases Schema.readNames (Fields.get others "idents") with
    | error fault => rfl
    | ok idents => cases Schema.readNames (ignoredField others) <;> rfl

theorem ofJson_tabled :
    ofJson limits (withRules (.object table) others) = (readParts limits table others).map fun parts =>
      ⟨.table (Schema.addAll (fun _ later => later) parts.1 []), parts.2.1, parts.2.2⟩ := by
  apply ofJson_withRules
  rw [Schema.readRules, Schema.readTable_eq_addAll]
  cases Schema.readFields limits table <;> rfl

theorem ofJson_listed :
    ofJson limits (withRules (.list (Schema.spelledOut table)) others) =
      (readParts limits table others).map fun parts =>
        ⟨.table (Schema.addAll Rule.joinedWith parts.1 []), parts.2.1, parts.2.2⟩ := by
  apply ofJson_withRules
  rw [Schema.readRules, Schema.readEntries_eq_addAll]
  cases Schema.readFields limits table <;> rfl

end Parts

def agesTable (first second : Text) : Fields :=
  [(first, .list [.text "user/name"]), (second, .list [.text "user/age"])]

theorem inputsNamed_swapped :
    Schema.inputsNamed "app/id user/id" = Schema.inputsNamed "user/id app/id" := by
  have hwords : Text.words "user/id app/id" = (Text.words "app/id user/id").reverse := by decide +kernel
  apply Rule.inputSet_eq_of_mem_iff
  intro input
  rw [hwords, List.mem_reverse]

end Index

end QueryHints
