import QueryHints.Proofs.CompletionTotality
import QueryHints.Proofs.RegroupedEntries
import QueryHints.Proofs.ShownValues

namespace QueryHints

open Json (Fields)

def IndexFault.isShape : IndexFault → Bool
  | .notObject _ | .entryNotObject | .notCollection _ | .nested _ => true
  | .tooDeep | .unshown _ => false

theorem IndexFault.fault_eq_value_iff (fault : IndexFault) :
    fault.fault = .value ↔ fault.isShape = true ∨ fault = .unshown .unwritable := by
  rcases fault with - | - | - | - | - | (- | - | -) <;> simp [IndexFault.fault, Json.ShowFault.fault, isShape]

theorem IndexFault.isShape_of_depth (fault : IndexFault) (h : fault.fault = .depth) : fault.isShape = false := by
  cases hshape : fault.isShape with
  | false => rfl
  | true =>
    rw [fault.fault_eq_value_iff.mpr (Or.inl hshape)] at h
    cases h

/-- How a reader ends. It gives a result, or refuses a malformed value, or comes to a limit before it meets anything
malformed. -/
inductive Ends {α : Type} (malformed : Prop) (stops : IndexFault → Prop) : Except IndexFault α → Prop
  | read (a : α) (fit : ¬ malformed) (free : ∀ fault, ¬ stops fault) : Ends malformed stops (.ok a)
  | refused (fault : IndexFault) (shape : fault.isShape = true) (unfit : malformed)
      (free : ∀ other, ¬ stops other) : Ends malformed stops (.error fault)
  | stopped (fault : IndexFault) (limit : fault.isShape = false) (met : stops fault)
      (only : ∀ other, stops other → other = fault) : Ends malformed stops (.error fault)

namespace Ends

variable {α β : Type} {malformed : Prop} {stops : IndexFault → Prop} {result : Except IndexFault α}

theorem congr {malformed' : Prop} {stops' : IndexFault → Prop} (h : Ends malformed stops result)
    (hmalformed : malformed ↔ malformed') (hstops : ∀ fault, stops fault ↔ stops' fault) :
    Ends malformed' stops' result := by
  obtain rfl := propext hmalformed
  obtain rfl := funext fun fault => propext (hstops fault)
  exact h

/-- A reader that only looks for what stops it. -/
theorem of_found (a : α) (found : Option IndexFault) (hstops : ∀ fault, stops fault ↔ found = some fault)
    (hlimit : ∀ fault, stops fault → fault.isShape = false) :
    Ends False stops (match found with | some fault => .error fault | none => .ok a) := by
  cases hfound : found with
  | none => exact .read a id fun fault h => by simp [(hstops fault).mp h] at hfound
  | some fault =>
    have hmet := (hstops fault).mpr hfound
    exact .stopped fault (hlimit fault hmet) hmet fun other h =>
      Option.some.inj (((hstops other).mp h).symm.trans hfound)

/-- The second reader only matters where the first comes to its end. -/
theorem bind {malformed' : Prop} {stops' : IndexFault → Prop} {next : α → Except IndexFault β}
    (h : Ends malformed stops result) (hnext : ∀ a, Ends malformed' stops' (next a)) :
    Ends (malformed ∨ malformed')
      (fun fault => stops fault ∨ (¬ malformed ∧ ∀ other, ¬ stops other) ∧ stops' fault)
      (result >>= next) := by
  cases h with
  | read a fit free =>
    apply (hnext a).congr
    · simp [fit]
    · simp [fit, free]
  | refused fault shape unfit free =>
    apply Ends.refused fault shape (Or.inl unfit)
    rintro other (hstop | ⟨⟨hfit, -⟩, -⟩)
    · exact free other hstop
    · exact hfit unfit
  | stopped fault limit met only =>
    apply Ends.stopped fault limit (Or.inl met)
    rintro other (hstop | ⟨⟨-, hfree⟩, -⟩)
    · exact only other hstop
    · exact absurd met (hfree fault)

theorem map (f : α → β) (h : Ends malformed stops result) : Ends malformed stops (result.map f) := by
  cases h with
  | read a fit free => exact .read (f a) fit free
  | refused fault shape unfit free => exact .refused fault shape unfit free
  | stopped fault limit met only => exact .stopped fault limit met only

section Outcomes

variable (h : Ends malformed stops result)

include h

/-- There is a result if and only if nothing is malformed and no limit is met. -/
theorem exists_ok_iff : (∃ a, result = .ok a) ↔ ¬ malformed ∧ ∀ fault, ¬ stops fault := by
  cases h with
  | read a fit free => simp [fit, free]
  | refused fault shape unfit free => simp [unfit]
  | stopped fault limit met only =>
    simp only [reduceCtorEq, exists_false, false_iff]
    exact fun hfree => hfree.2 fault met

theorem eq_error_iff (fault : IndexFault) (hlimit : fault.isShape = false) :
    result = .error fault ↔ stops fault := by
  cases h with
  | read a fit free => simp [free]
  | refused other shape unfit free =>
    simp only [Except.error.injEq, free, iff_false]
    rintro rfl
    simp [shape] at hlimit
  | stopped other limit met only =>
    rw [Except.error.injEq]
    constructor
    · rintro rfl
      exact met
    · exact fun hstop => (only fault hstop).symm

theorem exists_shape_iff :
    (∃ fault, result = .error fault ∧ fault.isShape = true) ↔ malformed ∧ ∀ fault, ¬ stops fault := by
  cases h with
  | read a fit free => simp [fit]
  | refused fault shape unfit free => simp [shape, unfit, free]
  | stopped fault limit met only =>
    simp only [Except.error.injEq, exists_eq_left', limit, Bool.false_eq_true, false_iff]
    exact fun hfree => hfree.2 fault met

theorem exists_value_iff :
    (∃ fault, result = .error fault ∧ fault.fault = .value) ↔
      (malformed ∧ ∀ fault, ¬ stops fault) ∨ stops (.unshown .unwritable) := by
  simp only [IndexFault.fault_eq_value_iff, and_or_left, exists_or, h.exists_shape_iff]
  simp only [exists_eq_right, h.eq_error_iff (.unshown .unwritable) rfl]

end Outcomes

end Ends

namespace Json

/-- A value that lists nothing although it is not void: true, or a number other than zero. -/
def isUnlisted : Json → Bool
  | bool b => b
  | int n => n != 0
  | real x => !x.isZero
  | null | text _ | list _ | object _ => false

def isCollection : Json → Bool
  | list _ | object _ => true
  | null | bool _ | int _ | real _ | text _ => false

/-- A value that cannot be a set of names: it lists nothing, or it lists a collection. -/
def Nameless (v : Json) : Prop :=
  v.isUnlisted = true ∨ ∃ items, v = .list items ∧ ∃ item ∈ items, item.isCollection = true

theorem not_nameless_null : ¬ Nameless .null := by
  rintro (hunlisted | ⟨items, hitems, -⟩)
  · cases hunlisted
  · cases hitems

end Json

namespace Schema

def EntryMalformed : Json → Prop
  | .object entry => (Fields.get entry "inputs").isUnlisted = true
  | _ => True

def RulesMalformed (v : Json) : Prop :=
  ∃ entries, v = .list entries ∧ ∃ entry ∈ entries, EntryMalformed entry

def ItemsStop (room : Nat) (items : List Json) (fault : IndexFault) : Prop :=
  ∃ before item after shown, items = before ++ item :: after ∧ (∀ earlier ∈ before, earlier.Showable room) ∧
    item.showFault? room = some shown ∧ fault = .unshown shown

/-- Outputs with no more levels than there are rooms, in which the items of all lists can be shown. -/
def Fits : List Nat → Json → Prop
  | [], _ => False
  | room :: deeper, v =>
    (∀ fields, v = .object fields → ∀ field ∈ fields, Fits deeper field.2) ∧
      ∀ items, v = .list items → ∀ item ∈ items, item.Showable room

inductive OutputsStop : List Nat → Json → IndexFault → Prop
  | level (v : Json) : OutputsStop [] v .tooDeep
  | item (room : Nat) (deeper : List Nat) (items : List Json) (fault : IndexFault)
      (h : ItemsStop room items fault) : OutputsStop (room :: deeper) (.list items) fault
  | field (room : Nat) (deeper : List Nat) (before after : Fields) (name : Text) (v : Json) (fault : IndexFault)
      (earlier : ∀ field ∈ before, Fits deeper field.2) (h : OutputsStop deeper v fault) :
      OutputsStop (room :: deeper) (.object (before ++ (name, v) :: after)) fault

section Stopping

variable (limits : Limits)

def InputsWithin (v : Json) : Prop :=
  ∀ items, v = .list items → ∀ item ∈ items, item.Showable limits.inputs

def InputsStop (v : Json) (fault : IndexFault) : Prop :=
  ∃ items, v = .list items ∧ ItemsStop limits.inputs items fault

def EntryWithin : Json → Prop
  | .object entry => InputsWithin limits (Fields.get entry "inputs") ∧
      Fits limits.outputs (Fields.get entry "outputs")
  | _ => True

def EntryStops : Json → IndexFault → Prop
  | .object entry, fault => InputsStop limits (Fields.get entry "inputs") fault ∨
      ((Fields.get entry "inputs").isUnlisted = false ∧ InputsWithin limits (Fields.get entry "inputs")) ∧
        OutputsStop limits.outputs (Fields.get entry "outputs") fault
  | _, _ => False

/-- The first entry that stops the reader, with nothing malformed before it. -/
def EntriesStop (entries : List Json) (fault : IndexFault) : Prop :=
  ∃ before entry after, entries = before ++ entry :: after ∧
    (∀ earlier ∈ before, ¬ EntryMalformed earlier ∧ EntryWithin limits earlier) ∧ EntryStops limits entry fault

def TableStops (table : Fields) (fault : IndexFault) : Prop :=
  ∃ before field after, table = before ++ field :: after ∧
    (∀ earlier ∈ before, Fits limits.outputs earlier.2) ∧ OutputsStop limits.outputs field.2 fault

def RulesWithin : Json → Prop
  | .list entries => ∀ entry ∈ entries, EntryWithin limits entry
  | .object table => ∀ field ∈ table, Fits limits.outputs field.2
  | _ => True

def RulesStop : Json → IndexFault → Prop
  | .list entries, fault => EntriesStop limits entries fault
  | .object table, fault => TableStops limits table fault
  | _, _ => False

end Stopping

section Fitting

theorem itemsStop_iff (room : Nat) (items : List Json) (fault : IndexFault) :
    ItemsStop room items fault ↔ (items.findSome? (Json.showFault? room)).map .unshown = some fault := by
  simp only [Option.map_eq_some_iff, List.findSome?_eq_some_iff, Json.showFault?_eq_none_iff, ItemsStop]
  constructor
  · rintro ⟨before, item, after, shown, hitems, hbefore, hitem, rfl⟩
    exact ⟨shown, ⟨before, item, after, hitems, hitem, hbefore⟩, rfl⟩
  · rintro ⟨shown, ⟨before, item, after, hitems, hitem, hbefore⟩, rfl⟩
    exact ⟨before, item, after, shown, hitems, hbefore, hitem, rfl⟩

theorem not_itemsStop_iff (room : Nat) (items : List Json) :
    (∀ fault, ¬ ItemsStop room items fault) ↔ ∀ item ∈ items, item.Showable room := by
  simp only [itemsStop_iff, ← Option.eq_none_iff_forall_ne_some, Option.map_eq_none_iff,
    List.findSome?_eq_none_iff, Json.showFault?_eq_none_iff]

theorem outputsFaultAmong?_eq (rooms : List Nat) (fields : Fields) :
    outputsFaultAmong? rooms fields = fields.findSome? fun field => outputsFault? rooms field.2 := by
  induction fields with
  | nil => rw [outputsFaultAmong?]; rfl
  | cons field rest ih =>
    obtain ⟨name, v⟩ := field
    rw [outputsFaultAmong?, ih, List.findSome?_cons]
    cases outputsFault? rooms v <;> rfl

theorem outputsFault?_eq_none_iff (rooms : List Nat) (v : Json) : outputsFault? rooms v = none ↔ Fits rooms v := by
  induction rooms generalizing v with
  | nil => simp [outputsFault?, Fits]
  | cons room deeper ih =>
    cases v with
    | object fields => simp [outputsFault?, outputsFaultAmong?_eq, List.findSome?_eq_none_iff, ih, Fits]
    | list items => simp [outputsFault?, List.findSome?_eq_none_iff, Json.showFault?_eq_none_iff, Fits]
    | null | bool _ | int _ | real _ | text _ => simp [outputsFault?, Fits]

/-- Looking through outputs finds the first place where they do not fit. -/
theorem outputsFault?_eq_some_iff (rooms : List Nat) (v : Json) (fault : IndexFault) :
    outputsFault? rooms v = some fault ↔ OutputsStop rooms v fault := by
  induction rooms generalizing v with
  | nil =>
    rw [outputsFault?]
    constructor
    · rintro ⟨⟩
      exact .level v
    · rintro ⟨⟩
      rfl
  | cons room deeper ih =>
    cases v with
    | list items =>
      rw [outputsFault?, ← itemsStop_iff]
      constructor
      · exact .item room deeper items fault
      · rintro ⟨⟩
        assumption
    | object fields =>
      simp only [outputsFault?, outputsFaultAmong?_eq, List.findSome?_eq_some_iff, ih, outputsFault?_eq_none_iff]
      constructor
      · rintro ⟨before, ⟨name, v⟩, after, rfl, hfield, hbefore⟩
        exact .field room deeper before after name v fault hbefore hfield
      · intro h
        cases h with
        | field _ _ before after name v _ earlier hfield => exact ⟨before, (name, v), after, rfl, hfield, earlier⟩
    | null | bool _ | int _ | real _ | text _ =>
      simp only [outputsFault?, reduceCtorEq, false_iff]
      rintro ⟨⟩

theorem not_outputsStop_iff (rooms : List Nat) (v : Json) :
    (∀ fault, ¬ OutputsStop rooms v fault) ↔ Fits rooms v := by
  simp only [← outputsFault?_eq_some_iff, ← Option.eq_none_iff_forall_ne_some, outputsFault?_eq_none_iff]

theorem OutputsStop.isShape {rooms : List Nat} {v : Json} {fault : IndexFault} (h : OutputsStop rooms v fault) :
    fault.isShape = false := by
  induction h with
  | level v => rfl
  | item room deeper items fault hitem =>
    obtain ⟨_, _, _, _, _, _, _, rfl⟩ := hitem
    rfl
  | field _ _ _ _ _ _ _ _ _ ih => exact ih

section Within

variable (limits : Limits)

theorem not_inputsStop_iff (v : Json) : (∀ fault, ¬ InputsStop limits v fault) ↔ InputsWithin limits v := by
  simp only [InputsStop, InputsWithin, ← not_itemsStop_iff]
  constructor
  · exact fun h items hitems fault hstop => h fault ⟨items, hitems, hstop⟩
  · rintro h fault ⟨items, hitems, hstop⟩
    exact h items hitems fault hstop

/-- An entry that is not malformed lets the reader pass exactly if it is within the limits. -/
theorem not_entryStops_iff (entry : Json) (hfit : ¬ EntryMalformed entry) :
    (∀ fault, ¬ EntryStops limits entry fault) ↔ EntryWithin limits entry := by
  cases entry with
  | object entry =>
    have hlisted : (Fields.get entry "inputs").isUnlisted = false := by simpa [EntryMalformed] using hfit
    simp only [EntryStops, EntryWithin, hlisted, true_and, not_or, forall_and, not_inputsStop_iff,
      ← not_outputsStop_iff]
    constructor
    · exact fun h => ⟨h.1, fun fault hstop => h.2 fault ⟨h.1, hstop⟩⟩
    · exact fun h => ⟨h.1, fun fault hstop => h.2 fault hstop.2⟩
  | null | bool _ | int _ | real _ | text _ | list _ => exact absurd trivial hfit

theorem not_entryStops_of_within (entry : Json) (h : EntryWithin limits entry) (fault : IndexFault) :
    ¬ EntryStops limits entry fault := by
  cases entry with
  | object entry =>
    rintro (hinputs | ⟨-, houtputs⟩)
    · exact (not_inputsStop_iff limits _).mpr h.1 fault hinputs
    · exact (not_outputsStop_iff limits.outputs _).mpr h.2 fault houtputs
  | null | bool _ | int _ | real _ | text _ | list _ => exact id

theorem entriesStop_cons (entry : Json) (rest : List Json) (fault : IndexFault) :
    EntriesStop limits (entry :: rest) fault ↔ EntryStops limits entry fault ∨
      (¬ EntryMalformed entry ∧ EntryWithin limits entry) ∧ EntriesStop limits rest fault := by
  constructor
  · rintro ⟨before, stopping, after, he, hbefore, hstop⟩
    cases before with
    | nil =>
      obtain ⟨rfl, -⟩ := List.cons.inj he
      exact Or.inl hstop
    | cons first before =>
      obtain ⟨rfl, hrest⟩ := List.cons.inj he
      obtain ⟨hfirst, hothers⟩ := List.forall_mem_cons.mp hbefore
      exact Or.inr ⟨hfirst, before, stopping, after, hrest, hothers, hstop⟩
  · rintro (hstop | ⟨hfirst, before, stopping, after, rfl, hbefore, hstop⟩)
    · exact ⟨[], entry, rest, rfl, nofun, hstop⟩
    · exact ⟨entry :: before, stopping, after, rfl, List.forall_mem_cons.mpr ⟨hfirst, hbefore⟩, hstop⟩

theorem not_entriesStop_of_within (entries : List Json) (h : ∀ entry ∈ entries, EntryWithin limits entry)
    (fault : IndexFault) : ¬ EntriesStop limits entries fault := by
  rintro ⟨before, entry, after, rfl, -, hstop⟩
  exact not_entryStops_of_within limits entry (h entry (by simp)) fault hstop

theorem entriesWithin_of_not_stop (entries : List Json) (hfit : ∀ entry ∈ entries, ¬ EntryMalformed entry)
    (hfree : ∀ fault, ¬ EntriesStop limits entries fault) : ∀ entry ∈ entries, EntryWithin limits entry := by
  induction entries with
  | nil => exact nofun
  | cons entry rest ih =>
    obtain ⟨hentry, hrest⟩ := List.forall_mem_cons.mp hfit
    have hwithin : EntryWithin limits entry := (not_entryStops_iff limits entry hentry).mp fun fault hstop =>
      hfree fault ((entriesStop_cons limits entry rest fault).mpr (Or.inl hstop))
    have hothers := ih hrest fun fault hstop =>
      hfree fault ((entriesStop_cons limits entry rest fault).mpr (Or.inr ⟨⟨hentry, hwithin⟩, hstop⟩))
    exact List.forall_mem_cons.mpr ⟨hwithin, hothers⟩

theorem tableStops_iff (table : Fields) (fault : IndexFault) :
    TableStops limits table fault ↔
      table.findSome? (fun field => outputsFault? limits.outputs field.2) = some fault := by
  simp only [List.findSome?_eq_some_iff, outputsFault?_eq_some_iff, outputsFault?_eq_none_iff, TableStops,
    and_comm]

theorem not_tableStops_iff (table : Fields) :
    (∀ fault, ¬ TableStops limits table fault) ↔ ∀ field ∈ table, Fits limits.outputs field.2 := by
  simp only [tableStops_iff, ← Option.eq_none_iff_forall_ne_some, List.findSome?_eq_none_iff,
    outputsFault?_eq_none_iff]

theorem not_rulesStop_of_within (v : Json) (h : RulesWithin limits v) (fault : IndexFault) :
    ¬ RulesStop limits v fault := by
  cases v with
  | list entries => exact not_entriesStop_of_within limits entries h fault
  | object table => exact (not_tableStops_iff limits table).mpr h fault
  | null | bool _ | int _ | real _ | text _ => exact id

/-- Where nothing is malformed, rules are within the limits exactly if nothing stops their reader. -/
theorem not_rulesStop_iff (v : Json) (hfit : ¬ RulesMalformed v) :
    (∀ fault, ¬ RulesStop limits v fault) ↔ RulesWithin limits v := by
  refine ⟨fun hfree => ?_, not_rulesStop_of_within limits v⟩
  cases v with
  | list entries =>
    have hfits : ∀ entry ∈ entries, ¬ EntryMalformed entry :=
      fun entry hentry hmalformed => hfit ⟨entries, rfl, entry, hentry, hmalformed⟩
    exact entriesWithin_of_not_stop limits entries hfits hfree
  | object table => exact (not_tableStops_iff limits table).mp hfree
  | null | bool _ | int _ | real _ | text _ => trivial

end Within

end Fitting

section Reading

variable (limits : Limits)

theorem readInputs_of_isUnlisted (v : Json) (h : v.isUnlisted = true) :
    readInputs limits v = .error (.notCollection v.kind) := by
  cases v <;> simp_all [Json.isUnlisted, readInputs, Json.isVoid]

theorem readNames_of_isUnlisted (v : Json) (h : v.isUnlisted = true) :
    readNames v = .error (.notCollection v.kind) := by
  cases v <;> simp_all [Json.isUnlisted, readNames, Json.isVoid]

/-- A list without items is void, and reading its items comes to the same. -/
theorem readInputs_list (items : List Json) :
    readInputs limits (.list items) = match (items.findSome? (Json.showFault? limits.inputs)).map .unshown with
      | some fault => .error fault
      | none => .ok (items.map Json.shown) := by
  cases items with
  | nil => rfl
  | cons item rest =>
    rw [readInputs, if_neg (by simp [Json.isVoid])]
    cases hfound : (item :: rest).findSome? (Json.showFault? limits.inputs) with
    | none => simp only [Json.showAll?, hfound]; rfl
    | some fault => simp only [Json.showAll?, hfound]; rfl

theorem ends_readInputs (v : Json) :
    Ends (v.isUnlisted = true) (InputsStop limits v) (readInputs limits v) := by
  by_cases hlist : ∃ items, v = .list items
  · obtain ⟨items, rfl⟩ := hlist
    rw [readInputs_list]
    refine (Ends.of_found _ _ (itemsStop_iff limits.inputs items) ?_).congr ?_ ?_
    · rintro fault ⟨_, _, _, _, _, _, _, rfl⟩
      rfl
    · simp [Json.isUnlisted]
    · simp [InputsStop]
  · have hfree (fault : IndexFault) : ¬ InputsStop limits v fault := fun ⟨items, hitems, _⟩ => hlist ⟨items, hitems⟩
    cases hv : v.isUnlisted with
    | true =>
      rw [readInputs_of_isUnlisted limits v hv]
      exact .refused _ rfl rfl hfree
    | false =>
      have hread : ∃ inputs, readInputs limits v = .ok inputs := by
        unfold readInputs
        split_ifs with hvoid
        · exact ⟨[], rfl⟩
        · cases v <;> simp_all [Json.isUnlisted, Json.isVoid]
      obtain ⟨inputs, hread⟩ := hread
      rw [hread]
      exact .read inputs (by simp) hfree

theorem ends_readNameList (items : List Json) :
    Ends (∃ item ∈ items, item.isCollection = true) (fun _ => False) (readNameList items) := by
  induction items with
  | nil => exact .read [] (by simp) fun _ => id
  | cons item rest ih =>
    rw [readNameList]
    cases hitem : Name.ofJson? item with
    | none =>
      have hcollection : item.isCollection = true := by
        cases item <;> simp_all [Name.ofJson?, Json.isCollection]
      exact .refused _ rfl ⟨item, by simp, hcollection⟩ fun _ => id
    | some name =>
      have hplain : item.isCollection = false := by
        cases item <;> simp_all [Name.ofJson?, Json.isCollection]
      apply (ih.map _).congr
      · simp [hplain]
      · simp

/-- Names are kept as they are given, so reading them meets no limit. -/
theorem ends_readNames (v : Json) : Ends v.Nameless (fun _ => False) (readNames v) := by
  cases hv : v.isUnlisted with
  | true =>
    rw [readNames_of_isUnlisted v hv]
    exact .refused _ rfl (Or.inl hv) fun _ => id
  | false =>
    by_cases hlist : ∃ items, v = .list items
    · obtain ⟨items, rfl⟩ := hlist
      have hread : readNames (.list items) = (readNameList items).map Names.ofList := by
        cases items <;> rfl
      rw [hread]
      apply ((ends_readNameList items).map _).congr
      · simp [Json.Nameless, hv]
      · simp
    · have hread : ∃ names, readNames v = .ok names := by
        unfold readNames
        split_ifs with hvoid
        · exact ⟨[], rfl⟩
        · cases v <;> simp_all [Json.isUnlisted, Json.isVoid]
      obtain ⟨names, hread⟩ := hread
      rw [hread]
      apply Ends.read names ?_ fun _ => id
      rintro (hunlisted | ⟨items, hitems, -⟩)
      · simp [hv] at hunlisted
      · exact hlist ⟨items, hitems⟩

theorem ends_readRule (inputs : List Text) (v : Json) :
    Ends False (OutputsStop limits.outputs v) (readRule limits inputs v) :=
  Ends.of_found _ _ (fun fault => (outputsFault?_eq_some_iff limits.outputs v fault).symm) fun _ => OutputsStop.isShape

theorem readEntries_object (rules : List Rule) (entry : Fields) (rest : List Json) :
    readEntries limits rules (.object entry :: rest) = (do
      let inputs ← readInputs limits (Fields.get entry "inputs")
      let rule ← readRule limits inputs (Fields.get entry "outputs")
      readEntries limits (addRule Rule.joinedWith rule rules) rest) := by
  rw [readEntries]
  cases hi : readInputs limits (Fields.get entry "inputs") with
  | error fault => rfl
  | ok inputs =>
    cases hr : readRule limits inputs (Fields.get entry "outputs") with
    | error fault => simp [bind, Except.bind, hr]
    | ok rule => simp [bind, Except.bind, hr]

/-- Entries are read one by one, so a malformed one hides the limits that entries behind it would meet. -/
theorem ends_readEntries (entries : List Json) (rules : List Rule) :
    Ends (∃ entry ∈ entries, EntryMalformed entry) (EntriesStop limits entries)
      (readEntries limits rules entries) := by
  induction entries generalizing rules with
  | nil => exact .read rules (by simp) (by simp [EntriesStop])
  | cons first rest ih =>
    cases first with
    | object entry =>
      have hfirst := (ends_readInputs limits (Fields.get entry "inputs")).bind fun inputs =>
        (ends_readRule limits inputs (Fields.get entry "outputs")).bind fun rule =>
          ih (addRule Rule.joinedWith rule rules)
      rw [readEntries_object]
      apply hfirst.congr
      · simp [EntryMalformed]
      · intro fault
        simp only [entriesStop_cons, EntryMalformed, EntryStops, EntryWithin, not_inputsStop_iff,
          not_outputsStop_iff, Bool.not_eq_true, not_false_eq_true, true_and]
        tauto
    | null | bool _ | int _ | real _ | text _ | list _ =>
      apply Ends.refused .entryNotObject rfl ⟨_, List.mem_cons_self, trivial⟩
      intro fault hstop
      rcases (entriesStop_cons limits _ rest fault).mp hstop with hstop | ⟨hfirst, -⟩
      · exact hstop
      · exact hfirst.1 trivial

theorem readTable_cons (rules : List Rule) (inputs : Text) (v : Json) (rest : Fields) :
    readTable limits rules ((inputs, v) :: rest) = (do
      let rule ← readRule limits (Text.words inputs) v
      readTable limits (addRule (fun _ later => later) rule rules) rest) := by
  rw [readTable]
  cases hr : readRule limits (Text.words inputs) v <;> rfl

theorem tableStops_cons (name : Text) (v : Json) (rest : Fields) (fault : IndexFault) :
    TableStops limits ((name, v) :: rest) fault ↔ OutputsStop limits.outputs v fault ∨
      Fits limits.outputs v ∧ TableStops limits rest fault := by
  simp only [tableStops_iff, List.findSome?_cons, ← outputsFault?_eq_some_iff, ← outputsFault?_eq_none_iff]
  cases outputsFault? limits.outputs v <;> simp

/-- Any text names inputs and any value has outputs, so a table cannot be malformed. -/
theorem ends_readTable (table : Fields) (rules : List Rule) :
    Ends False (TableStops limits table) (readTable limits rules table) := by
  induction table generalizing rules with
  | nil => exact .read rules id (by simp [TableStops])
  | cons field rest ih =>
    obtain ⟨name, v⟩ := field
    rw [readTable_cons]
    apply ((ends_readRule limits _ v).bind fun rule => ih _).congr
    · simp
    · simp [tableStops_cons, not_outputsStop_iff]

theorem ends_readRules (v : Json) : Ends (RulesMalformed v) (RulesStop limits v) (readRules limits v) := by
  cases v with
  | list entries =>
    apply ((ends_readEntries limits entries []).map _).congr
    · simp [RulesMalformed]
    · exact fun fault => Iff.rfl
  | object table =>
    apply ((ends_readTable limits table []).map _).congr
    · simp [RulesMalformed]
    · exact fun fault => Iff.rfl
  | null | bool _ | int _ | real _ | text _ => exact .read _ (by simp [RulesMalformed]) fun _ => id

end Reading

end Schema

namespace Index

/-- A value that cannot be an index: it is no object, or its rules, its idents or its ignored names are
malformed. -/
def Malformed : Json → Prop
  | .object fields => Schema.RulesMalformed (rulesField fields) ∨ (Fields.get fields "idents").Nameless ∨
      (ignoredField fields).Nameless
  | _ => True

section Reading

variable (limits : Limits)

def Within : Json → Prop
  | .object fields => Schema.RulesWithin limits (rulesField fields)
  | _ => True

def Stops : Json → IndexFault → Prop
  | .object fields, fault => Schema.RulesStop limits (rulesField fields) fault
  | _, _ => False

theorem not_stops_of_within (v : Json) (h : Within limits v) (fault : IndexFault) : ¬ Stops limits v fault := by
  cases v with
  | object fields => exact Schema.not_rulesStop_of_within limits _ h fault
  | null | bool _ | int _ | real _ | text _ | list _ => exact id

theorem not_stops_iff (v : Json) (hfit : ¬ Malformed v) :
    (∀ fault, ¬ Stops limits v fault) ↔ Within limits v := by
  cases v with
  | object fields => exact Schema.not_rulesStop_iff limits _ fun hmalformed => hfit (Or.inl hmalformed)
  | null | bool _ | int _ | real _ | text _ | list _ => exact absurd trivial hfit

theorem ends_ofJson (v : Json) : Ends (Malformed v) (Stops limits v) (ofJson limits v) := by
  cases v with
  | object fields =>
    have hignored (rules : Rules) (idents : Names) := (Schema.ends_readNames (ignoredField fields)).bind
      fun ignored => Ends.read (Index.mk rules idents ignored) id fun _ => id
    have hidents (rules : Rules) := (Schema.ends_readNames (Fields.get fields "idents")).bind (hignored rules)
    apply ((Schema.ends_readRules limits (rulesField fields)).bind hidents).congr
    · simp [Malformed]
    · simp [Stops]
  | null | bool _ | int _ | real _ | text _ | list _ => exact .refused _ rfl trivial fun _ => id

end Reading

section Adapting

variable (limits : Limits) (v : Json)

theorem adapt_eq_some_iff (index : Index) :
    adapt limits v = .ok (some index) ↔ ofJson limits v = .ok index := by
  unfold adapt
  cases ofJson limits v with
  | ok index => simp
  | error fault => by_cases h : fault.fault = .depth <;> simp [h]

/-- That a value is too deep is passed on, and is not taken to mean that it is no index. -/
theorem adapt_eq_error_iff (fault : IndexFault) :
    adapt limits v = .error fault ↔ ofJson limits v = .error fault ∧ fault.fault = .depth := by
  unfold adapt
  cases ofJson limits v with
  | ok index => simp
  | error other =>
    by_cases h : other.fault = .depth
    · simp only [h, if_true, Except.error.injEq, iff_self_and]
      rintro rfl
      exact h
    · simp only [h, if_false, reduceCtorEq, Except.error.injEq, false_iff]
      rintro ⟨rfl, hdepth⟩
      exact h hdepth

theorem adapt_eq_none_iff :
    adapt limits v = .ok none ↔ ∃ fault, ofJson limits v = .error fault ∧ fault.fault = .value := by
  unfold adapt
  cases ofJson limits v with
  | ok index => simp
  | error fault => rcases fault with - | - | - | - | - | (- | - | -) <;> simp [IndexFault.fault, Json.ShowFault.fault]

end Adapting

/-- An index has rules to work with if they were given as a collection. -/
theorem isWellFormed_of_ofJson (limits : Limits) (fields : Fields) (index : Index)
    (h : ofJson limits (.object fields) = .ok index) :
    index.isWellFormed = (rulesField fields).isCollection := by
  have hread := (ofJson_eq_ok limits fields index h).1
  unfold isWellFormed
  cases hrules : rulesField fields with
  | list entries =>
    obtain ⟨rules, htable, -⟩ := rules_of_list limits fields index h entries hrules
    rw [htable]
    rfl
  | object table =>
    rw [hrules, Schema.readRules] at hread
    cases htable : Schema.readTable limits [] table with
    | error fault => rw [htable] at hread; cases hread
    | ok rules =>
      rw [htable] at hread
      rw [← Except.ok.inj hread]
      rfl
  | null | bool _ | int _ | real _ | text _ =>
    simp only [hrules, Schema.readRules, Except.ok.injEq] at hread
    rw [← hread]
    rfl

end Index

section WithoutRules

variable (subject : Subject) (source : Source) (hs : subject.source = .ok (some source))
variable (hw : source.index.isWellFormed = false) (earlier : List Path) (cache : Option Cache)

include hs hw

theorem discover_without_rules (context : Option Context) :
    discover subject earlier context cache = .ok (.nothing cache) := by
  cases context with
  | none => rfl
  | some context =>
    rw [discover, hs, ← source.discover_malformed subject.owner earlier context hw cache]
    rfl

/-- A subject without rules to work with completes nothing, once the limit is accepted. -/
theorem complete_without_rules (query : Query) (limit : Json) (bound : Limit)
    (hl : Limit.ofJson limit = .ok bound) :
    complete subject earlier query limit cache = ⟨.ok none, .nothing cache⟩ := by
  have hnothing (context : Context) := source.discover_malformed subject.owner earlier context hw cache
  simp only [complete, hl, hs, hnothing]
  cases Context.ofToken? source.index query.token <;> rfl

end WithoutRules

namespace Index

def nested : Nat → Json
  | 0 => .object []
  | n + 1 => .object [("a", nested n)]

def nestedIndex (n : Nat) : Json :=
  .object [("index-io", .list [.object [("outputs", nested n)]])]

/-- Outputs that are nested as deep as there are rooms come to the limit of levels. -/
theorem nested_stops (rooms : List Nat) (n : Nat) (h : rooms.length ≤ n) :
    Schema.OutputsStop rooms (nested n) .tooDeep := by
  induction rooms generalizing n with
  | nil => exact .level (nested n)
  | cons room deeper ih =>
    cases n with
    | zero => simp at h
    | succ n => exact .field room deeper [] [] "a" (nested n) .tooDeep nofun (ih n (Nat.le_of_succ_le_succ h))

theorem not_malformed_nestedIndex (n : Nat) : ¬ Malformed (nestedIndex n) := by
  rintro (⟨entries, hentries, entry, hentry, hmalformed⟩ | hidents | hignored)
  · cases hentries
    rw [List.mem_singleton.mp hentry] at hmalformed
    cases hmalformed
  · exact Json.not_nameless_null hidents
  · exact Json.not_nameless_null hignored

theorem nestedIndex_stops (limits : Limits) (n : Nat) (h : limits.outputs.length ≤ n) :
    Stops limits (nestedIndex n) .tooDeep := by
  have hinputs : Schema.InputsWithin limits .null := nofun
  exact ⟨[], _, [], rfl, nofun, Or.inr ⟨⟨rfl, hinputs⟩, nested_stops limits.outputs n h⟩⟩

def numberedFields : Fields :=
  [("index-io", .int 5), ("idents", .list [.text "user/id"])]

end Index

end QueryHints
