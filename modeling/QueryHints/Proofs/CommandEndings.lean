import QueryHints.Proofs.CompletionTotality
import QueryHints.Proofs.PrintedAnswers
import QueryHints.Proofs.TokenFaults

namespace QueryHints

namespace Files

variable (limits : Limits)

/-- Reading a file fails in a way that the user is told about, or because a collection is nested too deep. -/
theorem class_of_readJson (files : Lookup) (path : String) (fault : LoadFault)
    (h : readJson limits files path = .error fault) :
    isReportable fault.fault = true ∨ ∃ nest, fault = .tooDeep nest := by
  unfold readJson at h
  split at h
  · cases h
    exact Or.inl rfl
  · cases h
    exact Or.inl rfl
  · next octets hfile =>
    unfold parse at h
    split at h
    · cases h
      exact Or.inl rfl
    · dsimp only at h
      split at h
      · cases h
      · cases h
        exact Or.inl rfl
      · next nest hstop =>
        cases h
        exact Or.inr ⟨nest, rfl⟩
      · cases h
        exact Or.inl rfl

/-- An index file is refused for a fault that can be told, or for its depth. -/
theorem class_of_loadIndex (files : Lookup) (path : String) (fault : LoadFault)
    (h : loadIndex limits files path = .error fault) : isReportable fault.fault = true ∨ fault.fault = .depth := by
  unfold loadIndex at h
  split at h
  · next reason hread =>
    cases h
    rcases class_of_readJson limits files path fault hread with hclass | ⟨nest, rfl⟩
    · exact Or.inl hclass
    · exact Or.inr rfl
  · next v hread =>
    obtain ⟨reason, -, rfl⟩ := (mapError_eq_error_iff _ _ _).mp h
    cases reason with
    | tooDeep => exact Or.inr rfl
    | unshown shown =>
      cases shown with
      | unwritable => exact Or.inl rfl
      | nested | crowded => exact Or.inr rfl
    | notObject _ | entryNotObject | notCollection _ | nested _ => exact Or.inl rfl

/-- Of the faults of a token only those of a value can be told. -/
theorem isReportable_token_iff (fault : TokenFault) :
    isReportable fault.fault = true ↔ fault.fault = .value := by
  cases fault with
  | whole reason => cases reason <;> simp [TokenFault.fault, Json.WholeFault.fault, isReportable]
  | unshown shown => cases shown <;> simp [TokenFault.fault, Json.ShowFault.fault, isReportable]
  | notObject | noLength _ | notAddable _ | frameNotObject _ | tooDeep => simp [TokenFault.fault, isReportable]

/-- A token file is refused for a fault that can be told, for its depth, for a misfit of the token, or because
something in the token is too deep. -/
theorem class_of_loadToken (files : Lookup) (path : String) (fault : LoadFault)
    (h : loadToken limits files path = .error fault) :
    isReportable fault.fault = true ∨
      (∃ nest, readJson limits files path = .error (.tooDeep nest) ∧ fault = .tooDeep nest) ∨
      ∃ fields reason, readJson limits files path = .ok (.object fields) ∧
        Token.ofFields limits fields = .error reason ∧ fault = .token reason ∧
        (reason.fault ≠ .value ∧ Token.Misfit fields ∨ reason.fault = .depth ∧ Token.Beyond limits fields) := by
  unfold loadToken at h
  split at h
  · next reason hread =>
    cases h
    rcases class_of_readJson limits files path fault hread with hclass | ⟨nest, rfl⟩
    · exact Or.inl hclass
    · exact Or.inr (Or.inl ⟨nest, hread, rfl⟩)
  · next v hread =>
    obtain ⟨reason, hreason, rfl⟩ := (mapError_eq_error_iff _ _ _).mp h
    cases v with
    | object fields =>
      rcases Token.fault_of_ofFields limits fields reason hreason with
        hvalue | ⟨hkind, hmisfit⟩ | ⟨rfl, v, hconverts, hinfinite⟩ | hbeyond
      · exact Or.inl ((isReportable_token_iff reason).mpr hvalue)
      · have hclass : reason.fault ≠ .value := by simp [hkind]
        exact Or.inr (Or.inr ⟨fields, reason, hread, hreason, rfl, Or.inl ⟨hclass, hmisfit⟩⟩)
      · have hclass : (TokenFault.whole .infinite).fault ≠ .value := nofun
        have hmisfit : Token.Misfit fields := .infinite v hconverts hinfinite
        exact Or.inr (Or.inr ⟨fields, _, hread, hreason, rfl, Or.inl ⟨hclass, hmisfit⟩⟩)
      · exact Or.inr (Or.inr ⟨fields, reason, hread, hreason, rfl, Or.inr hbeyond⟩)
    | null | bool _ | int _ | real _ | text _ | list _ =>
      cases hreason
      exact Or.inl rfl

end Files

namespace CommandLine.Completing

def Settings.Allowed (settings : Settings) : Prop :=
  settings.count = .absent ∨ ∃ n, settings.count = .value n ∧ 1 ≤ n

def Settings.Accepts (settings : Settings) (limits : Limits) (files : Files.Lookup) (index : Index) : Prop :=
  ∃ path, settings.indexPath = .value path ∧ Files.loadIndex limits files path = .ok index

/-- The index file is accepted, and the token is looked for under a path. -/
structure Settings.Reaches (settings : Settings) (limits : Limits) (files : Files.Lookup) (path : String) :
    Prop where
  accepted : ∃ index, settings.Accepts limits files index
  named : settings.tokenPath = .value path

section Breaking

variable (limits : Limits) (console : Console) (files : Files.Lookup) (settings : Settings)

inductive Unloaded : Escape → Prop
  | indexPath (unsaid : ∀ path, settings.indexPath ≠ .value path) : Unloaded (.unsaid .path)
  | index (path : String) (fault : Files.LoadFault) (named : settings.indexPath = .value path)
      (refused : Files.loadIndex limits files path = .error fault) (deep : fault.fault = .depth) :
      Unloaded (.load fault)
  | tokenPath (index : Index) (accepted : settings.Accepts limits files index)
      (unsaid : ∀ path, settings.tokenPath ≠ .value path) : Unloaded (.unsaid .path)
  | nested (path : String) (nest : Json.Nest) (reached : settings.Reaches limits files path)
      (refused : Files.readJson limits files path = .error (.tooDeep nest)) : Unloaded (.load (.tooDeep nest))
  | token (path : String) (fields : Json.Fields) (fault : TokenFault) (reached : settings.Reaches limits files path)
      (read : Files.readJson limits files path = .ok (.object fields))
      (refused : Token.ofFields limits fields = .error fault) (unhandled : fault.fault ≠ .value)
      (misfit : Token.Misfit fields) : Unloaded (.load (.token fault))
  | deepToken (path : String) (fields : Json.Fields) (fault : TokenFault)
      (reached : settings.Reaches limits files path)
      (read : Files.readJson limits files path = .ok (.object fields))
      (refused : Token.ofFields limits fields = .error fault) (deep : fault.fault = .depth)
      (beyond : Token.Beyond limits fields) : Unloaded (.load (.token fault))

/-- How a run ends in a fault that is not handled. -/
inductive Breaks : Escape → Prop
  | count (unsaid : settings.count = .unsaid) : Breaks (.unsaid .count)
  | unloaded (escape : Escape) (allowed : settings.Allowed) (reason : Unloaded limits files settings escape) :
      Breaks escape
  | cursor (index : Index) (token : Token) (allowed : settings.Allowed)
      (loaded : load limits files settings = .ok (index, token)) (unsaid : settings.cursor = .unsaid)
      (typed : Search.isBare (settings.typed token) = false) : Breaks (.unsaid .cursor)
  | unwritable (index : Index) (token : Token) (w : Written) (allowed : settings.Allowed)
      (loaded : load limits files settings = .ok (index, token))
      (answered : answer settings index token = .ok (some w)) (long : w.isWritable = false) : Breaks .unwritable
  | unprintable (index : Index) (token : Token) (w : Written) (printed : Text) (fault : PrintFault)
      (allowed : settings.Allowed) (loaded : load limits files settings = .ok (index, token))
      (answered : answer settings index token = .ok (some w)) (short : w.isWritable = true)
      (refused : ∃ word ∈ w.candidates, ∃ letter ∈ word, console.takes letter = false)
      (stops : console.print [] (pieces settings (some w)) = .error (printed, fault)) :
      Breaks (.unprintable printed fault)

end Breaking

section Loading

theorem pathOf_eq_ok_iff (given : Given String) (path : String) :
    pathOf given = .ok path ↔ given = .value path := by
  cases given <;> simp [pathOf]

theorem pathOf_eq_error_iff (given : Given String) (escape : Escape) :
    pathOf given = .error escape ↔ (∀ path, given ≠ .value path) ∧ escape = .unsaid .path := by
  cases given <;> simp [pathOf, eq_comm]

variable (limits : Limits) (files : Files.Lookup) (settings : Settings)

theorem accepts_of_load (index : Index) (token : Token) (h : load limits files settings = .ok (index, token)) :
    settings.Accepts limits files index := by
  simp only [load, bind_eq_ok_iff, pure_eq_ok_iff, mapError_eq_ok_iff, pathOf_eq_ok_iff] at h
  obtain ⟨path, hpath, accepted, haccepted, _, _, _, _, hpair⟩ := h
  cases hpair
  exact ⟨path, hpath, haccepted⟩

theorem load_of_refused_token (path : String) (fault : Files.LoadFault) (hr : settings.Reaches limits files path)
    (h : Files.loadToken limits files path = .error fault) : load limits files settings = .error (.load fault) := by
  obtain ⟨⟨index, indexPath, hindexPath, haccepted⟩, hnamed⟩ := hr
  simp only [load, bind_eq_error_iff, mapError_eq_error_iff, mapError_eq_ok_iff, pathOf_eq_ok_iff]
  exact Or.inr ⟨indexPath, hindexPath, Or.inr ⟨index, haccepted,
    Or.inr ⟨path, hnamed, Or.inl ⟨fault, h, rfl⟩⟩⟩⟩

omit settings in
theorem loadToken_of_refused_fields (path : String) (fields : Json.Fields) (fault : TokenFault)
    (hread : Files.readJson limits files path = .ok (.object fields))
    (h : Token.ofFields limits fields = .error fault) :
    Files.loadToken limits files path = .error (.token fault) := by
  simp only [Files.loadToken, hread, Token.ofJson, mapError_eq_error_iff]
  exact ⟨fault, h, rfl⟩

/-- What makes loading fail with a fault that is not handled. -/
theorem unloaded_of_load (escape : Escape) (h : load limits files settings = .error escape)
    (hclass : Files.isReportable escape.fault = false) : Unloaded limits files settings escape := by
  simp only [load, bind_eq_error_iff, pure_ne_error, and_false, exists_false, or_false,
    mapError_eq_error_iff, mapError_eq_ok_iff, pathOf_eq_ok_iff, pathOf_eq_error_iff] at h
  rcases h with ⟨hunsaid, rfl⟩ | ⟨path, hpath, h⟩
  · exact .indexPath hunsaid
  rcases h with ⟨fault, hrefused, rfl⟩ | ⟨index, haccepted, h⟩
  · rw [Escape.fault] at hclass
    have hdeep := (Files.class_of_loadIndex limits files path fault hrefused).resolve_left (by simp [hclass])
    exact .index path fault hpath hrefused hdeep
  have haccepts : settings.Accepts limits files index := ⟨path, hpath, haccepted⟩
  rcases h with ⟨hunsaid, rfl⟩ | ⟨tokenPath, htokenPath, fault, hrefused, rfl⟩
  · exact .tokenPath index haccepts hunsaid
  have hreached : settings.Reaches limits files tokenPath := ⟨⟨index, haccepts⟩, htokenPath⟩
  rcases Files.class_of_loadToken limits files tokenPath fault hrefused with
    htold | ⟨nest, hread, rfl⟩ | ⟨fields, reason, hread, hreason, rfl, ⟨hother, hmisfit⟩ | ⟨hdeep, hbeyond⟩⟩
  · rw [Escape.fault, htold] at hclass
    cases hclass
  · exact .nested tokenPath nest hreached hread
  · exact .token tokenPath fields reason hreached hread hreason hother hmisfit
  · exact .deepToken tokenPath fields reason hreached hread hreason hdeep hbeyond

/-- A fault of the token that is no wrong value is not told to the user. -/
theorem load_of_refused_value (path : String) (fields : Json.Fields) (fault : TokenFault)
    (hreached : settings.Reaches limits files path) (hread : Files.readJson limits files path = .ok (.object fields))
    (hrefused : Token.ofFields limits fields = .error fault) (hother : fault.fault ≠ .value) :
    load limits files settings = .error (.load (.token fault)) ∧
      Files.isReportable (Escape.load (.token fault)).fault = false := by
  have hload := loadToken_of_refused_fields limits files path fields fault hread hrefused
  refine ⟨load_of_refused_token limits files settings path _ hreached hload, ?_⟩
  rw [Escape.fault, Files.LoadFault.fault]
  simpa using mt (Files.isReportable_token_iff fault).mp hother

/-- The listed faults of loading do come up, and the user is told about none of them. -/
theorem load_of_unloaded (escape : Escape) (h : Unloaded limits files settings escape) :
    load limits files settings = .error escape ∧ Files.isReportable escape.fault = false := by
  cases h with
  | indexPath unsaid =>
    refine ⟨?_, rfl⟩
    simp only [load, bind_eq_error_iff, pathOf_eq_error_iff]
    exact Or.inl ⟨unsaid, trivial⟩
  | index path fault named refused deep =>
    refine ⟨?_, by rw [Escape.fault, deep]; rfl⟩
    simp only [load, bind_eq_error_iff, mapError_eq_error_iff, pathOf_eq_ok_iff]
    exact Or.inr ⟨path, named, Or.inl ⟨fault, refused, rfl⟩⟩
  | tokenPath index accepted unsaid =>
    obtain ⟨path, hpath, haccepted⟩ := accepted
    refine ⟨?_, rfl⟩
    simp only [load, bind_eq_error_iff, mapError_eq_ok_iff, pathOf_eq_ok_iff, pathOf_eq_error_iff]
    exact Or.inr ⟨path, hpath, Or.inr ⟨index, haccepted, Or.inl ⟨unsaid, trivial⟩⟩⟩
  | nested path nest reached refused =>
    have hload : Files.loadToken limits files path = .error (.tooDeep nest) := by rw [Files.loadToken, refused]
    exact ⟨load_of_refused_token limits files settings path _ reached hload, rfl⟩
  | token path fields fault reached read refused unhandled misfit =>
    exact load_of_refused_value limits files settings path fields fault reached read refused unhandled
  | deepToken path fields fault reached read refused deep beyond =>
    exact load_of_refused_value limits files settings path fields fault reached read refused (by simp [deep])

end Loading

section Answering

variable (settings : Settings) (index : Index) (ht : index.idents.AllTexts) (ha : settings.Allowed)

include ht ha

/-- An index whose idents are texts completes every query. -/
theorem completion_of_texts (query : Query) : ∃ c, completion settings index query = .ok c := by
  obtain ⟨limit, hlimit, hcompletion⟩ : ∃ limit : Json, (limit = .null ∨ ∃ n : Int, 1 ≤ n ∧ limit = .int n) ∧
      completion settings index query =
        (complete (.held 0 ⟨index, none⟩) [] query limit (some .empty)).result.mapError .completion := by
    rcases ha with habsent | ⟨n, hvalue, hn⟩
    · refine ⟨.null, Or.inl rfl, ?_⟩
      rw [completion, habsent]
      rfl
    · refine ⟨.int n, Or.inr ⟨n, hn, rfl⟩, ?_⟩
      rw [completion, hvalue]
      rfl
  have htexts : index.OffersTexts := Names.allTexts_without _ _ ht
  obtain ⟨answer, hanswer, -⟩ := answers_of_texts (.held 0 ⟨index, none⟩) ⟨index, none⟩ rfl [] query limit hlimit
    (fun _ _ => htexts)
  have hsteady : (Subject.held 0 ⟨index, none⟩).Steady := by
    intro source hsource
    cases hsource
    exact Source.steady_of_no_hook index
  -- an empty cache goes with every index, so the engine answers as without one
  have hsuits : Cache.empty.Suits (.held 0 ⟨index, none⟩) := by
    intro source _ _
    exact Cache.rowsOf_of_no_rows _ source rfl
  obtain ⟨hresult, -⟩ := Engine.complete_agrees .empty (.held 0 ⟨index, none⟩) [] query hsteady hsuits limit
  exact ⟨answer, hcompletion.trans ((mapError_eq_ok_iff _ _ _).mpr (hresult.trans hanswer))⟩

/-- An accepted query has an answer, unless it needs the cursor and that was given without saying anything. -/
theorem answer_cases (token : Token) :
    (∃ w, answer settings index token = .ok w) ∨
      answer settings index token = .error (.unsaid .cursor) ∧ settings.cursor = .unsaid ∧
        Search.isBare (settings.typed token) = false := by
  have hmap (query : Query) (f : Completion → Written) :
      ∃ w, (completion settings index query).map (·.map f) = .ok w := by
    obtain ⟨c, hc⟩ := completion_of_texts settings index ht ha query
    exact ⟨_, by rw [hc]; rfl⟩
  unfold answer
  cases hcursor : settings.cursor with
  | absent => exact Or.inl (hmap _ _)
  | value n => exact Or.inl (hmap _ _)
  | unsaid =>
    cases hbare : Search.isBare (settings.typed token) with
    | true =>
      simp only [hbare, if_true]
      exact Or.inl (hmap _ _)
    | false => exact Or.inr ⟨by simp [hbare], rfl, rfl⟩

end Answering

/-- The ways to end a run without a fault: success without a complaint, and a complaint about how the program was
used without anything printed. -/
def Ordinary (program : String) (exit : Exit) : Prop :=
  exit.status = 0 ∧ exit.complaint = none ∨
    exit.status = 2 ∧ exit.printed = [] ∧ ∃ message, exit.complaint = some (program ++ ": error: " ++ message)

section Ending

variable (limits : Limits) (console : Console) (program : String) (files : Files.Lookup) (settings : Settings)

omit limits console files settings in
theorem ordinary_usageError (verbose : Bool) (message : String) (exit : Exit)
    (h : (Ending.usageError program verbose message).result = .ok exit) : Ordinary program exit := by
  cases h
  exact Or.inr ⟨rfl, rfl, message, rfl⟩

omit limits files settings in
theorem ordinary_printing (verbose : Bool) (texts : List Text) (exit : Exit)
    (h : (Ending.printing console verbose texts).result = .ok exit) : Ordinary program exit := by
  unfold Ending.printing at h
  split at h
  · cases h
    exact Or.inl ⟨rfl, rfl⟩
  · cases h

omit limits program files settings in
/-- Printing breaks only at a letter that the console does not take. -/
theorem printing_escapes_iff (verbose : Bool) (texts : List Text) (escape : Escape) :
    (Ending.printing console verbose texts).result = .error escape ↔
      ∃ printed fault, escape = .unprintable printed fault ∧ console.print [] texts = .error (printed, fault) := by
  unfold Ending.printing
  cases console.print [] texts with
  | ok printed => simp [Ending.success]
  | error stop =>
    obtain ⟨printed, fault⟩ := stop
    simp only [Ending.escape, Except.error.injEq, Prod.mk.injEq]
    constructor
    · rintro rfl
      exact ⟨printed, fault, rfl, rfl, rfl⟩
    · rintro ⟨_, _, rfl, rfl, rfl⟩
      rfl

theorem ordinary_of_perform (exit : Exit)
    (h : (perform limits console program files settings).result = .ok exit) : Ordinary program exit := by
  unfold perform at h
  split at h
  · split at h
    · exact ordinary_usageError program _ _ exit h
    · cases h
  · split at h
    · cases h
    · unfold write at h
      split at h
      · exact ordinary_printing console program _ _ exit h
      · cases h

/-- The limit is checked first, and only an allowed one lets a run go on. -/
theorem checked_of_allowed (ha : settings.Allowed) :
    checked limits console program files settings = perform limits console program files settings := by
  rcases ha with habsent | ⟨n, hvalue, hn⟩
  · simp only [checked, habsent]
  · have hlarge : ¬ n < 1 := by omega
    simp only [checked, hvalue, hlarge, if_false]

/-- A limit that is not allowed ends the run before any file is read. -/
theorem checked_of_not_allowed (ha : ¬ settings.Allowed) :
    settings.count = .unsaid ∧ checked limits console program files settings = .escape false (.unsaid .count) ∨
      ∃ message, checked limits console program files settings = .usageError program false message := by
  cases hcount : settings.count with
  | absent => exact absurd (Or.inl hcount) ha
  | unsaid => exact Or.inl ⟨rfl, by simp only [checked, hcount]⟩
  | value n =>
    have hsmall : n < 1 := Int.not_le.mp fun hn => ha (Or.inr ⟨n, hcount, hn⟩)
    exact Or.inr ⟨_, by simp only [checked, hcount, hsmall, if_true]; rfl⟩

theorem ordinary_of_checked (exit : Exit)
    (h : (checked limits console program files settings).result = .ok exit) : Ordinary program exit := by
  by_cases ha : settings.Allowed
  · rw [checked_of_allowed limits console program files settings ha] at h
    exact ordinary_of_perform limits console program files settings exit h
  · rcases checked_of_not_allowed limits console program files settings ha with ⟨-, hescape⟩ | ⟨message, hmessage⟩
    · rw [hescape] at h
      cases h
    · rw [hmessage] at h
      exact ordinary_usageError program false message exit h

theorem perform_of_load_error (escape : Escape) (h : load limits files settings = .error escape)
    (hclass : Files.isReportable escape.fault = false) :
    (perform limits console program files settings).result = .error escape := by
  simp only [perform, h, hclass, Bool.false_eq_true, if_false, Ending.escape]

theorem perform_of_answer (index : Index) (token : Token) (w : Option Written)
    (hload : load limits files settings = .ok (index, token)) (hw : answer settings index token = .ok w) :
    perform limits console program files settings = write console settings w := by
  simp only [perform, hload, hw]

omit limits program files in
/-- What is written of an answer breaks for a number that is too long, or for a letter. -/
theorem write_escapes (index : Index) (token : Token) (w : Option Written)
    (hw : answer settings index token = .ok w) (escape : Escape)
    (h : (write console settings w).result = .error escape) :
    ∃ answered, w = some answered ∧ (answered.isWritable = false ∧ escape = .unwritable ∨
      answered.isWritable = true ∧ (∃ word ∈ answered.candidates, ∃ letter ∈ word, console.takes letter = false) ∧
        ∃ printed fault, escape = .unprintable printed fault ∧
          console.print [] (pieces settings (some answered)) = .error (printed, fault)) := by
  unfold write at h
  cases w with
  | none =>
    obtain ⟨printed, fault, -, hprint⟩ := (printing_escapes_iff console _ _ escape).mp h
    rw [print_nothing] at hprint
    cases hprint
  | some answered =>
    refine ⟨answered, rfl, ?_⟩
    cases hwritable : answered.isWritable with
    | false =>
      simp only [Option.all_some, hwritable, Bool.false_eq_true, if_false, Ending.escape] at h
      cases h
      exact Or.inl ⟨rfl, rfl⟩
    | true =>
      simp only [Option.all_some, hwritable, if_true] at h
      obtain ⟨printed, fault, rfl, hprint⟩ := (printing_escapes_iff console _ _ escape).mp h
      have hplaced := placed_of_answer settings index token answered hw
      have hrefused := (unprintable_iff settings console answered hplaced).mp ⟨_, hprint⟩
      exact Or.inr ⟨rfl, hrefused, printed, fault, rfl, hprint⟩

variable (ht : ∀ index, settings.Accepts limits files index → index.idents.AllTexts)

include ht

/-- A run that breaks does so in one of the listed ways. -/
theorem breaks_of_perform (ha : settings.Allowed) (escape : Escape)
    (h : (perform limits console program files settings).result = .error escape) :
    Breaks limits console files settings escape := by
  cases hload : load limits files settings with
  | error fault =>
    simp only [perform, hload] at h
    split at h
    · cases h
    · next hclass =>
      cases h
      exact .unloaded escape ha (unloaded_of_load limits files settings escape hload (by simpa using hclass))
  | ok loaded =>
    obtain ⟨index, token⟩ := loaded
    have htexts := ht index (accepts_of_load limits files settings index token hload)
    rcases answer_cases settings index htexts ha token with ⟨w, hw⟩ | ⟨hanswer, hunsaid, htyped⟩
    · rw [perform_of_answer limits console program files settings index token w hload hw] at h
      obtain ⟨answered, rfl, ⟨hlong, rfl⟩ | ⟨hshort, hrefused, printed, fault, rfl, hprint⟩⟩ :=
        write_escapes console settings index token w hw escape h
      · exact .unwritable index token answered ha hload hw hlong
      · exact .unprintable index token answered printed fault ha hload hw hshort hrefused hprint
    · simp only [perform, hload, hanswer] at h
      cases h
      exact .cursor index token ha hload hunsaid htyped

omit ht in
/-- Each of the listed ways does break a run. -/
theorem checked_of_breaks (escape : Escape) (h : Breaks limits console files settings escape) :
    (checked limits console program files settings).result = .error escape := by
  cases h with
  | count unsaid => simp only [checked, unsaid, Ending.escape]
  | unloaded escape allowed reason =>
    rw [checked_of_allowed limits console program files settings allowed]
    obtain ⟨hload, hclass⟩ := load_of_unloaded limits files settings escape reason
    exact perform_of_load_error limits console program files settings escape hload hclass
  | cursor index token allowed loaded unsaid typed =>
    rw [checked_of_allowed limits console program files settings allowed]
    simp only [perform, loaded, answer, unsaid, typed, Bool.false_eq_true, if_false, Ending.escape]
  | unwritable index token w allowed loaded answered long =>
    rw [checked_of_allowed limits console program files settings allowed,
      perform_of_answer limits console program files settings index token _ loaded answered]
    simp only [write, Option.all_some, long, Bool.false_eq_true, if_false, Ending.escape]
  | unprintable index token w printed fault allowed loaded answered short refused stops =>
    rw [checked_of_allowed limits console program files settings allowed,
      perform_of_answer limits console program files settings index token _ loaded answered]
    simp only [write, Option.all_some, short, if_true]
    exact (printing_escapes_iff console _ _ _).mpr ⟨printed, fault, rfl, stops⟩

theorem checked_escapes_iff (escape : Escape) :
    (checked limits console program files settings).result = .error escape ↔
      Breaks limits console files settings escape := by
  refine ⟨fun h => ?_, checked_of_breaks limits console program files settings escape⟩
  by_cases ha : settings.Allowed
  · rw [checked_of_allowed limits console program files settings ha] at h
    exact breaks_of_perform limits console program files settings ht ha escape h
  · rcases checked_of_not_allowed limits console program files settings ha with
      ⟨hunsaid, hescape⟩ | ⟨message, hmessage⟩
    · rw [hescape] at h
      cases h
      exact .count hunsaid
    · rw [hmessage] at h
      cases h

omit ht in
/-- A token with a misfit is never answered for: the best that can come of it is a complaint. -/
theorem status_of_misfit (path : String) (fields : Json.Fields) (hr : settings.Reaches limits files path)
    (hread : Files.readJson limits files path = .ok (.object fields)) (hm : Token.Misfit fields) (exit : Exit)
    (h : (checked limits console program files settings).result = .ok exit) : exit.status = 2 := by
  have hrefused : ∃ fault, load limits files settings = .error fault := by
    cases hfields : Token.ofFields limits fields with
    | ok token => exact absurd hm (Token.not_misfit_of_ofFields limits fields token hfields)
    | error fault =>
      have hload := loadToken_of_refused_fields limits files path fields fault hread hfields
      exact ⟨_, load_of_refused_token limits files settings path _ hr hload⟩
  obtain ⟨fault, hfault⟩ := hrefused
  by_cases ha : settings.Allowed
  · rw [checked_of_allowed limits console program files settings ha] at h
    simp only [perform, hfault] at h
    split at h
    · cases h
      rfl
    · cases h
  · rcases checked_of_not_allowed limits console program files settings ha with ⟨-, hescape⟩ | ⟨message, hmessage⟩
    · rw [hescape] at h
      cases h
    · rw [hmessage] at h
      cases h
      rfl

omit ht in
/-- A number as the text of a token always goes through. -/
theorem escape_of_numeric_text (ha : settings.Allowed) (path : String) (fields : Json.Fields)
    (hr : settings.Reaches limits files path) (hread : Files.readJson limits files path = .ok (.object fields))
    (hgiven : (Token.textOf fields).isVoid = false) (hnumeric : (Token.textOf fields).isNumeric = true) :
    (checked limits console program files settings).result =
      .error (.load (.token (.noLength (Token.textOf fields).kind))) := by
  have hlength := Token.lengthOf_of_numeric _ hgiven hnumeric
  have hfields : Token.ofFields limits fields = .error (.noLength (Token.textOf fields).kind) := by
    simp only [Token.ofFields, bind_eq_error_iff]
    exact Or.inl hlength
  have hload := loadToken_of_refused_fields limits files path fields _ hread hfields
  rw [checked_of_allowed limits console program files settings ha]
  exact perform_of_load_error limits console program files settings _
    (load_of_refused_token limits files settings path _ hr hload) rfl

omit ht in
/-- What is answered goes through exactly if some candidate has a letter that cannot be printed. -/
theorem unprintable_answer_iff (ha : settings.Allowed) (index : Index) (token : Token) (w : Written)
    (hload : load limits files settings = .ok (index, token)) (hw : answer settings index token = .ok (some w))
    (hshort : w.isWritable = true) :
    (∃ printed fault, (checked limits console program files settings).result =
        .error (.unprintable printed fault)) ↔
      ∃ word ∈ w.candidates, ∃ letter ∈ word, console.takes letter = false := by
  rw [checked_of_allowed limits console program files settings ha,
    perform_of_answer limits console program files settings index token _ hload hw,
    ← unprintable_iff settings console w (placed_of_answer settings index token w hw)]
  simp only [write, Option.all_some, hshort, if_true, printing_escapes_iff]
  constructor
  · rintro ⟨_, _, printed, fault, -, hprint⟩
    exact ⟨_, hprint⟩
  · rintro ⟨⟨printed, fault⟩, hprint⟩
    exact ⟨printed, fault, printed, fault, rfl, hprint⟩

end Ending

/-- How a run ends, with any files and arguments and whatever the console can print, if the index it accepts has no
idents but texts. It ends in success, with a complaint about its use, or in a fault that goes through exactly for one
of the reasons of `Breaks`, or because its help cannot be printed. A token with a misfit is complained about at best,
and one whose text is a number always goes through. An answer goes through exactly if a candidate has a letter that
cannot be printed. -/
theorem run_ends_or_breaks (limits : Limits) (console : Console) (program : String) (files : Files.Lookup)
    (arguments : List String)
    (hi : ∀ values index, parse options arguments = .ok (.values values) →
      (Settings.ofValues values).Accepts limits files index → index.idents.AllTexts) :
    let result := (run limits console program files arguments).result
    (∀ exit, result = .ok exit → Ordinary program exit) ∧
    (∀ escape, result = .error escape ↔
      (∃ values, parse options arguments = .ok (.values values) ∧
        Breaks limits console files (.ofValues values) escape) ∨
      parse options arguments = .ok .help ∧ ∃ printed fault, escape = .unprintable printed fault ∧
        console.print [] [help console program] = .error (printed, fault)) ∧
    (∀ values path fields, parse options arguments = .ok (.values values) →
      (Settings.ofValues values).Reaches limits files path →
      Files.readJson limits files path = .ok (.object fields) →
      (Token.Misfit fields → ∀ exit, result = .ok exit → exit.status = 2) ∧
      ((Settings.ofValues values).Allowed → (Token.textOf fields).isVoid = false →
        (Token.textOf fields).isNumeric = true →
        result = .error (.load (.token (.noLength (Token.textOf fields).kind))))) ∧
    (∀ values index token w, parse options arguments = .ok (.values values) →
      (Settings.ofValues values).Allowed → load limits files (.ofValues values) = .ok (index, token) →
      answer (.ofValues values) index token = .ok (some w) → w.isWritable = true →
      ((∃ printed fault, result = .error (.unprintable printed fault)) ↔
        ∃ word ∈ w.candidates, ∃ letter ∈ word, console.takes letter = false)) := by
  intro result
  cases hparse : parse options arguments with
  | error fault =>
    have hresult : result = (Ending.usageError program false fault.message).result := by
      simp only [result, run, hparse]
    refine ⟨?_, ?_, nofun, nofun⟩
    · rw [hresult]
      exact ordinary_usageError program _ _
    · simp [hresult, Ending.usageError]
  | ok parsed =>
    cases parsed with
    | help =>
      have hresult : result = (Ending.printing console false [help console program]).result := by
        simp only [result, run, hparse]
      refine ⟨?_, ?_, nofun, nofun⟩
      · rw [hresult]
        exact ordinary_printing console program _ _
      · intro escape
        rw [hresult, printing_escapes_iff]
        simp
    | values values =>
      have hresult : result = (checked limits console program files (.ofValues values)).result := by
        simp only [result, run, hparse]
      rw [hresult]
      refine ⟨ordinary_of_checked limits console program files _, ?_, ?_, ?_⟩
      · intro escape
        have hiff := checked_escapes_iff limits console program files (.ofValues values)
          (fun index => hi values index hparse) escape
        refine ⟨fun h => Or.inl ⟨values, rfl, hiff.mp h⟩, ?_⟩
        rintro (⟨other, hother, hbreaks⟩ | ⟨hhelp, -⟩)
        · cases hother
          exact hiff.mpr hbreaks
        · cases hhelp
      · intro other path fields hother hreaches hread
        cases hother
        exact ⟨status_of_misfit limits console program files _ path fields hreaches hread, fun hallowed =>
          escape_of_numeric_text limits console program files _ hallowed path fields hreaches hread⟩
      · intro other index token w hother hallowed
        cases hother
        exact unprintable_answer_iff limits console program files _ hallowed index token w

def twoFiles (index token : String) : Files.Folder :=
  ⟨[("s.json", ("\x7b" ++ index ++ "\x7d").toUTF8.toList),
    ("t.json", ("\x7b" ++ token ++ "\x7d").toUTF8.toList)]⟩

def folderArguments : List String :=
  ["--index", "s.json", "--token", "t.json"]

theorem parse_folderArguments : parse options folderArguments =
    .ok (.values [("--index", .text "s.json"), ("--token", .text "t.json")]) := by
  decide +kernel

/-- The index there has no idents at all, and an infinite start of the token goes through. -/
theorem run_ends_or_breaks_infinite_start :
    (∀ values index, parse options folderArguments = .ok (.values values) →
      (Settings.ofValues values).Accepts (.ofDepth 99) (twoFiles "\"index-io\": []" "\"start\": 1e400").lookup
        index → index.idents.AllTexts) ∧
    ∃ values, parse options folderArguments = .ok (.values values) ∧
      Breaks (.ofDepth 99) (.utf8 80) (twoFiles "\"index-io\": []" "\"start\": 1e400").lookup (.ofValues values)
        (.load (.token (.whole .infinite))) := by
  let files := (twoFiles "\"index-io\": []" "\"start\": 1e400").lookup
  have hcount : (Files.loadIndex (.ofDepth 99) files "s.json").toOption.map (·.idents.length) = some 0 := by
    decide +kernel
  have hi : ∀ values index, parse options folderArguments = .ok (.values values) →
      (Settings.ofValues values).Accepts (.ofDepth 99) files index → index.idents.AllTexts := by
    intro values index hvalues haccepts
    rw [parse_folderArguments] at hvalues
    cases hvalues
    obtain ⟨path, hpath, hload⟩ := haccepts
    cases hpath
    rw [hload] at hcount
    have hnone : index.idents = [] := List.length_eq_zero_iff.mp (Option.some.inj hcount)
    intro name hname
    rw [hnone] at hname
    cases hname
  have hresult : (run (.ofDepth 99) (.utf8 80) "eqlcomplete" files folderArguments).result =
      .error (.load (.token (.whole .infinite))) := by
    decide +kernel
  obtain ⟨-, hbreaks, -⟩ := run_ends_or_breaks (.ofDepth 99) (.utf8 80) "eqlcomplete" files folderArguments hi
  rcases (hbreaks _).mp hresult with hvalues | ⟨hhelp, -⟩
  · exact ⟨hi, hvalues⟩
  · rw [parse_folderArguments] at hhelp
    cases hhelp

/-- An ident that is a lone surrogate is completed, and then cannot be printed. -/
example : (run (.ofDepth 99) (.utf8 80) "eqlcomplete"
    (twoFiles "\"index-io\": [], \"idents\": [\"\\ud800\"]" "\"state\": \x7b\"mode\": \"ident\"\x7d").lookup
    folderArguments).result = .error (.unprintable "replace [0, 0)\n"
      ⟨"utf-8", ⟨0xd800, by decide⟩, 5, 1, "surrogates not allowed"⟩) := by
  decide +kernel

/-- With a number as the text of the token, a run neither succeeds nor complains. -/
theorem numeric_text_goes_through :
    (run (.ofDepth 99) (.utf8 80) "eqlcomplete" (twoFiles "\"index-io\": []" "\"text\": 5").lookup
      folderArguments).result = .error (.load (.token (.noLength .int))) := by
  decide +kernel

end CommandLine.Completing

end QueryHints
