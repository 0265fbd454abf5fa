import QueryHints.Proofs.FrameReading
import QueryHints.Proofs.ShownValues

namespace QueryHints

open Json (Fields)

namespace Json

def isNumberless : Json → Bool
  | null | list _ | object _ => true
  | bool _ | int _ | real _ | text _ => false

def isInfinite : Json → Bool
  | real (.infinite _) => true
  | _ => false

def isNumeric : Json → Bool
  | bool _ | int _ | real _ => true
  | null | text _ | list _ | object _ => false

/-- Why a value is no whole number: it is badly written or not a number, it is of an unfit kind, or it is
infinite. -/
theorem fault_of_whole (v : Json) (fault : WholeFault) (h : v.whole = .error fault) :
    fault.fault = .value ∨ fault.fault = .kind ∧ v.isNumberless = true ∨
      fault = .infinite ∧ v.isInfinite = true := by
  cases v with
  | int _ | bool _ => cases h
  | null | list _ | object _ =>
    cases h
    exact Or.inr (Or.inl ⟨rfl, rfl⟩)
  | real x =>
    cases x with
    | nan =>
      cases h
      exact Or.inl rfl
    | infinite negative =>
      cases h
      exact Or.inr (Or.inr ⟨rfl, rfl⟩)
    | finite negative m e => cases h
  | text s =>
    rw [whole, wholeOfText] at h
    split at h
    · cases h
    · cases h
      exact Or.inl rfl
    · cases h
      exact Or.inl rfl

theorem whole_of_numberless (v : Json) (h : v.isNumberless = true) : ∃ fault, v.whole = .error fault := by
  cases v with
  | null | list _ | object _ => exact ⟨_, rfl⟩
  | bool _ | int _ | real _ | text _ => cases h

theorem whole_of_infinite (v : Json) (h : v.isInfinite = true) : v.whole = .error .infinite := by
  cases v with
  | real x =>
    cases x with
    | infinite negative => rfl
    | nan => cases h
    | finite negative m e => cases h
  | null | bool _ | int _ | text _ | list _ | object _ => cases h

end Json

/-- A name is only a fault for its depth. -/
theorem depth_of_nameFault? (room : Nat) (v : Json) (fault : TokenFault) (h : nameFault? room v = some fault) :
    fault.fault = .depth ∧ v.kind ≠ .text ∧ room < v.depth := by
  obtain ⟨shown, hshown, rfl⟩ := Option.map_eq_some_iff.mp h
  obtain ⟨hfault, hdepth⟩ := Option.filter_eq_some_iff.mp hshown
  have hclass : shown.fault = .depth := by simpa using hdepth
  exact ⟨hclass, Json.lt_depth_of_showFault? room v shown hfault hclass⟩

namespace Frame

/-- The values that a chain has for the columns of its frames, those in keys that are chains included. -/
def columns : Json → List Json
  | .object fields => columns (Fields.get fields "previous") ++ columns (Fields.get fields "key") ++
      [Fields.get fields "indent"]
  | _ => []
termination_by v => sizeOf v
decreasing_by all_goals exact Fields.sizeOf_get_lt fields _

theorem columns_of_not_object (v : Json) (h : v.kind ≠ .object) : columns v = [] := by
  cases v with
  | object fields => exact absurd rfl h
  | null | bool _ | int _ | real _ | text _ | list _ => simp [columns]

theorem mem_columns_object (fields : Fields) (column : Json) :
    column ∈ columns (.object fields) ↔ column ∈ columns (Fields.get fields "previous") ∨
      column ∈ columns (Fields.get fields "key") ∨ column = Fields.get fields "indent" := by
  rw [columns]
  simp

theorem readIndent_eq_error (fields : Fields) (fault : TokenFault) (h : readIndent fields = .error fault) :
    (Fields.get fields "indent").isVoid = false ∧
      ∃ reason, (Fields.get fields "indent").whole = .error reason ∧ fault = .whole reason := by
  rw [readIndent] at h
  split at h
  · cases h
  · next hvoid =>
    obtain ⟨reason, hwhole, hfault⟩ := (mapError_eq_error_iff _ _ _).mp h
    exact ⟨by simpa using hvoid, reason, hwhole, hfault.symm⟩

/-- A chain that cannot be read for want of room: a key of it is nested deeper than there are rooms, or the value of
a mode in it is deeper than the room it has. -/
inductive Beyond : List Nat → Json → Prop
  | level (v : Json) : Beyond [] v
  | mode (rooms : List Nat) (fields : Fields) (other : (Fields.get fields "mode").kind ≠ .text)
      (deep : rooms.headD 0 < (Fields.get fields "mode").depth) : Beyond rooms (.object fields)
  | previous (rooms : List Nat) (fields : Fields) (outer : Beyond rooms (Fields.get fields "previous")) :
      Beyond rooms (.object fields)
  | key (rooms : List Nat) (fields : Fields) (inner : Beyond rooms.tail (Fields.get fields "key")) :
      Beyond rooms (.object fields)

/-- A key is refused for its kind, for want of a room, or by its own chain. -/
theorem keyOf_eq_error (rooms : List Nat) (v : Json) (chain : Except TokenFault (List Frame)) (fault : TokenFault)
    (h : keyOf rooms v chain = .error fault) :
    (∃ kind, fault = .frameNotObject kind) ∨ (rooms = [] ∧ fault = .tooDeep) ∨ chain = .error fault := by
  cases v with
  | object fields =>
    cases rooms with
    | nil =>
      cases h
      exact Or.inr (Or.inl ⟨rfl, rfl⟩)
    | cons room deeper =>
      cases hm : misfit? (.object fields) with
      | some kind =>
        simp only [keyOf, hm, List.isEmpty_cons, Bool.false_eq_true, if_false, Except.error.injEq] at h
        exact Or.inl ⟨kind, h.symm⟩
      | none =>
        cases chain with
        | error reason =>
          simp only [keyOf, hm, List.isEmpty_cons, Bool.false_eq_true, if_false] at h
          cases h
          exact Or.inr (Or.inr rfl)
        | ok frames => cases frames <;> simp [keyOf, hm] at h
  | null | bool _ | int _ | real _ | text _ | list _ => cases h

theorem readMode_eq_error (room : Nat) (v : Json) (fault : TokenFault) (h : readMode room v = .error fault) :
    fault.fault = .depth ∧ v.kind ≠ .text ∧ room < v.depth := by
  unfold readMode at h
  split at h
  · cases h
  · split at h
    · next hname =>
      cases h
      exact depth_of_nameFault? room v fault hname
    · cases h

/-- A chain cannot be read because a key in it has a misfit, or for one of its columns, or for want of room. -/
theorem readChain_eq_error (rooms : List Nat) (v : Json) (fault : TokenFault)
    (h : readChain rooms v = .error fault) :
    (∃ kind, fault = .frameNotObject kind) ∨
      (∃ column ∈ columns v, column.isVoid = false ∧
        ∃ reason, column.whole = .error reason ∧ fault = .whole reason) ∨
      fault.fault = .depth ∧ Beyond rooms v := by
  induction v using Json.chain_induction generalizing rooms with
  | other v hv =>
    rw [readChain_of_not_object rooms v hv] at h
    cases h
  | object fields hprevious hkey =>
    simp only [readChain_object, bind_eq_error_iff, pure_ne_error, and_false, exists_false, or_false] at h
    simp only [mem_columns_object]
    -- the frames around come first, then the key, the mode and the column
    rcases h with houter | ⟨_, _, hread | ⟨_, _, hmode | ⟨_, _, hindent⟩⟩⟩
    · rcases hprevious rooms houter with hmisfit | ⟨column, hmem, hfault⟩ | ⟨hdepth, hbeyond⟩
      · exact Or.inl hmisfit
      · exact Or.inr (Or.inl ⟨column, Or.inl hmem, hfault⟩)
      · exact Or.inr (Or.inr ⟨hdepth, .previous rooms fields hbeyond⟩)
    · rcases keyOf_eq_error _ _ _ _ hread with hmisfit | ⟨hnone, rfl⟩ | hchain
      · exact Or.inl hmisfit
      · refine Or.inr (Or.inr ⟨rfl, .key rooms fields ?_⟩)
        rw [hnone]
        exact .level _
      rcases hkey rooms.tail hchain with hmisfit | ⟨column, hmem, hfault⟩ | ⟨hdepth, hbeyond⟩
      · exact Or.inl hmisfit
      · exact Or.inr (Or.inl ⟨column, Or.inr (Or.inl hmem), hfault⟩)
      · exact Or.inr (Or.inr ⟨hdepth, .key rooms fields hbeyond⟩)
    · obtain ⟨hdepth, hother, hdeep⟩ := readMode_eq_error _ _ _ hmode
      exact Or.inr (Or.inr ⟨hdepth, .mode rooms fields hother hdeep⟩)
    · exact Or.inr (Or.inl ⟨_, Or.inr (Or.inr rfl), readIndent_eq_error fields fault hindent⟩)

/-- The columns of a chain that is read are whole numbers, or void. -/
theorem columns_of_readChain (rooms : List Nat) (v : Json) (frames : List Frame) (h : readChain rooms v = .ok frames)
    (column : Json) (hc : column ∈ columns v) (hv : column.isVoid = false) : ∃ n, column.whole = .ok n := by
  induction v using Json.chain_induction generalizing rooms frames with
  | other v hother =>
    rw [columns_of_not_object v hother] at hc
    cases hc
  | object fields hprevious hkey =>
    simp only [readChain_object, bind_eq_ok_iff, pure_eq_ok_iff] at h
    obtain ⟨outer, houter, key, hread, mode, -, indent, hindent, -⟩ := h
    rcases (mem_columns_object fields column).mp hc with hc | hc | rfl
    · exact hprevious rooms outer houter hc
    · -- only a key that is a chain has columns, and it was read as one
      by_cases hobject : (Fields.get fields "key").kind = .object
      · obtain ⟨inner, around, -, -, -, hinner⟩ := (key_of_keyOf _ _ key hread).2 hobject
        exact hkey _ _ hinner hc
      · rw [columns_of_not_object _ hobject] at hc
        cases hc
    · rw [readIndent] at hindent
      simp only [hv] at hindent
      exact ⟨indent, by simpa using hindent⟩

end Frame

namespace Token

def textOf (fields : Fields) : Json :=
  (Fields.either? fields "text" "string").getD (.text [])

def startOf (fields : Fields) : Json :=
  (Fields.either? fields "start_offset" "start").getD (.int 0)

def kindOf (fields : Fields) : Json :=
  (Fields.either? fields "kind" "type").getD .null

inductive Beyond (limits : Limits) (fields : Fields) : Prop
  | text (deep : limits.texts < (textOf fields).depth)
  | kind (deep : limits.texts < (kindOf fields).depth)
  | chain (deep : Frame.Beyond limits.keys (Fields.get fields "state"))

/-- The values that reading a token turns into whole numbers: its start, its end, which is the start and the
length of the text together if none is given, and the columns of its frames that are not void. -/
inductive Converts (fields : Fields) : Json → Prop
  | start : Converts fields (startOf fields)
  | stop (v : Json) (given : Fields.either? fields "end_offset" "end" = some v) : Converts fields v
  | sum (length : Nat) (v : Json) (missing : Fields.either? fields "end_offset" "end" = none)
      (long : lengthOf (textOf fields) = .ok length) (added : offsetBy (startOf fields) length = .ok v) :
      Converts fields v
  | column (v : Json) (mem : v ∈ Frame.columns (Fields.get fields "state")) (given : v.isVoid = false) :
      Converts fields v

/-- What makes a token unreadable without being looked at: a text that has no length, a start that nothing can
be added to, or a value that is turned into a whole number and is null, a collection or infinite. -/
inductive Misfit (fields : Fields) : Prop
  | text (given : (textOf fields).isVoid = false) (numeric : (textOf fields).isNumeric = true)
  | start (other : (startOf fields).isNumeric = false)
  | numberless (v : Json) (converts : Converts fields v) (unfit : v.isNumberless = true)
  | infinite (v : Json) (converts : Converts fields v) (unfit : v.isInfinite = true)

/-- Only numbers and truth values have no length. -/
theorem lengthOf_eq_error (v : Json) (fault : TokenFault) (h : lengthOf v = .error fault) :
    v.isVoid = false ∧ v.isNumeric = true ∧ fault.fault = .kind := by
  unfold lengthOf at h
  split at h
  · cases h
  · next hvoid =>
    refine ⟨by simpa using hvoid, ?_⟩
    cases v with
    | bool _ | int _ | real _ =>
      cases h
      exact ⟨rfl, rfl⟩
    | null => exact absurd rfl hvoid
    | text _ | list _ | object _ => cases h

theorem lengthOf_of_numeric (v : Json) (hv : v.isVoid = false) (hn : v.isNumeric = true) :
    lengthOf v = .error (.noLength v.kind) := by
  cases v with
  | bool _ | int _ | real _ => simp only [lengthOf, hv, Bool.false_eq_true, if_false]
  | null | text _ | list _ | object _ => cases hn

/-- Only to numbers and truth values can a length be added. -/
theorem offsetBy_eq_error_iff (v : Json) (length : Nat) :
    (∃ fault, offsetBy v length = .error fault) ↔ v.isNumeric = false := by
  cases v <;> simp [offsetBy, Json.isNumeric]

theorem class_of_offsetBy (v : Json) (length : Nat) (fault : TokenFault)
    (h : offsetBy v length = .error fault) : fault.fault = .kind := by
  cases v with
  | bool _ | int _ | real _ => cases h
  | null | text _ | list _ | object _ =>
    cases h
    rfl

/-- What a value that is turned into a whole number makes a token fail for. -/
theorem fault_of_converts (fields : Fields) (v : Json) (hc : Converts fields v) (reason : Json.WholeFault)
    (h : v.whole = .error reason) :
    reason.fault = .value ∨ reason.fault = .kind ∧ Misfit fields ∨
      reason = .infinite ∧ ∃ v, Converts fields v ∧ v.isInfinite = true := by
  rcases v.fault_of_whole reason h with hvalue | ⟨hkind, hunfit⟩ | ⟨hinfinite, hunfit⟩
  · exact Or.inl hvalue
  · exact Or.inr (Or.inl ⟨hkind, .numberless v hc hunfit⟩)
  · exact Or.inr (Or.inr ⟨hinfinite, v, hc, hunfit⟩)

/-- The end of a token is converted, whether it is given or computed. -/
theorem converts_stop (fields : Fields) (length : Nat) (computed : Json)
    (hlength : lengthOf (textOf fields) = .ok length)
    (hcomputed : offsetBy (startOf fields) length = .ok computed) :
    Converts fields ((Fields.either? fields "end_offset" "end").getD computed) := by
  cases hgiven : Fields.either? fields "end_offset" "end" with
  | some v => exact .stop v hgiven
  | none => exact .sum length computed hgiven hlength hcomputed

theorem readText_eq_error (limits : Limits) (v : Json) (fault : TokenFault)
    (h : readText limits v = .error fault) : fault.fault = .value ∨ fault.fault = .depth ∧ limits.texts < v.depth := by
  unfold readText at h
  split at h
  · cases h
  · obtain ⟨shown, hshown, rfl⟩ := (mapError_eq_error_iff _ _ _).mp h
    have hfault : v.showFault? limits.texts = some shown := by
      unfold Json.show? at hshown
      split at hshown
      · next hfault =>
        cases hshown
        exact hfault
      · cases hshown
    cases shown with
    | unwritable => exact Or.inl rfl
    | nested => exact Or.inr ⟨rfl, (Json.lt_depth_of_showFault? _ v _ hfault rfl).2⟩
    | crowded => exact Or.inr ⟨rfl, (Json.lt_depth_of_showFault? _ v _ hfault rfl).2⟩

theorem readKind_eq_error (limits : Limits) (v : Json) (fault : TokenFault)
    (h : readKind limits v = .error fault) : fault.fault = .depth ∧ limits.texts < v.depth := by
  unfold readKind at h
  split at h
  · next hname =>
    cases h
    obtain ⟨hdepth, -, hdeep⟩ := depth_of_nameFault? limits.texts v fault hname
    exact ⟨hdepth, hdeep⟩
  · cases h

section Unread

variable (limits : Limits) (fields : Fields)

/-- Why the frames of a token cannot be read. -/
theorem fault_of_frames (fault : TokenFault)
    (h : Frame.ofJson limits.keys (Fields.get fields "state") = .error fault) :
    fault.fault = .value ∨ (fault.fault = .depth ∧ Beyond limits fields) ∨
      ∃ v, Converts fields v ∧ ∃ reason, v.whole = .error reason ∧ .whole reason = fault := by
  unfold Frame.ofJson at h
  split at h
  · next hnone =>
    cases h
    have hlevel : Frame.Beyond limits.keys (Fields.get fields "state") := by
      rw [List.isEmpty_iff.mp hnone]
      exact .level _
    exact Or.inr (Or.inl ⟨rfl, .chain hlevel⟩)
  · split at h
    · cases h
      exact Or.inl rfl
    · rcases Frame.readChain_eq_error _ _ _ h with
        ⟨kind, rfl⟩ | ⟨column, hmem, hgiven, reason, hwhole, rfl⟩ | ⟨hdepth, hbeyond⟩
      · exact Or.inl rfl
      · exact Or.inr (Or.inr ⟨column, .column column hmem hgiven, reason, hwhole, rfl⟩)
      · exact Or.inr (Or.inl ⟨hdepth, .chain hbeyond⟩)

/-- Why a token cannot be read: for a fault of a value, for the kind of a misfit, because a value that is turned into
a whole number is infinite, or for want of room. -/
theorem fault_of_ofFields (fault : TokenFault) (h : ofFields limits fields = .error fault) :
    fault.fault = .value ∨ fault.fault = .kind ∧ Misfit fields ∨
      (fault = .whole .infinite ∧ ∃ v, Converts fields v ∧ v.isInfinite = true) ∨
      fault.fault = .depth ∧ Beyond limits fields := by
  have hconverts (v : Json) (hc : Converts fields v) (reason : Json.WholeFault)
      (hwhole : v.whole = .error reason) (hfault : .whole reason = fault) :
      fault.fault = .value ∨ fault.fault = .kind ∧ Misfit fields ∨
        (fault = .whole .infinite ∧ ∃ v, Converts fields v ∧ v.isInfinite = true) ∨
        fault.fault = .depth ∧ Beyond limits fields := by
    subst hfault
    rcases fault_of_converts fields v hc reason hwhole with hvalue | hkind | ⟨rfl, hinfinite⟩
    · exact Or.inl hvalue
    · exact Or.inr (Or.inl hkind)
    · exact Or.inr (Or.inr (Or.inl ⟨rfl, hinfinite⟩))
  simp only [ofFields, bind_eq_error_iff, pure_ne_error, and_false, exists_false, or_false,
    mapError_eq_error_iff, mapError_eq_ok_iff] at h
  rcases h with hlength | ⟨length, hlength, h⟩
  · obtain ⟨hgiven, hnumeric, hkind⟩ := lengthOf_eq_error _ _ hlength
    exact Or.inr (Or.inl ⟨hkind, .text hgiven hnumeric⟩)
  rcases h with hsum | ⟨computed, hsum, h⟩
  · have hother := (offsetBy_eq_error_iff _ _).mp ⟨fault, hsum⟩
    exact Or.inr (Or.inl ⟨class_of_offsetBy _ _ _ hsum, .start hother⟩)
  rcases h with htext | ⟨-, -, h⟩
  · rcases readText_eq_error limits _ _ htext with hvalue | ⟨hdepth, hdeep⟩
    · exact Or.inl hvalue
    · exact Or.inr (Or.inr (Or.inr ⟨hdepth, .text hdeep⟩))
  rcases h with ⟨reason, hstart, hfault⟩ | ⟨-, -, ⟨reason, hstop, hfault⟩ | ⟨-, -, h⟩⟩
  · exact hconverts _ .start reason hstart hfault
  · exact hconverts _ (converts_stop fields length computed hlength hsum) reason hstop hfault
  rcases h with hkind | ⟨-, -, hframes⟩
  · obtain ⟨hdepth, hdeep⟩ := readKind_eq_error limits _ _ hkind
    exact Or.inr (Or.inr (Or.inr ⟨hdepth, .kind hdeep⟩))
  rcases fault_of_frames limits fields fault hframes with hvalue | hbeyond | ⟨v, hc, reason, hwhole, hfault⟩
  · exact Or.inl hvalue
  · exact Or.inr (Or.inr (Or.inr hbeyond))
  · exact hconverts v hc reason hwhole hfault

/-- Of the faults of a token, those that are no faults of its value or kind come of an infinite number or of a want
of room. -/
theorem infinite_or_beyond (fault : TokenFault) (h : ofFields limits fields = .error fault)
    (hvalue : fault.fault ≠ .value) (hkind : fault.fault ≠ .kind) :
    (fault = .whole .infinite ∧ ∃ v, Converts fields v ∧ v.isInfinite = true) ∨
      fault.fault = .depth ∧ Beyond limits fields := by
  rcases fault_of_ofFields limits fields fault h with hclass | ⟨hclass, -⟩ | hother
  · exact absurd hclass hvalue
  · exact absurd hclass hkind
  · exact hother

/-- An infinite start stops the reading of every token whose text can be read. -/
theorem ofFields_of_infinite_start (length : Nat) (text : Text) (hlength : lengthOf (textOf fields) = .ok length)
    (htext : readText limits (textOf fields) = .ok text) (hstart : (startOf fields).isInfinite = true) :
    ofFields limits fields = .error (.whole .infinite) := by
  have hwhole := (startOf fields).whole_of_infinite hstart
  have hcomputed : ∃ computed, offsetBy (startOf fields) length = .ok computed := by
    cases hv : startOf fields with
    | real x => exact ⟨_, rfl⟩
    | null | bool _ | int _ | text _ | list _ | object _ =>
      rw [hv] at hstart
      cases hstart
  obtain ⟨computed, hcomputed⟩ := hcomputed
  simp only [ofFields, bind_eq_error_iff, mapError_eq_error_iff]
  exact Or.inr ⟨length, hlength, Or.inr ⟨computed, hcomputed,
    Or.inr ⟨text, htext, Or.inl ⟨.infinite, hwhole, rfl⟩⟩⟩⟩

end Unread

section Read

variable (limits : Limits) (fields : Fields) (token : Token) (h : ofFields limits fields = .ok token)

include h

/-- All that reading a token converts is whole. -/
theorem whole_of_converts (v : Json) (hc : Converts fields v) : ∃ n, v.whole = .ok n := by
  simp only [ofFields, bind_eq_ok_iff, pure_eq_ok_iff, mapError_eq_ok_iff] at h
  obtain ⟨length, hlength, computed, hsum, text, -, start, hstart, stop, hstop, kind, -, frames, hframes, -⟩ := h
  cases hc with
  | start => exact ⟨start, hstart⟩
  | stop v given =>
    rw [given] at hstop
    exact ⟨stop, hstop⟩
  | sum length' v missing long added =>
    rw [missing] at hstop
    rw [textOf, hlength] at long
    cases long
    rw [startOf, hsum] at added
    cases added
    exact ⟨stop, hstop⟩
  | column v mem given =>
    obtain ⟨-, -, hread⟩ := Frame.ofJson_eq_ok _ _ frames hframes
    exact Frame.columns_of_readChain _ _ frames hread v mem given

/-- A token that is read has no misfit. -/
theorem not_misfit_of_ofFields : ¬ Misfit fields := by
  intro hm
  have hwhole := whole_of_converts limits fields token h
  cases hm with
  | text given numeric =>
    have hfault := lengthOf_of_numeric _ given numeric
    simp only [ofFields, bind_eq_ok_iff] at h
    obtain ⟨length, hlength, -⟩ := h
    rw [textOf, hlength] at hfault
    cases hfault
  | start other =>
    simp only [ofFields, bind_eq_ok_iff] at h
    obtain ⟨length, -, computed, hsum, -⟩ := h
    obtain ⟨fault, hfault⟩ := (offsetBy_eq_error_iff _ length).mpr other
    rw [startOf, hsum] at hfault
    cases hfault
  | numberless v converts unfit =>
    obtain ⟨fault, hfault⟩ := v.whole_of_numberless unfit
    obtain ⟨n, hn⟩ := hwhole v converts
    rw [hn] at hfault
    cases hfault
  | infinite v converts unfit =>
    obtain ⟨n, hn⟩ := hwhole v converts
    rw [v.whole_of_infinite unfit] at hn
    cases hn

end Read

end Token

end QueryHints
