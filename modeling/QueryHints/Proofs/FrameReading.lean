import Mathlib.Tactic.SplitIfs
import QueryHints.Proofs.Attempts
import QueryHints.Token.Basic

namespace QueryHints

open Json (Fields)

namespace Json.Fields

theorem get_cons (name other : Text) (v : Json) (rest : Fields) :
    get ((name, v) :: rest) other = if name = other then v else get rest other := by
  by_cases h : name = other
  · subst h
    simp [get, get?]
  · have hne : (other == name) = false := by simpa using Ne.symm h
    simp [get, get?, List.lookup_cons, h, hne]

theorem sizeOf_get_lt (fields : Fields) (name : Text) :
    sizeOf (get fields name) < sizeOf (Json.object fields) := by
  induction fields with
  | nil => simp [get, get?]
  | cons field rest ih =>
    obtain ⟨other, v⟩ := field
    rw [get_cons]
    simp only [object.sizeOf_spec, List.cons.sizeOf_spec, Prod.mk.sizeOf_spec] at ih ⊢
    split <;> omega

end Json.Fields

/-- An object in a chain goes on to the value of `previous`, and to that of `key` if it is a chain. -/
theorem Json.chain_induction {motive : Json → Prop}
    (object : ∀ fields, motive (Fields.get fields "previous") → motive (Fields.get fields "key") →
      motive (.object fields))
    (other : ∀ v, v.kind ≠ .object → motive v) (v : Json) : motive v :=
  match v with
  | .object fields => object fields (chain_induction object other _) (chain_induction object other _)
  | .null | .bool _ | .int _ | .real _ | .text _ | .list _ => other _ (by simp [kind])
termination_by sizeOf v
decreasing_by all_goals exact Fields.sizeOf_get_lt fields _

/-- A frame in a list goes on to the frames around it, and to the frames of its key if it has such a key. -/
theorem Frame.chain_induction {motive : List Frame → Prop} (root : motive [])
    (frame : ∀ mode key indent outer, motive outer →
      (∀ inner around, key = .frame inner around → motive (inner :: around)) →
      motive (.mk mode key indent :: outer)) (frames : List Frame) : motive frames :=
  match frames with
  | [] => root
  | .mk mode key indent :: outer =>
    frame mode key indent outer (chain_induction root frame outer) fun inner around _ =>
      chain_induction root frame (inner :: around)
termination_by sizeOf frames

mutual

/-- A key that is read as itself: a plain value that is null, a text or an object would be another key. -/
def FrameKey.isProper : FrameKey → Bool
  | .absent | .text _ => true
  | .value v => v.kind ≠ .null && v.kind ≠ .text && v.kind ≠ .object
  | .frame inner outer => inner.isProper && Frame.allProper outer

def Frame.isProper : Frame → Bool
  | .mk _ key _ => key.isProper

def Frame.allProper : List Frame → Bool
  | [] => true
  | f :: outer => f.isProper && Frame.allProper outer

end

mutual

def FrameKey.toJson : FrameKey → Json
  | .absent => .null
  | .text s => .text s
  | .value v => v
  | .frame inner outer => inner.toJson (Frame.chainToJson outer)

def Frame.toJson : Frame → Json → Json
  | .mk mode key indent, previous => Frame.object mode key.toJson previous indent

def Frame.chainToJson : List Frame → Json
  | [] => .null
  | f :: outer => f.toJson (Frame.chainToJson outer)

end

mutual

def FrameKey.depth : FrameKey → Nat
  | .frame inner outer => max inner.keyDepth (Frame.chainDepth outer) + 1
  | .absent | .text _ | .value _ => 0

def Frame.keyDepth : Frame → Nat
  | .mk _ key _ => key.depth

/-- How many frames are written inside each other for a chain: each inside the one before, and those of a key inside
the frame that it keys. -/
def Frame.chainDepth : List Frame → Nat
  | [] => 0
  | f :: outer => max f.keyDepth (Frame.chainDepth outer) + 1

end

mutual

def FrameKey.nesting : FrameKey → Nat
  | .frame inner outer => max inner.keyNesting (Frame.chainNesting outer) + 1
  | .absent | .text _ | .value _ => 0

def Frame.keyNesting : Frame → Nat
  | .mk _ key _ => key.nesting

/-- How many chains are read inside each other for the keys of a chain. Its length does not matter. -/
def Frame.chainNesting : List Frame → Nat
  | [] => 0
  | f :: outer => max f.keyNesting (Frame.chainNesting outer)

end

section Writing

theorem FrameKey.write_frame (room : Nat) (inner : Frame) (outer : List Frame) :
    (FrameKey.frame inner outer).write room = Frame.writeChain room (inner :: outer) := by
  cases room with
  | zero => rw [write, Frame.writeChain]
  | succ room => rw [write, Frame.writeChain]

/-- A key is written if the frames inside each other are no more than there is room for. -/
theorem FrameKey.write_eq (key : FrameKey) (room : Nat)
    (hchain : ∀ inner outer, key = .frame inner outer →
      Frame.writeChain room (inner :: outer) = if Frame.chainDepth (inner :: outer) ≤ room then
        .ok (Frame.chainToJson (inner :: outer)) else .error .tooDeep) :
    key.write room = if key.depth ≤ room then .ok key.toJson else .error .tooDeep := by
  cases key with
  | frame inner outer =>
    rw [write_frame, hchain inner outer rfl, depth, toJson, Frame.chainDepth, Frame.chainToJson]
  | absent | text _ | value _ => simp [write, depth, toJson]

/-- A chain is written in its JSON form exactly where the room suffices for its depth. -/
theorem Frame.writeChain_eq (room : Nat) (frames : List Frame) :
    writeChain room frames =
      if chainDepth frames ≤ room then .ok (chainToJson frames) else .error .tooDeep := by
  induction frames using Frame.chain_induction generalizing room with
  | root => simp [writeChain, chainDepth, chainToJson]
  | frame mode key indent outer hOuter hkey =>
    cases room with
    | zero => simp [writeChain, chainDepth]
    | succ room =>
      have hwrite := key.write_eq room fun inner around h => hkey inner around h room
      have hdepth : chainDepth (.mk mode key indent :: outer) ≤ room + 1 ↔
          key.depth ≤ room ∧ chainDepth outer ≤ room := by
        rw [chainDepth, keyDepth]
        omega
      simp only [writeChain, write, hwrite, hOuter, hdepth, chainToJson, toJson]
      by_cases hk : key.depth ≤ room
      · by_cases ho : chainDepth outer ≤ room
        · simp only [hk, ho, if_true, and_self]
          rfl
        · simp only [hk, ho, if_true, if_false, and_false]
          rfl
      · simp only [hk, if_false, false_and]
        rfl

end Writing

namespace Frame

theorem misfitBehind?_eq (fields : Fields) : misfitBehind? fields = misfit? (Fields.get fields "previous") := by
  induction fields with
  | nil => rfl
  | cons field rest ih =>
    obtain ⟨name, v⟩ := field
    rw [misfitBehind?, Fields.get_cons, ih]
    split <;> rfl

theorem readOuter_eq (rooms : List Nat) (fields : Fields) :
    readOuter rooms fields = readChain rooms (Fields.get fields "previous") := by
  induction fields with
  | nil => rfl
  | cons field rest ih =>
    obtain ⟨name, v⟩ := field
    rw [readOuter, Fields.get_cons, ih]
    split <;> rfl

theorem readKey_eq (rooms : List Nat) (fields : Fields) :
    readKey rooms fields = keyOf rooms (Fields.get fields "key") (readChain rooms (Fields.get fields "key")) := by
  induction fields with
  | nil => rfl
  | cons field rest ih =>
    obtain ⟨name, v⟩ := field
    rw [readKey, Fields.get_cons, ih]
    split <;> rfl

theorem misfit?_object (fields : Fields) :
    misfit? (.object fields) = misfit? (Fields.get fields "previous") := by
  rw [misfit?, misfitBehind?_eq]

/-- The frames around are read first, then the key, the mode and the column. -/
theorem readChain_object (rooms : List Nat) (fields : Fields) :
    readChain rooms (.object fields) = do
      let outer ← readChain rooms (Fields.get fields "previous")
      let key ← keyOf rooms.tail (Fields.get fields "key") (readChain rooms.tail (Fields.get fields "key"))
      let mode ← readMode (rooms.headD 0) (Fields.get fields "mode")
      let indent ← readIndent fields
      return .mk mode key indent :: outer := by
  rw [readChain, readOuter_eq, readKey_eq]

theorem readChain_of_not_object (rooms : List Nat) (v : Json) (h : v.kind ≠ .object) :
    readChain rooms v = .ok [] := by
  cases v with
  | object fields => exact absurd rfl h
  | null | bool _ | int _ | real _ | text _ | list _ => rw [readChain]; simp

end Frame

def Mode.named : Option Mode → Json
  | some m => .text m.name
  | none => .null

namespace Frame

/-- The object of a frame has each of its values under a name of its own. -/
theorem object_fields (mode : Option Mode) (key previous : Json) (indent : Int) :
    ∃ fields, Frame.object mode key previous indent = .object fields ∧
      Fields.get fields "mode" = Mode.named mode ∧ Fields.get fields "key" = key ∧
      Fields.get fields "previous" = previous ∧ Fields.get fields "indent" = .int indent := by
  cases mode <;> exact ⟨_, rfl, rfl, rfl, rfl, rfl⟩

theorem readIndent_of_int (fields : Fields) (n : Int) (h : Fields.get fields "indent" = .int n) :
    readIndent fields = .ok n := by
  rw [readIndent, h]
  by_cases hn : n = 0
  · subst hn
    rfl
  · have hvoid : (Json.int n).isVoid = false := by simpa [Json.isVoid] using hn
    simp only [hvoid]
    rfl

/-- Names of modes need no room. -/
theorem readMode_named (room : Nat) (mode : Option Mode) : readMode room (Mode.named mode) = .ok mode := by
  cases mode with
  | none => rfl
  | some m => cases m <;> rfl

/-- The object of a frame is read as that frame, if its key is. -/
theorem readChain_written (rooms : List Nat) (mode : Option Mode) (key previous : Json) (indent : Int) :
    readChain rooms (Frame.object mode key previous indent) = do
      let outer ← readChain rooms previous
      let key ← keyOf rooms.tail key (readChain rooms.tail key)
      return .mk mode key indent :: outer := by
  obtain ⟨fields, hobject, hmode, hkey, hprevious, hindent⟩ := object_fields mode key previous indent
  rw [hobject, readChain_object, hprevious, hkey, hmode, readMode_named, readIndent_of_int fields indent hindent]
  rfl

/-- What is written has no misfits. -/
theorem misfit?_chainToJson (frames : List Frame) : misfit? (chainToJson frames) = none := by
  induction frames with
  | nil => rfl
  | cons f outer ih =>
    obtain ⟨mode, key, indent⟩ := f
    obtain ⟨fields, hobject, -, -, hprevious, -⟩ :=
      object_fields mode key.toJson (chainToJson outer) indent
    rw [chainToJson, toJson, hobject, misfit?_object, hprevious, ih]

/-- A proper key is read as itself, if there is room for its chains. -/
theorem keyOf_toJson (rooms : List Nat) (key : FrameKey) (hk : key.isProper = true)
    (hchain : ∀ inner outer, key = .frame inner outer → rooms ≠ [] →
      readChain rooms (chainToJson (inner :: outer)) =
        if chainNesting (inner :: outer) < rooms.length then .ok (inner :: outer) else .error .tooDeep) :
    keyOf rooms key.toJson (readChain rooms key.toJson) =
      if key.nesting ≤ rooms.length then .ok key else .error .tooDeep := by
  cases key with
  | absent | text s => simp [FrameKey.toJson, FrameKey.nesting, keyOf]
  | value v =>
    rw [FrameKey.toJson]
    cases v with
    | null | text _ | object _ => simp [FrameKey.isProper, Json.kind] at hk
    | bool _ | int _ | real _ | list _ => simp [FrameKey.nesting, keyOf]
  | frame inner outer =>
    have hwritten : (FrameKey.frame inner outer).toJson = chainToJson (inner :: outer) := by
      rw [FrameKey.toJson, chainToJson]
    have hnesting : (FrameKey.frame inner outer).nesting = chainNesting (inner :: outer) + 1 := by
      rw [FrameKey.nesting, chainNesting]
    have hfits := misfit?_chainToJson (inner :: outer)
    have hobject : ∃ fields, chainToJson (inner :: outer) = .object fields := by
      obtain ⟨mode, key, indent⟩ := inner
      obtain ⟨fields, hfields, -⟩ := object_fields mode key.toJson (chainToJson outer) indent
      exact ⟨fields, by rw [chainToJson, toJson, hfields]⟩
    obtain ⟨fields, hobject⟩ := hobject
    cases rooms with
    | nil => simp [hwritten, hobject, hnesting, keyOf]
    | cons room deeper =>
      have hread := hchain inner outer rfl (by simp)
      rw [hobject] at hread hfits
      rw [hwritten, hobject, hread, hnesting]
      by_cases hroom : chainNesting (inner :: outer) < (room :: deeper).length
      · simp only [keyOf, hfits, hroom, if_true, Nat.succ_le_of_lt hroom, List.isEmpty_cons, Bool.false_eq_true,
          if_false]
      · have hle : ¬ chainNesting (inner :: outer) + 1 ≤ (room :: deeper).length := by omega
        simp only [keyOf, hfits, hroom, hle, if_false, List.isEmpty_cons, Bool.false_eq_true]

/-- A chain comes back if its keys are not nested deeper than there are rooms, whatever its length. -/
theorem readChain_chainToJson (rooms : List Nat) (hrooms : rooms ≠ []) (frames : List Frame)
    (h : allProper frames = true) :
    readChain rooms (chainToJson frames) =
      if chainNesting frames < rooms.length then .ok frames else .error .tooDeep := by
  induction frames using Frame.chain_induction generalizing rooms with
  | root => simp [chainToJson, readChain, chainNesting, List.length_pos_iff.mpr hrooms]
  | frame mode key indent outer hOuter hkey =>
    simp only [allProper, isProper, Bool.and_eq_true] at h
    have hread := keyOf_toJson rooms.tail key h.1 fun inner around hframe htail => by
      subst hframe
      apply hkey inner around rfl rooms.tail htail
      simpa only [FrameKey.isProper, allProper] using h.1
    have htail : rooms.tail.length + 1 = rooms.length := by
      have := List.length_pos_iff.mpr hrooms
      rw [List.length_tail]
      omega
    have hnesting : chainNesting (.mk mode key indent :: outer) < rooms.length ↔
        key.nesting ≤ rooms.tail.length ∧ chainNesting outer < rooms.length := by
      rw [chainNesting, keyNesting]
      omega
    rw [chainToJson, toJson, readChain_written, hOuter rooms hrooms h.2, hread]
    simp only [hnesting]
    by_cases ho : chainNesting outer < rooms.length
    · by_cases hk : key.nesting ≤ rooms.tail.length
      · simp only [ho, hk, if_true, and_self]
        rfl
      · simp only [ho, hk, if_true, if_false, false_and]
        rfl
    · simp only [ho, if_false, and_false]
      rfl

/-- A chain of proper frames comes back from its JSON form exactly where the rooms suffice for its keys. -/
theorem ofJson_chainToJson (rooms : List Nat) (frames : List Frame) (h : allProper frames = true) :
    ofJson rooms (chainToJson frames) =
      if chainNesting frames < rooms.length then .ok frames else .error .tooDeep := by
  cases rooms with
  | nil => simp [ofJson]
  | cons room deeper =>
    rw [ofJson, misfit?_chainToJson, readChain_chainToJson _ (by simp) frames h]
    simp

def chainLength : Json → Nat
  | .object fields => chainLength (Fields.get fields "previous") + 1
  | _ => 0
termination_by v => sizeOf v
decreasing_by exact Fields.sizeOf_get_lt fields _

/-- The values stand for chains of the same length with the same keys. A key that is a chain again has the same
length and the same keys. -/
inductive SameKeys : Json → Json → Prop
  | root : SameKeys .null .null
  | frame (fields written : Fields)
      (previous : SameKeys (Fields.get fields "previous") (Fields.get written "previous"))
      (plain : (Fields.get fields "key").kind ≠ .object →
        Fields.get written "key" = Fields.get fields "key")
      (chain : (Fields.get fields "key").kind = .object →
        SameKeys (Fields.get fields "key") (Fields.get written "key")) :
      SameKeys (.object fields) (.object written)

theorem eq_null_of_misfit? (v : Json) (hv : v.kind ≠ .object) (h : misfit? v = none) : v = .null := by
  cases v with
  | null => rfl
  | object fields => exact absurd rfl hv
  | bool _ | int _ | real _ | text _ | list _ => simp [misfit?] at h

/-- A key that is no chain is kept, and one that is a chain was read. -/
theorem key_of_keyOf (rooms : List Nat) (v : Json) (key : FrameKey)
    (h : keyOf rooms v (readChain rooms v) = .ok key) :
    (v.kind ≠ .object → key.toJson = v ∧ key.isProper = true ∧ key.nesting = 0) ∧
      (v.kind = .object → ∃ inner outer, key = .frame inner outer ∧ rooms ≠ [] ∧ misfit? v = none ∧
        readChain rooms v = .ok (inner :: outer)) := by
  cases v with
  | object fields =>
    refine ⟨fun hv => absurd rfl hv, fun _ => ?_⟩
    cases rooms with
    | nil => cases h
    | cons room deeper =>
      cases hm : misfit? (.object fields) with
      | some kind => simp [keyOf, hm] at h
      | none =>
        cases hc : readChain (room :: deeper) (.object fields) with
        | error fault => simp [keyOf, hm, hc] at h
        | ok frames =>
          cases frames with
          | nil =>
            simp only [readChain_object, bind_eq_ok_iff, pure_eq_ok_iff] at hc
            obtain ⟨_, _, _, _, _, _, _, _, hcons⟩ := hc
            cases hcons
          | cons inner outer =>
            simp only [keyOf, hm, hc, List.isEmpty_cons, Bool.false_eq_true, if_false, Except.ok.injEq] at h
            exact ⟨inner, outer, h.symm, by simp, rfl, rfl⟩
  | null | bool _ | int _ | real _ | text _ | list _ =>
    simp only [keyOf, Except.ok.injEq] at h
    subst h
    simp [FrameKey.toJson, FrameKey.isProper, FrameKey.nesting, Json.kind]

/-- What is read is proper, the rooms suffice for it, and written again it has the same keys. -/
theorem sameKeys_of_readChain (rooms : List Nat) (hrooms : rooms ≠ []) (v : Json) (frames : List Frame)
    (hfits : misfit? v = none) (h : readChain rooms v = .ok frames) :
    allProper frames = true ∧ chainNesting frames < rooms.length ∧ frames.length = chainLength v ∧
      SameKeys v (chainToJson frames) := by
  induction v using Json.chain_induction generalizing frames rooms with
  | other v hv =>
    obtain rfl := eq_null_of_misfit? v hv hfits
    rw [readChain_of_not_object _ _ hv, Except.ok.injEq] at h
    subst h
    exact ⟨rfl, List.length_pos_iff.mpr hrooms, by simp [chainLength], .root⟩
  | object fields hprevious hkey =>
    simp only [readChain_object, bind_eq_ok_iff, pure_eq_ok_iff] at h
    obtain ⟨outer, houter, key, hread, mode, hmode, indent, hindent, rfl⟩ := h
    rw [misfit?_object] at hfits
    obtain ⟨hproper, hnesting, hlength, hsame⟩ := hprevious rooms hrooms outer hfits houter
    obtain ⟨hplain, hchain⟩ := key_of_keyOf _ _ key hread
    have hinner : (Fields.get fields "key").kind = .object →
        key.isProper = true ∧ key.nesting ≤ rooms.tail.length ∧
          SameKeys (Fields.get fields "key") key.toJson := by
      intro hobject
      obtain ⟨inner, around, rfl, htail, hfitsKey, hreadKey⟩ := hchain hobject
      obtain ⟨hproperKey, hnestingKey, -, hsameKey⟩ := hkey rooms.tail htail (inner :: around) hfitsKey hreadKey
      rw [chainToJson] at hsameKey
      rw [allProper] at hproperKey
      rw [chainNesting] at hnestingKey
      refine ⟨by rwa [FrameKey.isProper], ?_, by rwa [FrameKey.toJson]⟩
      rw [FrameKey.nesting]
      exact hnestingKey
    have hkeyFits : key.isProper = true ∧ key.nesting ≤ rooms.tail.length := by
      by_cases hobject : (Fields.get fields "key").kind = .object
      · exact ⟨(hinner hobject).1, (hinner hobject).2.1⟩
      · obtain ⟨-, hproperKey, hnone⟩ := hplain hobject
        exact ⟨hproperKey, by omega⟩
    refine ⟨?_, ?_, ?_, ?_⟩
    · rw [allProper, isProper, hkeyFits.1, hproper, Bool.and_self]
    · have hle := hkeyFits.2
      have hpos := List.length_pos_iff.mpr hrooms
      rw [List.length_tail] at hle
      rw [chainNesting, keyNesting]
      omega
    · rw [List.length_cons, hlength, chainLength]
    · obtain ⟨written, hwritten, -, hkeyAt, hpreviousAt, -⟩ :=
        object_fields mode key.toJson (chainToJson outer) indent
      rw [chainToJson, toJson, hwritten]
      apply SameKeys.frame
      · rwa [hpreviousAt]
      · intro hobject
        rw [hkeyAt, (hplain hobject).1]
      · intro hobject
        rw [hkeyAt]
        exact (hinner hobject).2.2

/-- What is read as a chain has no misfits, and was read with some room. -/
theorem ofJson_eq_ok (rooms : List Nat) (v : Json) (frames : List Frame) (h : ofJson rooms v = .ok frames) :
    rooms ≠ [] ∧ misfit? v = none ∧ readChain rooms v = .ok frames := by
  cases rooms with
  | nil => cases h
  | cons room deeper =>
    cases hm : misfit? v with
    | some kind => simp [ofJson, hm] at h
    | none => exact ⟨by simp, rfl, by simpa [ofJson, hm] using h⟩

def plainChain (length : Nat) : List Frame :=
  List.replicate length (.mk (some .join) .absent 0)

theorem allProper_plainChain (length : Nat) : allProper (plainChain length) = true := by
  induction length with
  | zero => rfl
  | succ length ih => rw [plainChain, List.replicate_succ, allProper, ← plainChain, ih]; rfl

theorem chainDepth_plainChain (length : Nat) : chainDepth (plainChain length) = length := by
  induction length with
  | zero => rfl
  | succ length ih =>
    rw [plainChain, List.replicate_succ, chainDepth, ← plainChain, ih, keyDepth, FrameKey.depth, Nat.zero_max]

theorem chainNesting_plainChain (length : Nat) : chainNesting (plainChain length) = 0 := by
  induction length with
  | zero => rfl
  | succ length ih =>
    rw [plainChain, List.replicate_succ, chainNesting, ← plainChain, ih, keyNesting, FrameKey.nesting,
      Nat.zero_max]

/-- Frames are written and read without loss, as far as they are written and read at all. A chain is written exactly
if the room suffices for all the frames that stand inside each other, so that for any room some chains are too long;
what is written is read as the same chain exactly if there are rooms for the keys that are chains, however long the
chain is. A value that is read as a chain has as many frames, and what is written of them reads the same again: it has
the same length and the same keys, also inside keys that are chains. -/
theorem frames_come_back (room : Nat) (rooms : List Nat) :
    (∀ frames, writeChain room frames = .error .tooDeep ↔ room < chainDepth frames) ∧
    (∀ length, room < length → allProper (plainChain length) = true ∧
      writeChain room (plainChain length) = .error .tooDeep ∧
      (rooms ≠ [] → ofJson rooms (chainToJson (plainChain length)) = .ok (plainChain length))) ∧
    (∀ frames written, allProper frames = true → writeChain room frames = .ok written →
      (ofJson rooms written = .ok frames ↔ chainNesting frames < rooms.length) ∧
      (ofJson rooms written = .error .tooDeep ↔ rooms.length ≤ chainNesting frames)) ∧
    ∀ v frames, ofJson rooms v = .ok frames → frames.length = chainLength v ∧
      ∀ written, writeChain room frames = .ok written → ofJson rooms written = .ok frames ∧
        chainLength written = chainLength v ∧ SameKeys v written := by
  refine ⟨?_, ?_, ?_, ?_⟩
  · intro frames
    rw [writeChain_eq]
    split_ifs with hdepth <;> simp <;> omega
  · intro length hlength
    refine ⟨allProper_plainChain length, ?_, ?_⟩
    · rw [writeChain_eq, chainDepth_plainChain, if_neg (by omega)]
    · intro hrooms
      rw [ofJson_chainToJson rooms _ (allProper_plainChain length), chainNesting_plainChain,
        if_pos (List.length_pos_iff.mpr hrooms)]
  · intro frames written hproper hwritten
    rw [writeChain_eq] at hwritten
    split_ifs at hwritten
    cases hwritten
    rw [ofJson_chainToJson rooms frames hproper]
    split_ifs with hnesting <;> simp <;> omega
  · intro v frames h
    obtain ⟨hrooms, hfits, hread⟩ := ofJson_eq_ok rooms v frames h
    obtain ⟨hproper, hnesting, hlength, hsame⟩ := sameKeys_of_readChain rooms hrooms v frames hfits hread
    refine ⟨hlength, ?_⟩
    intro written hwritten
    rw [writeChain_eq] at hwritten
    split_ifs at hwritten
    cases hwritten
    have hback : readChain rooms (chainToJson frames) = .ok frames := by
      rw [readChain_chainToJson rooms hrooms frames hproper, if_pos hnesting]
    obtain ⟨-, -, hagain, -⟩ :=
      sameKeys_of_readChain rooms hrooms _ frames (misfit?_chainToJson frames) hback
    refine ⟨?_, hagain.symm.trans hlength, hsame⟩
    rw [ofJson_chainToJson rooms frames hproper, if_pos hnesting]

/-- A chain that a document can well have is read, and cannot be written again by a machine of the usual depth. -/
theorem long_chain_not_written :
    allProper (plainChain 1500) = true ∧
      ofJson [1000] (chainToJson (plainChain 1500)) = .ok (plainChain 1500) ∧
      writeChain 1000 (plainChain 1500) = .error .tooDeep := by
  refine ⟨allProper_plainChain 1500, ?_, ?_⟩
  · rw [ofJson_chainToJson _ _ (allProper_plainChain 1500), chainNesting_plainChain]
    rfl
  · rw [writeChain_eq, chainDepth_plainChain]
    rfl

/-- A join that is keyed by an ident expression, around it a frame of an unknown mode with a list as its key and
a column given as a text. -/
def nestedChain : Json :=
  .object [("mode", .text "attr-list"), ("previous", .object [("mode", .text "join"),
    ("key", .object [("key", .text ":user/id"), ("mode", .text "ident"), ("previous", .object [])]),
    ("previous", .object [("mode", .text "vector"), ("key", .list [.int 1]), ("indent", .text " 3")])])]

def nestedFrames : List Frame :=
  [.mk (some .attrList) .absent 0,
    .mk (some .join) (.frame (.mk (some .ident) (.text ":user/id") 0) [.mk none .absent 0]) 0,
    .mk (some .other) (.value (.list [.int 1])) 3]

/-- Four frames inside each other suffice for this chain, and so do two rooms. -/
theorem frames_come_back_nested :
    4 < 5 ∧ writeChain 4 (plainChain 5) = .error .tooDeep ∧
      allProper nestedFrames = true ∧ ofJson [9, 9] nestedChain = .ok nestedFrames ∧
      (∃ written, writeChain 4 nestedFrames = .ok written ∧ ofJson [9, 9] written = .ok nestedFrames ∧
        chainLength written = chainLength nestedChain ∧ SameKeys nestedChain written) ∧
      ofJson [9] nestedChain = .error .tooDeep := by
  have hproper : allProper nestedFrames = true := by decide
  have hread : ofJson [9, 9] nestedChain = .ok nestedFrames := by rfl
  have hwritten : ∃ written, writeChain 4 nestedFrames = .ok written :=
    ⟨_, by rw [writeChain_eq, if_pos (by decide)]⟩
  obtain ⟨-, hlong, -, hback⟩ := frames_come_back 4 [9, 9]
  obtain ⟨written, hwritten⟩ := hwritten
  obtain ⟨hsame, hlength, hkeys⟩ := (hback nestedChain nestedFrames hread).2 written hwritten
  exact ⟨by decide, (hlong 5 (by decide)).2.1, hproper, hread, ⟨written, hwritten, hsame, hlength, hkeys⟩, rfl⟩

end Frame

end QueryHints
