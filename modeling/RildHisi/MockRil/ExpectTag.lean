import RildHisi.MockRil.GeneratedMessages

/-!
Owns the shortcuts of the generated parsers: behind a field they ask for the tag of the next
one and jump to its label past the loop and the switch. Whatever the stream answers, the
message is the one that the loop alone reads.
-/

namespace RildHisi.MockRil.Generated

open RildHisi.Library

variable {ι : Type} {stream : CodedStream} {classes : Classes ι} {depth : ℕ}
  {readMessage : MessageReader stream ι} {fields : List (Field ι)}

/-! ### Tags of fields -/

theorem wireType_lt (type : FieldType ι) : wireType type < 8 := by
  cases type <;> simp [wireType, wireTypeVarint, wireTypeLengthDelimited]

theorem tagFieldNumber_fieldTag (position : ℕ) (field : Field ι) :
    tagFieldNumber (fieldTag position field) = position + 1 :=
  tagFieldNumber_makeTag _ (wireType_lt field.type)

theorem tagWireType_fieldTag (position : ℕ) (field : Field ι) :
    tagWireType (fieldTag position field) = wireType field.type :=
  tagWireType_makeTag _ (wireType_lt field.type)

theorem fieldTag_ne_zero (position : ℕ) (field : Field ι) : fieldTag position field ≠ 0 := by
  unfold fieldTag makeTag
  omega

theorem findField_succ {position : ℕ} {field : Field ι} (present : fields[position]? = some field) :
    findField fields (position + 1) = some (position, field) := by
  rw [findField, present, Option.map_some]

/-- What the switch finds is a field at its position. -/
theorem getElem?_of_findField {number position : ℕ} {field : Field ι}
    (found : findField fields number = some (position, field)) :
    number = position + 1 ∧ fields[position]? = some field := by
  cases number with
  | zero => cases found
  | succ position' =>
      rw [findField, Option.map_eq_some_iff] at found
      obtain ⟨field', present, same⟩ := found
      obtain ⟨rfl, rfl⟩ := Prod.mk.inj same
      exact ⟨rfl, present⟩

/-! ### What is taken -/

/-- A reader of messages takes bytes. -/
def TakesBytes (readMessage : MessageReader stream ι) : Prop :=
  ∀ type into bytes value rest, readMessage type into bytes = some (value, rest) →
    rest.length < bytes.length

theorem takesBytes_readMessageNoVirtual
    (merge : ι → Proto stream.Unknown → List UInt8 → Option (Merged stream)) :
    TakesBytes (readMessageNoVirtual stream merge) := by
  intro type into bytes value rest came
  simp only [readMessageNoVirtual, Option.bind_eq_bind, Option.bind_eq_some_iff,
    Prod.exists] at came
  obtain ⟨payload, behind, taken, contents, consumed, -, came⟩ := came
  split_ifs at came
  obtain ⟨-, rfl⟩ := Prod.mk.inj (Option.some.inj came)
  exact stream.readLengthDelimited_shorter _ _ _ taken

/-- A primitive that was read as a value. -/
theorem readPrimitive_of_map {primitive : Primitive} {bytes rest : List UInt8}
    {value : Proto stream.Unknown}
    (came : (stream.readPrimitive primitive bytes).map (fun read => (Proto.number read.1, read.2)) =
      some (value, rest)) :
    ∃ number, value = .number number ∧
      stream.readPrimitive primitive bytes = some (number, rest) := by
  obtain ⟨read, taken, same⟩ := Option.map_eq_some_iff.mp came
  obtain ⟨rfl, rfl⟩ := Prod.mk.inj same
  exact ⟨read.1, rfl, taken⟩

theorem readPacked_shorter {type : IntType} {position : ℕ}
    {contents contents' : Contents stream.Unknown} {bytes rest : List UInt8}
    (came : readPacked stream type position contents bytes = some (contents', rest)) :
    rest.length < bytes.length := by
  simp only [readPacked, Option.bind_eq_bind, Option.bind_eq_some_iff, Prod.exists] at came
  obtain ⟨payload, behind, taken, contents'', -, same⟩ := came
  obtain ⟨-, rfl⟩ := Prod.mk.inj (Option.some.inj same)
  exact stream.readLengthDelimited_shorter _ _ _ taken

/-- A turn that does not come from the end of a case. -/
def Uninterpreted (bytes : List UInt8) (outcome : Option (LoopTurn stream ι)) : Prop :=
  ∀ state rest, outcome = some (.goesOn state rest) →
    state.2 = none ∧ rest.length ≤ bytes.length

theorem uninterpreted_handle (depth : ℕ) (contents : Contents stream.Unknown) (tag : ℕ)
    (bytes : List UInt8) :
    Uninterpreted bytes (handleUninterpreted (ι := ι) stream depth contents tag bytes) := by
  intro state rest came
  unfold handleUninterpreted at came
  split_ifs at came with ended
  · cases came
  · simp only [Option.bind_eq_bind, Option.bind_eq_some_iff, Prod.exists] at came
    obtain ⟨unknown, behind, taken, came⟩ := came
    obtain ⟨rfl, rfl⟩ := ReadTurn.goesOn.inj (Option.some.inj came)
    exact ⟨rfl, stream.skipField_shorter _ _ _ _ _ taken⟩

section

variable (takesBytes : TakesBytes readMessage)

include takesBytes

theorem readValue_shorter {type : FieldType ι} {current : Option (Proto stream.Unknown)}
    {bytes rest : List UInt8} {value : Proto stream.Unknown}
    (came : readValue stream classes readMessage type current bytes = some (value, rest)) :
    rest.length < bytes.length := by
  cases type with
  | message type => exact takesBytes _ _ _ _ _ came
  | string =>
      obtain ⟨read, taken, same⟩ := Option.map_eq_some_iff.mp came
      obtain ⟨-, rfl⟩ := Prod.mk.inj same
      exact stream.readLengthDelimited_shorter _ _ _ taken
  | int type =>
      obtain ⟨number, -, taken⟩ := readPrimitive_of_map came
      exact stream.readPrimitive_shorter _ _ _ _ taken
  | bool =>
      obtain ⟨number, -, taken⟩ := readPrimitive_of_map came
      exact stream.readPrimitive_shorter _ _ _ _ taken
  | enum descriptor =>
      obtain ⟨number, -, taken⟩ := readPrimitive_of_map came
      exact stream.readPrimitive_shorter _ _ _ _ taken

theorem readField_shorter {position : ℕ} {field : Field ι}
    {contents contents' : Contents stream.Unknown} {bytes rest : List UInt8}
    (came : readField stream classes readMessage position field contents bytes =
      some (contents', rest)) : rest.length < bytes.length := by
  simp only [readField, Option.bind_eq_bind, Option.bind_eq_some_iff, Prod.exists] at came
  obtain ⟨value, behind, taken, came⟩ := came
  have shorter := readValue_shorter takesBytes taken
  cases refused : refusedNumber field.type value with
  | none =>
      rw [refused] at came
      obtain ⟨-, rfl⟩ := Prod.mk.inj (Option.some.inj came)
      exact shorter
  | some number =>
      rw [refused] at came
      obtain ⟨-, rfl⟩ := Prod.mk.inj (Option.some.inj came)
      exact shorter

/-! ### The switch -/

/-- Whatever the stream answers, the switch comes to the same turn, or to the end of the case
of a field with the same message. -/
theorem switchField_cases (classes : Classes ι) (depth : ℕ) (fields : List (Field ι))
    (contents : Contents stream.Unknown) (tag : ℕ) (bytes : List UInt8) :
    (∃ outcome, Uninterpreted bytes outcome ∧ ∀ lookahead,
      switchField lookahead classes depth readMessage fields contents tag bytes = outcome) ∨
    ∃ position field contents' rest, fields[position]? = some field ∧
      rest.length < bytes.length ∧ ∀ lookahead,
      switchField lookahead classes depth readMessage fields contents tag bytes =
        some (afterField lookahead fields position field contents' rest) := by
  have skipped := uninterpreted_handle (ι := ι) depth contents tag bytes
  -- how a case ends that reads its field so
  have ended (read : Option (Contents stream.Unknown × List UInt8)) (position : ℕ) (field : Field ι)
      (present : fields[position]? = some field)
      (shorter : ∀ contents' rest, read = some (contents', rest) → rest.length < bytes.length)
      (switched : ∀ lookahead,
        switchField lookahead classes depth readMessage fields contents tag bytes =
          read.bind fun found =>
            some (afterField lookahead fields position field found.1 found.2)) :
      (∃ outcome, Uninterpreted bytes outcome ∧ ∀ lookahead,
        switchField lookahead classes depth readMessage fields contents tag bytes = outcome) ∨
      ∃ position field contents' rest, fields[position]? = some field ∧
        rest.length < bytes.length ∧ ∀ lookahead,
        switchField lookahead classes depth readMessage fields contents tag bytes =
          some (afterField lookahead fields position field contents' rest) := by
    cases found : read with
    | none =>
        refine Or.inl ⟨none, ?_, fun lookahead => ?_⟩
        · intro state rest came
          cases came
        · rw [switched, found, Option.bind_none]
    | some result =>
        refine Or.inr ⟨position, field, result.1, result.2, present, shorter _ _ found, ?_⟩
        intro lookahead
        rw [switched, found, Option.bind_some]
  cases found : findField fields (tagFieldNumber tag) with
  | none =>
      refine Or.inl ⟨_, skipped, fun lookahead => ?_⟩
      rw [switchField, found]
  | some place =>
      obtain ⟨position, field⟩ := place
      have present := (getElem?_of_findField found).2
      by_cases typed : tagWireType tag = wireType field.type
      · apply ended (readField stream classes readMessage position field contents bytes)
          position field present (fun contents' rest => readField_shorter takesBytes)
        intro lookahead
        rw [switchField, found]
        exact if_pos typed
      · cases packed : packedType field with
        | none =>
            refine Or.inl ⟨_, skipped, fun lookahead => ?_⟩
            simp only [switchField, found, if_neg typed, packed]
        | some type =>
            by_cases delimited : tagWireType tag = wireTypeLengthDelimited
            · apply ended (readPacked stream type position contents bytes) position field
                present (fun contents' rest => readPacked_shorter)
              intro lookahead
              simp only [switchField, found, if_neg typed, packed, if_pos delimited]
              rfl
            · refine Or.inl ⟨_, skipped, fun lookahead => ?_⟩
              simp only [switchField, found, if_neg typed, packed, if_neg delimited]

end

/-! ### The end of a case -/

/-- A label is one of a field of the message. -/
theorem getElem?_of_mem_labels {position : ℕ} {field : Field ι} {label : ℕ × Field ι}
    (present : fields[position]? = some field) (member : label ∈ labels fields position field) :
    fields[label.1]? = some label.2 := by
  unfold labels at member
  rcases List.mem_append.mp member with own | next
  · split_ifs at own
    · obtain rfl := List.mem_singleton.mp own
      exact present
    · cases own
  · rw [Option.mem_toList, Option.map_eq_some_iff] at next
    obtain ⟨other, there, rfl⟩ := next
    exact there

/-- What the end of a case does: it breaks, it jumps to a label whose tag comes next, or it
returns at the end of the bytes. -/
theorem afterField_cases (lookahead : Lookahead stream) (fields : List (Field ι)) (position : ℕ)
    (field : Field ι) (contents : Contents stream.Unknown) (bytes : List UInt8) :
    afterField lookahead fields position field contents bytes = .goesOn (contents, none) bytes ∨
    (∃ label rest, label ∈ labels fields position field ∧
      stream.readTag bytes = (fieldTag label.1 label.2, rest) ∧
      afterField lookahead fields position field contents bytes =
        .goesOn (contents, some label) rest) ∨
    bytes = [] ∧ afterField lookahead fields position field contents bytes =
      .ends (contents, true) := by
  unfold afterField
  cases jumps : (labels fields position field).findSome? fun label =>
      (lookahead.expectTag (fieldTag label.1 label.2) bytes).map fun rest => (label, rest) with
  | some jump =>
      obtain ⟨label, member, expected⟩ := List.exists_of_findSome?_eq_some jumps
      obtain ⟨rest, found, rfl⟩ := Option.map_eq_some_iff.mp expected
      exact Or.inr (Or.inl ⟨label, rest, member, lookahead.expectTag_sound _ _ _ found, rfl⟩)
  | none =>
      by_cases atEnd : position + 1 = fields.length ∧ lookahead.expectAtEnd bytes = true
      · exact Or.inr (Or.inr ⟨lookahead.expectAtEnd_sound _ atEnd.2, if_pos atEnd⟩)
      · exact Or.inl (if_neg atEnd)

/-- Without lookahead it breaks. -/
theorem afterField_never (position : ℕ) (field : Field ι) (contents : Contents stream.Unknown)
    (bytes : List UInt8) :
    afterField (Lookahead.never stream) fields position field contents bytes =
      .goesOn (contents, none) bytes := by
  have nothing : (labels fields position field).findSome? (fun label =>
      ((Lookahead.never stream).expectTag (fieldTag label.1 label.2) bytes).map
        fun rest => (label, rest)) = none := by
    rw [List.findSome?_eq_none_iff]
    intro label member
    rfl
  simp only [afterField, nothing]
  exact if_neg fun atEnd => Bool.false_ne_true atEnd.2

theorem afterField_le {lookahead : Lookahead stream} {position : ℕ} {field : Field ι}
    {contents : Contents stream.Unknown} {bytes rest : List UInt8} {state : LoopState stream ι}
    (goesOn : afterField lookahead fields position field contents bytes = .goesOn state rest) :
    rest.length ≤ bytes.length := by
  rcases afterField_cases lookahead fields position field contents bytes with
    breaks | ⟨label, behind, -, tag, jumps⟩ | ⟨-, returns⟩
  · rw [breaks] at goesOn
    obtain ⟨-, rfl⟩ := ReadTurn.goesOn.inj goesOn
    exact Nat.le_refl _
  · rw [jumps] at goesOn
    obtain ⟨-, rfl⟩ := ReadTurn.goesOn.inj goesOn
    have shorter := stream.readTag_shorter bytes
    rw [tag] at shorter
    exact Nat.le_of_lt (shorter (fieldTag_ne_zero label.1 label.2))
  · rw [returns] at goesOn
    cases goesOn

/-! ### The loop -/

theorem mergeTurn_tag (lookahead : Lookahead stream) (contents : Contents stream.Unknown)
    (bytes : List UInt8) :
    mergeTurn lookahead classes depth readMessage fields (contents, none) bytes =
      if (stream.readTag bytes).1 = 0 then some (.ends (contents, bytes = []))
      else switchField lookahead classes depth readMessage fields contents
        (stream.readTag bytes).1 (stream.readTag bytes).2 := rfl

theorem mergeTurn_label (lookahead : Lookahead stream) (contents : Contents stream.Unknown)
    (label : ℕ × Field ι) (bytes : List UInt8) :
    mergeTurn lookahead classes depth readMessage fields (contents, some label) bytes =
      (readField stream classes readMessage label.1 label.2 contents bytes).bind fun read =>
        some (afterField lookahead fields label.1 label.2 read.1 read.2) := rfl

/-- The switch finds the field of a tag. -/
theorem switchField_fieldTag (lookahead : Lookahead stream) (label : ℕ × Field ι)
    (present : fields[label.1]? = some label.2) (contents : Contents stream.Unknown)
    (bytes : List UInt8) :
    switchField lookahead classes depth readMessage fields contents (fieldTag label.1 label.2)
        bytes =
      (readField stream classes readMessage label.1 label.2 contents bytes).bind fun read =>
        some (afterField lookahead fields label.1 label.2 read.1 read.2) := by
  rw [switchField, tagFieldNumber_fieldTag, findField_succ present]
  exact if_pos (tagWireType_fieldTag label.1 label.2)

/-- The loop comes to these states where the loop without lookahead comes to those. -/
inductive ReachedBy (fields : List (Field ι)) :
    LoopState stream ι → List UInt8 → LoopState stream ι → List UInt8 → Prop
  | breaks (contents : Contents stream.Unknown) (bytes : List UInt8) :
      ReachedBy fields (contents, none) bytes (contents, none) bytes
  | jumps (contents : Contents stream.Unknown) (label : ℕ × Field ι) (bytes bytes' : List UInt8)
      (present : fields[label.1]? = some label.2)
      (tag : stream.readTag bytes' = (fieldTag label.1 label.2, bytes)) :
      ReachedBy fields (contents, some label) bytes (contents, none) bytes'

section

variable (takesBytes : TakesBytes readMessage)

include takesBytes

theorem shortens_mergeTurn (classes : Classes ι) (depth : ℕ) (fields : List (Field ι))
    (lookahead : Lookahead stream) :
    Shortens (mergeTurn lookahead classes depth readMessage fields) := by
  intro state bytes state' rest came
  obtain ⟨contents, label⟩ := state
  cases label with
  | some label =>
      rw [mergeTurn_label, Option.bind_eq_some_iff] at came
      obtain ⟨read, taken, came⟩ := came
      have shorter := readField_shorter takesBytes taken
      exact Nat.lt_of_le_of_lt (afterField_le (Option.some.inj came)) shorter
  | none =>
      have shorter := stream.readTag_shorter bytes
      rw [mergeTurn_tag] at came
      split_ifs at came with ended
      · cases came
      · apply Nat.lt_of_le_of_lt _ (shorter ended)
        rcases switchField_cases takesBytes classes depth fields contents
          (stream.readTag bytes).1 (stream.readTag bytes).2 with
          ⟨outcome, uninterpreted, same⟩ | ⟨position, field, contents', behind, -, less, same⟩
        · rw [same] at came
          exact (uninterpreted state' rest came).2
        · rw [same] at came
          exact Nat.le_trans (afterField_le (Option.some.inj came)) (Nat.le_of_lt less)

/-- The turns of the two loops from such states are the same, or both are at the end of the
case of a field. -/
theorem mergeTurn_agrees (classes : Classes ι) (depth : ℕ) (lookahead : Lookahead stream)
    {state plain : LoopState stream ι}
    {bytes bytes' : List UInt8} (reached : ReachedBy fields state bytes plain bytes') :
    (∃ outcome : Option (LoopTurn stream ι),
      (∀ later rest, outcome = some (.goesOn later rest) → later.2 = none) ∧
      mergeTurn lookahead classes depth readMessage fields state bytes = outcome ∧
      mergeTurn (.never stream) classes depth readMessage fields plain bytes' = outcome) ∨
    ∃ position field contents rest, fields[position]? = some field ∧
      mergeTurn lookahead classes depth readMessage fields state bytes =
        some (afterField lookahead fields position field contents rest) ∧
      mergeTurn (.never stream) classes depth readMessage fields plain bytes' =
        some (.goesOn (contents, none) rest) := by
  cases reached with
  | breaks contents bytes =>
      rw [mergeTurn_tag, mergeTurn_tag]
      by_cases ended : (stream.readTag bytes).1 = 0
      · refine Or.inl ⟨_, ?_, rfl, ?_⟩
        · intro later rest came
          rw [if_pos ended] at came
          cases came
        · rw [if_pos ended, if_pos ended]
      · rw [if_neg ended, if_neg ended]
        rcases switchField_cases takesBytes classes depth fields contents
          (stream.readTag bytes).1 (stream.readTag bytes).2 with
          ⟨outcome, uninterpreted, same⟩ | ⟨position, field, contents', behind, present, -, same⟩
        · exact Or.inl ⟨outcome, fun later rest came => (uninterpreted later rest came).1,
            same lookahead, same _⟩
        · refine Or.inr ⟨position, field, contents', behind, present, same lookahead, ?_⟩
          rw [same, afterField_never]
  | jumps contents label bytes bytes' present tag =>
      rw [mergeTurn_label, mergeTurn_tag, tag, if_neg (fieldTag_ne_zero label.1 label.2),
        switchField_fieldTag _ label present]
      cases read : readField stream classes readMessage label.1 label.2 contents bytes with
      | none =>
          refine Or.inl ⟨none, ?_, rfl, rfl⟩
          intro later rest came
          cases came
      | some result =>
          refine Or.inr ⟨label.1, label.2, result.1, result.2, present, rfl, ?_⟩
          rw [Option.bind_some, afterField_never]

/-- The loop comes to what it comes to without lookahead. -/
theorem readLoop_mergeTurn_never (lookahead : Lookahead stream) (contents : Contents stream.Unknown)
    (bytes : List UInt8) :
    readLoop (mergeTurn lookahead classes depth readMessage fields) (contents, none) bytes =
      readLoop (mergeTurn (.never stream) classes depth readMessage fields) (contents, none)
        bytes := by
  have shortens := shortens_mergeTurn takesBytes classes depth fields (.never stream)
  apply readLoop_eq (shortens_mergeTurn takesBytes classes depth fields lookahead)
    (ReachedBy fields)
  · intro state input plain input' reached fails
    rcases mergeTurn_agrees takesBytes classes depth lookahead reached with
      ⟨outcome, -, fast, slow⟩ | ⟨position, field, contents', rest, -, fast, -⟩
    · rw [fails] at fast
      exact readLoop_of_fails (slow.trans fast.symm)
    · rw [fails] at fast
      cases fast
  · intro state input plain input' result reached ends
    rcases mergeTurn_agrees takesBytes classes depth lookahead reached with
      ⟨outcome, -, fast, slow⟩ | ⟨position, field, contents', rest, -, fast, slow⟩
    · rw [ends] at fast
      exact readLoop_of_ends (slow.trans fast.symm)
    · rw [readLoop_of_goesOn shortens slow]
      rcases afterField_cases lookahead fields position field contents' rest with
        breaks | ⟨label, behind, -, -, jumps⟩ | ⟨atEnd, returns⟩
      · rw [ends, breaks] at fast
        cases fast
      · rw [ends, jumps] at fast
        cases fast
      · rw [ends, returns] at fast
        obtain rfl := ReadTurn.ends.inj (Option.some.inj fast)
        apply readLoop_of_ends
        rw [mergeTurn_tag, atEnd, stream.readTag_nil]
        rfl
  · intro state input plain input' later rest reached goesOn
    rcases mergeTurn_agrees takesBytes classes depth lookahead reached with
      ⟨outcome, unlabelled, fast, slow⟩ | ⟨position, field, contents', rest', present, fast, slow⟩
    · rw [goesOn] at fast
      have label := unlabelled later rest fast.symm
      obtain ⟨contents', label'⟩ := later
      obtain rfl : label' = none := label
      exact ⟨(contents', none), rest, .breaks contents' rest,
        readLoop_of_goesOn shortens (slow.trans fast.symm)⟩
    · refine ⟨(contents', none), rest', ?_, readLoop_of_goesOn shortens slow⟩
      rw [goesOn] at fast
      rcases afterField_cases lookahead fields position field contents' rest' with
        breaks | ⟨label, behind, member, tag, jumps⟩ | ⟨-, returns⟩
      · rw [breaks] at fast
        obtain ⟨rfl, rfl⟩ := ReadTurn.goesOn.inj (Option.some.inj fast)
        exact .breaks contents' rest
      · rw [jumps] at fast
        obtain ⟨rfl, rfl⟩ := ReadTurn.goesOn.inj (Option.some.inj fast)
        exact .jumps contents' label rest rest' (getElem?_of_mem_labels present member) tag
      · rw [returns] at fast
        cases fast
  · exact .breaks contents bytes

end

/-- The shortcuts change nothing. -/
theorem mergePartialFromCodedStream_never (lookahead : Lookahead stream) (classes : Classes ι)
    (depth : ℕ) : mergePartialFromCodedStream lookahead classes depth =
      mergePartialFromCodedStream (.never stream) classes depth := by
  induction depth with
  | zero => rfl
  | succ depth inductionHypothesis =>
      funext type into bytes
      rw [mergePartialFromCodedStream, mergePartialFromCodedStream, inductionHypothesis]
      exact readLoop_mergeTurn_never (takesBytes_readMessageNoVirtual _) lookahead _ bytes

/-- **Whatever `ExpectTag` and `ExpectAtEnd` answer**, every class reads the same from any
bytes: what its loop reads where they always say no. -/
theorem mergePartialFromCodedStream_lookahead (lookahead lookahead' : Lookahead stream)
    (classes : Classes ι) (depth : ℕ) :
    mergePartialFromCodedStream lookahead classes depth =
      mergePartialFromCodedStream lookahead' classes depth :=
  (mergePartialFromCodedStream_never lookahead classes depth).trans
    (mergePartialFromCodedStream_never lookahead' classes depth).symm

end RildHisi.MockRil.Generated
