/-
This file decides on which texts the type parser stays inside its input. The
loops test for the end of the body after moving the cursor, so they miss it when
a turn starts there: on a body that is empty or ends in a comma. The texts on
which this happens before anything raises are those of `Overruns`, and on all
others the parser returns a type or raises one of DuckDB's exceptions.
-/

import UcCatalog.TypeReadings

namespace UcCatalog

open Nesting

section Parser

variable {castUInt8 : CastUInt8}

/-! ### The ways a parse can end -/

/-- An outcome that is a result, an exception of DuckDB's, or a read past the end. -/
def Settled {Result : Type} (outcome : Outcome Result) : Prop :=
  (∃ result, outcome = .ok result) ∨ (∃ exception, outcome = .error (.raised exception)) ∨
    outcome = .error (.undefined .readPastEnd)

theorem Settled.error {Result : Type} {outcome : Outcome Result} (settled : Settled outcome)
    {fault : Fault} (failed : outcome = .error fault) :
    (∃ exception, fault = .raised exception) ∨ fault = .undefined .readPastEnd := by
  subst failed
  rcases settled with ⟨_, same⟩ | ⟨exception, same⟩ | same
  · exact nomatch same
  · exact Or.inl ⟨exception, Except.error.inj same⟩
  · exact Or.inr (Except.error.inj same)

/-- An outcome that is a result, one of some exceptions, or a read past the end. -/
def SettledBy {Result : Type} (allowed : Exception → Prop) (outcome : Outcome Result) : Prop :=
  ∀ fault, outcome = .error fault →
    (∃ exception, fault = .raised exception ∧ allowed exception) ∨ fault = .undefined .readPastEnd

/-- The exceptions the parser raises itself. -/
def OwnException (exception : Exception) : Prop :=
  exception.type = .notImplementedException ∨
    ∃ prec scale, LogicalType.ofDecimal prec scale = .error (.raised exception)

section SettledBy

variable {allowed : Exception → Prop}

theorem SettledBy.ok {Result : Type} (result : Result) :
    SettledBy allowed (.ok result : Outcome Result) := nofun

theorem SettledBy.raised {Result : Type} {exception : Exception} (isAllowed : allowed exception) :
    SettledBy allowed (.error (.raised exception) : Outcome Result) := by
  rintro _ ⟨⟩
  exact Or.inl ⟨exception, rfl, isAllowed⟩

theorem SettledBy.bind {First Second : Type} {first : Outcome First}
    {next : First → Outcome Second} (settled : SettledBy allowed first)
    (rest : ∀ value, SettledBy allowed (next value)) : SettledBy allowed (first >>= next) := by
  intro fault failed
  rcases (Outcome.bind_eq_error _ _ _).mp failed with early | ⟨value, _, late⟩
  · exact settled fault early
  · exact rest value fault late

theorem SettledBy.mapM {First Second : Type} {child : First → Outcome Second} {list : List First}
    (each : ∀ element ∈ list, SettledBy allowed (child element)) :
    SettledBy allowed (list.mapM child) := by
  intro fault failed
  obtain ⟨done, element, more, rfl, _, here⟩ := (mapM_eq_error _ _ _).mp failed
  exact each element (List.mem_append_right _ List.mem_cons_self) fault here

theorem SettledBy.ofExcept {Result : Type} {outcome : Except Exception Result}
    (raises : ∀ exception, outcome = .error exception → allowed exception) :
    SettledBy allowed (Outcome.ofExcept outcome) := by
  cases outcome with
  | ok result => exact .ok result
  | error exception => exact .raised (raises exception rfl)

/-- Which exceptions are allowed is forgotten. -/
theorem SettledBy.settled {Result : Type} {outcome : Outcome Result}
    (settled : SettledBy allowed outcome) : Settled outcome := by
  cases outcome with
  | ok result => exact Or.inl ⟨result, rfl⟩
  | error fault =>
    rcases settled fault rfl with ⟨exception, rfl, _⟩ | rfl
    · exact Or.inr (Or.inl ⟨exception, rfl⟩)
    · exact Or.inr (Or.inr rfl)

end SettledBy

theorem length_le_of_mem_handedParts {depth : Int} {body after part : Text}
    (member : part ∈ handedParts depth body after) :
    part.length ≤ (body ++ '>' :: after).length := by
  unfold handedParts at member
  split_ifs at member
  · exact length_le_of_mem_split commaMarks depth _ part (List.mem_of_mem_dropLast member)
  · have bound := length_le_of_mem_split commaMarks depth body part member
    rw [List.length_append]
    omega

theorem length_lt_opened (opened rest : Text) (nonempty : opened ≠ []) :
    rest.length < (opened ++ rest).length := by
  rw [List.length_append]
  exact Nat.lt_add_of_pos_left (List.length_pos_of_ne_nil nonempty)

theorem length_lt_of_mem_handedParts (opened : Text) (nonempty : opened ≠ [])
    {body after part : Text} (member : part ∈ handedParts 0 body after) :
    part.length < (opened ++ (body ++ '>' :: after)).length :=
  Nat.lt_of_le_of_lt (length_le_of_mem_handedParts member) (length_lt_opened opened _ nonempty)

section Allowed

variable {allowed : Exception → Prop}
  (own : ∀ exception, OwnException exception → allowed exception)

include own

theorem settledBy_notImplemented {Result : Type} (message : Text) :
    SettledBy allowed (raise .notImplementedException message : Outcome Result) :=
  .raised (own _ (Or.inl rfl))

theorem settledBy_ofDecimal (prec scale : UInt8) :
    SettledBy allowed (LogicalType.ofDecimal prec scale) := by
  by_cases small : prec ≤ 38
  · rw [LogicalType.ofDecimal, if_pos small]
    exact .ok _
  · have large : ∀ exception, LogicalType.ofDecimal prec scale = .error (.raised exception) →
        allowed exception := fun exception raised => own exception (Or.inr ⟨prec, scale, raised⟩)
    rw [LogicalType.ofDecimal, if_neg small] at large ⊢
    exact .raised (large _ rfl)

theorem settledBy_mapOfChildren (children : List LogicalType) :
    SettledBy allowed (mapOfChildren children) := by
  unfold mapOfChildren
  split
  · exact .ok _
  · exact settledBy_notImplemented own _

theorem settledBy_structChild {self : Text → Outcome LogicalType} {childStr : Text}
    (children : ∀ typeStr, typeStr.length < childStr.length → SettledBy allowed (self typeStr)) :
    SettledBy allowed (structChild self childStr) := by
  by_cases separated : ':' ∈ childStr
  · obtain ⟨name, typeStr, rfl, first⟩ := List.eq_append_cons_of_mem separated
    rw [structChild_eq self name typeStr first]
    exact (children typeStr (by simp; omega)).bind fun type => .ok _
  · rw [structChild_of_not_mem self childStr separated]
    exact settledBy_notImplemented own _

omit own in
theorem settledBy_bodyChildren {Child : Type} {child : Text → Outcome Child} {body after : Text}
    (children : ∀ part ∈ handedParts 0 body after, SettledBy allowed (child part)) :
    SettledBy allowed (bodyChildren child 0 body after) := by
  rw [bodyChildren_eq]
  refine (SettledBy.mapM children).bind fun values => ?_
  split
  · rintro _ ⟨⟩
    exact Or.inr rfl
  · exact .ok values

/-- A parse ends with a type, with an exception of the parser or of the cast, or at a read past
the end. -/
theorem settledBy_typeToLogicalType
    (cast : ∀ text exception, castUInt8 text = .error exception → allowed exception)
    (typeText : Text) : SettledBy allowed (typeToLogicalType castUInt8 typeText) := by
  induction bound : typeText.length using Nat.strongRecOn generalizing typeText with
  | _ bound inductionHypothesis =>
    subst bound
    have shorter : ∀ part : Text, part.length < typeText.length →
        SettledBy allowed (typeToLogicalType castUInt8 part) := fun part less =>
      inductionHypothesis part.length less part rfl
    cases shape castUInt8 typeText with
    | primitive _ type known =>
      rw [typeToLogicalType_primitive castUInt8 typeText type known]
      exact .ok type
    | decimal inner after firstEnd =>
      obtain ⟨precStr, scaleStr, _, equation⟩ :=
        typeToLogicalType_decimal_closed castUInt8 inner after firstEnd
      rw [equation]
      exact (SettledBy.ofExcept (cast precStr)).bind fun prec =>
        (SettledBy.ofExcept (cast scaleStr)).bind fun scale => settledBy_ofDecimal own prec scale
    | array body after last =>
      rw [typeToLogicalType_array castUInt8 body after last]
      exact (shorter body (by simp; omega)).bind fun child => .ok _
    | map body after last =>
      rw [typeToLogicalType_map castUInt8 body after last]
      refine (settledBy_bodyChildren fun part member => shorter part ?_).bind
        (settledBy_mapOfChildren own)
      exact length_lt_of_mem_handedParts _ (by decide) member
    | struct body after last =>
      rw [typeToLogicalType_struct castUInt8 body after last]
      refine (settledBy_bodyChildren fun part member => settledBy_structChild own
        fun typeStr less => shorter typeStr ?_).bind fun children => .ok _
      exact Nat.lt_trans less (length_lt_of_mem_handedParts _ (by decide) member)
    | unknown _ rejected =>
      rw [typeToLogicalType_unknown castUInt8 typeText rejected]
      exact settledBy_notImplemented own _

end Allowed

/-- A parse ends with a type, with one of DuckDB's exceptions, or at a read past the end. -/
theorem settled_typeToLogicalType (typeText : Text) :
    Settled (typeToLogicalType castUInt8 typeText) :=
  (settledBy_typeToLogicalType (fun _ _ => trivial) (fun _ _ _ => trivial) typeText).settled

/-! ### The texts that are overrun -/

/-- A loop over a body leaves the string exactly when a part does behind parts that return, or
when all parts return and the body ends empty. -/
theorem bodyChildren_eq_undefined {Child : Type} (child : Text → Outcome Child)
    (body after : Text) :
    bodyChildren child 0 body after = .error (.undefined .readPastEnd) ↔
      (∃ done part more, handedParts 0 body after = done ++ part :: more ∧
        (∀ earlier ∈ done, ∃ value, child earlier = .ok value) ∧
        child part = .error (.undefined .readPastEnd)) ∨
      (EndsEmpty 0 body ∧ ∀ part ∈ handedParts 0 body after, ∃ value, child part = .ok value) := by
  rw [bodyChildren_eq, Outcome.bind_eq_error, mapM_eq_error]
  refine or_congr_right ⟨?_, ?_⟩
  · rintro ⟨values, returned, failed⟩
    split_ifs at failed with ends
    exact ⟨ends, fun part member => returns_of_mem returned member⟩
  · rintro ⟨ends, all⟩
    obtain ⟨values, returned⟩ := returns_of_all all
    exact ⟨values, returned, by rw [if_pos ends]⟩

theorem readableField_returns {childStr : Text} (readable : ReadableField castUInt8 childStr) :
    ∃ child, structChild (typeToLogicalType castUInt8) childStr = .ok child := by
  obtain ⟨name, typeStr, rfl, first, type, ignored, read⟩ := readable
  exact ⟨(name, type), structChild_eq_ok _ name typeStr type first read.returned⟩

theorem returns_readableField (numbersOnly : CastsNumbersOnly castUInt8) {childStr : Text}
    (returns : ∃ child, structChild (typeToLogicalType castUInt8) childStr = .ok child) :
    ReadableField castUInt8 childStr := by
  obtain ⟨child, returned⟩ := returns
  rcases structChild_cases (typeToLogicalType castUInt8) childStr with
    ⟨name, typeStr, rfl, first, equation⟩ | ⟨_, exception, raised⟩
  · rw [equation] at returned
    obtain ⟨type, read, _⟩ := (Outcome.bind_eq_ok _ _ _).mp returned
    exact ⟨name, typeStr, rfl, first, (readable_iff numbersOnly typeStr).mpr ⟨type, read⟩⟩
  · rw [raised] at returned
    exact nomatch returned

theorem bind_error {First Second : Type} {first : Outcome First} {fault : Fault}
    (next : First → Outcome Second) (failed : first = .error fault) :
    first >>= next = .error fault :=
  (Outcome.bind_eq_error _ _ _).mpr (Or.inl failed)

/-- An overrun text is read past its end. -/
theorem Overruns.undefined {typeText : Text} (overruns : Overruns castUInt8 typeText) :
    typeToLogicalType castUInt8 typeText = .error (.undefined .readPastEnd) := by
  have returns : ∀ part, Readable castUInt8 part →
      ∃ type, typeToLogicalType castUInt8 part = .ok type := by
    rintro part ⟨type, _, read⟩
    exact ⟨type, read.returned⟩
  induction overruns with
  | array body after last child inductionHypothesis =>
    rw [typeToLogicalType_array castUInt8 body after last]
    exact bind_error _ inductionHypothesis
  | mapEnd body after last ends read =>
    rw [typeToLogicalType_map castUInt8 body after last]
    exact bind_error _ ((bodyChildren_eq_undefined _ body after).mpr
      (Or.inr ⟨ends, fun part member => returns part (read part member)⟩))
  | mapChild body after part done more last parts read child inductionHypothesis =>
    rw [typeToLogicalType_map castUInt8 body after last]
    exact bind_error _ ((bodyChildren_eq_undefined _ body after).mpr
      (Or.inl ⟨done, part, more, parts, fun earlier member => returns earlier (read earlier member),
        inductionHypothesis⟩))
  | structEnd body after last ends read =>
    rw [typeToLogicalType_struct castUInt8 body after last]
    exact bind_error _ ((bodyChildren_eq_undefined _ body after).mpr
      (Or.inr ⟨ends, fun part member => readableField_returns (read part member)⟩))
  | structChild body after name typeStr done more last parts named read child inductionHypothesis =>
    rw [typeToLogicalType_struct castUInt8 body after last]
    refine bind_error _ ((bodyChildren_eq_undefined _ body after).mpr (Or.inl ⟨done, _, more, parts,
      fun earlier member => readableField_returns (read earlier member), ?_⟩))
    rw [structChild_eq _ name typeStr named]
    exact bind_error _ inductionHypothesis

theorem mapOfChildren_defined (children : List LogicalType) (cause : Undefined) :
    mapOfChildren children ≠ .error (.undefined cause) := by
  unfold mapOfChildren raise
  split
  · exact nofun
  · intro same
    exact nomatch Except.error.inj same

/-- What a decimal text is read as comes from the casts and from `LogicalType::DECIMAL`. -/
theorem decimal_defined (precStr scaleStr : Text) (cause : Undefined) :
    (Outcome.ofExcept (castUInt8 precStr) >>= fun prec =>
      Outcome.ofExcept (castUInt8 scaleStr) >>= fun scale =>
        LogicalType.ofDecimal prec scale) ≠ .error (.undefined cause) := by
  rcases castBoth_cases castUInt8 precStr scaleStr LogicalType.ofDecimal with
    ⟨prec, scale, precision, scaling⟩ | ⟨exception, raised⟩
  · rw [precision, scaling]
    rcases ofDecimal_cases prec scale with returned | ⟨exception, raised⟩
    · exact fun failed => nomatch returned.symm.trans failed
    · exact fun failed => nomatch Except.error.inj (raised.symm.trans failed)
  · rw [raised]
    exact fun failed => nomatch Except.error.inj failed

section Overrun

variable (numbersOnly : CastsNumbersOnly castUInt8) {body after : Text} (last : '>' ∉ after)

include numbersOnly last

theorem overruns_map
    (overrunPart : ∀ part ∈ handedParts 0 body after,
      typeToLogicalType castUInt8 part = .error (.undefined .readPastEnd) →
        Overruns castUInt8 part)
    (failed : typeToLogicalType castUInt8 ("map<".toList ++ (body ++ '>' :: after)) =
      .error (.undefined .readPastEnd)) :
    Overruns castUInt8 ("map<".toList ++ (body ++ '>' :: after)) := by
  have readable : ∀ part, (∃ type, typeToLogicalType castUInt8 part = .ok type) →
      Readable castUInt8 part := fun part => (readable_iff numbersOnly part).mpr
  rw [typeToLogicalType_map castUInt8 body after last] at failed
  rcases (Outcome.bind_eq_error _ _ _).mp failed with failed | ⟨children, _, same⟩
  · rcases (bodyChildren_eq_undefined _ body after).mp failed with
      ⟨done, part, more, parts, before, failed⟩ | ⟨ends, all⟩
    · exact .mapChild body after part done more last parts
        (fun earlier inDone => readable earlier (before earlier inDone))
        (overrunPart part (by simp [parts]) failed)
    · exact .mapEnd body after last ends fun part member => readable part (all part member)
  · exact absurd same (mapOfChildren_defined children _)

theorem overruns_struct
    (overrunTail : ∀ name typeStr, name ++ ':' :: typeStr ∈ handedParts 0 body after →
      typeToLogicalType castUInt8 typeStr = .error (.undefined .readPastEnd) →
        Overruns castUInt8 typeStr)
    (failed : typeToLogicalType castUInt8 ("struct<".toList ++ (body ++ '>' :: after)) =
      .error (.undefined .readPastEnd)) :
    Overruns castUInt8 ("struct<".toList ++ (body ++ '>' :: after)) := by
  rw [typeToLogicalType_struct castUInt8 body after last] at failed
  rcases (Outcome.bind_eq_error _ _ _).mp failed with failed | ⟨_, _, same⟩
  · rcases (bodyChildren_eq_undefined _ body after).mp failed with
      ⟨done, part, more, parts, before, failed⟩ | ⟨ends, all⟩
    · rcases structChild_cases (typeToLogicalType castUInt8) part with
        ⟨name, typeStr, rfl, first, equation⟩ | ⟨_, exception, raised⟩
      · rw [equation] at failed
        rcases (Outcome.bind_eq_error _ _ _).mp failed with failed | ⟨_, _, same⟩
        · exact .structChild body after name typeStr done more last parts first
            (fun earlier inDone => returns_readableField numbersOnly (before earlier inDone))
            (overrunTail name typeStr (by simp [parts]) failed)
        · exact nomatch same
      · rw [raised] at failed
        exact nomatch Except.error.inj failed
    · exact .structEnd body after last ends fun part member =>
        returns_readableField numbersOnly (all part member)
  · exact nomatch same

end Overrun

/-- A text that is read past its end is overrun, if the cast accepts numbers only. -/
theorem overruns_of_undefined (numbersOnly : CastsNumbersOnly castUInt8) (typeText : Text)
    (failed : typeToLogicalType castUInt8 typeText = .error (.undefined .readPastEnd)) :
    Overruns castUInt8 typeText := by
  induction bound : typeText.length using Nat.strongRecOn generalizing typeText with
  | _ bound inductionHypothesis =>
    subst bound
    have shorter : ∀ part : Text, part.length < typeText.length →
        typeToLogicalType castUInt8 part = .error (.undefined .readPastEnd) →
          Overruns castUInt8 part := fun part less failed =>
      inductionHypothesis part.length less part failed rfl
    cases shape castUInt8 typeText with
    | primitive _ type known =>
      rw [typeToLogicalType_primitive castUInt8 typeText type known] at failed
      exact nomatch failed
    | decimal inner after firstEnd =>
      obtain ⟨precStr, scaleStr, _, equation⟩ :=
        typeToLogicalType_decimal_closed castUInt8 inner after firstEnd
      exact absurd (equation.symm.trans failed) (decimal_defined precStr scaleStr _)
    | array body after last =>
      rw [typeToLogicalType_array castUInt8 body after last] at failed
      rcases (Outcome.bind_eq_error _ _ _).mp failed with failed | ⟨_, _, same⟩
      · exact .array body after last (shorter body (by simp; omega) failed)
      · exact nomatch same
    | map body after last =>
      refine overruns_map numbersOnly last (fun part member => shorter part ?_) failed
      exact length_lt_of_mem_handedParts _ (by decide) member
    | struct body after last =>
      refine overruns_struct numbersOnly last (fun name typeStr member => shorter typeStr ?_) failed
      have tail : typeStr.length < (name ++ ':' :: typeStr).length := by simp; omega
      exact Nat.lt_trans tail (length_lt_of_mem_handedParts _ (by decide) member)
    | unknown _ rejected =>
      rw [typeToLogicalType_unknown castUInt8 typeText rejected] at failed
      exact nomatch Except.error.inj failed

end Parser

/-! ### Staying inside the input -/

/-- The parse of a text stays inside it: no index past the size is read, no substring starts
there, one call depends on the recursive calls at strictly shorter texts only, and the parse
ends with a type or one of DuckDB's exceptions. -/
structure StaysInside (castUInt8 : CastUInt8) (typeText : Text) : Prop where
  reads : typeToLogicalType castUInt8 typeText ≠ .error (.undefined .readPastEnd)
  substrings : typeToLogicalType castUInt8 typeText ≠ .error .outOfRange
  calls : ∀ left right : Text → Outcome LogicalType,
    (∀ shorter, shorter.length < typeText.length → left shorter = right shorter) →
      typeFrame castUInt8 left typeText = typeFrame castUInt8 right typeText
  ends : (∃ type, typeToLogicalType castUInt8 typeText = .ok type) ∨
    ∃ exception, typeToLogicalType castUInt8 typeText = .error (.raised exception)

/-- The parser stays inside exactly the texts it does not overrun. -/
theorem staysInside_iff (castUInt8 : CastUInt8) (numbersOnly : CastsNumbersOnly castUInt8)
    (typeText : Text) : StaysInside castUInt8 typeText ↔ ¬ Overruns castUInt8 typeText := by
  refine ⟨fun stays overruns => stays.reads overruns.undefined, fun inside => ?_⟩
  have reads : typeToLogicalType castUInt8 typeText ≠ .error (.undefined .readPastEnd) :=
    fun failed => inside (overruns_of_undefined numbersOnly typeText failed)
  have settled := @settled_typeToLogicalType castUInt8 typeText
  refine ⟨reads, fun failed => ?_, fun left right => typeFrame_congr castUInt8 typeText, ?_⟩
  · rcases settled.error failed with ⟨_, same⟩ | same
    · exact nomatch same
    · exact nomatch same
  · rcases settled with returned | raised | failed
    · exact Or.inl returned
    · exact Or.inr raised
    · exact absurd failed reads

theorem staysInside_emptyArray : StaysInside castPlainNumeral "map<int,array<>>".toList := by
  have raised : ∃ exception, typeToLogicalType castPlainNumeral "map<int,array<>>".toList =
      .error (.raised exception) := ⟨_, rfl⟩
  obtain ⟨exception, raised⟩ := raised
  exact (staysInside_iff castPlainNumeral castPlainNumeral_numbersOnly _).mpr fun overruns =>
    nomatch Except.error.inj (raised.symm.trans overruns.undefined)

/-- The parser reads past the end of `map<>`. -/
theorem emptyMap_overrun :
    ¬ ∀ castUInt8 typeText, CastsNumbersOnly castUInt8 → StaysInside castUInt8 typeText := by
  intro inside
  have stays := inside castPlainNumeral "map<>".toList castPlainNumeral_numbersOnly
  exact stays.reads (by rfl)

end UcCatalog
