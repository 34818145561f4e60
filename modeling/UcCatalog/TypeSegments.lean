/-
This file reads a container by its segments. Its body is given as a list of
texts, each of them non-empty, with balanced brackets and no comma outside them
(`Segment`), and nothing else is known about a segment. The two loops cut the
body into these segments and no others (`split_commaSeparated`), so what the
parser makes of the container is what it makes of the segments one by one, up to
the first that is not read.

The one way in which that first segment does not make the parser raise is that
the segment is itself overrun, by an empty body somewhere inside it.
-/

import UcCatalog.TypeBounds
import UcCatalog.TypeSpelling

namespace UcCatalog

open Nesting

/-! ### Bodies made of segments -/

/-- A text between two separators of a body. -/
structure Segment where
  text : Text
  nonempty : text ≠ []
  balanced : Balanced commaMarks text
  shielded : Shielded commaMarks 0 text

/-- The body made of segments. -/
def commaSeparated (segments : List Segment) : Text :=
  [','].intercalate (segments.map Segment.text)

def arrayOf (segment : Segment) : Text := "array<".toList ++ (segment.text ++ ['>'])

def mapOf (segments : List Segment) : Text := "map<".toList ++ (commaSeparated segments ++ ['>'])

def structOf (segments : List Segment) : Text :=
  "struct<".toList ++ (commaSeparated segments ++ ['>'])

/-- The loops cut a body at the ends of its segments. -/
theorem split_commaSeparated {segments : List Segment} (nonempty : segments ≠ []) :
    split commaMarks 0 (commaSeparated segments) = segments.map Segment.text := by
  induction segments with
  | nil => exact absurd rfl nonempty
  | cons segment rest inductionHypothesis =>
    cases rest with
    | nil =>
      have single := split_shielded commaMarks 0 segment.text segment.shielded
      simpa [commaSeparated] using single
    | cons next others =>
      have joined : commaSeparated (segment :: next :: others) =
          segment.text ++ ',' :: commaSeparated (next :: others) := by
        simp only [commaSeparated, List.map_cons, List.intercalate_cons_cons]
        simp
      -- the counter is back at zero behind a balanced segment
      have depth := segment.balanced.depthAfter commaMarks 0
      rw [joined, split_comma 0 segment.text _ segment.shielded (Int.le_of_eq depth), depth,
        inductionHypothesis (List.cons_ne_nil _ _)]
      rfl

theorem not_endsEmpty_segments {segments : List Segment} (nonempty : segments ≠ []) :
    ¬ EndsEmpty 0 (commaSeparated segments) := by
  rw [EndsEmpty, split_commaSeparated nonempty]
  intro same
  obtain ⟨segment, _, empty⟩ := List.mem_map.mp (List.mem_of_getLast? same)
  exact segment.nonempty empty

/-- The loop over a body made of segments hands each segment to the child parser. -/
theorem bodyChildren_segments {Child : Type} (child : Text → Outcome Child)
    {segments : List Segment} (nonempty : segments ≠ []) (after : Text) :
    bodyChildren child 0 (commaSeparated segments) after =
      (segments.map Segment.text).mapM child := by
  rw [bodyChildren, if_neg (not_endsEmpty_segments nonempty), split_commaSeparated nonempty]

/-! ### What a container should be read as -/

section Parser

variable (castUInt8 : CastUInt8)

/-- The segment is read as a struct child: the text before its first colon, and the type of the
text behind it. -/
def ReturnsField (segment : Segment) (child : Text × LogicalType) : Prop :=
  ∃ typeStr, segment.text = child.1 ++ ':' :: typeStr ∧ ':' ∉ child.1 ∧
    typeToLogicalType castUInt8 typeStr = .ok child.2

/-- The parser returns a type or raises. -/
def ReturnsOrRaises (typeText : Text) : Prop :=
  (∃ type, typeToLogicalType castUInt8 typeText = .ok type) ∨
    ∃ exception, typeToLogicalType castUInt8 typeText = .error (.raised exception)

/-- The containers with the segments are read segment by segment. -/
structure ReadBySegments (segments : List Segment) : Prop where
  structReturns : ∀ type, typeToLogicalType castUInt8 (structOf segments) = .ok type ↔
    ∃ children, type = .struct children ∧ List.Forall₂ (ReturnsField castUInt8) segments children
  structRaises : ReturnsOrRaises castUInt8 (structOf segments)
  mapReturns : ∀ type, typeToLogicalType castUInt8 (mapOf segments) = .ok type ↔
    ∃ first second key value, segments = [first, second] ∧ type = .map key value ∧
      typeToLogicalType castUInt8 first.text = .ok key ∧
      typeToLogicalType castUInt8 second.text = .ok value
  mapRaises : ReturnsOrRaises castUInt8 (mapOf segments)
  arrayReturns : ∀ segment ∈ segments, ∀ type,
    typeToLogicalType castUInt8 (arrayOf segment) = .ok type ↔
      ∃ child, type = .list child ∧ typeToLogicalType castUInt8 segment.text = .ok child

/-- Some segment is overrun and every segment before it is accepted. -/
def MeetsOverrun (accepted overrun : Text → Prop) (segments : List Segment) : Prop :=
  ∃ done segment more, segments = done ++ segment :: more ∧
    (∀ earlier ∈ done, accepted earlier.text) ∧ overrun segment.text

/-- The text behind the first colon is overrun. -/
def OverrunsField (childStr : Text) : Prop :=
  ∃ name typeStr, childStr = name ++ ':' :: typeStr ∧ ':' ∉ name ∧ Overruns castUInt8 typeStr

/-! ### The parser on segments -/

theorem typeToLogicalType_structOf {segments : List Segment} (nonempty : segments ≠ []) :
    typeToLogicalType castUInt8 (structOf segments) =
      (segments.map Segment.text).mapM (structChild (typeToLogicalType castUInt8)) >>=
        fun children => pure (.struct children) := by
  have equation := typeToLogicalType_struct castUInt8 (commaSeparated segments) []
    List.not_mem_nil
  rwa [bodyChildren_segments _ nonempty] at equation

theorem typeToLogicalType_mapOf {segments : List Segment} (nonempty : segments ≠ []) :
    typeToLogicalType castUInt8 (mapOf segments) =
      (segments.map Segment.text).mapM (typeToLogicalType castUInt8) >>= mapOfChildren := by
  have equation := typeToLogicalType_map castUInt8 (commaSeparated segments) [] List.not_mem_nil
  rwa [bodyChildren_segments _ nonempty] at equation

theorem structChild_returns (segment : Segment) (child : Text × LogicalType) :
    structChild (typeToLogicalType castUInt8) segment.text = .ok child ↔
      ReturnsField castUInt8 segment child := by
  constructor
  · intro returned
    rcases structChild_cases (typeToLogicalType castUInt8) segment.text with
      ⟨name, typeStr, same, first, equation⟩ | ⟨_, exception, raised⟩
    · rw [equation] at returned
      obtain ⟨type, read, pair⟩ := (Outcome.bind_eq_ok _ _ _).mp returned
      cases Except.ok.inj pair
      exact ⟨typeStr, same, first, read⟩
    · rw [raised] at returned
      exact nomatch returned
  · rintro ⟨typeStr, same, first, read⟩
    rw [same]
    exact structChild_eq_ok _ child.1 typeStr child.2 first read

theorem struct_returns {segments : List Segment} (nonempty : segments ≠ []) (type : LogicalType) :
    typeToLogicalType castUInt8 (structOf segments) = .ok type ↔
      ∃ children, type = .struct children ∧
        List.Forall₂ (ReturnsField castUInt8) segments children := by
  rw [typeToLogicalType_structOf castUInt8 nonempty, Outcome.bind_eq_ok]
  refine exists_congr fun children => ?_
  rw [mapM_eq_ok, List.forall₂_map_left_iff, and_comm]
  refine and_congr ⟨fun same => (Except.ok.inj same).symm, fun same => same ▸ rfl⟩ ?_
  exact ⟨fun pairs => pairs.imp fun segment child => (structChild_returns _ segment child).mp,
    fun pairs => pairs.imp fun segment child => (structChild_returns _ segment child).mpr⟩

theorem map_returns {segments : List Segment} (nonempty : segments ≠ []) (type : LogicalType) :
    typeToLogicalType castUInt8 (mapOf segments) = .ok type ↔
      ∃ first second key value, segments = [first, second] ∧ type = .map key value ∧
        typeToLogicalType castUInt8 first.text = .ok key ∧
        typeToLogicalType castUInt8 second.text = .ok value := by
  rw [typeToLogicalType_mapOf castUInt8 nonempty, Outcome.bind_eq_ok]
  constructor
  · rintro ⟨children, read, returned⟩
    obtain ⟨key, value, rfl, rfl⟩ := (mapOfChildren_eq_ok children type).mp returned
    obtain ⟨first, others, readKey, rest, parts⟩ :=
      List.forall₂_cons_right_iff.mp (List.forall₂_map_left_iff.mp ((mapM_eq_ok _ _ _).mp read))
    obtain ⟨second, last, readValue, none, rfl⟩ := List.forall₂_cons_right_iff.mp rest
    obtain rfl := List.forall₂_nil_right_iff.mp none
    exact ⟨first, second, key, value, parts, rfl, readKey, readValue⟩
  · rintro ⟨first, second, key, value, rfl, rfl, readKey, readValue⟩
    exact ⟨[key, value], (mapM_eq_ok _ _ _).mpr (.cons readKey (.cons readValue .nil)), rfl⟩

theorem array_returns (segment : Segment) (type : LogicalType) :
    typeToLogicalType castUInt8 (arrayOf segment) = .ok type ↔
      ∃ child, type = .list child ∧ typeToLogicalType castUInt8 segment.text = .ok child := by
  have equation : typeToLogicalType castUInt8 (arrayOf segment) =
      typeToLogicalType castUInt8 segment.text >>= fun child => pure (.list child) :=
    typeToLogicalType_array castUInt8 segment.text [] List.not_mem_nil
  rw [equation, Outcome.bind_eq_ok]
  refine exists_congr fun child => ?_
  rw [and_comm]
  exact and_congr_left fun _ => ⟨fun same => (Except.ok.inj same).symm, fun same => same ▸ rfl⟩

/-! ### Where the containers are overrun -/

theorem returnsOrRaises_iff (typeText : Text) :
    ReturnsOrRaises castUInt8 typeText ↔
      typeToLogicalType castUInt8 typeText ≠ .error (.undefined .readPastEnd) := by
  constructor
  · rintro (⟨type, returned⟩ | ⟨exception, raised⟩) failed
    · exact nomatch returned.symm.trans failed
    · exact nomatch Except.error.inj (raised.symm.trans failed)
  · intro inside
    rcases @settled_typeToLogicalType castUInt8 typeText with returned | raised | failed
    · exact Or.inl returned
    · exact Or.inr raised
    · exact absurd failed inside

/-- The child parser leaves the string at the first segment that is not accepted. -/
theorem mapM_segments_undefined {Child : Type} {child : Text → Outcome Child}
    {accepted overrun : Text → Prop}
    (returns : ∀ text, accepted text ↔ ∃ value, child text = .ok value)
    (leaves : ∀ text, overrun text ↔ child text = .error (.undefined .readPastEnd))
    (segments : List Segment) :
    (segments.map Segment.text).mapM child = .error (.undefined .readPastEnd) ↔
      MeetsOverrun accepted overrun segments := by
  rw [mapM_eq_error]
  constructor
  · rintro ⟨done, part, more, parts, before, failed⟩
    obtain ⟨earlier, others, rfl, rfl, rest⟩ := List.map_eq_append_iff.mp parts
    obtain ⟨segment, later, rfl, rfl, rfl⟩ := List.map_eq_cons_iff.mp rest
    exact ⟨earlier, segment, later, rfl,
      fun other member => (returns _).mpr (before _ (List.mem_map_of_mem member)),
      (leaves _).mpr failed⟩
  · rintro ⟨done, segment, more, rfl, before, overrun⟩
    refine ⟨done.map Segment.text, segment.text, more.map Segment.text, by simp, ?_,
      (leaves _).mp overrun⟩
    intro part member
    obtain ⟨earlier, inDone, rfl⟩ := List.mem_map.mp member
    exact (returns _).mp (before earlier inDone)

variable {castUInt8} (numbersOnly : CastsNumbersOnly castUInt8)

include numbersOnly

theorem overruns_iff (typeText : Text) : Overruns castUInt8 typeText ↔
    typeToLogicalType castUInt8 typeText = .error (.undefined .readPastEnd) :=
  ⟨Overruns.undefined, overruns_of_undefined numbersOnly typeText⟩

theorem readableField_iff (childStr : Text) : ReadableField castUInt8 childStr ↔
    ∃ child, structChild (typeToLogicalType castUInt8) childStr = .ok child :=
  ⟨readableField_returns, returns_readableField numbersOnly⟩

theorem overrunsField_iff (childStr : Text) : OverrunsField castUInt8 childStr ↔
    structChild (typeToLogicalType castUInt8) childStr = .error (.undefined .readPastEnd) := by
  constructor
  · rintro ⟨name, typeStr, rfl, first, overruns⟩
    rw [structChild_eq _ name typeStr first, overruns.undefined]
    rfl
  · intro failed
    rcases structChild_cases (typeToLogicalType castUInt8) childStr with
      ⟨name, typeStr, same, first, equation⟩ | ⟨_, exception, raised⟩
    · rw [equation] at failed
      rcases (Outcome.bind_eq_error _ _ _).mp failed with undefined | ⟨_, _, pair⟩
      · exact ⟨name, typeStr, same, first, (overruns_iff numbersOnly typeStr).mpr undefined⟩
      · exact nomatch pair
    · exact nomatch Except.error.inj (raised.symm.trans failed)

theorem struct_raises_iff {segments : List Segment} (nonempty : segments ≠ []) :
    ReturnsOrRaises castUInt8 (structOf segments) ↔
      ¬ MeetsOverrun (ReadableField castUInt8) (OverrunsField castUInt8) segments := by
  rw [returnsOrRaises_iff, ← mapM_segments_undefined (readableField_iff numbersOnly)
    (overrunsField_iff numbersOnly), typeToLogicalType_structOf castUInt8 nonempty]
  refine not_congr ⟨fun failed => ?_, fun failed => by rw [failed]; rfl⟩
  rcases (Outcome.bind_eq_error _ _ _).mp failed with undefined | ⟨_, _, returned⟩
  · exact undefined
  · exact nomatch returned

theorem map_raises_iff {segments : List Segment} (nonempty : segments ≠ []) :
    ReturnsOrRaises castUInt8 (mapOf segments) ↔
      ¬ MeetsOverrun (Readable castUInt8) (Overruns castUInt8) segments := by
  rw [returnsOrRaises_iff, ← mapM_segments_undefined (readable_iff numbersOnly)
    (overruns_iff numbersOnly), typeToLogicalType_mapOf castUInt8 nonempty]
  refine not_congr ⟨fun failed => ?_, fun failed => by rw [failed]; rfl⟩
  rcases (Outcome.bind_eq_error _ _ _).mp failed with undefined | ⟨children, _, returned⟩
  · exact undefined
  · exact absurd returned (mapOfChildren_defined children _)

/-- Containers made of segments are read segment by segment exactly when no segment that is
reached is overrun. -/
theorem readBySegments_iff (segments : List Segment) (nonempty : segments ≠ []) :
    ReadBySegments castUInt8 segments ↔
      ¬ MeetsOverrun (ReadableField castUInt8) (OverrunsField castUInt8) segments ∧
        ¬ MeetsOverrun (Readable castUInt8) (Overruns castUInt8) segments := by
  constructor
  · intro bySegments
    exact ⟨(struct_raises_iff numbersOnly nonempty).mp bySegments.structRaises,
      (map_raises_iff numbersOnly nonempty).mp bySegments.mapRaises⟩
  · rintro ⟨structInside, mapInside⟩
    exact {
      structReturns := struct_returns castUInt8 nonempty
      structRaises := (struct_raises_iff numbersOnly nonempty).mpr structInside
      mapReturns := map_returns castUInt8 nonempty
      mapRaises := (map_raises_iff numbersOnly nonempty).mpr mapInside
      arrayReturns := fun segment _ => array_returns castUInt8 segment }

end Parser

/-- The field `x:array<int>`. -/
def nestedField : Segment where
  text := "x:array".toList ++ '<' :: ("int".toList ++ ['>'])
  nonempty := by decide
  balanced := (balanced_plain "x:array".toList (by decide)).append commaMarks
    ((balanced_plain "int".toList (by decide)).wrap commaMarks)
  shielded := shielded_wrap "x:array".toList _ (by decide) (balanced_plain _ (by decide))
    (balanced_plain _ (by decide))

theorem readBySegments_nestedField : ReadBySegments castPlainNumeral [nestedField, nestedField] :=
  (readBySegments_iff castPlainNumeral_numbersOnly _ (List.cons_ne_nil _ _)).mpr
    ⟨(struct_raises_iff castPlainNumeral_numbersOnly (List.cons_ne_nil _ _)).mp
        (Or.inl ⟨_, rfl⟩),
      (map_raises_iff castPlainNumeral_numbersOnly (List.cons_ne_nil _ _)).mp
        (Or.inr ⟨_, rfl⟩)⟩

/-- The field `x:map<>`. -/
def emptyMapField : Segment where
  text := "x:map".toList ++ '<' :: ([] ++ ['>'])
  nonempty := by decide
  balanced := (balanced_plain "x:map".toList (by decide)).append commaMarks
    ((Balanced.nil commaMarks).wrap commaMarks)
  shielded := shielded_wrap "x:map".toList [] (by decide) (balanced_plain _ (by decide))
    (Balanced.nil commaMarks)

/-- The parser reads past the end of `struct<x:map<>>`. -/
theorem emptyMapField_overrun :
    ¬ ∀ castUInt8 segments, CastsNumbersOnly castUInt8 → segments ≠ [] →
      ReadBySegments castUInt8 segments := by
  intro bySegments
  have read := bySegments castPlainNumeral [emptyMapField] castPlainNumeral_numbersOnly
    (List.cons_ne_nil _ _)
  exact (returnsOrRaises_iff castPlainNumeral _).mp read.structRaises rfl

end UcCatalog
