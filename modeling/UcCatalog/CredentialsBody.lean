/-
This file reads the body of the request for the credentials of a table. The id
of the table is put between two quotes as it is, so the body is the object the
request is meant to be exactly when every character of the id stands for itself
in a JSON string.

The argument counts. A string that is read is no longer than its spelling, so
the quote that closes the id is not in front of the one the code put there. One
behind it leaves a text that is no continuation of the object, or that ends it
before the operation.
-/

import UcCatalog.Api
import UcCatalog.JsonText

namespace UcCatalog

open JsonText

section Body

variable {tableId : Text}

/-- What the code puts behind the id. -/
def bodyTail : Text := "\", \"operation\" : \"READ\"\x7d".toList

def bodyMembers (tableId : Text) : List (Text × JsonText.Value) :=
  [("table_id".toList, .string tableId), ("operation".toList, .string "READ".toList)]

/-- The body is an object with exactly the two members. -/
def NamesTable (tableId body : Text) : Prop :=
  ∃ members, Reads body (.object members) ∧ members.Perm (bodyMembers tableId)

/-- Every body a call for credentials posts names the table and asks to read it. -/
def AsksForTable (libraries : Libraries) (credentials : Credentials) (tableId : Text) : Prop :=
  Sends (getTableCredentials libraries tableId credentials) fun request =>
    ∃ body, request.postFields = some body ∧ NamesTable tableId body

theorem credentialsBody_eq (tableId : Text) :
    credentialsBody tableId = '\x7b' :: '"' :: ("table_id".toList ++
      '"' :: ' ' :: ':' :: ' ' :: '"' :: (tableId ++ bodyTail)) := by
  have front : "\x7b\"table_id\" : \"".toList =
      '\x7b' :: '"' :: ("table_id".toList ++ ['"', ' ', ':', ' ', '"']) := by decide
  unfold credentialsBody bodyTail
  rw [front]
  simp only [List.cons_append, List.append_assoc, List.nil_append]

/-- The body is read as an object whose first member is the id. -/
theorem readText_credentialsBody (tableId : Text) (fuel : Nat) :
    readText (fuel + 20) (credentialsBody tableId) =
      (readString (fuel + 17) (tableId ++ bodyTail)).bind fun (value, behind) =>
        (readMore '\x7d' (readMembers (fuel + 18)) behind).bind fun (members, rest) =>
          if rest.dropWhile isBlank = [] then
            some (.object (("table_id".toList, .string value) :: members))
          else none := by
  have plain : Plain "table_id".toList := by decide
  have enough : "table_id".toList.length ≤ fuel + 17 := by simp
  have object (text : Text) : readValue (fuel + 20) ('\x7b' :: '"' :: text) = do
      let (members, rest) ← readMembers (fuel + 19) ('"' :: text)
      return (.object members, rest) := rfl
  rw [readText, credentialsBody_eq, object, readMembers_string plain enough]
  cases readString (fuel + 17) (tableId ++ bodyTail) with
  | none => rfl
  | some found =>
    obtain ⟨value, behind⟩ := found
    simp only [Option.bind_eq_bind, Option.bind_some]
    cases readMore '\x7d' (readMembers (fuel + 17 + 1)) behind <;> rfl

/-- A quote behind the first one of the tail is followed by no more members, or by none at all. -/
theorem readMore_bodyTail {behind rest : Text} (split : bodyTail = behind ++ '"' :: rest)
    (readNext : Text → Option (List (Text × JsonText.Value) × Text)) :
    behind = [] ∨ readMore '\x7d' readNext rest = none ∨
      readMore '\x7d' readNext rest = some ([], []) := by
  have quotes : ∀ suffix ∈ bodyTail.tails, suffix.head? = some '"' →
      suffix = bodyTail ∨ suffix ∈ ["\"operation\" : \"READ\"\x7d".toList,
        "\" : \"READ\"\x7d".toList, "\"READ\"\x7d".toList, "\"\x7d".toList] := by decide
  have suffix : '"' :: rest <:+ bodyTail := ⟨behind, split.symm⟩
  rcases quotes _ ((List.mem_tails _ _).mpr suffix) rfl with whole | later
  · have unmoved : behind ++ '"' :: rest = '"' :: rest := split.symm.trans whole.symm
    exact .inl (List.append_left_eq_self.mp unmoved)
  · refine .inr ?_
    simp only [List.mem_cons, List.not_mem_nil, or_false] at later
    rcases later with same | same | same | same
    · cases same
      exact .inl rfl
    · cases same
      exact .inl rfl
    · cases same
      exact .inl rfl
    · cases same
      exact .inr rfl

/-- The quote that closes the id is the first of the tail, so the id is plain. -/
theorem plain_of_namesTable (names : NamesTable tableId (credentialsBody tableId)) :
    Plain tableId := by
  obtain ⟨members, ⟨fuel, read⟩, same⟩ := names
  have large := readText_mono (Nat.le_add_right fuel 20) read
  rw [readText_credentialsBody] at large
  obtain ⟨⟨value, rest⟩, readId, found⟩ := Option.bind_eq_some_iff.mp large
  obtain ⟨⟨others, last⟩, readOthers, found⟩ := Option.bind_eq_some_iff.mp found
  dsimp only at readOthers found
  split at found
  · cases found
    have isId : value = tableId := by
      have member := same.mem_iff.mp List.mem_cons_self
      simpa [bodyMembers] using member
    have single : others.length = 1 := Nat.succ.inj same.length_eq
    subst isId
    obtain ⟨raw, spelled, shorter, plain⟩ := readString_consumes readId
    obtain ⟨between, rfl, split⟩ : ∃ between, raw = value ++ between ∧
        bodyTail = between ++ '"' :: rest := by
      rcases List.append_eq_append_iff.mp spelled with ⟨between, longer⟩ | ⟨between, longer, tail⟩
      · exact ⟨between, longer⟩
      · have empty : between = [] := by
          rw [longer, List.length_append] at shorter
          exact List.eq_nil_of_length_eq_zero (by omega)
        subst empty
        exact ⟨[], by simpa using longer.symm, tail.symm⟩
    rcases readMore_bodyTail split (readMembers (fuel + 18)) with rfl | none | ended
    · exact plain (by rw [List.append_nil])
    · exact absurd (none.symm.trans readOthers) nofun
    · cases ended.symm.trans readOthers
      cases single
  · cases found

/-- A member that names the operation, from its comma to its value. -/
def operationMember (behind : Text) : Text :=
  ',' :: ' ' :: '"' :: ("operation".toList ++ '"' :: ' ' :: ':' :: ' ' :: '"' :: behind)

theorem bodyTail_eq : bodyTail = '"' :: operationMember ("READ".toList ++ '"' :: ['\x7d']) := by
  decide

theorem readMore_operation {fuel : Nat} {operation : Text} (plain : Plain operation)
    (enough : operation.length < fuel + 16) (behind : Text) :
    readMore '\x7d' (readMembers (fuel + 18)) (operationMember (operation ++ '"' :: behind)) =
      (readMore '\x7d' (readMembers (fuel + 17)) behind).bind fun (members, rest) =>
        some (("operation".toList, .string operation) :: members, rest) := by
  have next (text : Text) : readMore '\x7d' (readMembers (fuel + 18)) (',' :: text) =
      readMembers (fuel + 18) text := rfl
  have plainKey : Plain "operation".toList := by decide
  have keyed : "operation".toList.length ≤ fuel + 16 := by simp
  rw [operationMember, next, readMembers_blank, readMembers_string plainKey keyed,
    readString_plain plain enough]
  rfl

theorem readMore_operation_last {fuel : Nat} {operation : Text} (plain : Plain operation)
    (enough : operation.length < fuel + 16) :
    readMore '\x7d' (readMembers (fuel + 18))
        (operationMember (operation ++ '"' :: ['\x7d'])) =
      some ([("operation".toList, .string operation)], []) :=
  readMore_operation plain enough ['\x7d']

/-- A plain id gives the object with the two members. -/
theorem reads_of_plain (plain : Plain tableId) :
    Reads (credentialsBody tableId) (.object (bodyMembers tableId)) := by
  refine ⟨tableId.length + 20, ?_⟩
  have enough : tableId.length < tableId.length + 17 := by omega
  have plainOperation : Plain "READ".toList := by decide
  have operation : "READ".toList.length < tableId.length + 16 := by simp
  rw [readText_credentialsBody, bodyTail_eq, readString_plain plain enough, Option.bind_some]
  dsimp only
  rw [readMore_operation_last plainOperation operation]
  rfl

/-- An id can close its own string and ask for another operation. -/
theorem reads_of_injected {front operation : Text} (plainFront : Plain front)
    (plain : Plain operation) :
    Reads (credentialsBody (front ++ '"' :: operationMember operation))
      (.object [("table_id".toList, .string front), ("operation".toList, .string operation),
        ("operation".toList, .string "READ".toList)]) := by
  obtain ⟨fuel, same⟩ : ∃ fuel, fuel = front.length + operation.length := ⟨_, rfl⟩
  refine ⟨fuel + 1 + 20, ?_⟩
  have spelled : front ++ '"' :: operationMember operation ++ bodyTail = front ++
      '"' :: operationMember (operation ++ '"' :: operationMember ("READ".toList ++
        '"' :: ['\x7d'])) := by
    rw [bodyTail_eq]
    simp [operationMember]
  have last : readMore '\x7d' (readMembers (fuel + 1 + 17))
      (operationMember ("READ".toList ++ '"' :: ['\x7d'])) =
      some ([("operation".toList, .string "READ".toList)], []) :=
    readMore_operation_last (by decide) (by simp)
  have enoughFront : front.length < fuel + 1 + 17 := by omega
  have enough : operation.length < fuel + 1 + 16 := by omega
  rw [readText_credentialsBody, spelled, readString_plain plainFront enoughFront, Option.bind_some]
  dsimp only
  rw [readMore_operation plain enough, last]
  rfl

end Body

theorem asksForTable_iff_names (libraries : Libraries) (credentials : Credentials)
    (tableId : Text) :
    AsksForTable libraries credentials tableId ↔
      NamesTable tableId (credentialsBody tableId) := by
  have sends := sends_performRequest_iff (credentialsUrl credentials)
    ⟨cString (credentialsUrl credentials), cString credentials.token,
      some (credentialsBody tableId)⟩
    (fun body => Outcome.ofExcept (decodeTableCredentials libraries body))
    fun request => ∃ body, request.postFields = some body ∧ NamesTable tableId body
  refine sends.trans ⟨?_, fun names => ⟨_, rfl, names⟩⟩
  rintro ⟨body, same, names⟩
  cases same
  exact names

/-- A call for credentials asks to read the table it is given exactly when every character of
the id stands for itself in a JSON string. -/
theorem asksForTable_iff (libraries : Libraries) (credentials : Credentials) (tableId : Text) :
    AsksForTable libraries credentials tableId ↔ Plain tableId := by
  rw [asksForTable_iff_names]
  exact ⟨plain_of_namesTable, fun plain => ⟨_, reads_of_plain plain, .refl _⟩⟩

/-- An id with quotes in it asks for another table and another operation. -/
theorem asksForTable_injected :
    let tableId := "x\", \"operation\" : \"READ_WRITE".toList
    ¬ AsksForTable silentLibraries ⟨[], [], []⟩ tableId ∧
      Reads (credentialsBody tableId) (.object [("table_id".toList, .string "x".toList),
        ("operation".toList, .string "READ_WRITE".toList),
        ("operation".toList, .string "READ".toList)]) := by
  intro tableId
  have spelled : tableId = "x".toList ++ '"' :: operationMember "READ_WRITE".toList := by decide
  have plainFront : Plain "x".toList := by decide
  have plain : Plain "READ_WRITE".toList := by decide
  have reads := reads_of_injected plainFront plain
  rw [← spelled] at reads
  refine ⟨fun asks => ?_, reads⟩
  obtain ⟨members, readsTwo, same⟩ := (asksForTable_iff_names _ _ _).mp asks
  cases reads.unique readsTwo
  exact absurd same.length_eq (by decide)

end UcCatalog
