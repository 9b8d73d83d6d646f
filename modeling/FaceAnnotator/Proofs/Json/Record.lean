import FaceAnnotator.Json.Printing
import FaceAnnotator.Json.Schema
import FaceAnnotator.Proofs.Json.Literal
/-!
# FaceAnnotator.Proofs.Json.Record

**Printed lists and records read back**, if what is in them does.

Elements and members are printed with commas between them, so what stands behind one of them never
continues a number. The answer to a list is the list of the answers, and there is none if one of the
elements is refused. What is collected of a record depends on its members in their order, so
`Collects` follows them.
-/

namespace FaceAnnotator.Json

/-- Texts with commas between them, and with one before the first unless it is the first of all. -/
def separated : Bool → List (List Char) → List Char
  | _, [] => []
  | true, text :: texts => text ++ separated false texts
  | false, text :: texts => ',' :: (text ++ separated false texts)

/-- The text of a list. -/
def bracketed (elements : List (List Char)) : List Char := '[' :: (separated true elements ++ [']'])

/-- The text of a record. -/
def braced (members : List (List Char)) : List Char :=
  '\x7b' :: (separated true members ++ ['\x7d'])

/-- The text of a member. -/
def memberText (key : String) (value : List Char) : List Char := quote key ++ ':' :: value

theorem flatten_intercalate (elements : List Pieces) :
    (([[',']] : Pieces).intercalate elements).flatten =
      separated true (elements.map List.flatten) := by
  cases elements with
  | nil => rfl
  | cons element elements =>
      induction elements generalizing element with
      | nil => simp [separated, List.intercalate]
      | cons other elements ih =>
          have later := ih other
          simp only [separated, List.map_cons, List.intercalate] at later ⊢
          simp [later]

theorem flatten_listPieces (elements : List Pieces) :
    (listPieces elements).flatten = bracketed (elements.map List.flatten) := by
  simp [listPieces, bracketed, flatten_intercalate]

theorem flatten_objectPieces (members : List Pieces) :
    (objectPieces members).flatten = braced (members.map List.flatten) := by
  simp [objectPieces, braced, flatten_intercalate]

theorem flatten_memberPieces (key : String) (value : Pieces) :
    (memberPieces key value).flatten = memberText key value.flatten := by
  simp [memberPieces, memberText, quote, flatten_literal]

theorem ends_separated (texts : List (List Char)) {c : Char} (h : continues c = false)
    (rest : List Char) : Ends (separated false texts ++ c :: rest) := by
  cases texts with
  | nil => exact h
  | cons text texts => exact (by decide : continues ',' = false)

theorem length_le_separated (first : Bool) (texts : List (List Char)) :
    texts.length ≤ (separated first texts).length + first.toNat := by
  induction texts generalizing first with
  | nil => exact Nat.zero_le _
  | cons text texts ih =>
      have later := ih false
      cases first <;>
        simp only [separated, List.length_append, List.length_cons, Bool.toNat_false,
          Bool.toNat_true] at later ⊢ <;>
        omega

/-! ### Lists -/

theorem nextElement_separated {text : List Char} (h : Begins text) (first : Bool)
    (texts : List (List Char)) (rest : List Char) :
    nextElement first (separated first (text :: texts) ++ rest) =
      .ok (true, text ++ (separated false texts ++ rest)) := by
  obtain ⟨c, more, rfl, space, bracket⟩ := h
  have comma : isSpace ',' = false := by decide
  cases first <;> simp [separated, nextElement, skipSpace_cons space, skipSpace_cons comma, bracket]

section list

variable {α β : Type} {element : Reader α} {print : β → List Char} {answer : β → Option α}

/-- Elements are read one after the other. -/
theorem answered_elementsWithin {xs : List β} {fuel : Nat}
    (h : ∀ x ∈ xs, Begins (print x) ∧ Answers element (print x) (answer x))
    (enough : xs.length < fuel) (first : Bool) (done : List α) (rest : List Char) :
    Answered (']' :: rest)
      (elementsWithin element fuel first done (separated first (xs.map print) ++ ']' :: rest))
      ((xs.mapM answer).map (done.reverse ++ ·)) := by
  induction xs generalizing fuel first done with
  | nil =>
      obtain ⟨fuel, rfl⟩ := Nat.exists_eq_add_one.2 (Nat.zero_lt_of_lt enough)
      have stop : nextElement first (']' :: rest) = .ok (false, ']' :: rest) := by
        simp [nextElement, skipSpace_cons (show isSpace ']' = false by decide)]
      simp [separated, elementsWithin, stop]
  | cons x xs ih =>
      obtain ⟨fuel, rfl⟩ := Nat.exists_eq_add_one.2 (Nat.zero_lt_of_lt enough)
      obtain ⟨begins, answers⟩ := h x List.mem_cons_self
      -- Behind the element there is a comma or the end of the list, and neither continues a number.
      have next := nextElement_separated begins first (xs.map print) (']' :: rest)
      have one :=
        answers _ (ends_separated (xs.map print) (show continues ']' = false by decide) rest)
      rw [List.map_cons, elementsWithin, next]
      dsimp only
      cases due : answer x with
      | none =>
          rw [due] at one
          obtain ⟨fault, refused, content⟩ := one
          rw [refused]
          simpa [due, Answered] using content
      | some y =>
          rw [due, answered_some] at one
          have later := @ih fuel (fun y mem => h y (List.mem_cons_of_mem x mem))
            (by simpa using enough) false (y :: done)
          have whole : ((x :: xs).mapM answer).map (done.reverse ++ ·) =
              (xs.mapM answer).map ((y :: done).reverse ++ ·) := by
            cases rest_due : xs.mapM answer <;> simp [due, rest_due]
          rw [one, whole]
          exact later

/-- A printed list is read as the list of what its elements are read as. -/
theorem answers_list {xs : List β}
    (h : ∀ x ∈ xs, Begins (print x) ∧ Answers element (print x) (answer x)) :
    Answers (list element) (bracketed (xs.map print)) (xs.mapM answer) := by
  intro rest _
  let inner := separated true (xs.map print) ++ ']' :: rest
  have enough : xs.length < inner.length + 1 := by
    have bound := length_le_separated true (xs.map print)
    simp only [inner, List.length_map, List.length_append, List.length_cons,
      Bool.toNat_true] at bound ⊢
    omega
  have inside := answered_elementsWithin h enough true [] rest
  have opened : bracketed (xs.map print) ++ rest = '[' :: inner := by simp [bracketed, inner]
  have closed : endList (']' :: rest) = .ok rest := by
    simp [endList, skipSpace_cons (show isSpace ']' = false by decide)]
  rw [opened, list, skipSpace_cons (by decide)]
  cases due : xs.mapM answer with
  | none =>
      rw [due] at inside
      obtain ⟨fault, refused, content⟩ := inside
      exact ⟨fault, by simp only [inner, refused], content⟩
  | some ys =>
      rw [due] at inside
      have reads :
          elementsWithin element (inner.length + 1) true [] inner = .ok (ys, ']' :: rest) := inside
      simp [reads, closed]

end list

/-! ### Records -/

namespace Schema

variable {σ α : Type}

/-- What is collected of the members of a record, if none of them is refused. -/
inductive Collects (s : Schema σ α) : σ → List (List Char) → Option σ → Prop
  | done (collected : σ) : Collects s collected [] (some collected)
  | read {collected next : σ} {key : String} {value : List Char} {members : List (List Char)}
      {answer : Option σ} {field : Field σ} (named : s.field? key.toList = some field)
      (unset : field.isSet collected = false)
      (reads : Answers (field.read collected) value (some next))
      (later : Collects s next members answer) :
      Collects s collected (memberText key value :: members) answer
  | refuse {collected : σ} {key : String} {value : List Char} {members : List (List Char)}
      {field : Field σ} (named : s.field? key.toList = some field)
      (unset : field.isSet collected = false)
      (refuses : Answers (field.read collected) value Option.none) :
      Collects s collected (memberText key value :: members) Option.none

/-- A member may be refused, and if it is not, what comes behind it is collected too. -/
theorem Collects.ite {s : Schema σ α} {collected next all : σ} {key : String} {value : List Char}
    {members : List (List Char)} {field : Field σ} {accepted : Bool}
    (answers : Answers (field.read collected) value (if accepted then some next else Option.none))
    (named : s.field? key.toList = some field) (unset : field.isSet collected = false)
    (later : Collects s next members (some all)) :
    Collects s collected (memberText key value :: members)
      (if accepted then some all else Option.none) := by
  cases accepted with
  | false => exact .refuse named unset answers
  | true => exact .read named unset answers later

theorem nextKey_separated (first : Bool) (key : String) (value : List Char)
    (members : List (List Char)) (rest : List Char) :
    nextKey first (separated first (memberText key value :: members) ++ rest) =
      .ok (true, escapedText key.toList ++
        '"' :: ':' :: (value ++ (separated false members ++ rest))) := by
  have comma : isSpace ',' = false := by decide
  have quote : isSpace '"' = false := by decide
  cases first <;>
    simp [separated, memberText, Json.quote, nextKey, skipSpace_cons quote, skipSpace_cons comma]

/-- A member with the key of a field that is not set yet is read by that field. -/
theorem member_of_field {s : Schema σ α} {collected : σ} {key : String} {field : Field σ}
    (named : s.field? key.toList = some field) (unset : field.isSet collected = false)
    (rest : List Char) :
    s.member collected (escapedText key.toList ++ '"' :: ':' :: rest) =
      field.read collected rest := by
  have passes : colon (':' :: rest) = .ok rest := by
    simp [colon, skipSpace_cons (show isSpace ':' = false by decide)]
  simp [member, Literal.read_escapedText, named, unset, passes]

/-- Members are read one after the other. -/
theorem answered_membersWithin {s : Schema σ α} {collected : σ} {members : List (List Char)}
    {answer : Option σ} {fuel : Nat} (h : Collects s collected members answer)
    (enough : members.length < fuel) (first : Bool) (rest : List Char) :
    Answered ('\x7d' :: rest)
      (s.membersWithin fuel first collected (separated first members ++ '\x7d' :: rest))
      answer := by
  have brace : continues '\x7d' = false := by decide
  -- Every member takes one unit of fuel, and one is left for the end.
  induction h generalizing fuel first with
  | done collected =>
      obtain ⟨fuel, rfl⟩ := Nat.exists_eq_add_one.2 (Nat.zero_lt_of_lt enough)
      have stop : nextKey first ('\x7d' :: rest) = .ok (false, '\x7d' :: rest) := by
        simp [nextKey, skipSpace_cons (show isSpace '\x7d' = false by decide)]
      simp [separated, membersWithin, stop]
  | @read collected next key value members answer field named unset reads later ih =>
      obtain ⟨fuel, rfl⟩ := Nat.exists_eq_add_one.2 (Nat.zero_lt_of_lt enough)
      have one : field.read collected _ = .ok (next, _) :=
        reads _ (ends_separated members brace rest)
      rw [membersWithin, nextKey_separated]
      dsimp only
      rw [member_of_field named unset, one]
      exact ih (by simpa using enough) false
  | @refuse collected key value members field named unset refuses =>
      obtain ⟨fuel, rfl⟩ := Nat.exists_eq_add_one.2 (Nat.zero_lt_of_lt enough)
      obtain ⟨fault, refused, content⟩ := refuses _ (ends_separated members brace rest)
      rw [membersWithin, nextKey_separated]
      dsimp only
      rw [member_of_field named unset, refused]
      exact ⟨fault, rfl, content⟩

/-- A printed record is read as what is made of its members. -/
theorem answers_read {s : Schema σ α} {members : List (List Char)} {all : σ} {x : α}
    {accepted : Bool} (h : Collects s s.none members (if accepted then some all else Option.none))
    (built : s.build all = .ok x) :
    Answers s.read (braced members) (if accepted then some x else Option.none) := by
  intro rest _
  let inner := separated true members ++ '\x7d' :: rest
  have enough : members.length < inner.length + 1 := by
    have bound := length_le_separated true members
    simp only [inner, List.length_append, List.length_cons, Bool.toNat_true] at bound ⊢
    omega
  have inside := answered_membersWithin h enough true rest
  have opened : braced members ++ rest = '\x7b' :: inner := by simp [braced, inner]
  have closed : behindObject ('\x7d' :: rest) = rest := by
    simp [behindObject, skipSpace_cons (show isSpace '\x7d' = false by decide)]
  have objects : s.read ('\x7b' :: inner) = s.object inner := by
    simp [read, skipSpace_cons (show isSpace '\x7b' = false by decide)]
  rw [opened, objects]
  cases accepted with
  | false =>
      obtain ⟨fault, refused, content⟩ := inside
      exact ⟨fault, by simp only [object, inner, refused], content⟩
  | true =>
      have reads :
          s.membersWithin (inner.length + 1) true s.none inner = .ok (all, '\x7d' :: rest) := inside
      simp [object, reads, built, closed]

end Schema

end FaceAnnotator.Json
