import FaceAnnotator.Proofs.Json.Number
import FaceAnnotator.Proofs.Json.Record
/-!
# FaceAnnotator.Proofs.Json.Presentation.Grammar

**Which texts are JSON, and which strings they spell.**

This is the grammar of the standard, without any reader in it. Between tokens there may be spaces,
so an element or a member comes `Padded`. A literal may be well-formed and spell no string: an
escaped surrogate that has no partner is good JSON. `IsLiteral` lets it pass, and `IsString` says
which string a literal spells.
-/

namespace FaceAnnotator.Json

open Numeric

/-! ### Numbers -/

/-- One decimal digit or more. -/
def IsDigits (text : List Char) : Prop := text ≠ [] ∧ ∀ c ∈ text, isDigit c = true

/-- The fraction of a number, if it has one. -/
def IsFraction (text : List Char) : Prop :=
  text = [] ∨ ∃ digits, IsDigits digits ∧ text = '.' :: digits

/-- The exponent of a number, if it has one. -/
def IsExponent (text : List Char) : Prop :=
  text = [] ∨ ∃ letter sign digits,
    (letter = 'e' ∨ letter = 'E') ∧ (sign = [] ∨ sign = ['+'] ∨ sign = ['-']) ∧
    IsDigits digits ∧ text = letter :: (sign ++ digits)

/-- The text of a number. -/
def IsNumber (text : List Char) : Prop :=
  ∃ negative whole fraction exponent,
    text = signText negative ++ (whole ++ (fraction ++ exponent)) ∧
    Canonical whole ∧ IsFraction fraction ∧ IsExponent exponent

/-! ### Strings -/

/-- A hexadecimal digit, in either case. -/
def IsHex (c : Char) (value : Nat) : Prop :=
  value < 16 ∧ (c = Nat.digitChar value ∨ c = (Nat.digitChar value).toUpper)

instance (c : Char) (value : Nat) : Decidable (IsHex c value) := inferInstanceAs (Decidable (_ ∧ _))

/-- Four hexadecimal digits, and the number that they spell. -/
def IsHexNumber (digits : List Char) (n : Nat) : Prop :=
  ∃ a b c d i j k l, digits = [a, b, c, d] ∧ IsHex a i ∧ IsHex b j ∧ IsHex c k ∧ IsHex d l ∧
    n = ((i * 16 + j) * 16 + k) * 16 + l

/-- The letters that may follow a backslash, each with the character that it stands for. -/
def escapes : List (Char × Char) :=
  [('"', '"'), ('\\', '\\'), ('/', '/'), ('b', '\x08'), ('f', '\x0c'), ('n', '\n'), ('r', '\r'),
    ('t', '\t')]

/-- A character that may stand in a literal as it is. -/
def IsPlain (c : Char) : Prop := c ≠ '"' ∧ c ≠ '\\' ∧ ' ' ≤ c

instance (c : Char) : Decidable (IsPlain c) := inferInstanceAs (Decidable (_ ∧ _ ∧ _))

/-- The inside of a literal. -/
inductive IsInside : List Char → Prop where
  | nil : IsInside []
  | plain {c : Char} {inside : List Char} : IsPlain c → IsInside inside → IsInside (c :: inside)
  | short {letter c : Char} {inside : List Char} : (letter, c) ∈ escapes → IsInside inside →
      IsInside ('\\' :: letter :: inside)
  | unicode {digits : List Char} {n : Nat} {inside : List Char} :
      IsHexNumber digits n → IsInside inside →
      IsInside ('\\' :: 'u' :: (digits ++ inside))

/-- The insides of literals for a string. A character beyond the sixteen-bit range is escaped
as two surrogates. -/
inductive Spells : List Char → List Char → Prop where
  | nil : Spells [] []
  | plain {c : Char} {text inside : List Char} : IsPlain c → Spells text inside →
      Spells (c :: text) (c :: inside)
  | short {letter c : Char} {text inside : List Char} : (letter, c) ∈ escapes → Spells text inside →
      Spells (c :: text) ('\\' :: letter :: inside)
  | unicode {c : Char} {digits text inside : List Char} :
      IsHexNumber digits c.toNat → Spells text inside →
      Spells (c :: text) ('\\' :: 'u' :: (digits ++ inside))
  | pair {c : Char} {first second text inside : List Char} {high low : Nat} :
      c.toNat = 0x10000 + high * 1024 + low → high < 1024 → low < 1024 →
      IsHexNumber first (0xD800 + high) → IsHexNumber second (0xDC00 + low) → Spells text inside →
      Spells (c :: text) ('\\' :: 'u' :: (first ++ '\\' :: 'u' :: (second ++ inside)))

/-- A literal. -/
def IsLiteral (text : List Char) : Prop :=
  ∃ inside, IsInside inside ∧ text = '"' :: (inside ++ ['"'])

/-- A literal that spells a string. -/
def IsString (s text : List Char) : Prop :=
  ∃ inside, Spells s inside ∧ text = '"' :: (inside ++ ['"'])

theorem Spells.isInside {s inside : List Char} (h : Spells s inside) : IsInside inside := by
  induction h with
  | nil => exact .nil
  | plain fits later ih => exact .plain fits ih
  | short mem later ih => exact .short mem ih
  | unicode number later ih => exact .unicode number ih
  | pair value high low first second later ih => exact .unicode first (.unicode second ih)

theorem IsString.isLiteral {s text : List Char} (h : IsString s text) : IsLiteral text := by
  obtain ⟨inside, spells, rfl⟩ := h
  exact ⟨inside, spells.isInside, rfl⟩

/-- A text that may stand in a literal as it is. -/
def IsPlainText (s : List Char) : Prop := ∀ c ∈ s, IsPlain c

instance (s : List Char) : Decidable (IsPlainText s) := List.decidableBAll _ s

theorem spells_of_isPlainText {s : List Char} (h : IsPlainText s) : Spells s s := by
  induction s with
  | nil => exact .nil
  | cons c s ih =>
      exact .plain (h c List.mem_cons_self) (ih fun d mem => h d (List.mem_cons_of_mem c mem))

/-! ### Values -/

/-- Nothing but characters that may stand between tokens. -/
def Spaces (text : List Char) : Prop := ∀ c ∈ text, isSpace c = true

instance (text : List Char) : Decidable (Spaces text) := List.decidableBAll _ text

/-- A text with spaces around it. -/
structure Padded where
  before : List Char
  text : List Char
  after : List Char
  spaces_before : Spaces before
  spaces_after : Spaces after

/-- The text and the spaces around it. -/
def Padded.written (p : Padded) : List Char := p.before ++ (p.text ++ p.after)

/-- A text without spaces around it. -/
def Padded.bare (text : List Char) : Padded := ⟨[], text, [], by decide, by decide⟩

/-- A key and a value. -/
structure Entry where
  key : Padded
  value : Padded

/-- The text of a member. -/
def Entry.written (e : Entry) : List Char := e.key.written ++ ':' :: e.value.written

/-- The text of a list. An empty list may have a gap in it. -/
def listText (items : List Padded) (gap : List Char) : List Char :=
  '[' :: (separated true (items.map Padded.written) ++ (gap ++ [']']))

/-- The text of an object. -/
def objectText (entries : List Entry) (gap : List Char) : List Char :=
  '\x7b' :: (separated true (entries.map Entry.written) ++ (gap ++ ['\x7d']))

/-- The three words that are values. -/
def words : List (List Char) :=
  [['n', 'u', 'l', 'l'], ['t', 'r', 'u', 'e'], ['f', 'a', 'l', 's', 'e']]

/-- A text that is JSON, without spaces around it. -/
inductive IsJson : List Char → Prop where
  | word {text : List Char} : text ∈ words → IsJson text
  | number {text : List Char} : IsNumber text → IsJson text
  | literal {text : List Char} : IsLiteral text → IsJson text
  | list {items : List Padded} {gap : List Char} : Spaces gap → (∀ i ∈ items, IsJson i.text) →
      IsJson (listText items gap)
  | object {entries : List Entry} {gap : List Char} :
      Spaces gap → (∀ e ∈ entries, IsLiteral e.key.text) →
      (∀ e ∈ entries, IsJson e.value.text) → IsJson (objectText entries gap)

/-- A list with a text for each of the given things, in their order. -/
def IsListOf {α : Type} (tells : α → List Char → Prop) (xs : List α) (text : List Char) : Prop :=
  ∃ items gap, Spaces gap ∧ List.Forall₂ (fun x item => tells x item.text) xs items ∧
    text = listText items gap

/-- A list with an element of the given kind. -/
def HasElement (kind : List Char → Prop) (text : List Char) : Prop :=
  ∃ items gap, Spaces gap ∧ (∀ i ∈ items, IsJson i.text) ∧ (∃ i ∈ items, kind i.text) ∧
    text = listText items gap

theorem IsListOf.isJson {α : Type} {tells : α → List Char → Prop} {xs : List α} {text : List Char}
    (h : IsListOf tells xs text) (each : ∀ x text, tells x text → IsJson text) : IsJson text := by
  obtain ⟨items, gap, gaps, all, rfl⟩ := h
  refine .list gaps fun item mem => ?_
  induction all with
  | nil => cases mem
  | cons one others ih =>
      rcases List.mem_cons.1 mem with rfl | mem
      · exact each _ _ one
      · exact ih mem

/-! ### Records -/

/-- One field of a record, as a text may give it. -/
structure Slot where
  name : String
  /-- Whether the field may be left out. -/
  optional : Prop
  /-- The texts that give the value of the field. -/
  tells : List Char → Prop

/-- A member whose key spells a name. -/
structure Member extends Entry where
  name : List Char
  spells : IsString name key.text

/-- A member with no spaces in it and no escapes in its key. -/
def Member.bare (name : String) (plain : IsPlainText name.toList) (value : List Char) : Member where
  key := .bare ('"' :: (name.toList ++ ['"']))
  value := .bare value
  name := name.toList
  spells := ⟨name.toList, spells_of_isPlainText plain, rfl⟩

/-- No two members have the same one of the known names. -/
def Unrepeated (known : List String) (members : List Member) : Prop :=
  members.Pairwise fun m n => ∀ name ∈ known, m.name = name.toList → n.name ≠ name.toList

/-- The members give the fields, in any order, and there may be others that mean nothing. -/
structure GivesMembers (slots : List Slot) (members : List Member) : Prop where
  unrepeated : Unrepeated (slots.map Slot.name) members
  complete : ∀ slot ∈ slots, slot.optional ∨ ∃ m ∈ members, m.name = slot.name.toList
  known : ∀ m ∈ members, ∀ slot ∈ slots, m.name = slot.name.toList → slot.tells m.value.text
  other : ∀ m ∈ members, (∀ slot ∈ slots, m.name ≠ slot.name.toList) → IsJson m.value.text

/-- The elements give the fields in their own order. Only the last ones may be left out. -/
def GivesItems (slots : List Slot) (items : List Padded) : Prop :=
  ∃ given left, slots = given ++ left ∧
    List.Forall₂ (fun slot item => slot.tells item.text) given items ∧
    ∀ slot ∈ left, slot.optional

/-- A text gives a record, as an object or as a list. -/
inductive Gives (slots : List Slot) : List Char → Prop where
  | object {members : List Member} {gap : List Char} : Spaces gap → GivesMembers slots members →
      Gives slots (objectText (members.map Member.toEntry) gap)
  | list {items : List Padded} {gap : List Char} : Spaces gap → GivesItems slots items →
      Gives slots (listText items gap)

/-- A text in the form of a record gives a known name twice, or does so in the value of a field.
Apart from that the values may be any. -/
inductive Repeats (known : List String) (within : String → List Char → Prop) :
    List Char → Prop where
  | here {members : List Member} {gap : List Char} :
      Spaces gap → (∀ m ∈ members, IsJson m.value.text) →
      ¬Unrepeated known members → Repeats known within (objectText (members.map Member.toEntry) gap)
  | member {members : List Member} {gap : List Char} {m : Member} {name : String} : Spaces gap →
      (∀ m ∈ members, IsJson m.value.text) → m ∈ members → name ∈ known → m.name = name.toList →
      within name m.value.text → Repeats known within (objectText (members.map Member.toEntry) gap)
  | element {items : List Padded} {gap : List Char} {name : String} {item : Padded} : Spaces gap →
      (∀ i ∈ items, IsJson i.text) → (name, item) ∈ known.zip items → within name item.text →
      Repeats known within (listText items gap)

end FaceAnnotator.Json
