import FaceAnnotator.Proofs.Frame.RoundTrip
import FaceAnnotator.Proofs.Json.Continuation.Value
import FaceAnnotator.Proofs.Text.Lines
/-!
# FaceAnnotator.Proofs.Frame.Line

**The text of a frame is one line, and no beginning of it is a frame.**

Printing leaves no control character in a text, whatever the strings in the frame hold. And since
the reader of frames knows where a frame ends, it takes no part of a frame for one.
-/

namespace FaceAnnotator

open Numeric Json Literal

namespace Json

/-- A text without control characters. -/
def Uncontrolled (text : List Char) : Prop := ∀ c ∈ text, isControl c = false

instance (text : List Char) : Decidable (Uncontrolled text) :=
  List.decidableBAll _ text

@[simp] theorem uncontrolled_nil : Uncontrolled [] := fun _ mem => nomatch mem

@[simp] theorem uncontrolled_cons (c : Char) (text : List Char) :
    Uncontrolled (c :: text) ↔ isControl c = false ∧ Uncontrolled text := by
  simp [Uncontrolled]

@[simp] theorem uncontrolled_append (text more : List Char) :
    Uncontrolled (text ++ more) ↔ Uncontrolled text ∧ Uncontrolled more := by
  simp [Uncontrolled, or_imp, forall_and]

theorem Uncontrolled.unbroken {text : List Char} (h : Uncontrolled text) : Text.Unbroken text := by
  intro c mem
  have plain := h c mem
  constructor
  · rintro rfl
    exact absurd plain (by decide)
  · rintro rfl
    exact absurd plain (by decide)

theorem uncontrolled_lowEscape {n : Nat} (h : n < 256) : Uncontrolled (lowEscape n) := by
  have digit : ∀ k < 16, isControl (Nat.digitChar k) = false := by decide
  have high := digit (n / 16) (by omega)
  have low := digit (n % 16) (by omega)
  simp only [lowEscape, uncontrolled_cons, high, low]
  decide

theorem uncontrolled_of_escaped {c : Char} {text : List Char} (h : escaped c = some text) :
    Uncontrolled text := by
  unfold escaped at h
  repeat' split at h
  all_goals try
    cases h
    decide
  · rename_i low
    cases h
    have small : c.toNat < 32 := low
    exact uncontrolled_lowEscape (by omega)
  · cases h

theorem uncontrolled_escaped (c : Char) : Uncontrolled ((escaped c).getD [c]) := by
  cases need : escaped c with
  | none => simpa using (plain_of_escaped need).2.2
  | some text => exact uncontrolled_of_escaped need

theorem uncontrolled_escapedText (text : List Char) : Uncontrolled (escapedText text) := by
  intro c mem
  obtain ⟨d, -, mem⟩ := List.mem_flatMap.1 mem
  exact uncontrolled_escaped d c mem

theorem uncontrolled_quote (s : String) : Uncontrolled (quote s) := by
  have inside := uncontrolled_escapedText s.toList
  simp only [quote, uncontrolled_cons, uncontrolled_append, inside]
  decide

theorem isControl_of_isDigit {c : Char} (h : isDigit c = true) : isControl c = false := by
  have low : '0' ≤ c := by simpa using (Bool.and_eq_true_iff.1 h).1
  have least : 48 ≤ c.toNat := low
  have space : (' ' : Char).toNat = 32 := rfl
  simp only [isControl, decide_eq_false_iff_not]
  intro below
  have below : c.toNat < (' ' : Char).toNat := below
  omega

theorem uncontrolled_of_isDigit {digits : List Char} (h : ∀ c ∈ digits, isDigit c = true) :
    Uncontrolled digits :=
  fun c mem => isControl_of_isDigit (h c mem)

theorem uncontrolled_digitsOf (n : Nat) : Uncontrolled (digitsOf n) :=
  uncontrolled_of_isDigit (canonical_digitsOf n).isDigit

theorem uncontrolled_integerText (n : Int) : Uncontrolled (integerText n) := by
  have digits := uncontrolled_digitsOf n.natAbs
  unfold integerText
  split
  · simp only [uncontrolled_cons, digits]
    decide
  · exact digits

theorem uncontrolled_exponentText (n : Int) : Uncontrolled (Number.exponentText n) := by
  have digits := uncontrolled_digitsOf n.natAbs
  unfold Number.exponentText
  split <;> simp only [uncontrolled_cons, digits] <;> decide

theorem uncontrolled_numeral {text whole behind : List Char}
    (h : Number.IsNumeral text whole behind) :
    Uncontrolled text := by
  have wholes := uncontrolled_of_isDigit h.canonical.isDigit
  have point : isControl '.' = false := by decide
  rw [h.eq, uncontrolled_append]
  refine ⟨wholes, ?_⟩
  rcases h.goes_on with ⟨digits, tail, rfl, -, all, tail_form⟩ | ⟨exponent, -, rfl⟩
  · have fraction := uncontrolled_of_isDigit all
    rcases tail_form with rfl | ⟨exponent, -, rfl⟩
    · simp [point, fraction]
    · simp [point, fraction, uncontrolled_exponentText]
  · exact uncontrolled_exponentText exponent

theorem uncontrolled_single (x : Single) : Uncontrolled (singlePieces x).flatten := by
  rw [singlePieces, List.flatten_singleton]
  split
  · rename_i finite
    obtain ⟨negative, text, whole, behind, eq, is⟩ := numeral_of_isFinite finite
    rw [eq, uncontrolled_append]
    refine ⟨?_, uncontrolled_numeral is⟩
    cases negative <;> decide
  · decide

theorem uncontrolled_separated {first : Bool} {texts : List (List Char)}
    (h : ∀ text ∈ texts, Uncontrolled text) : Uncontrolled (separated first texts) := by
  have comma : isControl ',' = false := by decide
  induction texts generalizing first with
  | nil => cases first <;> exact uncontrolled_nil
  | cons text texts ih =>
      have one := h text List.mem_cons_self
      have others := @ih false fun other mem => h other (List.mem_cons_of_mem text mem)
      cases first <;> simp [separated, comma, one, others]

theorem uncontrolled_bracketed {texts : List (List Char)} (h : ∀ text ∈ texts, Uncontrolled text) :
    Uncontrolled (bracketed texts) := by
  have inside := @uncontrolled_separated true texts h
  simp only [bracketed, uncontrolled_cons, uncontrolled_append, inside]
  decide

theorem uncontrolled_braced {texts : List (List Char)} (h : ∀ text ∈ texts, Uncontrolled text) :
    Uncontrolled (braced texts) := by
  have inside := @uncontrolled_separated true texts h
  simp only [braced, uncontrolled_cons, uncontrolled_append, inside]
  decide

theorem uncontrolled_memberText {key : String} {value : List Char} (h : Uncontrolled value) :
    Uncontrolled (memberText key value) := by
  have name := uncontrolled_quote key
  simp only [memberText, uncontrolled_cons, uncontrolled_append, name, h]
  decide

end Json

theorem Tensor.uncontrolled_pieces (t : Tensor) : Uncontrolled t.pieces.flatten := by
  have data : Uncontrolled (bracketed (t.data.map fun x => (singlePieces x).flatten)) := by
    refine uncontrolled_bracketed fun text mem => ?_
    obtain ⟨x, -, rfl⟩ := List.mem_map.1 mem
    exact uncontrolled_single x
  rw [flatten_pieces]
  refine uncontrolled_braced fun member mem => ?_
  rcases List.mem_append.1 mem with mem | mem
  · simp only [List.mem_cons, List.not_mem_nil, or_false] at mem
    rcases mem with rfl | rfl | rfl
    · exact uncontrolled_memberText (uncontrolled_quote t.name)
    · exact uncontrolled_memberText (uncontrolled_quote t.layer)
    · exact uncontrolled_memberText data
  · obtain ⟨label, -, rfl⟩ := List.mem_map.1 mem
    exact uncontrolled_memberText (uncontrolled_quote label)

theorem Region.uncontrolled_pieces (r : Region) : Uncontrolled r.pieces.flatten := by
  have tensors : Uncontrolled (bracketed (r.tensors.map fun t => t.pieces.flatten)) := by
    refine uncontrolled_bracketed fun text mem => ?_
    obtain ⟨t, -, rfl⟩ := List.mem_map.1 mem
    exact t.uncontrolled_pieces
  have extent (n : Int32) : Uncontrolled (integerPieces n.toInt).flatten := by
    rw [integerPieces, List.flatten_singleton]
    exact uncontrolled_integerText n.toInt
  rw [flatten_pieces]
  refine uncontrolled_braced fun member mem => ?_
  simp only [members, List.mem_cons, List.not_mem_nil, or_false] at mem
  rcases mem with rfl | rfl | rfl | rfl | rfl
  · exact uncontrolled_memberText (extent r.x)
  · exact uncontrolled_memberText (extent r.y)
  · exact uncontrolled_memberText (extent r.width)
  · exact uncontrolled_memberText (extent r.height)
  · exact uncontrolled_memberText tensors

theorem Frame.uncontrolled_json (f : Frame) : Uncontrolled f.json := by
  have regions : Uncontrolled (bracketed (f.regions.map fun r => r.pieces.flatten)) := by
    refine uncontrolled_bracketed fun text mem => ?_
    obtain ⟨r, -, rfl⟩ := List.mem_map.1 mem
    exact r.uncontrolled_pieces
  rw [json, flatten_pieces]
  refine uncontrolled_braced fun member mem => ?_
  simp only [members, List.mem_cons, List.not_mem_nil, or_false] at mem
  rcases mem with rfl | rfl
  · rw [integerPieces, List.flatten_singleton]
    exact uncontrolled_memberText (uncontrolled_integerText f.index.toNat)
  · exact uncontrolled_memberText regions

/-! ### Beginnings of frames -/

theorem Tensor.closes_read : Closes read := by
  refine Schema.closes_read fun field mem d => ?_
  simp only [schema, List.mem_cons, List.not_mem_nil, or_false] at mem
  rcases mem with rfl | rfl | rfl | rfl
  · exact closes_text.extends.map fun s => { d with name := some s }
  · exact closes_text.extends.map fun s => { d with layer := some s }
  · exact (closes_list extends_single).extends.map fun xs => { d with data := some xs }
  · exact closes_optionalText.extends.map fun l => { d with label := some l }

theorem Region.extends_readExtent : Extends readExtent :=
  (extends_integer "i32" _ _).map Int32.ofInt

theorem Region.closes_read : Closes read := by
  refine Schema.closes_read fun field mem d => ?_
  simp only [schema, List.mem_cons, List.not_mem_nil, or_false] at mem
  rcases mem with rfl | rfl | rfl | rfl | rfl
  · exact extends_readExtent.map fun n => { d with x := some n }
  · exact extends_readExtent.map fun n => { d with y := some n }
  · exact extends_readExtent.map fun n => { d with width := some n }
  · exact extends_readExtent.map fun n => { d with height := some n }
  · exact (closes_list Tensor.closes_read.extends).extends.map fun ts =>
      { d with tensors := some ts }

theorem Frame.extends_readIndex : Extends readIndex :=
  (extends_integer "usize" _ _).map fun n => UInt64.ofNat n.toNat

theorem Frame.closes_read : Closes read := by
  refine Schema.closes_read fun field mem d => ?_
  simp only [schema, List.mem_cons, List.not_mem_nil, or_false] at mem
  rcases mem with rfl | rfl
  · exact extends_readIndex.map fun n => { d with index := some n }
  · exact (closes_list Region.closes_read.extends).extends.map fun rs =>
      { d with regions := some rs }

/-- No part of the text of a frame, from its first character on, is a frame. -/
theorem Frame.refuses_beginning (f : Frame) {part more : List Char} (h : f.json = part ++ more)
    (proper : more ≠ []) : ∃ complaint, ofJson part = .error complaint := by
  cases outcome : ofJson part with
  | error complaint => exact ⟨complaint, rfl⟩
  | ok g =>
      unfold ofJson document at outcome
      split at outcome
      · cases outcome
      · rename_i x rest taken
        have longer := closes_read taken more
        rw [← h] at longer
        have whole := f.answers_read [] trivial
        rw [List.append_nil, ← json, longer] at whole
        -- The frame is read to its end or refused, and neither leaves what was cut off.
        split at whole
        · simp only [answered_some, Except.ok.injEq, Prod.mk.injEq, List.append_eq_nil_iff] at whole
          exact absurd whole.2.2 proper
        · obtain ⟨fault, refused, -⟩ := whole
          cases refused

end FaceAnnotator
