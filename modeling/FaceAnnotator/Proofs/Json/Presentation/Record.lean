import FaceAnnotator.Json.Schema
import FaceAnnotator.Proofs.Json.Presentation.Value
/-!
# FaceAnnotator.Proofs.Json.Presentation.Record

**Records, in any order of their fields.**

A record is read member by member, or element by element, and what is collected goes from one to the
next. What may come of the whole is what may come of such a run (`Runs`), whichever form the record
has. Two things are proved of runs. If every field finds what it is looking for, the run ends with
the record, because what has been collected depends only on which fields have been read. And if a
field is given twice, there is no run to the end.
-/

namespace FaceAnnotator.Json

variable {α σ ι : Type}

/-- What may come of going through a list, if each step may lead from one state to another, or
stop. -/
inductive Runs (step : σ → ι → Option σ → Prop) : σ → List ι → Option σ → Prop where
  | done (collected : σ) : Runs step collected [] (some collected)
  | stop {collected : σ} {i : ι} {others : List ι} : step collected i none →
      Runs step collected (i :: others) none
  | next {collected next : σ} {i : ι} {others : List ι} {out : Option σ} :
      step collected i (some next) →
      Runs step next others out → Runs step collected (i :: others) out

namespace Schema

/-! ### The object form -/

theorem nextKey_entry {entry : Entry} (literal : IsLiteral entry.key.text) {space : List Char}
    (spaces : Spaces space) (first : Bool) (texts : List (List Char)) (rest : List Char) :
    nextKey first (space ++ (separated first (entry.written :: texts) ++ rest)) =
      .ok (true, entry.key.text.tail ++ (entry.key.after ++ ':' ::
        (entry.value.written ++ (separated false texts ++ rest)))) := by
  have found := skipSpace_written literal.begins
    (':' :: (entry.value.written ++ (separated false texts ++ rest)))
  obtain ⟨more, eq⟩ := literal.head
  rw [eq, List.cons_append] at found
  rw [eq, List.tail_cons]
  cases first with
  | true =>
      rw [← skipSpace_spaces spaces] at found
      rw [separated, Entry.written, List.append_assoc, List.append_assoc, List.cons_append,
        nextKey_cons found, if_neg (by decide), if_pos rfl, if_pos rfl]
  | false =>
      have comma := skipSpace_comma spaces
        (entry.key.written ++ ':' :: (entry.value.written ++ (separated false texts ++ rest)))
      rw [separated, Entry.written, List.cons_append, List.append_assoc, List.append_assoc,
        List.cons_append, nextKey_cons comma, if_neg (by decide), if_neg (by decide), if_pos rfl,
        found]
      exact if_pos rfl

theorem nextKey_close {space gap : List Char} (spaces : Spaces space) (gaps : Spaces gap)
    (first : Bool) (rest : List Char) :
    nextKey first (space ++ (gap ++ '\x7d' :: rest)) = .ok (false, '\x7d' :: rest) := by
  have found := skipSpace_cons (show isSpace '\x7d' = false by decide) rest
  rw [← skipSpace_spaces gaps, ← skipSpace_spaces spaces] at found
  rw [nextKey_cons found, if_pos rfl]

theorem colon_key (key : Padded) (rest : List Char) :
    colon (key.after ++ ':' :: rest) = .ok rest := by
  rw [colon, skipSpace_spaces key.spaces_after, skipSpace_cons (by decide)]
  rfl

variable (s : Schema σ α)

/-- What is due for a member from behind the quote of its key on, wherever it stands. -/
def MemberMeets (collected : σ) (entry : Entry) (due : Option σ → Prop) : Prop :=
  ∀ rest, Ends rest →
    Allowed due rest (s.member collected (entry.key.text.tail ++ (entry.key.after ++ ':' ::
      (entry.value.before ++ (entry.value.text ++ rest)))))

variable {s}

theorem allowed_membersWithin {entry : ι → Entry} {step : σ → ι → Option σ → Prop}
    {members : List ι} (literals : ∀ m ∈ members, IsLiteral (entry m).key.text)
    (h : ∀ m ∈ members, ∀ collected, s.MemberMeets collected (entry m) (step collected m))
    {gap : List Char} (gaps : Spaces gap) {fuel : Nat} (enough : members.length < fuel)
    (first : Bool) (collected : σ) {space : List Char} (spaces : Spaces space) (rest : List Char) :
    Allowed (Runs step collected members) ('\x7d' :: rest)
      (s.membersWithin fuel first collected
        (space ++ (separated first (members.map fun m => (entry m).written) ++
          (gap ++ '\x7d' :: rest)))) := by
  induction members generalizing fuel first collected space with
  | nil =>
      obtain ⟨fuel, rfl⟩ := Nat.exists_eq_add_one.2 (Nat.zero_lt_of_lt enough)
      rw [List.map_nil, separated, List.nil_append, membersWithin, nextKey_close spaces gaps]
      exact ⟨rfl, .done collected⟩
  | cons m members ih =>
      obtain ⟨fuel, rfl⟩ := Nat.exists_eq_add_one.2 (Nat.zero_lt_of_lt enough)
      have later := @ih (fun other mem => literals other (List.mem_cons_of_mem m mem))
        (fun other mem => h other (List.mem_cons_of_mem m mem)) fuel (by simpa using enough) false
      have behind := ends_behind (entry m).value.spaces_after gaps
        (members.map fun m => (entry m).written) (show continues '\x7d' = false by decide) rest
      have met := h m List.mem_cons_self collected _ behind
      rw [List.map_cons, membersWithin, nextKey_entry (literals m List.mem_cons_self) spaces]
      simp only [Padded.written, List.append_assoc]
      split
      · rename_i fault outcome
        rw [outcome] at met
        exact .stop met
      · rename_i next left outcome
        rw [outcome] at met
        obtain ⟨rfl, fits⟩ := met
        exact (later next (entry m).value.spaces_after).mono fun out run => .next fits run

theorem read_cons {text rest : List Char} {c : Char} (h : skipSpace text = c :: rest) :
    s.read text =
      if c = '\x7b' then s.object rest
      else if c = '[' then s.sequence rest
      else .error (wrongType s.expected (c :: rest)) := by
  rw [read, h]
  split
  · rename_i eq
    cases eq
  · rename_i eq
    cases eq
    rfl
  · rename_i eq
    cases eq
    rfl
  · rename_i no_object no_list
    rw [if_neg, if_neg]
    · rintro rfl
      exact no_list rest rfl
    · rintro rfl
      exact no_object rest rfl

variable (s)

/-- The record that is built of what was collected, if all of it was. -/
def built (out : Option σ) : Option α := out.bind fun collected => (s.build collected).toOption

variable {s}

/-- An object is read as what comes of its members. -/
theorem meets_object {entry : ι → Entry} {step : σ → ι → Option σ → Prop} {members : List ι}
    (literals : ∀ m ∈ members, IsLiteral (entry m).key.text)
    (h : ∀ m ∈ members, ∀ collected, s.MemberMeets collected (entry m) (step collected m))
    {gap : List Char} (gaps : Spaces gap) :
    Meets s.read (objectText (members.map entry) gap)
      fun out => ∃ found, Runs step s.none members found ∧ out = s.built found := by
  intro before rest spaces _
  let inner := separated true (members.map fun m => (entry m).written) ++ (gap ++ '\x7d' :: rest)
  have found : skipSpace (before ++ (objectText (members.map entry) gap ++ rest)) =
      '\x7b' :: inner := by
    rw [skipSpace_objectText spaces, List.map_map]
    rfl
  have enough : members.length < inner.length + 1 := by
    have bound := length_le_separated true (members.map fun m => (entry m).written)
    simp only [inner, List.length_append, List.length_cons, List.length_map,
      Bool.toNat_true] at bound ⊢
    omega
  have met := allowed_membersWithin literals h gaps enough true s.none spaces_nil rest
  rw [List.nil_append] at met
  change Allowed _ _ (s.membersWithin (inner.length + 1) true s.none inner) at met
  rw [read_cons found, if_pos rfl, object]
  cases outcome : s.membersWithin (inner.length + 1) true s.none inner with
  | error fault =>
      rw [outcome] at met
      exact ⟨.none, met, rfl⟩
  | ok read =>
      obtain ⟨all, left⟩ := read
      rw [outcome] at met
      obtain ⟨rfl, run⟩ := met
      simp only [behindObject_end]
      cases built : s.build all with
      | error name => exact ⟨some all, run, by simp [Schema.built, built, Except.toOption]⟩
      | ok x => exact ⟨rfl, some all, run, by simp [Schema.built, built, Except.toOption]⟩

/-! ### The list form -/

theorem endList_item {item : Padded} {space : List Char} (begins : Begins item.text)
    (spaces : Spaces space) (first : Bool) (texts : List (List Char)) (rest : List Char) :
    ∃ fault,
      endList (space ++ (separated first (item.written :: texts) ++ rest)) = .error fault := by
  have fails {text more : List Char} {c : Char} (h : skipSpace text = c :: more) (other : c ≠ ']') :
      ∃ fault, endList text = .error fault := by
    unfold endList
    rw [h]
    split
    · exact ⟨_, rfl⟩
    · rename_i eq
      exact absurd (List.cons.inj eq).1 other
    · split <;> exact ⟨_, rfl⟩
    · exact ⟨_, rfl⟩
  have found := skipSpace_written begins (separated false texts ++ rest)
  obtain ⟨c, more, eq, -, no_end⟩ := begins
  rw [eq, List.cons_append, ← skipSpace_spaces spaces] at found
  cases first with
  | true =>
      rw [separated, List.append_assoc]
      exact fails found no_end
  | false =>
      rw [separated, List.cons_append, List.append_assoc]
      exact fails (skipSpace_comma spaces _) (by decide)

theorem endList_gap {space gap : List Char} (spaces : Spaces space) (gaps : Spaces gap)
    (rest : List Char) :
    endList (space ++ (gap ++ ']' :: rest)) = .ok rest := by
  rw [endList, skipSpace_spaces spaces, skipSpace_spaces gaps, skipSpace_cons (by decide)]
  rfl

/-- What may come of the fields of a list form: the elements for them run out, or are read and the
list ends unless there are more of them. -/
def ElementsAllowed (step : σ → Field σ × Padded → Option σ → Prop) (fields : List (Field σ))
    (items : List Padded) (collected : σ) (rest : List Char) : Except Fault (σ × List Char) → Prop
  | .error _ => Runs step collected (fields.zip items) Option.none ∨
      ∃ field ∈ fields.drop items.length, field.required = true
  | .ok (all, left) => Runs step collected (fields.zip items) (some all) ∧
      if items.length ≤ fields.length then endList left = .ok rest
      else ∃ fault, endList left = .error fault

theorem ElementsAllowed.imp {step : σ → Field σ × Padded → Option σ → Prop}
    {fields fields' : List (Field σ)} {items items' : List Padded} {collected collected' : σ}
    {rest : List Char} {outcome : Except Fault (σ × List Char)}
    (h : ElementsAllowed step fields items collected rest outcome)
    (run : ∀ out, Runs step collected (fields.zip items) out →
      Runs step collected' (fields'.zip items') out)
    (missing : ∀ field ∈ fields.drop items.length, field ∈ fields'.drop items'.length)
    (enough : items.length ≤ fields.length ↔ items'.length ≤ fields'.length) :
    ElementsAllowed step fields' items' collected' rest outcome := by
  cases outcome with
  | error fault =>
      rcases h with stopped | ⟨field, mem, required⟩
      · exact .inl (run _ stopped)
      · exact .inr ⟨field, missing field mem, required⟩
  | ok read =>
      obtain ⟨went, ends⟩ := h
      refine ⟨run _ went, ?_⟩
      simpa only [enough] using ends

theorem elementsAllowed {step : σ → Field σ × Padded → Option σ → Prop} {fields : List (Field σ)}
    {items : List Padded} (begins : ∀ i ∈ items, Begins i.text)
    (h : ∀ p ∈ fields.zip items,
      ∀ collected, Meets (p.1.read collected) p.2.text (step collected p))
    {gap : List Char} (gaps : Spaces gap) (count : Nat) (collected : σ) {space : List Char}
    (spaces : Spaces space) (rest : List Char) :
    ElementsAllowed step fields items collected rest (s.elements fields count collected
      (space ++ (separated (count = 0) (items.map Padded.written) ++ (gap ++ ']' :: rest)))) := by
  induction fields generalizing items count collected space gap with
  | nil =>
      refine ⟨.done collected, ?_⟩
      cases items with
      | nil => exact endList_gap spaces gaps rest
      | cons item items => exact endList_item (begins item List.mem_cons_self) spaces _ _ _
  | cons field fields ih =>
      cases items with
      | nil =>
          rw [List.map_nil, separated, List.nil_append, elements, nextElement_close spaces gaps]
          dsimp only
          split
          · rename_i required
            exact .inr ⟨field, List.mem_cons_self, required⟩
          · have later := @ih [] (fun _ mem => absurd mem List.not_mem_nil)
              (fun _ mem => by simp at mem) [] spaces_nil (count + 1) collected [] spaces_nil
            simp only [List.map_nil, separated, List.nil_append] at later
            refine later.imp (fun out run => ?_) (fun other mem => List.mem_cons_of_mem field mem)
              (by simp)
            rw [List.zip_nil_right] at run ⊢
            exact run
      | cons item items =>
          have behind := ends_behind item.spaces_after gaps (items.map Padded.written)
            (show continues ']' = false by decide) rest
          have met := h (field, item) List.mem_cons_self collected [] _ spaces_nil behind
          rw [List.nil_append] at met
          rw [List.map_cons, elements, nextElement_item (begins item List.mem_cons_self) spaces]
          dsimp only at met ⊢
          split
          · rename_i outcome
            rw [outcome] at met
            exact .inl (.stop met)
          · rename_i next left outcome
            rw [outcome] at met
            obtain ⟨rfl, fits⟩ := met
            have later := @ih items (fun other mem => begins other (List.mem_cons_of_mem item mem))
              (fun p mem => h p (List.mem_cons_of_mem _ mem)) gap gaps (count + 1) next item.after
              item.spaces_after
            have no_first : decide (count + 1 = 0) = false := by simp
            rw [no_first] at later
            exact later.imp (fun out run => .next fits run) (fun other mem => mem) (by simp)

/-- A list is read as what comes of its elements. It fails if an element is missing, or if there
are too many. -/
theorem meets_sequence {step : σ → Field σ × Padded → Option σ → Prop} {items : List Padded}
    (begins : ∀ i ∈ items, Begins i.text)
    (h : ∀ p ∈ s.fields.zip items,
      ∀ collected, Meets (p.1.read collected) p.2.text (step collected p))
    {gap : List Char} (gaps : Spaces gap) :
    Meets s.read (listText items gap) fun out =>
      (∃ found, Runs step s.none (s.fields.zip items) found ∧ out = s.built found) ∨
        out = Option.none ∧ ((∃ field ∈ s.fields.drop items.length, field.required = true) ∨
          s.fields.length < items.length) := by
  intro before rest spaces _
  let inner := separated true (items.map Padded.written) ++ (gap ++ ']' :: rest)
  have found : skipSpace (before ++ (listText items gap ++ rest)) = '[' :: inner :=
    skipSpace_listText spaces items gap rest
  have allowed := @elementsAllowed α σ s _ _ _ begins h gap gaps 0 s.none [] spaces_nil rest
  rw [List.nil_append, decide_eq_true rfl] at allowed
  change ElementsAllowed _ _ _ _ _ (s.elements s.fields 0 s.none inner) at allowed
  rw [read_cons found, if_neg (by decide), if_pos rfl, sequence]
  cases outcome : s.elements s.fields 0 s.none inner with
  | error fault =>
      rw [outcome] at allowed
      rcases allowed with run | missing
      · exact .inl ⟨_, run, rfl⟩
      · exact .inr ⟨rfl, .inl missing⟩
  | ok read =>
      obtain ⟨all, left⟩ := read
      rw [outcome] at allowed
      obtain ⟨run, ends⟩ := allowed
      dsimp only
      cases built : s.build all with
      | error name => exact .inl ⟨some all, run, by simp [Schema.built, built, Except.toOption]⟩
      | ok x =>
          dsimp only
          split at ends
          · rw [ends]
            exact ⟨rfl, .inl ⟨some all, run, by simp [Schema.built, built, Except.toOption]⟩⟩
          · rename_i many
            obtain ⟨fault, fails⟩ := ends
            rw [fails]
            exact .inr ⟨rfl, .inr (Nat.lt_of_not_le many)⟩

end Schema

end FaceAnnotator.Json
